import SeededMatrix.Fill.Share
import SeededMatrix.Proofs.Fill.Drawing
import Mathlib.Logic.Relation

/-!
# Crews of workers

Tasks that run at the same time are workers on one storage. A step is one put of any worker that has
a write to put, so a run is an arbitrary interleaving in which each worker keeps its own order. When
the writes of different workers are independent, every run of a crew ends in the same way: as if the
writes of its workers were put one list after the other.
-/

namespace SeededMatrix

/-- A task with its region and the writes that it has yet to put. -/
structure Worker where
  task : Nat
  region : Region
  pending : Writes

/-- Workers that fill one storage. -/
structure Crew where
  storage : Storage
  workers : List Worker

namespace Crew

/-- One put of one worker. -/
inductive Step : Crew → Crew → Prop
  | put {storage after : Storage} {front back : List Worker} {worker : Worker} {write : Write}
      {rest : Unit → Writes} (drawn : worker.pending = .next write rest)
      (put : worker.region.put storage write.row write.col write.value = .ok after) :
      Step ⟨storage, front ++ worker :: back⟩
        ⟨after, front ++ { worker with pending := rest () } :: back⟩

/-- Any number of puts, of any workers. -/
def Reaches : Crew → Crew → Prop :=
  Relation.ReflTransGen Step

/-- How a crew can stop: every worker has put all of its writes, or the drawing or the put of one
worker fails. -/
inductive Stops (crew : Crew) : Except Failure Storage → Prop
  | finished (done : ∀ worker ∈ crew.workers, worker.pending = .done) :
      Stops crew (.ok crew.storage)
  | failed {worker : Worker} {failure : Failure} (member : worker ∈ crew.workers)
      (drawn : worker.pending = .failed failure) :
      Stops crew (Share.wrapRefusal worker.task (.error failure))
  | faulted {worker : Worker} {write : Write} {rest : Unit → Writes} {fault : Fault}
      (member : worker ∈ crew.workers) (drawn : worker.pending = .next write rest)
      (put : worker.region.put crew.storage write.row write.col write.value = .error fault) :
      Stops crew (.error (.fault fault))

/-- Whether some run of a crew ends with this outcome. -/
def Ends (crew : Crew) (outcome : Except Failure Storage) : Prop :=
  ∃ last, crew.Reaches last ∧ last.Stops outcome

/-- The writes that are yet to be put, one worker after the other. -/
def pending (crew : Crew) : List Write :=
  crew.workers.flatMap fun worker => worker.pending.toList

/-- A crew whose workers each own cells that no other one writes: its storage has the shape of the
matrix, each worker keeps within its region, and writes of different workers are independent. -/
structure Separate (isSparse : Bool) (rows cols room : Nat) (crew : Crew) : Prop where
  shape : crew.storage.HasShape isSparse rows cols
  aligned : ∀ worker ∈ crew.workers, worker.region.Aligned ∧ worker.region.room = room
  covered : ∀ worker ∈ crew.workers, ∀ write ∈ worker.pending.toList,
    worker.region.Covers write ∧ write.Within rows cols
  independent : crew.workers.Pairwise fun first second =>
    ∀ write ∈ first.pending.toList, ∀ other ∈ second.pending.toList,
      write.Independent isSparse other

namespace Separate

variable {isSparse : Bool} {rows cols room : Nat} {crew after : Crew}

theorem put_eq (separate : crew.Separate isSparse rows cols room) {worker : Worker}
    (member : worker ∈ crew.workers) {write : Write} {rest : Unit → Writes}
    (drawn : worker.pending = .next write rest) :
    worker.region.put crew.storage write.row write.col write.value =
      crew.storage.putWrite room write := by
  obtain ⟨aligned, rfl⟩ := separate.aligned worker member
  have covered := separate.covered worker member write (by simp [drawn])
  exact aligned.put_eq covered.1 crew.storage

theorem step (separate : crew.Separate isSparse rows cols room) (step : Step crew after) :
    after.Separate isSparse rows cols room := by
  obtain @⟨storage, after, front, back, worker, write, rest, drawn, put⟩ := step
  have fewer : ∀ later ∈ (rest ()).toList, later ∈ worker.pending.toList :=
    fun later member => by simp [drawn, member]
  have write_within := (separate.covered worker (by simp) write (by simp [drawn])).2
  rw [separate.put_eq (by simp) drawn] at put
  obtain ⟨shape, aligned, covered, independent⟩ := separate
  simp only [List.forall_mem_append, List.forall_mem_cons] at aligned covered
  obtain ⟨aligned_front, aligned_worker, aligned_back⟩ := aligned
  obtain ⟨covered_front, covered_worker, covered_back⟩ := covered
  obtain ⟨front_independent, worker_independent, front_rest⟩ := List.pairwise_append.mp independent
  obtain ⟨worker_back, back_independent⟩ := List.pairwise_cons.mp worker_independent
  refine ⟨shape.putWrite put, ?_, ?_, ?_⟩
  · simp only [List.forall_mem_append, List.forall_mem_cons]
    exact ⟨aligned_front, aligned_worker, aligned_back⟩
  · simp only [List.forall_mem_append, List.forall_mem_cons]
    exact ⟨covered_front, fun later member => covered_worker later (fewer later member),
      covered_back⟩
  · refine List.pairwise_append.mpr ⟨front_independent, List.pairwise_cons.mpr
      ⟨fun other member later later_member => worker_back other member later
        (fewer later later_member), back_independent⟩, fun other member worker' member' => ?_⟩
    rw [List.mem_cons] at member'
    rcases member' with rfl | behind
    · exact fun first first_member later later_member =>
        front_rest other member worker (by simp) first first_member later
          (fewer later later_member)
    · exact front_rest other member worker' (by simp [behind])

/-- The next write of any worker might as well be the first of all writes that are still to be put.
-/
theorem putList_pending {storage : Storage} {front back : List Worker} {worker : Worker}
    {write : Write} {rest : Unit → Writes}
    (separate : Separate isSparse rows cols room ⟨storage, front ++ worker :: back⟩)
    (drawn : worker.pending = .next write rest) :
    storage.putList room (pending ⟨storage, front ++ worker :: back⟩) =
      storage.putWrite room write >>= fun after => after.putList room
        (pending ⟨after, front ++ { worker with pending := rest () } :: back⟩) := by
  have write_within := (separate.covered worker (by simp) write (by simp [drawn])).2
  have front_within : ∀ earlier ∈ front.flatMap (fun other => other.pending.toList),
      earlier.Within rows cols := by
    intro earlier member
    obtain ⟨other, other_mem, member⟩ := List.mem_flatMap.mp member
    exact (separate.covered other (by simp [other_mem]) earlier member).2
  have front_independent : ∀ earlier ∈ front.flatMap (fun other => other.pending.toList),
      earlier.Independent isSparse write := by
    intro earlier member
    obtain ⟨other, other_mem, member⟩ := List.mem_flatMap.mp member
    have apart := (List.pairwise_append.mp separate.independent).2.2 other other_mem worker
      (by simp)
    exact apart earlier member write (by simp [drawn])
  have moved := SameEffect.move_front room write_within front_within front_independent
    ((rest ()).toList ++ back.flatMap fun other => other.pending.toList) storage separate.shape
  simpa [pending, drawn] using moved

/-- What a crew still has to do to its storage is not changed by a put. -/
theorem putList_step (separate : crew.Separate isSparse rows cols room) (step : Step crew after) :
    crew.storage.putList room crew.pending = after.storage.putList room after.pending := by
  obtain @⟨storage, after, front, back, worker, write, rest, drawn, put⟩ := step
  rw [separate.put_eq (by simp) drawn] at put
  rw [separate.putList_pending drawn, put, ok_bind]

/-- Along a run, the workers stay apart, and what is still to be done leads to the same end. -/
theorem reaches (separate : crew.Separate isSparse rows cols room) (run : crew.Reaches after) :
    after.Separate isSparse rows cols room ∧
      crew.storage.putList room crew.pending = after.storage.putList room after.pending := by
  induction run with
  | refl => exact ⟨separate, rfl⟩
  | tail _ last induction =>
      obtain ⟨separate', same⟩ := induction
      exact ⟨separate'.step last, same.trans (separate'.putList_step last)⟩

theorem perm {storage : Storage} {workers others : List Worker}
    (separate : Separate isSparse rows cols room ⟨storage, workers⟩)
    (perm : workers.Perm others) :
    Separate isSparse rows cols room ⟨storage, others⟩ ∧
      storage.putList room (pending ⟨storage, workers⟩) =
        storage.putList room (pending ⟨storage, others⟩) := by
  have same : SameEffect isSparse rows cols room
      (workers.flatMap fun worker => worker.pending.toList)
      (others.flatMap fun worker => worker.pending.toList) :=
    SameEffect.flatMap_perm perm
      (fun worker member write write_mem => (separate.covered worker member write write_mem).2)
      separate.independent
  refine ⟨⟨separate.shape, fun worker member => ?_, fun worker member => ?_, ?_⟩,
    same storage separate.shape⟩
  · exact separate.aligned worker (perm.mem_iff.mpr member)
  · exact separate.covered worker (perm.mem_iff.mpr member)
  · apply (perm.pairwise_iff _).mp separate.independent
    intro first second independent write member other member'
    exact (independent other member' write member).symm

end Separate

/-- Whether no worker meets a failure while it draws its writes. -/
def Complete (crew : Crew) : Prop :=
  ∀ worker ∈ crew.workers, worker.pending.failure? = none

theorem Complete.step {crew after : Crew} (complete : crew.Complete) (step : Step crew after) :
    after.Complete := by
  obtain @⟨storage, after, front, back, worker, write, rest, drawn, put⟩ := step
  simp only [Complete, List.forall_mem_append, List.forall_mem_cons] at complete ⊢
  obtain ⟨complete_front, complete_worker, complete_back⟩ := complete
  rw [drawn] at complete_worker
  exact ⟨complete_front, complete_worker, complete_back⟩

theorem Complete.reaches {crew after : Crew} (complete : crew.Complete)
    (run : crew.Reaches after) : after.Complete := by
  induction run with
  | refl => exact complete
  | tail _ last induction => exact induction.step last

/-! ## How runs end -/

theorem length_pending_step {crew after : Crew} (step : Step crew after) :
    after.pending.length < crew.pending.length := by
  obtain @⟨storage, after, front, back, worker, write, rest, drawn, put⟩ := step
  simp [pending, drawn]

theorem step_or_stops (crew : Crew) :
    (∃ after, Step crew after) ∨ ∃ outcome, crew.Stops outcome := by
  by_cases done : ∀ worker ∈ crew.workers, worker.pending = .done
  · exact .inr ⟨_, .finished done⟩
  · push Not at done
    obtain ⟨worker, member, busy⟩ := done
    cases drawn : worker.pending with
    | done => exact absurd drawn busy
    | failed failure => exact .inr ⟨_, .failed member drawn⟩
    | next write rest =>
        cases put : worker.region.put crew.storage write.row write.col write.value with
        | error fault => exact .inr ⟨_, .faulted member drawn put⟩
        | ok after =>
            obtain ⟨front, back, workers_eq⟩ := List.append_of_mem member
            obtain ⟨storage, workers⟩ := crew
            simp only at workers_eq put
            subst workers_eq
            exact .inl ⟨_, .put drawn put⟩

theorem exists_ends (crew : Crew) : ∃ outcome, crew.Ends outcome := by
  induction remaining : crew.pending.length using Nat.strong_induction_on generalizing crew with
  | _ remaining induction =>
      rcases crew.step_or_stops with ⟨after, step⟩ | ⟨outcome, stops⟩
      · obtain ⟨outcome, last, run, stops⟩ :=
          induction _ (remaining ▸ length_pending_step step) after rfl
        exact ⟨outcome, last, .head step run, stops⟩
      · exact ⟨outcome, crew, .refl, stops⟩

variable {isSparse : Bool} {rows cols room : Nat} {crew : Crew}

/-- A crew of separate workers stops with what the writes it still has to put would do. -/
theorem Stops.outcome_eq (separate : crew.Separate isSparse rows cols room)
    (complete : crew.Complete) {outcome : Except Failure Storage} (stops : crew.Stops outcome) :
    outcome = liftM (crew.storage.putList room crew.pending) := by
  cases stops with
  | finished done =>
      have nothing : crew.pending = [] := by
        rw [pending, List.flatMap_eq_nil_iff]
        intro worker member
        rw [done worker member]
        rfl
      rw [nothing]
      rfl
  | @failed worker failure member drawn =>
      have fails := complete worker member
      simp [drawn] at fails
  | @faulted worker write rest fault member drawn put =>
      rw [separate.put_eq member drawn] at put
      obtain ⟨front, back, workers_eq⟩ := List.append_of_mem member
      obtain ⟨storage, workers⟩ := crew
      simp only at workers_eq put
      subst workers_eq
      rw [separate.putList_pending drawn, put]
      rfl

theorem Stops.storage_eq {outcome : Except Failure Storage} (stops : crew.Stops outcome)
    {storage : Storage} (finished : outcome = .ok storage) : crew.storage = storage := by
  cases stops with
  | finished done => exact Except.ok.inj finished
  | @failed worker failure member drawn =>
      cases failure with
      | refusal refusal => contradiction
      | fault fault => contradiction
  | faulted member drawn put => contradiction

/-- Every run of separate workers ends in the same way, as if the workers had put their writes one
list after the other. -/
theorem ends_iff (separate : crew.Separate isSparse rows cols room) (complete : crew.Complete)
    {outcome : Except Failure Storage} :
    crew.Ends outcome ↔ outcome = liftM (crew.storage.putList room crew.pending) := by
  have only : ∀ {outcome}, crew.Ends outcome →
      outcome = liftM (crew.storage.putList room crew.pending) := by
    rintro outcome ⟨last, run, stops⟩
    obtain ⟨separate', same⟩ := separate.reaches run
    rw [same]
    exact stops.outcome_eq separate' (complete.reaches run)
  refine ⟨only, ?_⟩
  rintro rfl
  obtain ⟨outcome, ends⟩ := crew.exists_ends
  rwa [← only ends]

/-! ## Tasks one after the other -/

/-- Putting the writes of one worker through its region is a run in which only this worker puts. -/
theorem putThrough_run (front back : List Worker) (task : Nat) (region : Region) (writes : Writes)
    (storage : Storage) :
    ∃ last, Reaches ⟨storage, front ++ ⟨task, region, writes⟩ :: back⟩ last ∧
      match writes.putThrough region storage with
      | .ok after => last = ⟨after, front ++ ⟨task, region, .done⟩ :: back⟩
      | .error failure => last.Stops (Share.wrapRefusal task (.error failure)) := by
  induction writes generalizing storage with
  | done => exact ⟨_, .refl, rfl⟩
  | failed failure =>
      exact ⟨_, .refl, @Stops.failed _ ⟨task, region, .failed failure⟩ _ (by simp) rfl⟩
  | next write rest induction =>
      rw [Writes.putThrough]
      cases put : region.put storage write.row write.col write.value with
      | ok after =>
          obtain ⟨last, run, ends⟩ := induction () after
          have first : Step ⟨storage, front ++ ⟨task, region, .next write rest⟩ :: back⟩
              ⟨after, front ++ ⟨task, region, rest ()⟩ :: back⟩ := .put rfl put
          exact ⟨last, .head first run, ends⟩
      | error fault =>
          exact ⟨_, .refl,
            @Stops.faulted _ ⟨task, region, .next write rest⟩ _ _ _ (by simp) rfl put⟩

end Crew

/-- The matrix with another storage. -/
def OutputMatrix.withStorage (matrix : OutputMatrix) (storage : Storage) : OutputMatrix :=
  { matrix with storage }

theorem OutputMatrix.putAll_eq (matrix : OutputMatrix) (region : Region) (writes : Writes) :
    matrix.putAll region writes =
      (writes.putThrough region matrix.storage).map matrix.withStorage := by
  obtain ⟨rows, cols, sparse, nonZeros, nonZerosPerRow, storage⟩ := matrix
  simp only [putAll]
  cases writes.putThrough region storage with
  | ok after => rfl
  | error failure => rfl

/-- The worker of a share. -/
def Worker.ofShare (blueprint : Blueprint) (budgets : Array Nat) (share : Share) : Worker :=
  ⟨share.task, share.region, .ofExcept (share.writes blueprint budgets)⟩

/-- The workers of shares of a storage. -/
def Crew.ofShares (blueprint : Blueprint) (budgets : Array Nat) (shares : List Share)
    (storage : Storage) : Crew :=
  ⟨storage, shares.map (.ofShare blueprint budgets)⟩

namespace Share

variable (blueprint : Blueprint) (budgets : Array Nat)

/-- The work of one task is to put the writes of its worker through its region. -/
theorem fill_eq (share : Share) (matrix : OutputMatrix) :
    share.fill blueprint budgets matrix =
      ((Worker.ofShare blueprint budgets share).pending.putThrough share.region
        matrix.storage).map matrix.withStorage := by
  rw [fill, Worker.ofShare]
  cases share.writes blueprint budgets with
  | ok writes => exact matrix.putAll_eq share.region writes
  | error failure => rfl

/-- Running the tasks one after the other is one of the runs of their crew, behind workers that are
done. -/
theorem run_ends_behind (shares : List Share) (matrix : OutputMatrix) (front : List Worker)
    (front_done : ∀ worker ∈ front, worker.pending = .done) :
    ∃ outcome, run blueprint budgets shares matrix = outcome.map matrix.withStorage ∧
      Crew.Ends ⟨matrix.storage, front ++ shares.map (.ofShare blueprint budgets)⟩ outcome := by
  induction shares generalizing matrix front with
  | nil =>
      refine ⟨.ok matrix.storage, rfl, _, .refl, .finished ?_⟩
      simpa using front_done
  | cons share shares induction =>
      obtain ⟨last, first_run, ends⟩ := Crew.putThrough_run front
        (shares.map (.ofShare blueprint budgets)) share.task share.region
        (Worker.ofShare blueprint budgets share).pending matrix.storage
      rw [run, fill_eq]
      cases put : (Worker.ofShare blueprint budgets share).pending.putThrough share.region
        matrix.storage with
      | ok after =>
          rw [put] at ends
          simp only at ends
          subst ends
          have front_done' : ∀ worker ∈ front ++ [⟨share.task, share.region, .done⟩],
              worker.pending = .done := by
            rw [List.forall_mem_append]
            exact ⟨front_done, by simp⟩
          obtain ⟨outcome, run_eq, last, later_run, stops⟩ :=
            induction (matrix.withStorage after) _ front_done'
          rw [List.append_assoc] at later_run
          exact ⟨outcome, run_eq, last, first_run.trans later_run, stops⟩
      | error failure =>
          rw [put] at ends
          refine ⟨_, ?_, last, first_run, ends⟩
          cases failure with
          | refusal refusal => rfl
          | fault fault => rfl

/-- Running the tasks one after the other is one of the runs of their crew. -/
theorem run_ends (shares : List Share) (matrix : OutputMatrix) :
    ∃ outcome, run blueprint budgets shares matrix = outcome.map matrix.withStorage ∧
      (Crew.ofShares blueprint budgets shares matrix.storage).Ends outcome :=
  run_ends_behind blueprint budgets shares matrix [] (by simp)

end Share

end SeededMatrix
