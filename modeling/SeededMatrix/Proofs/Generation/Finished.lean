import SeededMatrix.Progression
import SeededMatrix.Proofs.Generation.Budgets
import SeededMatrix.Proofs.Output.Consistency
import SeededMatrix.Sample

/-!
# Finished matrices

Whatever a request has found, the matrix that it leaves when it succeeds has the shape that was
asked for, and the number of non-zero cells that it keeps is the one that counting finds and that
compressing stores. A random matrix that is drawn settles in the layout that this number calls for,
and nothing in it depends on the matrix that was there before.
-/

namespace SeededMatrix

/-! ## What was told before is not read -/

namespace Action

variable {α β : Type}

/-- What an action finds and the matrix that it leaves. -/
def outcome (action : Action α) (session : Session) : Except Failure α × OutputMatrix :=
  match action session with
  | .ok value after => (.ok value, after.matrix)
  | .error failure after => (.error failure, after.matrix)

theorem outcome_eq_ok {action : Action α} {session : Session} {result : α}
    {matrix : OutputMatrix} :
    action.outcome session = (.ok result, matrix) ↔
      ∃ after, action session = .ok result after ∧ after.matrix = matrix := by
  rw [outcome]
  cases action session with
  | ok value after => simp
  | error failure after => simp

theorem outcome_bind (first : Action α) (next : α → Action β) (session : Session) :
    (first >>= next).outcome session =
      match first session with
      | .ok value middle => (next value).outcome middle
      | .error failure after => (.error failure, after.matrix) := by
  have chain : (first >>= next) session = EStateM.bind first next session := rfl
  rw [outcome, chain, EStateM.bind]
  cases first session <;> rfl

/-- Whether an action finds and leaves the same whatever was told before it. -/
def IgnoresEvents (action : Action α) : Prop :=
  ∀ matrix events events', action.outcome ⟨matrix, events⟩ = action.outcome ⟨matrix, events'⟩

namespace IgnoresEvents

theorem bind {first : Action α} {next : α → Action β} (here : first.IgnoresEvents)
    (later : ∀ value, (next value).IgnoresEvents) : (first >>= next).IgnoresEvents := by
  intro matrix events events'
  have same := here matrix events events'
  rw [outcome_bind, outcome_bind]
  rw [outcome, outcome] at same
  generalize first ⟨matrix, events⟩ = one, first ⟨matrix, events'⟩ = other at same ⊢
  cases one with
  | ok value middle =>
      cases other with
      | ok value' middle' =>
          obtain ⟨middle, told⟩ := middle
          obtain ⟨middle', told'⟩ := middle'
          obtain ⟨⟨rfl⟩, rfl⟩ := Prod.mk.inj same
          exact later value middle told told'
      | error failure after => exact absurd (Prod.mk.inj same).1 nofun
  | error failure after =>
      cases other with
      | ok value middle => exact absurd (Prod.mk.inj same).1 nofun
      | error failure' after' =>
          obtain ⟨⟨rfl⟩, matrix_eq⟩ := Prod.mk.inj same
          exact Prod.ext rfl matrix_eq

theorem tell (event : Event) : (Action.tell event).IgnoresEvents :=
  fun _ _ _ => rfl

theorem lift (computation : Except Failure α) :
    (liftM computation : Action α).IgnoresEvents := by
  cases computation <;> exact fun _ _ _ => rfl

theorem lift_fault (computation : Except Fault α) :
    (liftM computation : Action α).IgnoresEvents :=
  lift (liftM computation)

theorem update (change : OutputMatrix → Except Failure OutputMatrix) :
    (Action.update change).IgnoresEvents := by
  intro matrix events events'
  rw [outcome, outcome, Action.update, Action.update]
  cases change matrix <;> rfl

theorem inspect (look : OutputMatrix → Except Failure α) : (Action.inspect look).IgnoresEvents := by
  intro matrix events events'
  rw [outcome, outcome, Action.inspect, Action.inspect]
  cases look matrix <;> rfl

theorem recount : (discard Action.recount).IgnoresEvents :=
  fun _ _ _ => rfl

theorem settleLayout : Action.settleLayout.IgnoresEvents := by
  intro matrix events events'
  rw [outcome, outcome, Action.settleLayout, Action.settleLayout]
  cases matrix.settleLayout with
  | error fault => rfl
  | ok result =>
      obtain ⟨settled, conversion⟩ := result
      cases conversion <;> rfl

end IgnoresEvents

end Action

/-- What succeeds after one history succeeds after another one, with the same matrix. -/
theorem Action.IgnoresEvents.ok {action : Action Unit} (ignores : action.IgnoresEvents)
    {matrix : OutputMatrix} {events : Array Event} {after : Session}
    (ran : action ⟨matrix, events⟩ = .ok () after) (events' : Array Event) :
    ∃ after', action ⟨matrix, events'⟩ = .ok () after' ∧ after'.matrix = after.matrix := by
  have same := ignores matrix events events'
  rw [outcome_eq_ok.mpr ⟨after, ran, rfl⟩] at same
  exact outcome_eq_ok.mp same.symm

namespace Plan

variable {plan : Plan} {seeds : SeedOrigin} {tasks : Nat} {session after : Session}

theorem ignoresEvents_fillFromRoot (plan : Plan) (generator : Random.Well) (tasks : Nat) :
    (plan.fillFromRoot generator tasks).IgnoresEvents := by
  rw [fillFromRoot]
  apply Action.IgnoresEvents.bind (.lift_fault _)
  intro table
  apply Action.IgnoresEvents.bind (.lift_fault _)
  intro cells
  apply Action.IgnoresEvents.bind (.inspect _)
  intro sharesOut
  split
  · apply Action.IgnoresEvents.bind (.lift_fault _)
    exact fun spans => .bind (.tell _) fun _ => .update _
  · exact .bind (.tell _) fun _ => .update _

/-- Execution begins by allocating a new matrix, so whatever was there before, it ends alike. -/
theorem execute_from (ran : plan.execute seeds tasks session = .ok () after) (other : Session) :
    ∃ after', plan.execute seeds tasks other = .ok () after' ∧ after'.matrix = after.matrix := by
  rw [execute] at ran ⊢
  obtain ⟨_, _, allocate, ran⟩ := Action.bind_ok.mp ran
  obtain ⟨matrix, allocated, rfl⟩ := Action.update_ok.mp allocate
  have settle : (discard Action.recount >>= fun _ => Action.settleLayout).IgnoresEvents :=
    .bind .recount fun _ => .settleLayout
  have allocate' : Action.allocate plan.blueprint.grid.rows plan.blueprint.grid.cols plan.sparse
      plan.expectedNonZeros other = .ok () ⟨matrix, other.events⟩ :=
    Action.update_ok.mpr ⟨matrix, allocated, rfl⟩
  cases seeds with
  | drawn generator =>
      have ignores := (plan.ignoresEvents_fillFromRoot generator tasks).bind fun _ => settle
      obtain ⟨after', ran', matrix_eq⟩ := ignores.ok ran other.events
      exact ⟨after', Action.bind_ok.mpr ⟨(), _, allocate', ran'⟩, matrix_eq⟩
  | shared seed =>
      have ignores := (Action.IgnoresEvents.update (plan.fillInOrder (.single seed))).bind
        fun _ => settle
      obtain ⟨after', ran', matrix_eq⟩ := ignores.ok ran other.events
      exact ⟨after', Action.bind_ok.mpr ⟨(), _, allocate', ran'⟩, matrix_eq⟩

end Plan

/-! ## Random matrices -/

namespace Blueprint

variable {blueprint : Blueprint} {source : BudgetSource} {seeds : SeedOrigin} {tasks : Nat}
  {session after : Session}

theorem consistent_of_generateConstant (ran : blueprint.generateConstant session = .ok () after) :
    after.matrix.Consistent ∧ after.matrix.rows = blueprint.grid.rows ∧
      after.matrix.cols = blueprint.grid.cols := by
  rw [generateConstant] at ran
  split at ran
  · obtain ⟨_, middle, -, ran⟩ := Action.bind_ok.mp ran
    obtain ⟨changed, reshaped, rfl⟩ := Action.update_ok.mp ran
    obtain rfl := Except.ok.inj reshaped
    exact ⟨OutputMatrix.consistent_of_unallocated rfl rfl, rfl, rfl⟩
  · obtain ⟨_, middle, -, ran⟩ := Action.bind_ok.mp ran
    obtain ⟨changed, refilled, rfl⟩ := Action.update_ok.mp ran
    exact OutputMatrix.consistent_refill (lift_eq_ok.mp refilled)

/-- A matrix that is drawn is consistent, and settles in the layout that its number of non-zero
cells calls for. -/
theorem consistent_of_draws (draws : blueprint.needsNoDraws = false)
    (ran : blueprint.generate source seeds tasks session = .ok () after) :
    after.matrix.Consistent ∧ after.matrix.WellShaped ∧
      after.matrix.rows = blueprint.grid.rows ∧ after.matrix.cols = blueprint.grid.cols ∧
      after.matrix.sparse =
        Layout.prefersSparse after.matrix.rows after.matrix.cols after.matrix.nonZeros := by
  obtain ⟨plan, matrix, filled, conversion, planned, allocated, filling, settled⟩ :=
    stages_of_generate draws ran
  have made := Plan.made_ofBlueprint planned
  obtain ⟨visits, -, inOrder⟩ := filling.fillInOrder_eq made allocated
  rw [made.blueprint_eq] at allocated
  obtain ⟨shaped, formed⟩ := made.wellFormed_of_fillInOrder allocated inOrder
  have counted := OutputMatrix.consistent_recount (fun _ => shaped) formed
  obtain ⟨rows_eq, cols_eq, -⟩ := OutputMatrix.settleLayout_cases settled
  rw [Plan.eq_withStorage inOrder, OutputMatrix.allocate_eq allocated] at rows_eq cols_eq
  exact ⟨counted.settleLayout shaped settled, OutputMatrix.wellShaped_settleLayout settled shaped,
    rows_eq, cols_eq, OutputMatrix.sparse_settleLayout settled⟩

theorem consistent_of_generate
    (ran : blueprint.generate source seeds tasks session = .ok () after) :
    after.matrix.Consistent ∧ after.matrix.rows = blueprint.grid.rows ∧
      after.matrix.cols = blueprint.grid.cols := by
  cases draws : blueprint.needsNoDraws with
  | true =>
      rw [generate, if_pos draws] at ran
      exact consistent_of_generateConstant ran
  | false =>
      obtain ⟨consistent, -, rows_eq, cols_eq, -⟩ := consistent_of_draws draws ran
      exact ⟨consistent, rows_eq, cols_eq⟩

/-- A plan does not look at the matrix that is there. -/
theorem generate_from (draws : blueprint.needsNoDraws = false)
    (ran : blueprint.generate source seeds tasks session = .ok () after) (other : Session) :
    ∃ after', blueprint.generate source seeds tasks other = .ok () after' ∧
      after'.matrix = after.matrix := by
  have not_constant : ¬blueprint.needsNoDraws = true := by simp [draws]
  rw [generate, if_neg not_constant] at ran ⊢
  obtain ⟨plan, _, planning, ran⟩ := Action.bind_ok.mp ran
  obtain ⟨planned, rfl⟩ := Action.lift_ok.mp planning
  obtain ⟨after', ran', matrix_eq⟩ := Plan.execute_from ran other
  exact ⟨after', Action.bind_ok.mpr ⟨plan, other, Action.lift_ok.mpr ⟨planned, rfl⟩, ran'⟩,
    matrix_eq⟩

end Blueprint

/-! ## Columns -/

theorem Writes.hasShape_putThrough {region : Region} {writes : Writes} {storage after : Storage}
    {isSparse : Bool} {rows cols : Nat} (shape : storage.HasShape isSparse rows cols)
    (put : writes.putThrough region storage = .ok after) : after.HasShape isSparse rows cols := by
  induction writes generalizing storage with
  | done =>
      obtain rfl := Except.ok.inj put
      exact shape
  | failed failure => contradiction
  | next write rest induction =>
      rw [putThrough] at put
      split at put
      next here =>
        rw [Region.put] at here
        split at here
        · exact induction () (shape.put here) put
        · contradiction
      next => contradiction

theorem OutputMatrix.consistent_column {old matrix filled : OutputMatrix} {rows expected : Nat}
    {writes : Writes} (allocated : old.allocate rows 1 false expected = .ok matrix)
    (put : (do matrix.putAll (← matrix.wholeRegion) writes) = .ok filled) :
    filled.recount.Consistent ∧ filled.WellShaped ∧ filled.rows = rows ∧ filled.cols = 1 := by
  have shaped := wellShaped_allocate allocated
  obtain ⟨region, -, put⟩ := bind_eq_ok.mp put
  rw [putAll_eq] at put
  cases through : writes.putThrough region matrix.storage with
  | error failure =>
      rw [through] at put
      contradiction
  | ok storage =>
      rw [through] at put
      obtain rfl := Except.ok.inj put
      obtain rfl := allocate_eq allocated
      have shape := Writes.hasShape_putThrough shaped through
      exact ⟨consistent_recount (fun _ => shape) (Storage.wellFormed_of_dense shape), shape, rfl,
        rfl⟩

/-- What follows the writing of a column begins at a matrix that is consistent once it is counted.
-/
theorem Action.ok_of_column {rows expected : Nat} {writes : Writes} {rest : Action Unit}
    {session after : Session}
    (ran : (do
      Action.allocate rows 1 false expected
      Action.update fun matrix => do matrix.putAll (← matrix.wholeRegion) writes
      rest) session = .ok () after) :
    ∃ middle : Session, middle.matrix.recount.Consistent ∧ middle.matrix.WellShaped ∧
      middle.matrix.rows = rows ∧ middle.matrix.cols = 1 ∧ rest middle = .ok () after := by
  obtain ⟨_, _, allocate, ran⟩ := Action.bind_ok.mp ran
  obtain ⟨matrix, allocated, rfl⟩ := Action.update_ok.mp allocate
  obtain ⟨_, _, fill, ran⟩ := Action.bind_ok.mp ran
  obtain ⟨filled, put, rfl⟩ := Action.update_ok.mp fill
  obtain ⟨consistent, shaped, rows_eq, cols_eq⟩ :=
    OutputMatrix.consistent_column (lift_eq_ok.mp allocated) put
  exact ⟨_, consistent, shaped, rows_eq, cols_eq, ran⟩

theorem Progression.consistent_of_generate {first last step : Float} {session after : Session}
    (ran : generate first last step session = .ok () after) :
    ∃ rows, count first last step = .ok rows ∧ after.matrix.Consistent ∧
      after.matrix.rows = rows ∧ after.matrix.cols = 1 := by
  rw [generate] at ran
  obtain ⟨rows, _, counting, ran⟩ := Action.bind_ok.mp ran
  obtain ⟨counted, rfl⟩ := Action.lift_ok.mp counting
  obtain ⟨⟨filled, events⟩, consistent, -, rows_eq, cols_eq, ran⟩ := Action.ok_of_column ran
  obtain ⟨-, rfl⟩ := EStateM.Result.ok.inj ran
  exact ⟨rows, lift_refusal_eq_ok.mp counted, consistent, rows_eq, cols_eq⟩

theorem Sample.consistent_of_generate {population : Int} {size : Nat} {replace : Bool}
    {seed : UInt64} {session after : Session}
    (ran : generate population size replace seed session = .ok () after) :
    after.matrix.Consistent ∧ after.matrix.rows = size ∧ after.matrix.cols = 1 := by
  rw [generate] at ran
  obtain ⟨values, _, drawing, ran⟩ := Action.bind_ok.mp ran
  obtain ⟨-, rfl⟩ := Action.lift_ok.mp drawing
  obtain ⟨⟨filled, events⟩, consistent, shaped, rows_eq, cols_eq, ran⟩ := Action.ok_of_column ran
  obtain ⟨_, _, ⟨-, rfl⟩, settle⟩ := Action.bind_ok.mp ran
  obtain ⟨conversion, settled⟩ := Action.settleLayout_ok settle
  obtain ⟨settled_rows, settled_cols, -⟩ := OutputMatrix.settleLayout_cases settled
  exact ⟨consistent.settleLayout shaped settled, settled_rows.trans rows_eq,
    settled_cols.trans cols_eq⟩

/-! ## Every request -/

/-- Every matrix that a request leaves when it succeeds is finished in the shape that was asked for,
whatever was there before. One that is drawn is stored, in the layout that its number of non-zero
cells calls for, and another matrix to begin with would have led to the same one. -/
theorem outputs_finished :
    (∀ (blueprint : Blueprint) (source : BudgetSource) (seeds : SeedOrigin) (tasks : Nat)
        (session after : Session),
      blueprint.generate source seeds tasks session = .ok () after →
        after.matrix.Finished blueprint.grid.rows blueprint.grid.cols) ∧
    (∀ (first last step : Float) (session after : Session),
      Progression.generate first last step session = .ok () after →
        ∃ rows, Progression.count first last step = .ok rows ∧ after.matrix.Finished rows 1) ∧
    (∀ (population : Int) (size : Nat) (replace : Bool) (seed : UInt64) (session after : Session),
      Sample.generate population size replace seed session = .ok () after →
        after.matrix.Finished size 1) ∧
    ∀ (blueprint : Blueprint) (source : BudgetSource) (seeds : SeedOrigin) (tasks : Nat)
        (session after : Session),
      blueprint.needsNoDraws = false →
        blueprint.generate source seeds tasks session = .ok () after →
      after.matrix.hasStorage = true ∧
        after.matrix.sparse = Layout.prefersSparse blueprint.grid.rows blueprint.grid.cols
          after.matrix.nonZeros ∧
        after.matrix.storage.HasShape after.matrix.sparse blueprint.grid.rows
          blueprint.grid.cols ∧
        ∀ other : Session, ∃ after', blueprint.generate source seeds tasks other = .ok () after' ∧
          after'.matrix = after.matrix := by
  refine ⟨?_, ?_, ?_, ?_⟩
  · intro blueprint source seeds tasks session after ran
    obtain ⟨consistent, rows_eq, cols_eq⟩ := Blueprint.consistent_of_generate ran
    exact consistent.finished rows_eq cols_eq
  · intro first last step session after ran
    obtain ⟨rows, counted, consistent, rows_eq, cols_eq⟩ := Progression.consistent_of_generate ran
    exact ⟨rows, counted, consistent.finished rows_eq cols_eq⟩
  · intro population size replace seed session after ran
    obtain ⟨consistent, rows_eq, cols_eq⟩ := Sample.consistent_of_generate ran
    exact consistent.finished rows_eq cols_eq
  · intro blueprint source seeds tasks session after draws ran
    obtain ⟨-, shaped, rows_eq, cols_eq, sparse_eq⟩ := Blueprint.consistent_of_draws draws ran
    have stored := OutputMatrix.hasStorage_of_wellShaped shaped
    rw [OutputMatrix.WellShaped, rows_eq, cols_eq] at shaped
    rw [rows_eq, cols_eq] at sparse_eq
    exact ⟨stored, sparse_eq, shaped, Blueprint.generate_from draws ran⟩

/-- A block of two values is finished with two entries, in the same way from a new matrix and from
one that stores a value; so is a sample of two. -/
theorem two_values_finished :
    (∃ after after' csr,
      Blueprint.fullBlock.generate (.table #[2]) (.shared 7) 1 ⟨.unallocated 0 0 false, #[]⟩ =
        .ok () after ∧
      Blueprint.fullBlock.generate (.table #[2]) (.shared 7) 1
          ⟨⟨1, 1, true, 1, 1, .sparse #[⟨#[⟨0, 5.0⟩]⟩]⟩, #[]⟩ = .ok () after' ∧
      after'.matrix = after.matrix ∧ after.matrix.hasStorage = true ∧
      Csr.ofMatrix after.matrix = .ok csr ∧ csr.values.size = 2) ∧
    ∃ after, Sample.generate 3 2 false 7 ⟨.unallocated 0 0 false, #[]⟩ = .ok () after ∧
      after.matrix.Finished 2 1 := by
  obtain ⟨finished, -, sampled, drawn⟩ := outputs_finished
  constructor
  · have counted : (match Blueprint.fullBlock.generate (.table #[2]) (.shared 7) 1
        ⟨.unallocated 0 0 false, #[]⟩ with
      | .ok _ after => decide (after.matrix.nonZeros = 2)
      | .error _ _ => false) = true := by decide +kernel
    split at counted
    next after ran =>
      have nonZeros_eq := of_decide_eq_true counted
      obtain ⟨-, -, -, compressed, compressible⟩ := finished _ _ _ _ _ after ran
      have draws : Blueprint.fullBlock.needsNoDraws = false := by decide +kernel
      obtain ⟨stored, -, -, same⟩ := drawn _ _ _ _ _ after draws ran
      obtain ⟨after', ran', matrix_eq⟩ :=
        same ⟨⟨1, 1, true, 1, 1, .sparse #[⟨#[⟨0, 5.0⟩]⟩]⟩, #[]⟩
      obtain ⟨csr, csr_eq⟩ := compressible.mpr ⟨by decide, by rw [nonZeros_eq]; decide⟩
      exact ⟨after, after', csr, ran, ran', matrix_eq, stored, csr_eq,
        (compressed csr csr_eq).2.trans nonZeros_eq⟩
    next => exact absurd counted Bool.false_ne_true
  · have succeeds : (Sample.generate 3 2 false 7).succeeds ⟨.unallocated 0 0 false, #[]⟩ =
        true := by decide +kernel
    obtain ⟨after, ran⟩ := Action.exists_of_succeeds succeeds
    exact ⟨after, ran, sampled _ _ _ _ _ after ran⟩

end SeededMatrix
