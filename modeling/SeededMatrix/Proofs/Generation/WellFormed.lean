import SeededMatrix.Proofs.Generation.Runs
import SeededMatrix.Proofs.Output.Compressed
import SeededMatrix.Proofs.Output.Shapes

/-!
# Generated rows are well formed

Storing a cell does not look at the column, so rows stay well formed only because of the order of
the puts. A crew is orderly if its rows are well formed, each worker goes from left to right in
every row, and whatever is still to be put lies right of what its row stores. Every put keeps a crew
orderly, also in a run that a failure ends early.

The crew of a generation is orderly, so its rows are well formed after every single put, whether
blocks are filled in order, from one seed, or shared out, and whether or not a failure ends the
filling. Settling the layout keeps them so.
-/

namespace SeededMatrix

/-! ## Orderly crews -/

namespace Crew

/-- A crew of separate workers that go from left to right in every row. -/
structure Orderly (isSparse : Bool) (rows cols room : Nat) (crew : Crew) : Prop where
  separate : crew.Separate isSparse rows cols room
  formed : crew.storage.WellFormed rows cols
  ordered : ∀ worker ∈ crew.workers, LeftToRight worker.pending.toList
  right : ∀ worker ∈ crew.workers, ∀ write ∈ worker.pending.toList, crew.storage.LeftOf write

namespace Orderly

variable {isSparse : Bool} {rows cols room : Nat} {crew after : Crew}

theorem step (orderly : crew.Orderly isSparse rows cols room) (step : Step crew after) :
    after.Orderly isSparse rows cols room := by
  have separate' := orderly.separate.step step
  obtain @⟨storage, after, front, back, worker, write, rest, drawn, put⟩ := step
  obtain ⟨separate, formed, ordered, right⟩ := orderly
  have write_within := (separate.covered worker (by simp) write (by simp [drawn])).2
  have write_right := right worker (by simp) write (by simp [drawn])
  rw [separate.put_eq (by simp) drawn] at put
  have worker_ordered := ordered worker (by simp)
  rw [drawn, Writes.toList_next, LeftToRight, List.pairwise_cons] at worker_ordered
  -- Behind the write come the other writes of its row, or writes of rows of other workers.
  have keeps_right : ∀ later, storage.LeftOf later →
      (write.row = later.row → write.col < later.col) ∨ write.Independent isSparse later →
        after.LeftOf later := by
    rintro later later_right (order | independent)
    · exact later_right.putWrite separate.shape write_within order put
    · cases isSparse with
      | false => exact Storage.leftOf_of_dense separate'.shape later
      | true =>
          have rows_ne : write.row ≠ later.row := by simpa [Write.Independent] using independent
          exact later_right.putWrite separate.shape write_within (absurd · rows_ne) put
  obtain ⟨-, worker_independent, front_rest⟩ := List.pairwise_append.mp separate.independent
  obtain ⟨worker_back, -⟩ := List.pairwise_cons.mp worker_independent
  simp only [List.forall_mem_append, List.forall_mem_cons] at ordered right
  obtain ⟨front_ordered, -, back_ordered⟩ := ordered
  obtain ⟨front_right, worker_right, back_right⟩ := right
  refine ⟨separate', formed.putWrite separate.shape write_within write_right put, ?_, ?_⟩
  · simp only [List.forall_mem_append, List.forall_mem_cons]
    exact ⟨front_ordered, worker_ordered.2, back_ordered⟩
  · simp only [List.forall_mem_append, List.forall_mem_cons]
    refine ⟨fun other member later later_mem => ?_, fun later later_mem => ?_,
      fun other member later later_mem => ?_⟩
    · exact keeps_right later (front_right other member later later_mem)
        (.inr (front_rest other member worker (by simp) later later_mem write
          (by simp [drawn])).symm)
    · exact keeps_right later (worker_right later (by simp [drawn, later_mem]))
        (.inl (worker_ordered.1 later later_mem))
    · exact keeps_right later (back_right other member later later_mem)
        (.inr (worker_back other member write (by simp [drawn]) later later_mem))

theorem reaches (orderly : crew.Orderly isSparse rows cols room) (run : crew.Reaches after) :
    after.Orderly isSparse rows cols room := by
  induction run with
  | refl => exact orderly
  | tail _ last induction => exact induction.step last

end Orderly

end Crew

/-! ## The crews of a generation -/

namespace Plan

variable {plan : Plan} {old matrix : OutputMatrix} {expected : Nat} {crew : Crew}

theorem Made.orderly_soloCrew {blueprint : Blueprint} {source : BudgetSource}
    (made : plan.Made blueprint source)
    (allocated : old.allocate blueprint.grid.rows blueprint.grid.cols plan.sparse
      expected = .ok matrix)
    {visits : WindowSeeds} (crew_ok : plan.soloCrew visits matrix = .ok crew) :
    crew.Orderly matrix.sparse matrix.rows matrix.cols matrix.room := by
  have shaped := OutputMatrix.wellShaped_allocate allocated
  rw [soloCrew, OutputMatrix.wholeRegion_eq shaped, ok_bind, made.blueprint_eq] at crew_ok
  obtain ⟨rule, rule_made, crew_ok⟩ := bind_eq_ok.mp crew_ok
  obtain ⟨writes, drawn, crew_ok⟩ := bind_eq_ok.mp crew_ok
  obtain rfl := Except.ok.inj crew_ok
  obtain ⟨within, covered, ordered⟩ := made.window_spec allocated rule_made drawn
  have matrix_eq := OutputMatrix.allocate_eq allocated
  refine ⟨⟨shaped, ?_, ?_, ?_⟩, ?_, ?_, ?_⟩
  · simpa using ⟨⟨rfl, rfl⟩, rfl⟩
  · rw [matrix_eq] at covered ⊢
    simpa using fun write member => ⟨covered write member, within write member⟩
  · exact List.pairwise_singleton _ _
  · rw [matrix_eq]
    exact Storage.wellFormed_blank _ _ _
  · simpa using ordered
  · rw [matrix_eq]
    exact fun _ _ write _ => Storage.leftOf_blank _ _ _ write

/-- The workers of shares start orderly. -/
theorem Countable.orderly_crew (countable : plan.Countable)
    (allocated : old.allocate plan.blueprint.grid.rows plan.blueprint.grid.cols plan.sparse
      expected = .ok matrix)
    {seeds : Array UInt64} (size_eq : seeds.size = plan.blocksDown * plan.blocksAcross)
    {axis : Axis} (cuttable : matrix.sparse = true → axis = .rows)
    {spans : List Span} {shares : List Share}
    (tile : Span.Tile 0 spans (Share.blocksOn axis plan.blocksDown plan.blocksAcross))
    (serves : List.Forall₂ (Share.Serves matrix plan.blueprint.grid axis plan.blocksDown
      plan.blocksAcross seeds) spans shares) :
    (plan.crew matrix shares).Orderly matrix.sparse matrix.rows matrix.cols matrix.room := by
  obtain ⟨rule, made⟩ := FillRule.ofBlueprint_ok countable.counts
    (Size.mul_eq_ok.mpr ⟨countable.blocks_counted, rfl⟩)
  have storage_eq : (plan.crew matrix shares).storage =
      .blank matrix.sparse matrix.rows matrix.cols := by
    rw [OutputMatrix.allocate_eq allocated]
    rfl
  refine ⟨countable.separate_crew (suits_allocate allocated) size_eq cuttable tile serves, ?_,
    fun worker member => ?_, ?_⟩
  · rw [storage_eq]
    exact Storage.wellFormed_blank _ _ _
  · obtain ⟨share, share_mem, rfl⟩ := List.mem_map.mp member
    obtain ⟨blocks, blocks_mem, share_serves⟩ := Share.exists_related serves share_mem
    have stop_le := (tile.bounds blocks_mem).2.2
    have has : ∀ block ∈ share.window.blocks,
        BlockGrid.Has plan.blocksDown plan.blocksAcross block := by
      rw [share_serves.window_eq]
      exact fun block member => Share.has_of_mem_windowOf stop_le member
    rw [(countable.pending_ofShare made size_eq stop_le share_serves).2]
    exact countable.leftToRight made seeds has share.window.blocks_ordered
  · rw [storage_eq]
    exact fun _ _ write _ => Storage.leftOf_blank _ _ _ write

theorem Made.orderly_fillCrew {blueprint : Blueprint} {source : BudgetSource}
    (made : plan.Made blueprint source)
    (allocated : old.allocate blueprint.grid.rows blueprint.grid.cols plan.sparse
      expected = .ok matrix) {seeds : SeedOrigin} {tasks : Nat}
    (crew_ok : plan.fillCrew seeds tasks matrix = .ok crew) :
    crew.Orderly matrix.sparse matrix.rows matrix.cols matrix.room := by
  obtain rfl := made.blueprint_eq
  obtain ⟨visits, -, solo | ⟨table, spans, shares, -, countable, size_eq, tile, serves, rfl⟩⟩ :=
    made.fillCrew_cases allocated crew_ok
  · exact made.orderly_soloCrew allocated solo
  · have cuttable := sharedAxis_of_sparse allocated tasks
    exact countable.orderly_crew allocated size_eq cuttable tile serves

end Plan

/-! ## Every generation -/

namespace Blueprint

variable {blueprint : Blueprint} {source : BudgetSource} {seeds : SeedOrigin} {tasks : Nat}
  {session after : Session}

/-- What the filling of a generation begins with: a plan, an allocated matrix and a crew. -/
structure Begins (blueprint : Blueprint) (source : BudgetSource) (seeds : SeedOrigin) (tasks : Nat)
    (session : Session) (plan : Plan) (matrix : OutputMatrix) (crew : Crew) : Prop where
  planned : Plan.ofBlueprint blueprint source seeds = .ok plan
  allocated : session.matrix.allocate blueprint.grid.rows blueprint.grid.cols plan.sparse
    plan.expectedNonZeros = .ok matrix
  manned : plan.fillCrew seeds tasks matrix = .ok crew

theorem Begins.orderly {plan : Plan} {matrix : OutputMatrix} {crew : Crew}
    (begins : blueprint.Begins source seeds tasks session plan matrix crew) :
    crew.Orderly plan.sparse blueprint.grid.rows blueprint.grid.cols matrix.room := by
  obtain ⟨planned, allocated, manned⟩ := begins
  have orderly := (Plan.made_ofBlueprint planned).orderly_fillCrew allocated manned
  rw [OutputMatrix.allocate_eq allocated] at orderly ⊢
  exact orderly

/-- A generation that draws is a run of its crew; then cells are counted and the layout settled. -/
theorem run_of_generate (draws : blueprint.needsNoDraws = false)
    (ran : blueprint.generate source seeds tasks session = .ok () after) :
    ∃ plan matrix crew last conversion,
      blueprint.Begins source seeds tasks session plan matrix crew ∧ crew.Reaches last ∧
        (matrix.withStorage last.storage).recount.settleLayout =
          .ok (after.matrix, conversion) := by
  obtain ⟨plan, matrix, filled, conversion, planned, allocated, filling, settled⟩ :=
    stages_of_generate draws ran
  have made := Plan.made_ofBlueprint planned
  obtain ⟨visits, -, inOrder⟩ := filling.fillInOrder_eq made allocated
  obtain ⟨crew, manned, last, run, stops⟩ := filling.ends
  rw [made.blueprint_eq] at allocated
  refine ⟨plan, matrix, crew, last, conversion, ⟨planned, allocated, manned⟩, run, ?_⟩
  rw [stops.storage_eq rfl, ← Plan.eq_withStorage inOrder]
  exact settled

/-- A generation without draws leaves a grid of the shape, or nothing allocated. -/
theorem generateConstant_shaped (ran : blueprint.generateConstant session = .ok () after) :
    (after.matrix.hasStorage = true → after.matrix.WellShaped) ∧
      after.matrix.storage.WellFormed after.matrix.rows after.matrix.cols ∧
      after.matrix.rows = blueprint.grid.rows ∧ after.matrix.cols = blueprint.grid.cols := by
  rw [generateConstant] at ran
  split at ran
  · obtain ⟨_, middle, -, ran⟩ := Action.bind_ok.mp ran
    obtain ⟨changed, reshaped, rfl⟩ := Action.update_ok.mp ran
    obtain rfl := Except.ok.inj reshaped
    exact ⟨fun stored => absurd stored Bool.false_ne_true, trivial, rfl, rfl⟩
  · obtain ⟨_, middle, -, ran⟩ := Action.bind_ok.mp ran
    obtain ⟨changed, refilled, rfl⟩ := Action.update_ok.mp ran
    obtain ⟨rows_eq, cols_eq, nothing | ⟨shape, shaped⟩⟩ :=
      OutputMatrix.refill_cases (lift_eq_ok.mp refilled)
    · rw [OutputMatrix.hasStorage, nothing]
      exact ⟨fun stored => absurd stored Bool.false_ne_true, trivial, rows_eq, cols_eq⟩
    · rw [rows_eq, cols_eq]
      exact ⟨fun _ => shaped, Storage.wellFormed_of_dense shape, rfl, rfl⟩

/-- Rows are well formed after every put of a generation, in whatever order its workers put, and
after a generation that succeeds; then every stored cell is found, and the matrix can be compressed.
A generation that draws is such a run of its crew. -/
theorem generated_rows_well_formed (blueprint : Blueprint) (source : BudgetSource)
    (seeds : SeedOrigin) (tasks : Nat) (session : Session) :
    (∀ plan matrix crew reached,
      blueprint.Begins source seeds tasks session plan matrix crew → crew.Reaches reached →
        reached.storage.WellFormed blueprint.grid.rows blueprint.grid.cols) ∧
    ∀ after, blueprint.generate source seeds tasks session = .ok () after →
      after.matrix.storage.WellFormed blueprint.grid.rows blueprint.grid.cols ∧
      after.matrix.storage.FindsStored ∧
      Csr.ofMatrix after.matrix ≠ .error .malformedCsr ∧
      (blueprint.needsNoDraws = false → ∃ plan matrix crew last conversion,
        blueprint.Begins source seeds tasks session plan matrix crew ∧ crew.Reaches last ∧
          (matrix.withStorage last.storage).recount.settleLayout =
            .ok (after.matrix, conversion)) := by
  refine ⟨fun plan matrix crew reached begins run => (begins.orderly.reaches run).formed,
    fun after ran => ?_⟩
  obtain ⟨shaped, formed, rows_eq, cols_eq⟩ :
      (after.matrix.hasStorage = true → after.matrix.WellShaped) ∧
        after.matrix.storage.WellFormed after.matrix.rows after.matrix.cols ∧
        after.matrix.rows = blueprint.grid.rows ∧ after.matrix.cols = blueprint.grid.cols := by
    cases draws : blueprint.needsNoDraws with
    | true =>
        rw [generate, if_pos draws] at ran
        exact generateConstant_shaped ran
    | false =>
        obtain ⟨plan, matrix, crew, last, conversion, begins, run, settled⟩ :=
          run_of_generate draws ran
        have orderly := begins.orderly.reaches run
        have matrix_eq := OutputMatrix.allocate_eq begins.allocated
        have shaped : (matrix.withStorage last.storage).recount.WellShaped := by
          rw [matrix_eq]
          exact orderly.separate.shape
        have formed : (matrix.withStorage last.storage).recount.storage.WellFormed
            (matrix.withStorage last.storage).recount.rows
            (matrix.withStorage last.storage).recount.cols := by
          rw [matrix_eq]
          exact orderly.formed
        obtain ⟨rows_eq, cols_eq, -⟩ := OutputMatrix.settleLayout_cases settled
        rw [matrix_eq] at rows_eq cols_eq
        exact ⟨fun _ => OutputMatrix.wellShaped_settleLayout settled shaped,
          OutputMatrix.wellFormed_settleLayout settled shaped formed, rows_eq, cols_eq⟩
  have compressed := Csr.ofMatrix_ne_malformed shaped formed
  rw [rows_eq, cols_eq] at formed
  exact ⟨formed, formed.findsStored, compressed, fun draws => run_of_generate draws ran⟩

/-- A row of two blocks with so few values that each block gets one at most. -/
def oneRow : Blueprint :=
  { Plan.oneCell with
    grid := ⟨1, 20, 1, 10⟩
    density := 0.01
    rows_pos := Nat.one_pos
    cols_pos := Nat.succ_pos 19
    blockHeight_pos := Nat.one_pos
    blockWidth_pos := Nat.succ_pos 9
    density_nonneg := by decide +kernel
    density_le_one := by decide +kernel }

/-- Two blocks store one value each in the same row, and it is well formed. -/
theorem one_row_well_formed :
    ∃ after : Session, oneRow.generate (.table #[1, 1]) (.shared 7) 1
        ⟨.unallocated 0 0 false, #[]⟩ = .ok () after ∧
      after.matrix.storage.nonZeroCount = 2 ∧ after.matrix.storage.WellFormed 1 20 ∧
        Csr.ofMatrix after.matrix ≠ .error .malformedCsr := by
  have counted : (match oneRow.generate (.table #[1, 1]) (.shared 7) 1
      ⟨.unallocated 0 0 false, #[]⟩ with
    | .ok _ after => decide (after.matrix.storage.nonZeroCount = 2)
    | .error _ _ => false) = true := by decide +kernel
  cases ran : oneRow.generate (.table #[1, 1]) (.shared 7) 1 ⟨.unallocated 0 0 false, #[]⟩ with
  | ok result after =>
      rw [ran] at counted
      obtain ⟨formed, -, compressed, -⟩ := (generated_rows_well_formed oneRow (.table #[1, 1])
        (.shared 7) 1 ⟨.unallocated 0 0 false, #[]⟩).2 after ran
      exact ⟨after, rfl, of_decide_eq_true counted, formed, compressed⟩
  | error failure after =>
      rw [ran] at counted
      contradiction

end Blueprint

end SeededMatrix
