import SeededMatrix.Proofs.Fill.Sharing

/-!
# Every schedule of the tasks

However the blocks are shared out, in whatever order the tasks are done and however their puts are
interleaved, the matrix is the one that filling all blocks in order makes.
-/

namespace SeededMatrix

namespace Share

theorem blockSpans_eq (axis : Axis) (down across tasks : Nat) :
    blockSpans axis down across tasks =
      Size.reserve (min tasks (blocksOn axis down across)) 16 >>= fun _ =>
        .ok (Span.balanced (blocksOn axis down across) tasks) := by
  cases axis <;> rfl

theorem tile_blockSpans {axis : Axis} {down across tasks : Nat} (tasks_pos : 0 < tasks)
    {spans : List Span} (cut : blockSpans axis down across tasks = .ok spans) :
    spans.length = min tasks (blocksOn axis down across) ∧
      Span.Tile 0 spans (blocksOn axis down across) := by
  rw [blockSpans_eq] at cut
  obtain ⟨_, -, cut⟩ := bind_eq_ok.mp cut
  obtain rfl := Except.ok.inj cut
  exact ⟨Span.length_balanced _ tasks, Span.tile_balanced _ tasks_pos⟩

end Share

namespace Plan

variable {plan : Plan} {matrix : OutputMatrix} {rule : FillRule} {seeds : Array UInt64}
  {axis : Axis} {spans : List Span} {shares : List Share}

theorem Countable.blocksOn_le (countable : plan.Countable) (axis : Axis) :
    Share.blocksOn axis plan.blocksDown plan.blocksAcross ≤
      plan.blocksDown * plan.blocksAcross := by
  have down_pos := countable.counts.down_pos plan.blueprint.rows_pos
  have across_pos := countable.counts.across_pos plan.blueprint.cols_pos
  cases axis with
  | rows => exact Nat.le_mul_of_pos_right _ across_pos
  | cols => exact Nat.le_mul_of_pos_left _ down_pos

/-- The tasks, done in any order, fill the matrix as all blocks in order do. -/
theorem Countable.run_eq (countable : plan.Countable) (suits : plan.Suits matrix)
    (size_eq : seeds.size = plan.blocksDown * plan.blocksAcross)
    (cuttable : matrix.sparse = true → axis = .rows)
    (tile : Span.Tile 0 spans (Share.blocksOn axis plan.blocksDown plan.blocksAcross))
    (serves : List.Forall₂ (Share.Serves matrix plan.blueprint.grid axis plan.blocksDown
      plan.blocksAcross seeds) spans shares)
    {order : List Share} (perm : order.Perm shares) :
    Share.run plan.blueprint plan.budgets order matrix =
      plan.fillInOrder (.table seeds) matrix := by
  obtain ⟨rule, made⟩ := FillRule.ofBlueprint_ok countable.counts
    (Size.mul_eq_ok.mpr ⟨countable.blocks_counted, rfl⟩)
  have workers_perm := (perm.map (Worker.ofShare plan.blueprint plan.budgets)).symm
  have separate := countable.separate_crew suits size_eq cuttable tile serves
  have complete : (plan.crew matrix order).Complete := fun worker member =>
    countable.complete_crew size_eq tile serves worker (workers_perm.mem_iff.mpr member)
  obtain ⟨separate', same⟩ := separate.perm workers_perm
  obtain ⟨outcome, run_eq, ends⟩ := Share.run_ends plan.blueprint plan.budgets order matrix
  have outcome_eq := (Crew.ends_iff separate' complete).mp ends
  have pending_eq := countable.pending_crew made size_eq tile serves
  have same_blocks := countable.sameEffect_blocks suits made seeds cuttable tile matrix.storage
    suits.shaped
  rw [run_eq, outcome_eq, countable.fillInOrder_eq suits made size_eq, ← same_blocks, ← pending_eq]
  exact congrArg (fun result => (liftM result : Except Failure Storage).map matrix.withStorage)
    same.symm

/-- Every interleaving of the puts of the tasks ends as the filling of all blocks in order does. -/
theorem Countable.ends_iff (countable : plan.Countable) (suits : plan.Suits matrix)
    (size_eq : seeds.size = plan.blocksDown * plan.blocksAcross)
    (cuttable : matrix.sparse = true → axis = .rows)
    (tile : Span.Tile 0 spans (Share.blocksOn axis plan.blocksDown plan.blocksAcross))
    (serves : List.Forall₂ (Share.Serves matrix plan.blueprint.grid axis plan.blocksDown
      plan.blocksAcross seeds) spans shares)
    {outcome : Except Failure Storage} :
    (plan.crew matrix shares).Ends outcome ↔
      outcome = (plan.fillInOrder (.table seeds) matrix).map OutputMatrix.storage := by
  obtain ⟨rule, made⟩ := FillRule.ofBlueprint_ok countable.counts
    (Size.mul_eq_ok.mpr ⟨countable.blocks_counted, rfl⟩)
  have separate := countable.separate_crew suits size_eq cuttable tile serves
  have complete := countable.complete_crew size_eq tile serves
  have same_blocks := countable.sameEffect_blocks suits made seeds cuttable tile matrix.storage
    suits.shaped
  rw [Crew.ends_iff separate complete, countable.pending_crew made size_eq tile serves,
    countable.fillInOrder_eq suits made size_eq]
  simp only [crew, Crew.ofShares, same_blocks]
  cases matrix.storage.putList matrix.room (plan.window.blocks.flatMap
    (rule.tableList plan.blocksAcross plan.budgets seeds)) <;> rfl

/-- Filling all blocks in order succeeds if an empty row can make room for its expected cells. -/
theorem Countable.fillInOrder_ok (countable : plan.Countable) (suits : plan.Suits matrix)
    (size_eq : seeds.size = plan.blocksDown * plan.blocksAcross)
    (roomy : matrix.sparse = true → Size.reserve (max matrix.nonZerosPerRow 1) 8 = .ok ()) :
    ∃ filled, plan.fillInOrder (.table seeds) matrix = .ok filled := by
  obtain ⟨rule, made⟩ := FillRule.ofBlueprint_ok countable.counts
    (Size.mul_eq_ok.mpr ⟨countable.blocks_counted, rfl⟩)
  have within : ∀ write ∈ plan.window.blocks.flatMap
      (rule.tableList plan.blocksAcross plan.budgets seeds),
      write.Within matrix.rows matrix.cols := by
    intro write member
    obtain ⟨block, block_mem, member⟩ := List.mem_flatMap.mp member
    rw [suits.rows_eq, suits.cols_eq]
    exact (countable.tableList_holds made (BlockWindow.has_of_mem_all block_mem) member).within
  have fits : matrix.sparse = true → max matrix.room 1 * 8 ≤ Size.allocationLimit := by
    intro isSparse
    rw [OutputMatrix.room, if_pos isSparse]
    exact Size.reserve_eq_ok.mp (roomy isSparse)
  obtain ⟨after, put⟩ := Storage.putList_ok suits.shaped fits within
  rw [countable.fillInOrder_eq suits made size_eq, put]
  exact ⟨_, rfl⟩

/-- The axis along which the blocks of a plan are shared out among tasks. -/
def sharedAxis (plan : Plan) (tasks : Nat) : Axis :=
  Share.axis plan.sparse plan.blocksDown plan.blocksAcross tasks

theorem sharedAxis_of_sparse {old : OutputMatrix} {expected : Nat}
    (allocated : old.allocate plan.blueprint.grid.rows plan.blueprint.grid.cols plan.sparse
      expected = .ok matrix) (tasks : Nat) :
    matrix.sparse = true → plan.sharedAxis tasks = .rows := by
  rw [OutputMatrix.allocate_eq allocated, sharedAxis]
  intro isSparse
  simp [Share.axis, show plan.sparse = true from isSparse]

/-- An allocated matrix has a share for each span of blocks. -/
theorem ofSpans_ok (counts : plan.blueprint.grid.Counts plan.blocksDown plan.blocksAcross)
    {old : OutputMatrix} {expected : Nat}
    (allocated : old.allocate plan.blueprint.grid.rows plan.blueprint.grid.cols plan.sparse
      expected = .ok matrix)
    (size_eq : seeds.size = plan.blocksDown * plan.blocksAcross)
    (stored : Size.reserve seeds.size 8 = .ok ()) {tasks : Nat}
    (tile : Span.Tile 0 spans
      (Share.blocksOn (plan.sharedAxis tasks) plan.blocksDown plan.blocksAcross)) :
    ∃ shares, Share.ofSpans matrix plan.blueprint.grid (plan.sharedAxis tasks) plan.blocksDown
        plan.blocksAcross seeds spans = .ok shares ∧
      List.Forall₂ (Share.Serves matrix plan.blueprint.grid (plan.sharedAxis tasks) plan.blocksDown
        plan.blocksAcross seeds) spans shares := by
  have suits := suits_allocate allocated
  have extent_eq : matrix.extent (plan.sharedAxis tasks) =
      Share.extentOf plan.blueprint.grid (plan.sharedAxis tasks) := by
    cases plan.sharedAxis tasks with
    | rows => exact suits.rows_eq
    | cols => exact suits.cols_eq
  exact Share.ofSpans_ok counts suits.shaped extent_eq (sharedAxis_of_sparse allocated tasks)
    size_eq stored tile

theorem Countable.ofSpans_ok (countable : plan.Countable) {old : OutputMatrix} {expected : Nat}
    (allocated : old.allocate plan.blueprint.grid.rows plan.blueprint.grid.cols plan.sparse
      expected = .ok matrix)
    (size_eq : seeds.size = plan.blocksDown * plan.blocksAcross)
    (stored : Size.reserve seeds.size 8 = .ok ()) {tasks : Nat}
    (tile : Span.Tile 0 spans
      (Share.blocksOn (plan.sharedAxis tasks) plan.blocksDown plan.blocksAcross)) :
    ∃ shares, Share.ofSpans matrix plan.blueprint.grid (plan.sharedAxis tasks) plan.blocksDown
        plan.blocksAcross seeds spans = .ok shares ∧
      List.Forall₂ (Share.Serves matrix plan.blueprint.grid (plan.sharedAxis tasks) plan.blocksDown
        plan.blocksAcross seeds) spans shares :=
  Plan.ofSpans_ok countable.counts allocated size_eq stored tile

/-- Sharing changes nothing. For a freshly allocated matrix, dense or of sparse rows, and any number
of tasks from two on, the shares exist, one for each task up to the number of blocks on the axis.
Doing the tasks in any order is filling all blocks in order, and every interleaving of their puts
ends with the same outcome, in particular with the same storage. The filling succeeds if an empty
row can make room for its expected cells. -/
theorem every_schedule_fills_in_order (countable : plan.Countable)
    {old matrix : OutputMatrix} {expected : Nat}
    (allocated : old.allocate plan.blueprint.grid.rows plan.blueprint.grid.cols plan.sparse
      expected = .ok matrix)
    {seeds : Array UInt64} (seeds_size : seeds.size = plan.blocksDown * plan.blocksAcross)
    (seeds_stored : Size.reserve seeds.size 8 = .ok ()) {tasks : Nat} (tasks_many : 2 ≤ tasks)
    (spans_stored : Size.reserve (min tasks seeds.size) 16 = .ok ()) :
    ∃ spans shares,
      Share.blockSpans (plan.sharedAxis tasks) plan.blocksDown plan.blocksAcross tasks = .ok spans ∧
      Share.ofSpans matrix plan.blueprint.grid (plan.sharedAxis tasks) plan.blocksDown
        plan.blocksAcross seeds spans = .ok shares ∧
      shares.length =
        min tasks (Share.blocksOn (plan.sharedAxis tasks) plan.blocksDown plan.blocksAcross) ∧
      (∀ order, order.Perm shares →
        Share.run plan.blueprint plan.budgets order matrix =
          plan.fillInOrder (.table seeds) matrix) ∧
      (∀ outcome, (plan.crew matrix shares).Ends outcome ↔
        outcome = (plan.fillInOrder (.table seeds) matrix).map OutputMatrix.storage) ∧
      ((matrix.sparse = true → Size.reserve (max matrix.nonZerosPerRow 1) 8 = .ok ()) →
        ∃ filled, plan.fillInOrder (.table seeds) matrix = .ok filled) := by
  have suits := suits_allocate allocated
  have cuttable := sharedAxis_of_sparse allocated tasks
  have fewer := countable.blocksOn_le (plan.sharedAxis tasks)
  have spans_fit : Size.reserve (min tasks
      (Share.blocksOn (plan.sharedAxis tasks) plan.blocksDown plan.blocksAcross)) 16 = .ok () := by
    rw [Size.reserve_eq_ok] at spans_stored ⊢
    omega
  have cut := Share.blockSpans_eq (plan.sharedAxis tasks) plan.blocksDown plan.blocksAcross tasks
  rw [spans_fit, ok_bind] at cut
  obtain ⟨spans_length, tile⟩ := Share.tile_blockSpans (by omega) cut
  obtain ⟨shares, shares_ok, serves⟩ :=
    countable.ofSpans_ok allocated seeds_size seeds_stored tile
  refine ⟨_, shares, cut, shares_ok, serves.length_eq ▸ spans_length, fun order perm => ?_,
    fun outcome => ?_, ?_⟩
  · exact countable.run_eq suits seeds_size cuttable tile serves perm
  · exact countable.ends_iff suits seeds_size cuttable tile serves
  · exact countable.fillInOrder_ok suits seeds_size

theorem zero_le_one : (0.0 : Float) ≤ 1.0 := by
  decide +kernel

theorem one_le_one : (1.0 : Float) ≤ 1.0 := by
  decide +kernel

/-- A matrix of one cell, with a value between one and two. -/
def oneCell : Blueprint where
  distribution := .uniform
  grid := ⟨1, 1, 1, 1⟩
  density := 1.0
  least := 1.0
  greatest := 2.0
  mean := 0.0
  rows_pos := Nat.one_pos
  cols_pos := Nat.one_pos
  blockHeight_pos := Nat.one_pos
  blockWidth_pos := Nat.one_pos
  density_nonneg := zero_le_one
  density_le_one := one_le_one
  mean_usable := nofun

/-- A plan for two square blocks, one above the other. -/
def twoBlocks : Plan where
  blueprint :=
    { oneCell with
      grid := ⟨4, 2, 2, 2⟩
      rows_pos := Nat.succ_pos 3
      cols_pos := Nat.two_pos
      blockHeight_pos := Nat.two_pos
      blockWidth_pos := Nat.two_pos }
  blocksDown := 2
  blocksAcross := 1
  budgets := #[4, 4]
  expectedNonZeros := 8
  sparse := false

/-- Two tasks fill two blocks, however their puts are interleaved. -/
theorem two_tasks_fill_two_blocks :
    ∃ matrix shares filled,
      (OutputMatrix.unallocated 0 0 true).allocate 4 2 false 8 = .ok matrix ∧ shares.length = 2 ∧
        twoBlocks.fillInOrder (.table #[1, 2]) matrix = .ok filled ∧
        ∀ outcome, (twoBlocks.crew matrix shares).Ends outcome ↔ outcome = .ok filled.storage := by
  have countable : twoBlocks.Countable := ⟨⟨rfl, rfl⟩, by decide, by decide, by decide⟩
  have allocated : (OutputMatrix.unallocated 0 0 true).allocate 4 2 false 8 =
      .ok ⟨4, 2, false, 0, OutputMatrix.perRow 4 8, .blank false 4 2⟩ := rfl
  have seeds_size : (#[1, 2] : Array UInt64).size =
      twoBlocks.blocksDown * twoBlocks.blocksAcross := rfl
  obtain ⟨spans, shares, -, -, count, -, ends, succeeds⟩ :=
    every_schedule_fills_in_order countable allocated seeds_size rfl (le_refl 2) rfl
  obtain ⟨filled, filled_eq⟩ := succeeds nofun
  refine ⟨_, shares, filled, allocated, count, filled_eq, fun outcome => ?_⟩
  rw [ends, filled_eq]
  rfl

end Plan

end SeededMatrix
