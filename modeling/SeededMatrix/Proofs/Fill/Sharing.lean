import SeededMatrix.Generate
import SeededMatrix.Proofs.Fill.Crew
import SeededMatrix.Proofs.Fill.Shares
import Mathlib.Data.List.Perm.Basic

/-!
# The crew of the shares

The blocks that are shared out among tasks are all blocks, in order if they are cut between rows and
in another order if they are cut between columns. The workers of the shares keep to their own cells,
draw all of their writes, and together put what filling all blocks in order puts.
-/

namespace SeededMatrix

/-- A plan whose blocks and cells can be counted in sizes and that has a budget for each block. -/
structure Plan.Countable (plan : Plan) : Prop where
  counts : plan.blueprint.grid.Counts plan.blocksDown plan.blocksAcross
  blocks_counted : plan.blocksDown * plan.blocksAcross < Size.limit
  cells_counted : plan.blueprint.grid.rows * plan.blueprint.grid.cols < Size.limit
  budgets_enough : plan.blocksDown * plan.blocksAcross ≤ plan.budgets.size

/-- A matrix that is allocated in the shape that a plan is made for. -/
structure Plan.Suits (plan : Plan) (matrix : OutputMatrix) : Prop where
  shaped : matrix.WellShaped
  rows_eq : matrix.rows = plan.blueprint.grid.rows
  cols_eq : matrix.cols = plan.blueprint.grid.cols

theorem Plan.suits_allocate {plan : Plan} {old matrix : OutputMatrix} {expected : Nat}
    {sparse : Bool}
    (allocated : old.allocate plan.blueprint.grid.rows plan.blueprint.grid.cols sparse expected =
      .ok matrix) : plan.Suits matrix := by
  have shaped := OutputMatrix.wellShaped_allocate allocated
  obtain rfl := OutputMatrix.allocate_eq allocated
  exact ⟨shaped, rfl, rfl⟩

/-! ## All blocks, in another order -/

namespace Share

variable {axis : Axis} {down across : Nat} {spans : List Span}

theorem blocks_rows (tile : Span.Tile 0 spans down) :
    (spans.flatMap fun blocks => (windowOf .rows down across blocks).blocks) =
      BlockWindow.blocks ⟨.upTo down, .upTo across⟩ := by
  simp only [BlockWindow.blocks, windowOf]
  rw [← List.flatMap_assoc, tile.flatMap_indices]
  rfl

/-- Visiting spans of columns one after the other is visiting all columns, row by row or not. -/
theorem flatMap_cols_perm (rows : List Nat) (spans : List Span) :
    (spans.flatMap fun cols =>
      rows.flatMap fun row => cols.indices.map fun col => BlockIndex.mk row col).Perm
      (rows.flatMap fun row => (spans.flatMap Span.indices).map fun col => ⟨row, col⟩) := by
  induction spans with
  | nil => simp
  | cons span spans induction =>
      simp only [List.flatMap_cons, List.map_append]
      exact (induction.append_left _).trans (List.flatMap_append_perm rows _ _)

theorem blocks_perm (tile : Span.Tile 0 spans (blocksOn axis down across)) :
    (spans.flatMap fun blocks => (windowOf axis down across blocks).blocks).Perm
      (BlockWindow.blocks ⟨.upTo down, .upTo across⟩) := by
  cases axis with
  | rows => exact .of_eq (blocks_rows tile)
  | cols =>
      have perm := flatMap_cols_perm (Span.upTo down).indices spans
      rw [tile.flatMap_indices] at perm
      exact perm

end Share

/-! ## The crew of the shares -/

section Crew

variable {plan : Plan} {matrix : OutputMatrix} {rule : FillRule} {seeds : Array UInt64}
  {axis : Axis} {spans : List Span} {shares : List Share}

theorem Plan.Countable.tableList_holds (countable : plan.Countable)
    (made : FillRule.ofBlueprint plan.blueprint = .ok rule) {block : BlockIndex}
    (has : BlockGrid.Has plan.blocksDown plan.blocksAcross block) {write : Write}
    (member : write ∈ rule.tableList plan.blocksAcross plan.budgets seeds block) :
    plan.blueprint.grid.Holds block write := by
  have blueprint_eq := FillRule.blueprint_ofBlueprint made
  rw [← blueprint_eq]
  have counts := countable.counts
  rw [← blueprint_eq] at counts
  exact (FillRule.tableList_fills counts has).1 write member

/-- The worker of a share draws what the blocks of the share yield. -/
theorem Plan.Countable.pending_ofShare (countable : plan.Countable)
    (made : FillRule.ofBlueprint plan.blueprint = .ok rule)
    (size_eq : seeds.size = plan.blocksDown * plan.blocksAcross) {blocks : Span} {share : Share}
    (stop_le : blocks.stop ≤ Share.blocksOn axis plan.blocksDown plan.blocksAcross)
    (serves : share.Serves matrix plan.blueprint.grid axis plan.blocksDown plan.blocksAcross seeds
      blocks) :
    (Worker.ofShare plan.blueprint plan.budgets share).pending.failure? = none ∧
      (Worker.ofShare plan.blueprint plan.budgets share).pending.toList =
        share.window.blocks.flatMap (rule.tableList plan.blocksAcross plan.budgets seeds) := by
  have blueprint_eq := FillRule.blueprint_ofBlueprint made
  obtain ⟨counts, blocks_counted, cells_counted, budgets_enough⟩ := countable
  rw [← blueprint_eq] at counts cells_counted
  have has : ∀ block ∈ share.window.blocks,
      BlockGrid.Has plan.blocksDown plan.blocksAcross block := by
    rw [serves.window_eq]
    exact fun block member => Share.has_of_mem_windowOf stop_le member
  obtain ⟨writes, drawn, complete, yields⟩ := FillRule.windowWrites_eq counts has blocks_counted
    cells_counted budgets_enough size_eq.ge serves.seeds_eq
  have pending_eq : (Worker.ofShare plan.blueprint plan.budgets share).pending = writes := by
    rw [Worker.ofShare, Share.writes, made, ok_bind, drawn]
    rfl
  rw [pending_eq]
  exact ⟨complete, yields⟩

/-- The region of a share covers what its blocks yield. -/
theorem Plan.Suits.covers (suits : plan.Suits matrix) {blocks : Span} {share : Share}
    (serves : share.Serves matrix plan.blueprint.grid axis plan.blocksDown plan.blocksAcross seeds
      blocks) {block : BlockIndex} (member : block ∈ share.window.blocks) {write : Write}
    (holds : plan.blueprint.grid.Holds block write) : share.region.Covers write := by
  obtain ⟨row_lt, col_lt⟩ := holds.within
  obtain ⟨⟨row_ge, row_below⟩, col_ge, col_below⟩ := holds
  obtain ⟨-, rows_eq, cols_eq⟩ := suits
  rw [serves.window_eq, BlockWindow.mem_blocks] at member
  rw [Region.Covers, serves.region_eq, Region.contains_iff]
  cases axis with
  | rows =>
      obtain ⟨start_le, row_lt_stop⟩ := Span.mem_indices.mp member.1
      have above := Nat.mul_le_mul_right plan.blueprint.grid.blockHeight start_le
      have below := Nat.mul_le_mul_right plan.blueprint.grid.blockHeight row_lt_stop
      simp only [BlockGrid.rowSpan, blockSpan, OutputMatrix.regionAt, Share.cells, cellsOf,
        Share.windowOf, Span.length, Nat.succ_eq_add_one] at *
      omega
  | cols =>
      obtain ⟨start_le, col_lt_stop⟩ := Span.mem_indices.mp member.2
      have above := Nat.mul_le_mul_right plan.blueprint.grid.blockWidth start_le
      have below := Nat.mul_le_mul_right plan.blueprint.grid.blockWidth col_lt_stop
      simp only [BlockGrid.colSpan, blockSpan, OutputMatrix.regionAt, Share.cells, cellsOf,
        Share.windowOf, Span.length, Nat.succ_eq_add_one] at *
      omega

/-- Writes through the regions of two spans, of which one stops before the other starts, are
independent. -/
theorem Share.independent_of_covers {grid : BlockGrid} {first second : Share}
    {left right : Span} {down across : Nat}
    (serves : first.Serves matrix grid axis down across seeds left)
    (serves' : second.Serves matrix grid axis down across seeds right)
    (ordered : left.stop ≤ right.start) (cuttable : matrix.sparse = true → axis = .rows)
    {write other : Write} (covered : first.region.Covers write)
    (covered' : second.region.Covers other) : write.Independent matrix.sparse other := by
  rw [Region.Covers, serves.region_eq, Region.contains_iff] at covered
  rw [Region.Covers, serves'.region_eq, Region.contains_iff] at covered'
  cases axis with
  | rows =>
      have between := Nat.mul_le_mul_right grid.blockHeight ordered
      left
      simp only [OutputMatrix.regionAt, cells, cellsOf, Span.length] at covered covered'
      omega
  | cols =>
      have between := Nat.mul_le_mul_right grid.blockWidth ordered
      refine .inr ⟨by simpa using mt cuttable (by simp), ?_⟩
      simp only [OutputMatrix.regionAt, cells, cellsOf, Span.length] at covered covered'
      omega

variable (plan) in
/-- The crew of the shares of a matrix. -/
def Plan.crew (matrix : OutputMatrix) (shares : List Share) : Crew :=
  .ofShares plan.blueprint plan.budgets shares matrix.storage

theorem Plan.Countable.complete_crew (countable : plan.Countable)
    (size_eq : seeds.size = plan.blocksDown * plan.blocksAcross)
    (tile : Span.Tile 0 spans (Share.blocksOn axis plan.blocksDown plan.blocksAcross))
    (serves : List.Forall₂ (Share.Serves matrix plan.blueprint.grid axis plan.blocksDown
      plan.blocksAcross seeds) spans shares) :
    (plan.crew matrix shares).Complete := by
  obtain ⟨rule, made⟩ := FillRule.ofBlueprint_ok countable.counts
    (Size.mul_eq_ok.mpr ⟨countable.blocks_counted, rfl⟩)
  intro worker member
  obtain ⟨share, share_mem, rfl⟩ := List.mem_map.mp member
  obtain ⟨blocks, blocks_mem, share_serves⟩ := Share.exists_related serves share_mem
  exact (countable.pending_ofShare made size_eq (tile.bounds blocks_mem).2.2 share_serves).1

/-- The workers of shares keep to their own cells. -/
theorem Plan.Countable.separate_crew (countable : plan.Countable) (suits : plan.Suits matrix)
    (size_eq : seeds.size = plan.blocksDown * plan.blocksAcross)
    (cuttable : matrix.sparse = true → axis = .rows)
    (tile : Span.Tile 0 spans (Share.blocksOn axis plan.blocksDown plan.blocksAcross))
    (serves : List.Forall₂ (Share.Serves matrix plan.blueprint.grid axis plan.blocksDown
      plan.blocksAcross seeds) spans shares) :
    (plan.crew matrix shares).Separate matrix.sparse matrix.rows matrix.cols matrix.room := by
  obtain ⟨rule, made⟩ := FillRule.ofBlueprint_ok countable.counts
    (Size.mul_eq_ok.mpr ⟨countable.blocks_counted, rfl⟩)
  have holds : ∀ {share blocks}, blocks ∈ spans →
      Share.Serves matrix plan.blueprint.grid axis plan.blocksDown plan.blocksAcross seeds blocks
        share →
      ∀ write ∈ (Worker.ofShare plan.blueprint plan.budgets share).pending.toList,
        share.region.Covers write ∧ write.Within matrix.rows matrix.cols := by
    intro share blocks blocks_mem share_serves write member
    have stop_le := (tile.bounds blocks_mem).2.2
    rw [(countable.pending_ofShare made size_eq stop_le share_serves).2] at member
    obtain ⟨block, block_mem, member⟩ := List.mem_flatMap.mp member
    have has : BlockGrid.Has plan.blocksDown plan.blocksAcross block := by
      rw [share_serves.window_eq] at block_mem
      exact Share.has_of_mem_windowOf stop_le block_mem
    have block_holds := countable.tableList_holds made has member
    rw [suits.rows_eq, suits.cols_eq]
    exact ⟨suits.covers share_serves block_mem block_holds, block_holds.within⟩
  refine ⟨suits.shaped, fun worker member => ?_, fun worker member => ?_, ?_⟩
  · obtain ⟨share, share_mem, rfl⟩ := List.mem_map.mp member
    obtain ⟨blocks, -, share_serves⟩ := Share.exists_related serves share_mem
    rw [Worker.ofShare, share_serves.region_eq]
    cases axis <;> exact ⟨⟨rfl, rfl⟩, rfl⟩
  · obtain ⟨share, share_mem, rfl⟩ := List.mem_map.mp member
    obtain ⟨blocks, blocks_mem, share_serves⟩ := Share.exists_related serves share_mem
    exact holds blocks_mem share_serves
  · apply List.pairwise_map.mpr
    apply (Share.pairwise_serves serves tile.ordered).imp
    rintro first second ⟨left, left_mem, right, right_mem, first_serves, second_serves, ordered⟩
    intro write member other member'
    exact Share.independent_of_covers first_serves second_serves ordered cuttable
      (holds left_mem first_serves write member).1 (holds right_mem second_serves other member').1

/-- What the workers of shares have to put are the writes of their blocks. -/
theorem Plan.Countable.pending_crew (countable : plan.Countable)
    (made : FillRule.ofBlueprint plan.blueprint = .ok rule)
    (size_eq : seeds.size = plan.blocksDown * plan.blocksAcross)
    (tile : Span.Tile 0 spans (Share.blocksOn axis plan.blocksDown plan.blocksAcross))
    (serves : List.Forall₂ (Share.Serves matrix plan.blueprint.grid axis plan.blocksDown
      plan.blocksAcross seeds) spans shares) :
    (plan.crew matrix shares).pending =
      (spans.flatMap fun blocks =>
        (Share.windowOf axis plan.blocksDown plan.blocksAcross blocks).blocks).flatMap
          (rule.tableList plan.blocksAcross plan.budgets seeds) := by
  rw [← Share.flatMap_blocks serves, List.flatMap_assoc, crew, Crew.pending, Crew.ofShares,
    List.flatMap_map]
  apply List.flatMap_congr
  intro share share_mem
  obtain ⟨blocks, blocks_mem, share_serves⟩ := Share.exists_related serves share_mem
  exact (countable.pending_ofShare made size_eq (tile.bounds blocks_mem).2.2 share_serves).2

/-! ## All blocks in order -/

/-- All blocks, with tables of seeds and budgets for each of them. -/
theorem Plan.Countable.windowWrites_all (countable : plan.Countable)
    (made : FillRule.ofBlueprint plan.blueprint = .ok rule)
    (size_eq : seeds.size = plan.blocksDown * plan.blocksAcross) :
    ∃ writes, rule.windowWrites plan.window plan.budgets (.table seeds) = .ok writes ∧
      writes.failure? = none ∧ writes.toList =
        plan.window.blocks.flatMap (rule.tableList plan.blocksAcross plan.budgets seeds) := by
  have blueprint_eq := FillRule.blueprint_ofBlueprint made
  obtain ⟨counts, blocks_counted, cells_counted, budgets_enough⟩ := countable
  rw [← blueprint_eq] at counts cells_counted
  have has : ∀ block ∈ plan.window.blocks,
      BlockGrid.Has plan.blocksDown plan.blocksAcross block :=
    fun _ member => BlockWindow.has_of_mem_all member
  exact FillRule.windowWrites_eq counts has blocks_counted cells_counted budgets_enough size_eq.ge
    (SeedTable.all_eq size_eq)

theorem OutputMatrix.covers_whole (matrix : OutputMatrix) {write : Write}
    (within : write.Within matrix.rows matrix.cols) :
    (matrix.regionAt .rows (.upTo matrix.rows) 0).Covers write := by
  obtain ⟨row_lt, col_lt⟩ := within
  rw [Region.Covers, Region.contains_iff]
  simp only [regionAt, Span.upTo, Span.length]
  omega

/-- Filling all blocks in order is putting the writes of all blocks into the storage. -/
theorem Plan.Countable.fillInOrder_eq (countable : plan.Countable) (suits : plan.Suits matrix)
    (made : FillRule.ofBlueprint plan.blueprint = .ok rule)
    (size_eq : seeds.size = plan.blocksDown * plan.blocksAcross) :
    plan.fillInOrder (.table seeds) matrix =
      (liftM (matrix.storage.putList matrix.room (plan.window.blocks.flatMap
        (rule.tableList plan.blocksAcross plan.budgets seeds))) : Except Failure Storage).map
          matrix.withStorage := by
  obtain ⟨writes, drawn, complete, yields⟩ := countable.windowWrites_all made size_eq
  have covered : ∀ write ∈ writes.toList,
      (matrix.regionAt .rows (.upTo matrix.rows) 0).Covers write := by
    intro write member
    rw [yields] at member
    obtain ⟨block, block_mem, member⟩ := List.mem_flatMap.mp member
    have within :=
      (countable.tableList_holds made (BlockWindow.has_of_mem_all block_mem) member).within
    rw [← suits.rows_eq, ← suits.cols_eq] at within
    exact matrix.covers_whole within
  rw [fillInOrder, OutputMatrix.wholeRegion_eq suits.shaped, ok_bind, made, ok_bind, drawn,
    ok_bind, OutputMatrix.putAll_eq, Writes.putThrough_eq ⟨rfl, rfl⟩ covered, yields]
  simp only [OutputMatrix.regionAt]
  cases matrix.storage.putList matrix.room (plan.window.blocks.flatMap
    (rule.tableList plan.blocksAcross plan.budgets seeds)) with
  | ok after => simp [Writes.ending, complete]
  | error fault => rfl

theorem Plan.Countable.leftToRight (countable : plan.Countable)
    (made : FillRule.ofBlueprint plan.blueprint = .ok rule) (seeds : Array UInt64)
    {blocks : List BlockIndex}
    (has : ∀ block ∈ blocks, BlockGrid.Has plan.blocksDown plan.blocksAcross block)
    (ordered : blocks.Pairwise BlockIndex.Before) :
    LeftToRight (blocks.flatMap (rule.tableList plan.blocksAcross plan.budgets seeds)) := by
  have counts := countable.counts
  rw [← FillRule.blueprint_ofBlueprint made] at counts
  exact FillRule.leftToRight_tableLists counts has ordered

/-- Shared out or in order, the blocks have the same effect on every storage of the matrix. -/
theorem Plan.Countable.sameEffect_blocks (countable : plan.Countable) (suits : plan.Suits matrix)
    (made : FillRule.ofBlueprint plan.blueprint = .ok rule) (seeds : Array UInt64)
    (cuttable : matrix.sparse = true → axis = .rows)
    (tile : Span.Tile 0 spans (Share.blocksOn axis plan.blocksDown plan.blocksAcross)) :
    SameEffect matrix.sparse matrix.rows matrix.cols matrix.room
      ((spans.flatMap fun blocks =>
        (Share.windowOf axis plan.blocksDown plan.blocksAcross blocks).blocks).flatMap
          (rule.tableList plan.blocksAcross plan.budgets seeds))
      (plan.window.blocks.flatMap (rule.tableList plan.blocksAcross plan.budgets seeds)) := by
  cases axis with
  | rows =>
      have tile_rows : Span.Tile 0 spans plan.blocksDown := tile
      rw [Share.blocks_rows tile_rows]
      exact .refl _
  | cols =>
      have dense : matrix.sparse = false := by simpa using mt cuttable (by simp)
      have perm := (Share.blocks_perm tile).flatMap_right
        (rule.tableList plan.blocksAcross plan.budgets seeds)
      apply (SameEffect.of_perm perm.symm _ _).symm
      · intro write member
        obtain ⟨block, block_mem, member⟩ := List.mem_flatMap.mp member
        rw [suits.rows_eq, suits.cols_eq]
        exact (countable.tableList_holds made (BlockWindow.has_of_mem_all block_mem) member).within
      · have ordered := countable.leftToRight made seeds
          (fun _ member => BlockWindow.has_of_mem_all member) plan.window.blocks_ordered
        apply ordered.imp
        intro first second ordered
        by_cases rows_eq : first.row = second.row
        · exact .inr ⟨dense, (ordered rows_eq).ne⟩
        · exact .inl rows_eq

end Crew

end SeededMatrix
