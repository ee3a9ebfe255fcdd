import SeededMatrix.BlockGrid
import SeededMatrix.Proofs.Outcome
import SeededMatrix.Proofs.Spans
import Mathlib.Tactic.Ring

/-!
# Checked sizes and the blocks of an axis

When the checked operations on sizes succeed, and what they then return. The other parts are about
one axis of a block grid: an axis of `extent` cells is cut into blocks of `side` cells, and a cell
lies in the block that its quotient by `side` names. Spans of blocks that tile the blocks of an axis
cover spans of cells that tile the axis. So do the single blocks, and together they are as long as
the axis.
-/

namespace SeededMatrix

namespace Size

theorem add_eq_ok {left right sum : Nat} :
    add left right = .ok sum ↔ left + right < limit ∧ left + right = sum := by
  by_cases fits : left + right < limit <;> simp [add, fits]

theorem sub_eq_ok {left right difference : Nat} :
    sub left right = .ok difference ↔ right ≤ left ∧ left - right = difference := by
  by_cases fits : right ≤ left <;> simp [sub, fits]

theorem mul_eq_ok {left right product : Nat} :
    mul left right = .ok product ↔ left * right < limit ∧ left * right = product := by
  by_cases fits : left * right < limit <;> simp [mul, fits]

theorem mul_eq_error {left right : Nat} {fault : Fault} :
    mul left right = .error fault ↔ limit ≤ left * right ∧ fault = .overflow := by
  by_cases fits : left * right < limit
  · simp [mul, fits]
  · simp [mul, fits, Nat.not_lt.mp fits, eq_comm]

theorem reserve_eq_ok {count bytes : Nat} :
    reserve count bytes = .ok () ↔ count * bytes ≤ allocationLimit := by
  by_cases fits : count * bytes ≤ allocationLimit <;> simp [reserve, fits]

theorem append_eq_ok {count bytes : Nat} :
    append count bytes = .ok () ↔ count * bytes ≤ appendLimit := by
  by_cases fits : count * bytes ≤ appendLimit <;> simp [append, fits]

theorem lt_saturatingAdd_one {size start : Nat} (gap : Nat) (size_le : size ≤ start)
    (small : size + 1 < limit) : size < saturatingAdd (saturatingAdd start gap) 1 := by
  simp only [saturatingAdd, limit] at *
  omega

theorem divUp_eq_ok {count length quotient : Nat} :
    divUp count length = .ok quotient ↔
      0 < length ∧ count + length < limit ∧ (count + length - 1) / length = quotient := by
  simp only [divUp, bind_eq_ok, add_eq_ok, sub_eq_ok]
  constructor
  · rintro ⟨sum, ⟨fits, rfl⟩, total, ⟨_, rfl⟩, quotient_eq⟩
    by_cases empty : length = 0
    · simp [empty] at quotient_eq
    · exact ⟨Nat.pos_of_ne_zero empty, fits, by simpa [empty] using quotient_eq⟩
  · rintro ⟨length_pos, fits, rfl⟩
    exact ⟨count + length, ⟨fits, rfl⟩, count + length - 1, ⟨by omega, rfl⟩,
      by simp [Nat.ne_of_gt length_pos]⟩

theorem lengthOfBlock_eq_ok {length index blockLength cells : Nat} :
    lengthOfBlock length index blockLength = .ok cells ↔
      index * blockLength < limit ∧
        min blockLength (length - index * blockLength) = cells := by
  by_cases fits : index * blockLength < limit <;> simp [lengthOfBlock, mul, fits]

end Size

/-! ## Blocks along one axis -/

/-- Number of blocks of `side` cells that cover `extent` cells. -/
def blocksAlong (extent side : Nat) : Nat :=
  (extent + side - 1) / side

/-- The cells of block `index` on an axis; the last block ends with the axis. -/
def blockSpan (extent side index : Nat) : Span :=
  ⟨index * side, min ((index + 1) * side) extent⟩

theorem lt_blocksAlong_iff {extent side index : Nat} (side_pos : 0 < side) :
    index < blocksAlong extent side ↔ index * side < extent := by
  rw [blocksAlong, Nat.lt_iff_add_one_le, Nat.le_div_iff_mul_le side_pos, Nat.add_mul]
  omega

theorem blocksAlong_mul_lt (extent : Nat) {side : Nat} (side_pos : 0 < side) :
    blocksAlong extent side * side < extent + side := by
  have product : blocksAlong extent side * side ≤ extent + side - 1 :=
    Nat.div_mul_le_self _ _
  omega

theorem le_blocksAlong_mul (extent : Nat) {side : Nat} (side_pos : 0 < side) :
    extent ≤ blocksAlong extent side * side := by
  by_contra short
  have further := (lt_blocksAlong_iff side_pos).mpr (Nat.not_le.mp short)
  omega

theorem blocksAlong_pos {extent side : Nat} (extent_pos : 0 < extent) (side_pos : 0 < side) :
    0 < blocksAlong extent side :=
  (lt_blocksAlong_iff side_pos).mpr (by omega)

theorem blocksAlong_eq_one {extent side : Nat} (extent_pos : 0 < extent)
    (extent_le : extent ≤ side) : blocksAlong extent side = 1 := by
  rw [blocksAlong, Nat.div_eq_iff (by omega)]
  omega

theorem blockSpan_zero {extent side : Nat} (extent_le : extent ≤ side) :
    blockSpan extent side 0 = ⟨0, extent⟩ := by
  simp [blockSpan, extent_le]

theorem length_blockSpan {extent side index : Nat} :
    (blockSpan extent side index).length = min side (extent - index * side) := by
  simp only [blockSpan, Span.length, Nat.add_mul]
  omega

theorem Size.lengthOfBlock_eq {extent side index : Nat} (side_pos : 0 < side)
    (inside : index < blocksAlong extent side) (small : extent ≤ limit) :
    lengthOfBlock extent index side = .ok (blockSpan extent side index).length := by
  have start_lt := (lt_blocksAlong_iff side_pos).mp inside
  rw [lengthOfBlock_eq_ok, length_blockSpan]
  exact ⟨start_lt.trans_le small, rfl⟩

theorem length_blockSpan_pos {extent side index : Nat} (side_pos : 0 < side)
    (inside : index < blocksAlong extent side) :
    0 < (blockSpan extent side index).length := by
  rw [lt_blocksAlong_iff side_pos] at inside
  rw [length_blockSpan]
  omega

theorem index_eq_of_mem_blockSpan {extent side index other cell : Nat}
    (lower : index * side ≤ cell) (upper : cell < (blockSpan extent side index).stop)
    (lower' : other * side ≤ cell) (upper' : cell < (blockSpan extent side other).stop) :
    index = other := by
  have below : cell < (index + 1) * side := lt_of_lt_of_le upper (Nat.min_le_left _ _)
  have below' : cell < (other + 1) * side := lt_of_lt_of_le upper' (Nat.min_le_left _ _)
  have quotient : cell / side = index := Nat.div_eq_of_lt_le lower below
  have quotient' : cell / side = other := Nat.div_eq_of_lt_le lower' below'
  exact quotient.symm.trans quotient'

/-! ## Blocks of a grid -/

namespace BlockGrid

/-- The rows of a block. -/
def rowSpan (grid : BlockGrid) (block : BlockIndex) : Span :=
  blockSpan grid.rows grid.blockHeight block.row

/-- The columns of a block. -/
def colSpan (grid : BlockGrid) (block : BlockIndex) : Span :=
  blockSpan grid.cols grid.blockWidth block.col

/-- Whether a block exists in a grid of this many blocks. -/
def Has (down across : Nat) (block : BlockIndex) : Prop :=
  block.row < down ∧ block.col < across

/-- A grid whose blocks can be counted along both axes. -/
structure Counts (grid : BlockGrid) (down across : Nat) : Prop where
  blocksDown_eq : grid.blocksDown = .ok down
  blocksAcross_eq : grid.blocksAcross = .ok across

namespace Counts

variable {grid : BlockGrid} {down across : Nat}

theorem unique (counts : grid.Counts down across) {down' across' : Nat}
    (counts' : grid.Counts down' across') : down = down' ∧ across = across' := by
  have down_eq := counts.blocksDown_eq.symm.trans counts'.blocksDown_eq
  have across_eq := counts.blocksAcross_eq.symm.trans counts'.blocksAcross_eq
  exact ⟨Except.ok.inj down_eq, Except.ok.inj across_eq⟩

theorem down_spec (counts : grid.Counts down across) :
    0 < grid.blockHeight ∧ grid.rows + grid.blockHeight < Size.limit ∧
      down = blocksAlong grid.rows grid.blockHeight := by
  obtain ⟨height_pos, fits, quotient⟩ := Size.divUp_eq_ok.mp counts.blocksDown_eq
  exact ⟨height_pos, fits, quotient.symm⟩

theorem across_spec (counts : grid.Counts down across) :
    0 < grid.blockWidth ∧ grid.cols + grid.blockWidth < Size.limit ∧
      across = blocksAlong grid.cols grid.blockWidth := by
  obtain ⟨width_pos, fits, quotient⟩ := Size.divUp_eq_ok.mp counts.blocksAcross_eq
  exact ⟨width_pos, fits, quotient.symm⟩

theorem down_pos (counts : grid.Counts down across) (rows_pos : 0 < grid.rows) : 0 < down := by
  obtain ⟨height_pos, -, rfl⟩ := counts.down_spec
  exact blocksAlong_pos rows_pos height_pos

theorem across_pos (counts : grid.Counts down across) (cols_pos : 0 < grid.cols) : 0 < across := by
  obtain ⟨width_pos, -, rfl⟩ := counts.across_spec
  exact blocksAlong_pos cols_pos width_pos

theorem admittedBlocks_eq_ok (counts : grid.Counts down across) {blocks : Nat} :
    grid.admittedBlocks = .ok blocks ↔ down * across = blocks ∧ blocks ≤ maxBlocks := by
  have max_lt : maxBlocks < Size.limit := by decide
  rw [admittedBlocks, blockCount, counts.blocksDown_eq, ok_bind, counts.blocksAcross_eq, ok_bind]
  by_cases fits : down * across < Size.limit
  · rw [Size.mul_eq_ok.mpr ⟨fits, rfl⟩, lift_ok, ok_bind]
    split
    next many =>
      simp only [refuseShape_ne_ok, false_iff]
      omega
    next few =>
      rw [pure_eq_ok, Except.ok.injEq]
      omega
  · rw [Size.mul_eq_error.mpr ⟨Nat.not_lt.mp fits, rfl⟩, lift_error, error_bind]
    simp only [reduceCtorEq, false_iff]
    omega

variable {block : BlockIndex}

theorem row_start_lt (counts : grid.Counts down across) (has : Has down across block) :
    block.row * grid.blockHeight < grid.rows := by
  obtain ⟨height_pos, -, rfl⟩ := counts.down_spec
  exact (lt_blocksAlong_iff height_pos).mp has.1

theorem col_start_lt (counts : grid.Counts down across) (has : Has down across block) :
    block.col * grid.blockWidth < grid.cols := by
  obtain ⟨width_pos, -, rfl⟩ := counts.across_spec
  exact (lt_blocksAlong_iff width_pos).mp has.2

theorem heightAt_eq (counts : grid.Counts down across) (has : Has down across block) :
    grid.heightAt block.row = .ok (grid.rowSpan block).length := by
  obtain ⟨height_pos, fits, rfl⟩ := counts.down_spec
  exact Size.lengthOfBlock_eq height_pos has.1 (by omega)

theorem widthAt_eq (counts : grid.Counts down across) (has : Has down across block) :
    grid.widthAt block.col = .ok (grid.colSpan block).length := by
  obtain ⟨width_pos, fits, rfl⟩ := counts.across_spec
  exact Size.lengthOfBlock_eq width_pos has.2 (by omega)

theorem height_pos (counts : grid.Counts down across) (has : Has down across block) :
    0 < (grid.rowSpan block).length := by
  obtain ⟨height_pos, -, rfl⟩ := counts.down_spec
  exact length_blockSpan_pos height_pos has.1

theorem width_pos (counts : grid.Counts down across) (has : Has down across block) :
    0 < (grid.colSpan block).length := by
  obtain ⟨width_pos, -, rfl⟩ := counts.across_spec
  exact length_blockSpan_pos width_pos has.2

end Counts

theorem counts_of_admittedBlocks {grid : BlockGrid} {blocks : Nat}
    (admitted : grid.admittedBlocks = .ok blocks) : ∃ down across, grid.Counts down across := by
  obtain ⟨count, count_eq, -⟩ := bind_eq_ok.mp admitted
  obtain ⟨down, down_eq, count_eq⟩ := bind_eq_ok.mp (lift_eq_ok.mp count_eq)
  obtain ⟨across, across_eq, -⟩ := bind_eq_ok.mp count_eq
  exact ⟨down, across, down_eq, across_eq⟩

end BlockGrid

/-! ## Blocks tile an axis -/

/-- The cells of a span of blocks along an axis. -/
def cellsOf (side extent : Nat) (blocks : Span) : Span :=
  ⟨blocks.start * side, min (blocks.stop * side) extent⟩

/-- The cells of blocks that tile an axis of blocks tile the axis of cells. -/
theorem Span.Tile.cells {extent side start : Nat} (side_pos : 0 < side) {spans : List Span}
    (tile : Tile start spans (blocksAlong extent side)) :
    Tile (min (start * side) extent) (spans.map (cellsOf side extent)) extent := by
  induction spans generalizing start with
  | nil =>
      obtain rfl := tile
      exact Nat.min_eq_right (le_blocksAlong_mul extent side_pos)
  | cons span spans induction =>
      obtain ⟨rfl, forward, tile⟩ := tile
      have start_lt := (lt_blocksAlong_iff side_pos).mp (lt_of_lt_of_le forward tile.le)
      have longer : (span.start + 1) * side ≤ span.stop * side := Nat.mul_le_mul_right _ forward
      rw [Nat.add_mul] at longer
      refine ⟨(Nat.min_eq_left start_lt.le).symm, ?_, induction tile⟩
      simp only [cellsOf]
      omega

theorem Span.tile_singles (start count : Nat) :
    Tile start ((List.range' start count).map fun index => ⟨index, index + 1⟩) (start + count) := by
  induction count generalizing start with
  | zero => exact rfl
  | succ count induction =>
      have rest := induction (start + 1)
      rw [Nat.add_right_comm, Nat.add_assoc] at rest
      rw [List.range'_succ, List.map_cons]
      exact ⟨rfl, Nat.lt_succ_self start, rest⟩

theorem tile_blocks (extent : Nat) {side : Nat} (side_pos : 0 < side) :
    Span.Tile 0 ((List.range (blocksAlong extent side)).map (blockSpan extent side)) extent := by
  have singles := Span.tile_singles 0 (blocksAlong extent side)
  rw [Nat.zero_add, ← List.range_eq_range'] at singles
  have cells := singles.cells side_pos
  rwa [List.map_map, Nat.zero_mul, Nat.zero_min] at cells

theorem Span.total_eq_sum (spans : List Span) : total spans = (spans.map length).sum := by
  induction spans with
  | nil => rfl
  | cons span spans induction => rw [total_cons, induction, List.map_cons, List.sum_cons]

theorem sum_length_blocks (extent : Nat) {side : Nat} (side_pos : 0 < side) :
    ((List.range (blocksAlong extent side)).map fun index =>
      (blockSpan extent side index).length).sum = extent := by
  have total_eq := (tile_blocks extent side_pos).total_eq
  rwa [Span.total_eq_sum, List.map_map, Nat.sub_zero] at total_eq

theorem mem_blockSpan_iff {extent side index cell : Nat} (side_pos : 0 < side)
    (inside : cell < extent) :
    cell ∈ (blockSpan extent side index).indices ↔ cell / side = index := by
  rw [Span.mem_indices, Nat.div_eq_iff side_pos]
  simp only [blockSpan, Nat.add_mul]
  omega

theorem div_lt_blocksAlong {extent side cell : Nat} (side_pos : 0 < side)
    (inside : cell < extent) : cell / side < blocksAlong extent side :=
  (lt_blocksAlong_iff side_pos).mpr ((Nat.div_mul_le_self cell side).trans_lt inside)

end SeededMatrix
