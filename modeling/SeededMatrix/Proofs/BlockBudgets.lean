import SeededMatrix.Proofs.BlockCounts
import SeededMatrix.Proofs.Estimates
import SeededMatrix.Proofs.Fill.Windows
import SeededMatrix.Proofs.Random.Draws
import SeededMatrix.Proofs.Sizes
import Mathlib.Algebra.BigOperators.Ring.List

/-!
# Blocks and their budgets

The blocks of a grid tile the matrix: each has a cell, every cell lies in exactly one of them, and
together they have as many cells as the matrix. A stream of budgets takes the blocks in the order of
their numbers. Each budget is computed from the height and the width of its own block, and behind
the last one no call gets another.
-/

namespace SeededMatrix

open SeededMatrix.Random

namespace BlockGrid

/-! ## The blocks of a grid -/

/-- The blocks of a grid in the order of their numbers. -/
def blocks (grid : BlockGrid) : List BlockIndex :=
  BlockWindow.blocks ⟨.upTo (grid.rows ⌈/⌉ grid.blockHeight), .upTo (grid.cols ⌈/⌉ grid.blockWidth)⟩

/-- Number of cells of a block. -/
def areaOf (grid : BlockGrid) (block : BlockIndex) : Nat :=
  (grid.rowSpan block).length * (grid.colSpan block).length

/-- Whether a cell of the matrix lies in a block. -/
def ContainsCell (grid : BlockGrid) (block : BlockIndex) (row col : Nat) : Prop :=
  row ∈ (grid.rowSpan block).indices ∧ col ∈ (grid.colSpan block).indices

variable {grid : BlockGrid} {block : BlockIndex}

theorem mem_blocks_iff :
    block ∈ grid.blocks ↔
      Has (grid.rows ⌈/⌉ grid.blockHeight) (grid.cols ⌈/⌉ grid.blockWidth) block :=
  ⟨BlockWindow.has_of_mem_all, BlockWindow.mem_all⟩

theorem map_number_blocks (grid : BlockGrid) :
    grid.blocks.map (BlockIndex.number (grid.cols ⌈/⌉ grid.blockWidth)) = List.range grid.tiles :=
  BlockWindow.numbers_all _ _

@[simp] theorem length_blocks (grid : BlockGrid) : grid.blocks.length = grid.tiles := by
  rw [← List.length_map, map_number_blocks, List.length_range]

theorem getElem?_blocks (member : block ∈ grid.blocks) :
    grid.blocks[block.number (grid.cols ⌈/⌉ grid.blockWidth)]? = some block := by
  obtain ⟨place, found⟩ := List.mem_iff_getElem?.mp member
  rwa [BlockWindow.number_eq_visit found]

theorem getElem?_blocks_of_lt {number : Nat} (number_lt : number < grid.tiles) :
    grid.blocks[number]? = some ⟨number / (grid.cols ⌈/⌉ grid.blockWidth),
      number % (grid.cols ⌈/⌉ grid.blockWidth)⟩ := by
  have found := getElem?_blocks (mem_blocks_iff.mpr (has_of_number number_lt))
  rwa [BlockIndex.number, Nat.div_add_mod'] at found

/-! ## Tiling -/

theorem extents_of_mem_blocks (height_pos : 0 < grid.blockHeight) (width_pos : 0 < grid.blockWidth)
    (rows_le : grid.rows ≤ Size.limit) (cols_le : grid.cols ≤ Size.limit)
    (member : block ∈ grid.blocks) :
    grid.heightAt block.row = .ok (grid.rowSpan block).length ∧
      grid.widthAt block.col = .ok (grid.colSpan block).length ∧
      0 < (grid.rowSpan block).length ∧ 0 < (grid.colSpan block).length := by
  obtain ⟨row_lt, col_lt⟩ := mem_blocks_iff.mp member
  rw [← blocksAlong_eq_ceilDiv] at row_lt col_lt
  exact ⟨Size.lengthOfBlock_eq height_pos row_lt rows_le,
    Size.lengthOfBlock_eq width_pos col_lt cols_le,
    length_blockSpan_pos height_pos row_lt, length_blockSpan_pos width_pos col_lt⟩

theorem containsCell_iff (height_pos : 0 < grid.blockHeight) (width_pos : 0 < grid.blockWidth)
    {row col : Nat} (row_lt : row < grid.rows) (col_lt : col < grid.cols) :
    grid.ContainsCell block row col ↔ block = ⟨row / grid.blockHeight, col / grid.blockWidth⟩ := by
  obtain ⟨rowBlock, colBlock⟩ := block
  rw [ContainsCell, rowSpan, colSpan, mem_blockSpan_iff height_pos row_lt,
    mem_blockSpan_iff width_pos col_lt, BlockIndex.mk.injEq, eq_comm, eq_comm (a := colBlock)]

theorem quotients_mem_blocks (height_pos : 0 < grid.blockHeight) (width_pos : 0 < grid.blockWidth)
    {row col : Nat} (row_lt : row < grid.rows) (col_lt : col < grid.cols) :
    ⟨row / grid.blockHeight, col / grid.blockWidth⟩ ∈ grid.blocks := by
  rw [mem_blocks_iff, ← blocksAlong_eq_ceilDiv, ← blocksAlong_eq_ceilDiv]
  exact ⟨div_lt_blocksAlong height_pos row_lt, div_lt_blocksAlong width_pos col_lt⟩

theorem sum_products (rows cols : List Nat) (height width : Nat → Nat) :
    ((rows.flatMap fun row => cols.map fun col => (⟨row, col⟩ : BlockIndex)).map fun block =>
      height block.row * width block.col).sum = (rows.map height).sum * (cols.map width).sum := by
  induction rows with
  | nil => simp
  | cons row rows induction =>
      have first : (cols.map fun col => height row * width col).sum =
          height row * (cols.map width).sum := List.sum_map_mul_left ..
      rw [List.flatMap_cons, List.map_append, List.sum_append, induction, List.map_cons,
        List.sum_cons, Nat.add_mul, List.map_map, ← first]
      rfl

theorem sum_areas (height_pos : 0 < grid.blockHeight) (width_pos : 0 < grid.blockWidth) :
    (grid.blocks.map grid.areaOf).sum = grid.rows * grid.cols := by
  have rows_eq := sum_length_blocks grid.rows height_pos
  have cols_eq := sum_length_blocks grid.cols width_pos
  rw [blocksAlong_eq_ceilDiv] at rows_eq cols_eq
  have products := sum_products (List.range (grid.rows ⌈/⌉ grid.blockHeight))
    (List.range (grid.cols ⌈/⌉ grid.blockWidth))
    (fun index => (blockSpan grid.rows grid.blockHeight index).length)
    (fun index => (blockSpan grid.cols grid.blockWidth index).length)
  rw [rows_eq, cols_eq, List.range_eq_range', List.range_eq_range'] at products
  exact products

end BlockGrid

/-! ## Budgets in the order of the blocks -/

namespace BudgetStream

/-- The budget that a stream, asked from its beginning on, computes for the block with a number from
the height and the width of the block. -/
def budgetFor (stream : BudgetStream) (number height width : Nat) : Nat :=
  let area := Size.toFloat height * Size.toFloat width
  match stream.rule with
  | .coins probability source =>
      let capacity := Size.toFloat stream.grid.blockHeight * Size.toFloat stream.grid.blockWidth
      if nthDraw drawUnit source number ≤ probability / capacity * area then 1 else 0
  | .share => Size.ofFloat (stream.density * area)

/-- The budget of a block. -/
def budgetAt (stream : BudgetStream) (block : BlockIndex) : Nat :=
  stream.budgetFor (block.number stream.blocksAcross) (stream.grid.rowSpan block).length
    (stream.grid.colSpan block).length

/-- The budgets of all blocks in their order. -/
def budgets (stream : BudgetStream) : List Nat :=
  stream.grid.blocks.map stream.budgetAt

/-- The stream behind the budgets of some blocks. -/
def behind (stream : BudgetStream) (count : Nat) : BudgetStream :=
  { stream with
    position := count
    rule := match stream.rule with
      | .coins probability source => .coins probability (stateAfter drawUnit count source)
      | .share => .share }

/-- The answers to some calls for the next budget, and the stream behind them. Calls may go on when
there is no budget left. -/
def answers : (count : Nat) → BudgetStream → Except Fault (List (Option Nat) × BudgetStream)
  | 0, stream => .ok ([], stream)
  | count + 1, stream => do
      let (answer, later) ← match ← stream.next? with
        | some (budget, later) => pure (some budget, later)
        | none => pure (none, stream)
      let (rest, last) ← answers count later
      return (answer :: rest, last)

variable {stream : BudgetStream} {down across : Nat}

theorem estimate_behind (stream : BudgetStream) (number height width : Nat) :
    (stream.behind number).estimate (Size.toFloat height * Size.toFloat width) =
      (stream.budgetFor number height width, (stream.behind (number + 1)).rule) := by
  obtain ⟨grid, density, blocks, blocksAcross, position, rule⟩ := stream
  cases rule with
  | coins probability source =>
      have onward : stateAfter drawUnit (number + 1) source =
          (drawUnit (stateAfter drawUnit number source)).2 :=
        stateAfter_add drawUnit number 1 source
      dsimp only [estimate, behind, budgetFor]
      rw [onward]
      rfl
  | share => rfl

theorem behind_zero (start : stream.position = 0) : stream.behind 0 = stream := by
  obtain ⟨grid, density, blocks, blocksAcross, position, rule⟩ := stream
  obtain rfl := start
  cases rule <;> rfl

theorem Covers.length_budgets (covers : stream.Covers down across) :
    stream.budgets.length = stream.blocks := by
  obtain ⟨rfl, rfl⟩ := covers.counts.eq_ceilDiv
  rw [budgets, List.length_map, BlockGrid.length_blocks, covers.blocks_eq, BlockGrid.tiles]

theorem Covers.getElem?_budgets (covers : stream.Covers down across) {number : Nat}
    (more : number < stream.blocks) :
    stream.budgets[number]? = some (stream.budgetFor number
      (stream.grid.rowSpan ⟨number / across, number % across⟩).length
      (stream.grid.colSpan ⟨number / across, number % across⟩).length) := by
  obtain ⟨counts, across_eq, blocks_eq⟩ := covers
  obtain ⟨rfl, rfl⟩ := counts.eq_ceilDiv
  rw [blocks_eq] at more
  rw [budgets, List.getElem?_map, BlockGrid.getElem?_blocks_of_lt more, Option.map_some, budgetAt,
    across_eq, BlockIndex.number, Nat.div_add_mod']

theorem Covers.next?_behind (covers : stream.Covers down across) (number : Nat) :
    (stream.behind number).next? =
      .ok (stream.budgets[number]?.map fun budget => (budget, stream.behind (number + 1))) := by
  rcases Nat.lt_or_ge number stream.blocks with more | done
  · have later : (stream.behind number).Covers down across :=
      ⟨covers.counts, covers.across_eq, covers.blocks_eq⟩
    rw [next?_of_blockArea more (later.blockArea_eq more), estimate_behind,
      covers.getElem?_budgets more]
    rfl
  · rw [List.getElem?_eq_none (covers.length_budgets ▸ done), next?, behind, if_pos done]
    rfl

theorem Covers.budgets_behind_last (covers : stream.Covers down across) {first : Nat}
    (done : stream.blocks ≤ first) (count : Nat) :
    (List.range' first count).map (stream.budgets[·]?) = List.replicate count none := by
  refine List.eq_replicate_iff.mpr ⟨by simp, fun answer member => ?_⟩
  obtain ⟨number, inside, rfl⟩ := List.mem_map.mp member
  rw [← covers.length_budgets] at done
  exact List.getElem?_eq_none (done.trans (List.mem_range'_1.mp inside).1)

/-- However often a stream is asked, it answers the budgets in their order, and then nothing. -/
theorem Covers.answers_behind (covers : stream.Covers down across) (count : Nat) {number : Nat}
    (within : number ≤ stream.blocks) :
    (stream.behind number).answers count = .ok
      ((List.range' number count).map (stream.budgets[·]?),
        stream.behind (min (number + count) stream.blocks)) := by
  induction count generalizing number with
  | zero =>
      rw [answers, Nat.add_zero, Nat.min_eq_left within]
      rfl
  | succ count induction =>
      rw [answers, covers.next?_behind, ok_bind, List.range'_succ, List.map_cons]
      rcases Nat.lt_or_ge number stream.blocks with more | done
      · have rest := induction more
        rw [Nat.succ_add_eq_add_succ] at rest
        rw [covers.getElem?_budgets more, Option.map_some]
        simp only [pure_bind, rest]
        rfl
      · -- The stream stays where it is, and what it answers from there on is the same.
        have rest := induction within
        have same := covers.budgets_behind_last (Nat.le_succ_of_le done) count
        rw [covers.budgets_behind_last done, ← same] at rest
        rw [List.getElem?_eq_none (covers.length_budgets ▸ done), Option.map_none]
        simp only [pure_bind, rest]
        rw [Nat.min_eq_right, Nat.min_eq_right]
        · rfl
        all_goals omega

/-- Whether a stream serves the blocks of its grid: it answers the budget of each block at the place
of its number, and nothing once every block had its turn. At every point the stream tells how many
budgets are to come. -/
structure ServesBlocks (stream : BudgetStream) : Prop where
  length_eq : stream.budgets.length = stream.grid.tiles
  budget_of_block : ∀ block ∈ stream.grid.blocks,
    let number := block.number (stream.grid.cols ⌈/⌉ stream.grid.blockWidth)
    stream.budgets[number]? = some (stream.budgetFor number
      (stream.grid.rowSpan block).length (stream.grid.colSpan block).length)
  in_order : ∀ count, ∃ later,
    stream.answers count = .ok ((List.range count).map (stream.budgets[·]?), later) ∧
      later.position ≤ later.blocks ∧ later.remaining = stream.grid.tiles - count

theorem Covers.servesBlocks (covers : stream.Covers down across) (start : stream.position = 0) :
    stream.ServesBlocks := by
  have tiles_eq : stream.blocks = stream.grid.tiles := by
    obtain ⟨rfl, rfl⟩ := covers.counts.eq_ceilDiv
    exact covers.blocks_eq
  refine ⟨covers.length_budgets.trans tiles_eq, fun block member => ?_, fun count => ?_⟩
  · obtain ⟨-, across_eq⟩ := covers.counts.eq_ceilDiv
    intro number
    rw [budgets, List.getElem?_map, BlockGrid.getElem?_blocks member, Option.map_some, budgetAt,
      covers.across_eq, across_eq]
  · have answered := covers.answers_behind count (Nat.zero_le _)
    rw [behind_zero start, Nat.zero_add, ← List.range_eq_range'] at answered
    refine ⟨_, answered, Nat.min_le_right _ _, ?_⟩
    rw [remaining, ← tiles_eq]
    dsimp only [behind]
    omega

end BudgetStream

namespace BlockGrid

/-- The blocks of a grid tile the matrix: each has a cell, every cell lies in the block that its
quotients name and in no other, and the blocks have as many cells as the matrix. -/
structure Tiled (grid : BlockGrid) : Prop where
  extents : ∀ block ∈ grid.blocks,
    grid.heightAt block.row = .ok (grid.rowSpan block).length ∧
      grid.widthAt block.col = .ok (grid.colSpan block).length ∧
      0 < (grid.rowSpan block).length ∧ 0 < (grid.colSpan block).length
  block_of_cell : ∀ row < grid.rows, ∀ col < grid.cols,
    ⟨row / grid.blockHeight, col / grid.blockWidth⟩ ∈ grid.blocks ∧
      ∀ block, grid.ContainsCell block row col ↔
        block = ⟨row / grid.blockHeight, col / grid.blockWidth⟩
  sum_areas : (grid.blocks.map grid.areaOf).sum = grid.rows * grid.cols

variable {grid : BlockGrid}

theorem tiled (height_pos : 0 < grid.blockHeight) (width_pos : 0 < grid.blockWidth)
    (rows_le : grid.rows ≤ Size.limit) (cols_le : grid.cols ≤ Size.limit) : grid.Tiled where
  extents _ member := extents_of_mem_blocks height_pos width_pos rows_le cols_le member
  block_of_cell _ row_lt _ col_lt :=
    ⟨quotients_mem_blocks height_pos width_pos row_lt col_lt,
      fun _ => containsCell_iff height_pos width_pos row_lt col_lt⟩
  sum_areas := sum_areas height_pos width_pos

/-- The blocks of a grid tile the matrix, and a stream gives every block its own budget, if the sums
in front of the two divisions are sizes. A sum of `2 ^ 64` is none: then the blocks are not counted,
however few they are, and no stream starts. -/
theorem blocks_tile_and_get_budgets (rows_pos : 0 < grid.rows) (cols_pos : 0 < grid.cols)
    (height_pos : 0 < grid.blockHeight) (width_pos : 0 < grid.blockWidth)
    (rows_le : grid.rows + grid.blockHeight ≤ Size.limit)
    (cols_le : grid.cols + grid.blockWidth ≤ Size.limit) (few : grid.tiles ≤ maxBlocks) :
    (∀ block, block ∈ grid.blocks ↔
      Has (grid.rows ⌈/⌉ grid.blockHeight) (grid.cols ⌈/⌉ grid.blockWidth) block) ∧
    grid.Tiled ∧
    grid.blocksDown = (if grid.rows + grid.blockHeight < Size.limit
      then .ok (grid.rows ⌈/⌉ grid.blockHeight) else .error .overflow) ∧
    grid.blocksAcross = (if grid.cols + grid.blockWidth < Size.limit
      then .ok (grid.cols ⌈/⌉ grid.blockWidth) else .error .overflow) ∧
    ∀ (density : Float) (seed : UInt64),
      if grid.rows + grid.blockHeight < Size.limit ∧ grid.cols + grid.blockWidth < Size.limit then
        ∃ stream, BudgetStream.ofGrid grid density seed = .ok stream ∧ stream.grid = grid ∧
          stream.density = density ∧ stream.ServesBlocks
      else BudgetStream.ofGrid grid density seed = .error (.fault .overflow) := by
  have max_lt : maxBlocks < Size.limit := by decide
  refine ⟨fun _ => mem_blocks_iff, tiled height_pos width_pos ?_ ?_, Size.divUp_eq _ height_pos,
    Size.divUp_eq _ width_pos, fun density seed => ?_⟩
  · exact (Nat.le_add_right ..).trans rows_le
  · exact (Nat.le_add_right ..).trans cols_le
  split
  next small =>
    have fits : grid.CountsFit := ⟨small.1, small.2, few.trans_lt max_lt⟩
    obtain ⟨stream, started⟩ := BudgetStream.exists_ofGrid rows_pos cols_pos height_pos width_pos
      fits few density seed
    obtain ⟨down, across, covers, rfl, rfl, start, -⟩ := BudgetStream.covers_ofGrid started
    exact ⟨stream, started, rfl, rfl, covers.servesBlocks start⟩
  next large =>
    exact BudgetStream.ofGrid_overflows rows_pos cols_pos height_pos width_pos
      (fun fits => large ⟨fits.rows_lt, fits.cols_lt⟩) density seed

/-- A matrix of seven rows and five columns in blocks of three rows and three columns. -/
def sixBlocks : BlockGrid :=
  ⟨7, 5, 3, 3⟩

/-- The blocks at the edges are smaller, but none is empty, and a stream gives a budget to each. -/
theorem sixBlocks_tile_and_get_budgets :
    sixBlocks.rows + sixBlocks.blockHeight < Size.limit ∧
    sixBlocks.cols + sixBlocks.blockWidth < Size.limit ∧ sixBlocks.tiles = 6 ∧
    sixBlocks.blocks.map sixBlocks.areaOf = [9, 6, 9, 6, 3, 2] ∧ sixBlocks.Tiled ∧
    ∀ (density : Float) (seed : UInt64),
      ∃ stream, BudgetStream.ofGrid sixBlocks density seed = .ok stream ∧
        stream.grid = sixBlocks ∧ stream.ServesBlocks := by
  obtain ⟨-, tiled, -, -, started⟩ := @blocks_tile_and_get_budgets sixBlocks (Nat.succ_pos 6)
    (Nat.succ_pos 4) (Nat.succ_pos 2) (Nat.succ_pos 2) (by decide) (by decide) (by decide)
  have sums_lt : sixBlocks.rows + sixBlocks.blockHeight < Size.limit ∧
      sixBlocks.cols + sixBlocks.blockWidth < Size.limit := by decide
  refine ⟨sums_lt.1, sums_lt.2, by decide, by decide, tiled, fun density seed => ?_⟩
  obtain ⟨stream, stream_eq, grid_eq, -, serves⟩ := (if_pos sums_lt).mp (started density seed)
  exact ⟨stream, stream_eq, grid_eq, serves⟩

/-- A matrix of one block; its rows and the height of the block add up to `2 ^ 64`. -/
def limitBlock : BlockGrid :=
  ⟨10, 10, 0xffff_ffff_ffff_fff6, 10⟩

/-- A blueprint may have this shape, but the one block is not counted and gets no budget. -/
theorem limitBlock_gets_no_budget :
    (∃ blueprint, Blueprint.uniform limitBlock 1.0 1.0 2.0 = .ok blueprint ∧
      blueprint.grid = limitBlock) ∧
    limitBlock.rows + limitBlock.blockHeight = Size.limit ∧
    limitBlock.cols + limitBlock.blockWidth < Size.limit ∧ limitBlock.tiles = 1 ∧
    limitBlock.blocksDown = .error .overflow ∧
    ∀ (density : Float) (seed : UInt64),
      BudgetStream.ofGrid limitBlock density seed = .error (.fault .overflow) := by
  refine ⟨Blueprint.exists_uniform ?_ ?_ ?_ ?_, rfl, by decide, rfl, rfl, fun density seed => rfl⟩
  all_goals exact Nat.succ_pos _

end BlockGrid

end SeededMatrix
