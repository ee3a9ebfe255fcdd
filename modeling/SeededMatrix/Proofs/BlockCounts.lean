import SeededMatrix.Budget
import SeededMatrix.Proofs.Sizes
import Mathlib.Algebra.Order.Floor.Div

/-!
# Counting blocks

How many blocks a grid has is a product of two quotients, both rounded up. The count that the guard
against too many blocks looks at is checked arithmetic: the sum in front of each division and the
product must be sizes. Here the guard is compared with the count without bounds.
-/

namespace SeededMatrix

theorem blocksAlong_eq_ceilDiv (extent side : Nat) : blocksAlong extent side = extent ⌈/⌉ side :=
  (Nat.ceilDiv_eq_add_pred_div ..).symm

theorem Size.divUp_eq (count : Nat) {length : Nat} (length_pos : 0 < length) :
    divUp count length =
      if count + length < limit then .ok (count ⌈/⌉ length) else .error .overflow := by
  split
  next fits => exact divUp_eq_ok.mpr ⟨length_pos, fits, blocksAlong_eq_ceilDiv ..⟩
  next large => rw [divUp, add, if_neg large, error_bind]

namespace BlockGrid

/-- The number of blocks that cover a grid, however large it is. -/
def tiles (grid : BlockGrid) : Nat :=
  (grid.rows ⌈/⌉ grid.blockHeight) * (grid.cols ⌈/⌉ grid.blockWidth)

/-- Whether the blocks of a grid can be counted by sizes: no sum in front of a division and no
product leaves the range. -/
structure CountsFit (grid : BlockGrid) : Prop where
  rows_lt : grid.rows + grid.blockHeight < Size.limit
  cols_lt : grid.cols + grid.blockWidth < Size.limit
  tiles_lt : grid.tiles < Size.limit

variable {grid : BlockGrid}

theorem CountsFit.counts (fits : grid.CountsFit) (height_pos : 0 < grid.blockHeight)
    (width_pos : 0 < grid.blockWidth) :
    grid.Counts (grid.rows ⌈/⌉ grid.blockHeight) (grid.cols ⌈/⌉ grid.blockWidth) where
  blocksDown_eq := by rw [blocksDown, Size.divUp_eq _ height_pos, if_pos fits.rows_lt]
  blocksAcross_eq := by rw [blocksAcross, Size.divUp_eq _ width_pos, if_pos fits.cols_lt]

theorem Counts.eq_ceilDiv {down across : Nat} (counts : grid.Counts down across) :
    down = grid.rows ⌈/⌉ grid.blockHeight ∧ across = grid.cols ⌈/⌉ grid.blockWidth := by
  obtain ⟨-, -, rfl⟩ := counts.down_spec
  obtain ⟨-, -, rfl⟩ := counts.across_spec
  exact ⟨blocksAlong_eq_ceilDiv .., blocksAlong_eq_ceilDiv ..⟩

theorem blockCount_of_countsFit (height_pos : 0 < grid.blockHeight)
    (width_pos : 0 < grid.blockWidth) (fits : grid.CountsFit) :
    grid.blockCount = .ok grid.tiles := by
  have counts := fits.counts height_pos width_pos
  rw [blockCount, counts.blocksDown_eq, ok_bind, counts.blocksAcross_eq, ok_bind]
  exact Size.mul_eq_ok.mpr ⟨fits.tiles_lt, rfl⟩

theorem blockCount_of_not_countsFit (height_pos : 0 < grid.blockHeight)
    (width_pos : 0 < grid.blockWidth) (large : ¬grid.CountsFit) :
    grid.blockCount = .error .overflow := by
  rw [blockCount, blocksDown, Size.divUp_eq _ height_pos]
  split
  next rows_lt =>
    rw [ok_bind, blocksAcross, Size.divUp_eq _ width_pos]
    split
    next cols_lt =>
      rw [ok_bind]
      apply Size.mul_eq_error.mpr
      exact ⟨Nat.not_lt.mp fun tiles_lt => large ⟨rows_lt, cols_lt, tiles_lt⟩, rfl⟩
    next => rw [error_bind]
  next => rw [error_bind]

/-- What the guard answers: the count if it is small enough, and nothing but an overflow if the
count is out of reach. -/
theorem admittedBlocks_cases (height_pos : 0 < grid.blockHeight)
    (width_pos : 0 < grid.blockWidth) :
    (grid.CountsFit ∧ grid.tiles ≤ maxBlocks ∧ grid.admittedBlocks = .ok grid.tiles) ∨
      (grid.CountsFit ∧ maxBlocks < grid.tiles ∧ grid.admittedBlocks =
        .error (.refusal (.shape (.tooManyBlocks grid.rows grid.cols grid.tiles)))) ∨
      (¬grid.CountsFit ∧ grid.admittedBlocks = .error (.fault .overflow)) := by
  by_cases fits : grid.CountsFit
  · rw [admittedBlocks, blockCount_of_countsFit height_pos width_pos fits, lift_ok, ok_bind]
    by_cases many : maxBlocks < grid.tiles
    · rw [if_pos many]
      exact .inr (.inl ⟨fits, many, rfl⟩)
    · rw [if_neg many]
      exact .inl ⟨fits, Nat.not_lt.mp many, rfl⟩
  · rw [admittedBlocks, blockCount_of_not_countsFit height_pos width_pos fits]
    exact .inr (.inr ⟨fits, rfl⟩)

end BlockGrid

/-- A stream of budgets starts exactly for a grid whose blocks are admitted; it counts them as they
were admitted, and fails as they are refused. -/
theorem BudgetStream.blocks_ofGrid {grid : BlockGrid} (rows_pos : 0 < grid.rows)
    (cols_pos : 0 < grid.cols) (height_pos : 0 < grid.blockHeight)
    (width_pos : 0 < grid.blockWidth) (density : Float) (seed : UInt64) :
    blocks <$> ofGrid grid density seed = grid.admittedBlocks := by
  have nonempty : (grid.rows = 0 || grid.cols = 0 || grid.blockHeight = 0 ||
      grid.blockWidth = 0) = false := by
    simp [rows_pos.ne', cols_pos.ne', height_pos.ne', width_pos.ne']
  rw [ofGrid, nonempty, if_neg Bool.false_ne_true, BlockGrid.blocksAcross,
    Size.divUp_eq _ width_pos]
  split
  next => cases admitted : grid.admittedBlocks <;> rfl
  next large =>
    -- The columns are counted before the rows here: whichever overflows, both do.
    have admitted := BlockGrid.admittedBlocks_cases height_pos width_pos
    rcases admitted with ⟨fits, -⟩ | ⟨fits, -⟩ | ⟨-, overflows⟩
    · exact absurd fits.cols_lt large
    · exact absurd fits.cols_lt large
    · rw [overflows]
      rfl

/-- A stream starts for a grid whose blocks can be counted and are not too many. -/
theorem BudgetStream.exists_ofGrid {grid : BlockGrid} (rows_pos : 0 < grid.rows)
    (cols_pos : 0 < grid.cols) (height_pos : 0 < grid.blockHeight)
    (width_pos : 0 < grid.blockWidth) (fits : grid.CountsFit)
    (few : grid.tiles ≤ BlockGrid.maxBlocks) (density : Float) (seed : UInt64) :
    ∃ stream, ofGrid grid density seed = .ok stream := by
  have counted := blocks_ofGrid rows_pos cols_pos height_pos width_pos density seed
  have admitted := ((fits.counts height_pos width_pos).admittedBlocks_eq_ok).mpr ⟨rfl, few⟩
  rw [admitted] at counted
  cases started : ofGrid grid density seed with
  | ok stream => exact ⟨stream, rfl⟩
  | error failure => rw [started] at counted; cases counted

theorem BudgetStream.ofGrid_overflows {grid : BlockGrid} (rows_pos : 0 < grid.rows)
    (cols_pos : 0 < grid.cols) (height_pos : 0 < grid.blockHeight)
    (width_pos : 0 < grid.blockWidth) (large : ¬grid.CountsFit) (density : Float) (seed : UInt64) :
    ofGrid grid density seed = .error (.fault .overflow) := by
  have counted := blocks_ofGrid rows_pos cols_pos height_pos width_pos density seed
  rw [BlockGrid.admittedBlocks, BlockGrid.blockCount_of_not_countsFit height_pos width_pos large]
    at counted
  cases started : ofGrid grid density seed with
  | ok stream => rw [started] at counted; cases counted
  | error failure => rw [started] at counted; exact congrArg _ (Except.error.inj counted)

theorem Blueprint.exists_uniform {grid : BlockGrid} (rows_pos : 0 < grid.rows)
    (cols_pos : 0 < grid.cols) (height_pos : 0 < grid.blockHeight)
    (width_pos : 0 < grid.blockWidth) :
    ∃ blueprint, uniform grid 1.0 1.0 2.0 = .ok blueprint ∧ blueprint.grid = grid := by
  have inside : 0.0 ≤ (1.0 : Float) ∧ (1.0 : Float) ≤ 1.0 := by decide +kernel
  have shape : ¬IsBadShape grid.rows grid.cols 1.0 := by
    simp only [IsBadShape, rows_pos.ne', cols_pos.ne', inside]
    decide
  have block : ¬(grid.blockHeight = 0 ∨ grid.blockWidth = 0) := by omega
  rw [uniform, build, dif_neg shape, dif_neg block]
  exact ⟨_, rfl, rfl⟩

/-- The guard against too many blocks is exact for every grid whose blocks can be counted by sizes:
it answers the count or refuses it, and so does the start of a stream of budgets. Both overflow for
a grid whose blocks cannot be counted this way, however few blocks it has. -/
theorem BlockGrid.admission_exact {grid : BlockGrid} (rows_pos : 0 < grid.rows)
    (cols_pos : 0 < grid.cols) (height_pos : 0 < grid.blockHeight)
    (width_pos : 0 < grid.blockWidth) :
    (∀ blocks, grid.admittedBlocks = .ok blocks ↔
      grid.CountsFit ∧ grid.tiles ≤ maxBlocks ∧ blocks = grid.tiles) ∧
    (∀ refusal, grid.admittedBlocks = .error (.refusal refusal) ↔
      grid.CountsFit ∧ maxBlocks < grid.tiles ∧
        refusal = .shape (.tooManyBlocks grid.rows grid.cols grid.tiles)) ∧
    (∀ fault, grid.admittedBlocks = .error (.fault fault) ↔
      ¬grid.CountsFit ∧ fault = .overflow) ∧
    ∀ (density : Float) (seed : UInt64),
      BudgetStream.blocks <$> BudgetStream.ofGrid grid density seed = grid.admittedBlocks := by
  have admitted := admittedBlocks_cases height_pos width_pos
  refine ⟨fun blocks => ?_, fun refusal => ?_, fun fault => ?_,
    BudgetStream.blocks_ofGrid rows_pos cols_pos height_pos width_pos⟩
  all_goals
    rcases admitted with ⟨fits, few, answer⟩ | ⟨fits, many, answer⟩ | ⟨large, answer⟩
  all_goals
    rw [answer]
    grind

/-- A column of ten blocks is counted, a square of `2 ^ 40` blocks is refused. -/
theorem BlockGrid.admission_of_grids :
    (⟨10, 10, 1, 10⟩ : BlockGrid).admittedBlocks = .ok 10 ∧
      (⟨0x10_0000, 0x10_0000, 1, 1⟩ : BlockGrid).admittedBlocks = .error (.refusal
        (.shape (.tooManyBlocks 0x10_0000 0x10_0000 0x100_0000_0000))) := by
  constructor
  · obtain ⟨counted, -⟩ := @admission_exact ⟨10, 10, 1, 10⟩ (Nat.succ_pos 9) (Nat.succ_pos 9)
      Nat.one_pos (Nat.succ_pos 9)
    exact (counted 10).mpr ⟨⟨by decide, by decide, by decide⟩, by decide, rfl⟩
  · obtain ⟨-, refused, -⟩ := @admission_exact ⟨0x10_0000, 0x10_0000, 1, 1⟩
      (Nat.succ_pos 0xf_ffff) (Nat.succ_pos 0xf_ffff) Nat.one_pos Nat.one_pos
    exact (refused _).mpr ⟨⟨by decide, by decide, by decide⟩, by decide, rfl⟩

namespace BlockGrid

/-- A matrix of one block, which is as high as a size can be. -/
def tallBlock : BlockGrid :=
  ⟨10, 10, 0xffff_ffff_ffff_ffff, 10⟩

/-- A matrix of more blocks than a size can count. -/
def unitBlocks : BlockGrid :=
  ⟨0x2_0000_0000, 0x2_0000_0000, 1, 1⟩

/-- Both are shapes that a blueprint may have. The guard neither admits the one block nor refuses
the uncountable blocks: it overflows. -/
theorem admission_overflows :
    (∃ blueprint, Blueprint.uniform tallBlock 1.0 1.0 2.0 = .ok blueprint ∧
      blueprint.grid = tallBlock) ∧
    (∃ blueprint, Blueprint.uniform unitBlocks 1.0 1.0 2.0 = .ok blueprint ∧
      blueprint.grid = unitBlocks) ∧
    tallBlock.tiles = 1 ∧ tallBlock.admittedBlocks = .error (.fault .overflow) ∧
    maxBlocks < unitBlocks.tiles ∧ unitBlocks.admittedBlocks = .error (.fault .overflow) ∧
    ∀ seed, BudgetStream.ofGrid tallBlock 1.0 seed = .error (.fault .overflow) ∧
      BudgetStream.ofGrid unitBlocks 1.0 seed = .error (.fault .overflow) := by
  refine ⟨Blueprint.exists_uniform ?_ ?_ ?_ ?_, Blueprint.exists_uniform ?_ ?_ ?_ ?_, rfl, rfl,
    by decide, rfl, fun seed => ⟨rfl, rfl⟩⟩
  all_goals exact Nat.succ_pos _

end BlockGrid

end SeededMatrix
