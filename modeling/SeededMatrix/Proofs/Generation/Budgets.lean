import SeededMatrix.Proofs.Fill.Counts
import SeededMatrix.Proofs.Generation.WellFormed
import SeededMatrix.Proofs.Output.Counting

/-!
# Budgets of generated blocks

What a block of the finished matrix holds is what the writes of this block stored: other blocks
write other cells, and settling the layout keeps what is not zero. So a block keeps its budget
except where a value is drawn for every cell of it, whatever the budget says.
-/

namespace SeededMatrix

/-! ## The cells of a block -/

namespace BlockGrid

/-- The cells of a block, row after row. -/
def cells (grid : BlockGrid) (block : BlockIndex) : List (Nat × Nat) :=
  (grid.rowSpan block).indices.flatMap fun row =>
    (grid.colSpan block).indices.map fun col => (row, col)

variable {grid : BlockGrid} {block other : BlockIndex}

theorem mem_cells {row col : Nat} (value : Float) :
    (row, col) ∈ grid.cells block ↔ grid.Holds block ⟨row, col, value⟩ := by
  simp only [cells, List.mem_flatMap, List.mem_map, Span.mem_indices, Holds]
  constructor
  · rintro ⟨row, row_mem, col, col_mem, same⟩
    obtain ⟨rfl, rfl⟩ := Prod.mk.inj same
    exact ⟨row_mem, col_mem⟩
  · rintro ⟨row_mem, col_mem⟩
    exact ⟨_, row_mem, _, col_mem, rfl⟩

theorem nodup_cells (grid : BlockGrid) (block : BlockIndex) : (grid.cells block).Nodup := by
  rw [List.Nodup, cells, List.pairwise_flatMap]
  constructor
  · intro row _
    rw [List.pairwise_map]
    exact (List.pairwise_lt_range' 1).imp fun cols_lt same => cols_lt.ne (Prod.mk.inj same).2
  · apply (List.pairwise_lt_range' 1).imp
    intro row row' rows_lt first first_mem second second_mem same
    obtain ⟨_, -, rfl⟩ := List.mem_map.mp first_mem
    obtain ⟨_, -, rfl⟩ := List.mem_map.mp second_mem
    exact rows_lt.ne (Prod.mk.inj same).1

theorem Holds.unique {write : Write} (holds : grid.Holds block write)
    (holds' : grid.Holds other write) : block = other := by
  obtain ⟨⟨row_ge, row_lt⟩, col_ge, col_lt⟩ := holds
  obtain ⟨⟨row_ge', row_lt'⟩, col_ge', col_lt'⟩ := holds'
  have rows_eq := index_eq_of_mem_blockSpan row_ge row_lt row_ge' row_lt'
  have cols_eq := index_eq_of_mem_blockSpan col_ge col_lt col_ge' col_lt'
  cases block
  cases other
  exact congrArg₂ BlockIndex.mk rows_eq cols_eq

end BlockGrid

/-! ## The writes of a block -/

namespace FillRule

variable {rule : FillRule} {down across visit : Nat} {budgets : Array Nat} {seeds : WindowSeeds}
  {blocks : List BlockIndex}

/-- If nothing fails in a window, nothing fails in any of its blocks. -/
theorem visits_of_complete
    (complete : (rule.writesFrom across budgets seeds blocks visit).failure? = none)
    {index : Nat} {block : BlockIndex} (found : blocks[index]? = some block) :
    ∃ writes, rule.visitWrites across budgets seeds block (visit + index) = .ok writes ∧
      writes.failure? = none := by
  induction blocks generalizing visit index with
  | nil => simp at found
  | cons first blocks induction =>
      rw [writesFrom, Writes.failure?_andThen, Option.or_eq_none_iff] at complete
      obtain ⟨here, later⟩ := complete
      cases index with
      | zero =>
          obtain rfl := Option.some.inj found
          cases drawn : rule.visitWrites across budgets seeds first visit with
          | ok writes =>
              rw [drawn] at here
              exact ⟨writes, rfl, here⟩
          | error failure =>
              rw [drawn] at here
              contradiction
      | succ index =>
          have rest := induction later found
          rwa [Nat.add_assoc, Nat.add_comm 1 index] at rest

/-- The writes of a block that is visited by its number. -/
def numberedWrites (rule : FillRule) (across : Nat) (budgets : Array Nat) (seeds : WindowSeeds)
    (block : BlockIndex) : List Write :=
  (Writes.ofExcept (rule.visitWrites across budgets seeds block (block.number across))).toList

/-- The writes of all blocks, if nothing fails. -/
theorem toList_writesFrom_all
    (complete : (rule.writesFrom across budgets seeds
      (BlockWindow.blocks ⟨.upTo down, .upTo across⟩) 0).failure? = none) :
    (rule.writesFrom across budgets seeds
        (BlockWindow.blocks ⟨.upTo down, .upTo across⟩) 0).toList =
      (BlockWindow.blocks ⟨.upTo down, .upTo across⟩).flatMap
        (rule.numberedWrites across budgets seeds) ∧
      ∀ block, BlockGrid.Has down across block →
        ∃ writes, rule.visitWrites across budgets seeds block (block.number across) =
          .ok writes := by
  constructor
  · apply (writesFrom_eq _).2
    intro index block found
    obtain ⟨writes, drawn, complete'⟩ := visits_of_complete complete found
    refine ⟨writes, drawn, complete', ?_⟩
    rw [Nat.zero_add] at drawn
    rw [numberedWrites, BlockWindow.number_eq_visit found, drawn]
    rfl
  · intro block has
    obtain ⟨index, found⟩ := List.getElem?_of_mem (BlockWindow.mem_all has)
    obtain ⟨writes, drawn, -⟩ := visits_of_complete complete found
    rw [Nat.zero_add, ← BlockWindow.number_eq_visit found] at drawn
    exact ⟨writes, drawn⟩

theorem numberedWrites_fills (counts : rule.blueprint.grid.Counts down across)
    {block : BlockIndex} (has : BlockGrid.Has down across block) :
    (∀ write ∈ rule.numberedWrites across budgets seeds block,
      rule.blueprint.grid.Holds block write) ∧
      LeftToRight (rule.numberedWrites across budgets seeds block) :=
  visited_fills counts has budgets seeds (block.number across)

end FillRule

/-! ## The filled matrix -/

/-- Putting succeeds only if nothing fails, neither the drawing of writes nor a put. -/
theorem OutputMatrix.putAll_ok {matrix after : OutputMatrix} {region : Region}
    (aligned : region.Aligned) {writes : Writes}
    (covered : ∀ write ∈ writes.toList, region.Covers write)
    (put : matrix.putAll region writes = .ok after) :
    writes.failure? = none ∧
      matrix.storage.putList region.room writes.toList = .ok after.storage := by
  rw [putAll_eq, Writes.putThrough_eq aligned covered] at put
  cases list_put : matrix.storage.putList region.room writes.toList with
  | error fault =>
      rw [list_put] at put
      contradiction
  | ok storage =>
      rw [list_put, lift_ok, ok_bind, Writes.ending] at put
      cases complete : writes.failure? with
      | none =>
          rw [complete] at put
          obtain rfl := Except.ok.inj put
          exact ⟨rfl, rfl⟩
      | some failure =>
          rw [complete] at put
          contradiction

namespace Plan

variable {plan : Plan} {old matrix filled : OutputMatrix} {expected : Nat}
  {blueprint : Blueprint} {source : BudgetSource} {visits : WindowSeeds}

/-- Filling in order draws and puts the writes of all blocks. -/
theorem Made.writes_of_fillInOrder (made : plan.Made blueprint source)
    (allocated : old.allocate blueprint.grid.rows blueprint.grid.cols plan.sparse expected =
      .ok matrix)
    (inOrder : plan.fillInOrder visits matrix = .ok filled) :
    ∃ rule writes, FillRule.ofBlueprint blueprint = .ok rule ∧
      rule.windowWrites plan.window plan.budgets visits = .ok writes ∧ writes.failure? = none ∧
      writes.toList = plan.window.blocks.flatMap
        (rule.numberedWrites plan.blocksAcross plan.budgets visits) ∧
      (∀ block, BlockGrid.Has plan.blocksDown plan.blocksAcross block →
        ∃ writes, rule.visitWrites plan.blocksAcross plan.budgets visits block
          (block.number plan.blocksAcross) = .ok writes) ∧
      matrix.storage.putList matrix.room writes.toList = .ok filled.storage := by
  have shaped := OutputMatrix.wellShaped_allocate allocated
  rw [fillInOrder, OutputMatrix.wholeRegion_eq shaped, ok_bind,
    made.blueprint_eq] at inOrder
  obtain ⟨rule, rule_made, inOrder⟩ := bind_eq_ok.mp inOrder
  obtain ⟨writes, drawn, inOrder⟩ := bind_eq_ok.mp inOrder
  obtain ⟨-, covered, -⟩ := made.window_spec allocated rule_made drawn
  obtain ⟨complete, put⟩ := OutputMatrix.putAll_ok ⟨rfl, rfl⟩ covered inOrder
  have writes_eq : rule.writesFrom plan.blocksAcross plan.budgets visits plan.window.blocks 0 =
      writes := by
    rw [FillRule.windowWrites_eq_writesFrom, (made.counts_of_rule rule_made).blocksAcross_eq] at drawn
    exact Except.ok.inj drawn
  rw [← writes_eq] at complete
  obtain ⟨lists, visited⟩ := FillRule.toList_writesFrom_all complete
  rw [writes_eq] at complete
  exact ⟨rule, writes, rule_made, drawn, complete, writes_eq ▸ lists, visited, put⟩

/-- A filled matrix arises from the writes of all blocks. -/
theorem Made.puts_of_fillInOrder (made : plan.Made blueprint source)
    (allocated : old.allocate blueprint.grid.rows blueprint.grid.cols plan.sparse expected =
      .ok matrix)
    (inOrder : plan.fillInOrder visits matrix = .ok filled) :
    ∃ rule, FillRule.ofBlueprint blueprint = .ok rule ∧
      (∀ block, BlockGrid.Has plan.blocksDown plan.blocksAcross block →
        ∃ writes, rule.visitWrites plan.blocksAcross plan.budgets visits block
          (block.number plan.blocksAcross) = .ok writes) ∧
      (Storage.blank plan.sparse blueprint.grid.rows blueprint.grid.cols).Accepts plan.sparse
        blueprint.grid.rows blueprint.grid.cols (plan.window.blocks.flatMap
          (rule.numberedWrites plan.blocksAcross plan.budgets visits)) ∧
      (Storage.blank plan.sparse blueprint.grid.rows blueprint.grid.cols).putList matrix.room
        (plan.window.blocks.flatMap
          (rule.numberedWrites plan.blocksAcross plan.budgets visits)) = .ok filled.storage := by
  obtain ⟨rule, writes, rule_made, drawn, -, lists, visited, put⟩ :=
    made.writes_of_fillInOrder allocated inOrder
  obtain ⟨within, -, ordered⟩ := made.window_spec allocated rule_made drawn
  have storage_eq : matrix.storage =
      .blank plan.sparse blueprint.grid.rows blueprint.grid.cols := by
    rw [OutputMatrix.allocate_eq allocated]
  rw [lists] at within ordered put
  rw [storage_eq] at put
  exact ⟨rule, rule_made, visited, ⟨Storage.hasShape_blank _ _ _, Storage.wellFormed_blank _ _ _,
    within, ordered, fun write _ => Storage.leftOf_blank _ _ _ write⟩, put⟩

theorem Made.wellFormed_of_fillInOrder (made : plan.Made blueprint source)
    (allocated : old.allocate blueprint.grid.rows blueprint.grid.cols plan.sparse expected =
      .ok matrix)
    (inOrder : plan.fillInOrder visits matrix = .ok filled) :
    filled.WellShaped ∧ filled.storage.WellFormed filled.rows filled.cols := by
  obtain ⟨rule, -, -, accepts, put⟩ := made.puts_of_fillInOrder allocated inOrder
  rw [eq_withStorage inOrder, OutputMatrix.allocate_eq allocated]
  exact ⟨accepts.shape.putList put, accepts.wellFormed put⟩

end Plan

/-! ## The finished matrix -/

namespace OutputMatrix

/-- Whether a cell of the matrix can be read and is not zero. -/
def nonZeroAt (matrix : OutputMatrix) (row col : Nat) : Bool :=
  match matrix.get row col with
  | .ok value => value != 0.0
  | .error _ => false

/-- Number of cells of a block that are not zero. -/
def nonZerosIn (matrix : OutputMatrix) (grid : BlockGrid) (block : BlockIndex) : Nat :=
  (grid.cells block).countP fun cell => matrix.nonZeroAt cell.1 cell.2

theorem nonZeroAt_settleLayout {matrix settled : OutputMatrix} {conversion : Option Conversion}
    (settles : matrix.settleLayout = .ok (settled, conversion)) (shaped : matrix.WellShaped)
    (formed : matrix.storage.WellFormed matrix.rows matrix.cols) {row col : Nat}
    (row_lt : row < matrix.rows) (col_lt : col < matrix.cols) :
    settled.nonZeroAt row col = matrix.storage.nonZeroAt row col := by
  obtain ⟨rows_eq, cols_eq, kept⟩ := settleLayout_cases settles
  rw [nonZeroAt, get, if_pos ⟨rows_eq ▸ row_lt, cols_eq ▸ col_lt⟩]
  rcases kept with ⟨-, kept⟩ | ⟨-, converted⟩
  · rw [kept]
    rfl
  · exact Storage.nonZeroAt_convert shaped formed converted row_lt col_lt

end OutputMatrix

/-- A cell of a block is not zero in the finished matrix if a write of this block made it so. -/
theorem Plan.Made.nonZeroAt_iff {plan : Plan} {blueprint : Blueprint} {source : BudgetSource}
    (made : plan.Made blueprint source) {old matrix filled settled : OutputMatrix} {expected : Nat}
    {conversion : Option Conversion} {visits : WindowSeeds} {rule : FillRule} {room : Nat}
    (allocated : old.allocate blueprint.grid.rows blueprint.grid.cols plan.sparse expected =
      .ok matrix)
    (inOrder : plan.fillInOrder visits matrix = .ok filled)
    (settles : filled.recount.settleLayout = .ok (settled, conversion))
    (rule_made : FillRule.ofBlueprint blueprint = .ok rule)
    (accepts : (Storage.blank plan.sparse blueprint.grid.rows blueprint.grid.cols).Accepts
      plan.sparse blueprint.grid.rows blueprint.grid.cols (plan.window.blocks.flatMap
        (rule.numberedWrites plan.blocksAcross plan.budgets visits)))
    (put : (Storage.blank plan.sparse blueprint.grid.rows blueprint.grid.cols).putList room
      (plan.window.blocks.flatMap
        (rule.numberedWrites plan.blocksAcross plan.budgets visits)) = .ok filled.storage)
    {block : BlockIndex} (has : BlockGrid.Has plan.blocksDown plan.blocksAcross block)
    {row col : Nat} (member : (row, col) ∈ blueprint.grid.cells block) :
    settled.nonZeroAt row col = true ↔
      ∃ write ∈ rule.numberedWrites plan.blocksAcross plan.budgets visits block,
        (row = write.row ∧ col = write.col) ∧ write.nonZero = true := by
  have counts := made.counts
  rw [← FillRule.blueprint_ofBlueprint rule_made] at counts
  have within := ((BlockGrid.mem_cells 0.0).mp member).within
  have filled_eq : filled.recount = { matrix with
      nonZeros := filled.storage.nonZeroCount, storage := filled.storage } := by
    rw [eq_withStorage inOrder]
    rfl
  rw [filled_eq, OutputMatrix.allocate_eq allocated] at settles
  rw [OutputMatrix.nonZeroAt_settleLayout settles (accepts.shape.putList put)
    (accepts.wellFormed put) within.1 within.2, accepts.nonZeroAt_iff put within.1 within.2]
  constructor
  · rintro ⟨write, written, ⟨rfl, rfl⟩, nonZero⟩
    obtain ⟨other, other_mem, written⟩ := List.mem_flatMap.mp written
    have holds := (FillRule.numberedWrites_fills counts
      (BlockWindow.has_of_mem_all other_mem)).1 write written
    rw [FillRule.blueprint_ofBlueprint rule_made] at holds
    obtain rfl := holds.unique ((BlockGrid.mem_cells write.value).mp member)
    exact ⟨write, written, ⟨rfl, rfl⟩, nonZero⟩
  · rintro ⟨write, written, same, nonZero⟩
    exact ⟨write, List.mem_flatMap.mpr ⟨block, BlockWindow.mem_all has, written⟩, same, nonZero⟩

/-- The budget of a block. -/
def Plan.budgetAt (plan : Plan) (block : BlockIndex) : Nat :=
  plan.budgets.getD (block.number plan.blocksAcross) 0

/-- A block keeps its budget exactly if it is held back by it, or gets a value in every cell and few
enough of these values are not zero. -/
theorem Blueprint.block_within_budget_iff {blueprint : Blueprint} {source : BudgetSource}
    {seeds : SeedOrigin} {tasks : Nat} {session after : Session}
    (draws : blueprint.needsNoDraws = false)
    (ran : blueprint.generate source seeds tasks session = .ok () after) :
    ∃ plan rule visits, Plan.ofBlueprint blueprint source seeds = .ok plan ∧
      source.toTable = .ok plan.budgets ∧ FillRule.ofBlueprint blueprint = .ok rule ∧
      seeds.windowSeeds plan.blocksDown plan.blocksAcross = .ok visits ∧
      ∀ block, BlockGrid.Has plan.blocksDown plan.blocksAcross block →
        ∃ seed, visits.get (block.number plan.blocksAcross) block = .ok seed ∧
          (after.matrix.nonZerosIn blueprint.grid block ≤ plan.budgetAt block ↔
            (rule.PassesBudget block (plan.budgetAt block) →
              rule.nonZeroDraws block seed ≤ plan.budgetAt block)) := by
  obtain ⟨plan, matrix, filled, conversion, planned, allocated, filling, settled⟩ :=
    stages_of_generate draws ran
  have made := Plan.made_ofBlueprint planned
  obtain ⟨visits, visits_eq, inOrder⟩ := filling.fillInOrder_eq made allocated
  rw [made.blueprint_eq] at allocated
  obtain ⟨rule, rule_made, visited, accepts, put⟩ := made.puts_of_fillInOrder allocated inOrder
  refine ⟨plan, rule, visits, planned, made.table_eq, rule_made, visits_eq, fun block has => ?_⟩
  have counts := made.counts
  have blueprint_eq := FillRule.blueprint_ofBlueprint rule_made
  rw [← blueprint_eq] at counts
  obtain ⟨writes, drawn⟩ := visited block has
  obtain ⟨held, ordered⟩ := FillRule.numberedWrites_fills counts has
  rw [blueprint_eq] at held
  have counted := countP_written (blueprint.grid.nodup_cells block)
    (fun write member => (BlockGrid.mem_cells write.value).mpr (held write member)) ordered
    fun row col member =>
      made.nonZeroAt_iff allocated inOrder settled rule_made accepts put has member
  rw [FillRule.numberedWrites, drawn, Writes.toList_ofExcept_ok] at counted
  rw [FillRule.visitWrites_eq] at drawn
  obtain ⟨seed, seed_eq, drawn⟩ := bind_eq_ok.mp drawn
  obtain ⟨budget, budget_eq, drawn⟩ := bind_eq_ok.mp drawn
  have max_lt : BlockGrid.maxBlocks < Size.limit := by decide
  rw [FillRule.budgetOf_eq has (made.blocks_le.trans_lt max_lt) made.budgets_enough] at budget_eq
  obtain rfl := Except.ok.inj budget_eq
  refine ⟨seed, seed_eq, ?_⟩
  rw [OutputMatrix.nonZerosIn, counted]
  exact FillRule.nonZeros_le_iff counts has (lift_eq_ok.mp drawn)

/-- A column of two cells that are both wanted, in one block. -/
def Blueprint.fullBlock : Blueprint :=
  { Plan.oneCell with
    grid := ⟨2, 1, 2, 1⟩
    rows_pos := Nat.two_pos
    cols_pos := Nat.one_pos
    blockHeight_pos := Nat.two_pos
    blockWidth_pos := Nat.one_pos }

/-- A block with a budget of one cell gets two values that are not zero. -/
theorem Blueprint.full_block_passes_budget :
    fullBlock.needsNoDraws = false ∧
      ∃ after : Session, fullBlock.generate (.table #[1]) (.shared 7) 1
          ⟨.unallocated 0 0 false, #[]⟩ = .ok () after ∧
        ¬after.matrix.nonZerosIn fullBlock.grid ⟨0, 0⟩ ≤ 1 := by
  have counted : (match fullBlock.generate (.table #[1]) (.shared 7) 1
      ⟨.unallocated 0 0 false, #[]⟩ with
    | .ok _ after => decide (after.matrix.nonZerosIn fullBlock.grid ⟨0, 0⟩ = 2)
    | .error _ _ => false) = true := by decide +kernel
  refine ⟨by decide +kernel, ?_⟩
  cases ran : fullBlock.generate (.table #[1]) (.shared 7) 1 ⟨.unallocated 0 0 false, #[]⟩ with
  | ok result after =>
      rw [ran] at counted
      exact ⟨after, rfl, by rw [of_decide_eq_true counted]; decide⟩
  | error failure after =>
      rw [ran] at counted
      contradiction

/-- With a budget of two cells, the block keeps it if at most two of its values are not zero. -/
theorem Blueprint.full_block_keeps_budget :
    ∃ (after : Session) (rule : FillRule) (seed : UInt64),
      fullBlock.generate (.table #[2]) (.shared 7) 1 ⟨.unallocated 0 0 false, #[]⟩ =
          .ok () after ∧
        FillRule.ofBlueprint fullBlock = .ok rule ∧
        (after.matrix.nonZerosIn fullBlock.grid ⟨0, 0⟩ ≤ 2 ↔
          (rule.PassesBudget ⟨0, 0⟩ 2 → rule.nonZeroDraws ⟨0, 0⟩ seed ≤ 2)) := by
  have succeeds : (match fullBlock.generate (.table #[2]) (.shared 7) 1
      ⟨.unallocated 0 0 false, #[]⟩ with
    | .ok _ _ => true
    | .error _ _ => false) = true := by decide +kernel
  cases ran : fullBlock.generate (.table #[2]) (.shared 7) 1 ⟨.unallocated 0 0 false, #[]⟩ with
  | ok result after =>
      obtain ⟨plan, rule, visits, planned, table_eq, rule_made, -, within⟩ :=
        block_within_budget_iff (by decide +kernel) ran
      obtain ⟨down_eq, across_eq⟩ := (Plan.made_ofBlueprint planned).counts
      have down_one : plan.blocksDown = 1 := (Except.ok.inj down_eq).symm
      have across_one : plan.blocksAcross = 1 := (Except.ok.inj across_eq).symm
      have budget_two : plan.budgetAt ⟨0, 0⟩ = 2 := by
        rw [Plan.budgetAt, ← Except.ok.inj table_eq, across_one]
        rfl
      obtain ⟨seed, -, budget_iff⟩ :=
        within ⟨0, 0⟩ ⟨down_one ▸ Nat.one_pos, across_one ▸ Nat.one_pos⟩
      rw [budget_two] at budget_iff
      exact ⟨after, rule, seed, rfl, rule_made, budget_iff⟩
  | error failure after =>
      rw [ran] at succeeds
      contradiction

end SeededMatrix
