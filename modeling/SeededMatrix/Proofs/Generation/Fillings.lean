import SeededMatrix.Proofs.Generation.Contents

/-!
# Fillings of a blueprint

A blueprint can be filled in many ways: with any budgets and any seeds, into dense or sparse
storage, in order, from streams that are handed on from block to block, or by tasks that put their
writes in any interleaving. What a block holds afterwards depends on none of this but its own seed
and budget.
-/

namespace SeededMatrix

namespace Plan

variable {plan : Plan} {matrix filled : OutputMatrix} {visits : WindowSeeds}

/-- Fills all blocks of an allocated matrix in order, from streams that begin anywhere. -/
def fillFrom (plan : Plan) (streams : Streams) (seeds : WindowSeeds) (matrix : OutputMatrix) :
    Except Failure OutputMatrix := do
  let region ← matrix.wholeRegion
  let rule ← FillRule.ofBlueprint plan.blueprint
  let blocksAcross ← rule.blueprint.grid.blocksAcross
  matrix.putAll region
    (rule.fillBlocks blocksAcross plan.budgets seeds plan.window.blocks 0 streams)

/-- Wherever the streams begin, they fill the matrix as filling in order does. -/
theorem fillFrom_eq (streams : Streams) :
    plan.fillFrom streams visits matrix = plan.fillInOrder visits matrix := by
  simp only [fillFrom, fillInOrder, FillRule.fillBlocks_eq, FillRule.windowWrites_eq_writesFrom,
    bind_assoc, pure_bind]

/-- The ways to fill an allocated matrix of a plan: in order; from streams that are handed on; or by
tasks that share the blocks along an axis in any cut, in any interleaving of their puts. -/
inductive FilledBy (plan : Plan) (matrix : OutputMatrix) : WindowSeeds → Storage → Prop
  | inOrder {seeds : WindowSeeds} {filled : OutputMatrix}
      (ran : plan.fillInOrder seeds matrix = .ok filled) :
      FilledBy plan matrix seeds filled.storage
  | handedOn {streams : Streams} {seeds : WindowSeeds} {filled : OutputMatrix}
      (ran : plan.fillFrom streams seeds matrix = .ok filled) :
      FilledBy plan matrix seeds filled.storage
  | shared {seeds : Array UInt64} {axis : Axis} {spans : List Span} {shares : List Share}
      {storage : Storage}
      (seeds_size : seeds.size = plan.blocksDown * plan.blocksAcross)
      (seeds_stored : Size.reserve seeds.size 8 = .ok ())
      (cells_counted : plan.blueprint.grid.rows * plan.blueprint.grid.cols < Size.limit)
      (tile : Span.Tile 0 spans (Share.blocksOn axis plan.blocksDown plan.blocksAcross))
      (served : Share.ofSpans matrix plan.blueprint.grid axis plan.blocksDown plan.blocksAcross
        seeds spans = .ok shares)
      (ends : (plan.crew matrix shares).Ends (.ok storage)) :
      FilledBy plan matrix (.table seeds) storage

theorem cuttable_of_ofSpans {axis : Axis} {seeds : Array UInt64} {spans : List Span}
    {shares : List Share} (shaped : matrix.WellShaped)
    (served : Share.ofSpans matrix plan.blueprint.grid axis plan.blocksDown plan.blocksAcross seeds
      spans = .ok shares) : matrix.sparse = true → axis = .rows := by
  intro isSparse
  cases axis with
  | rows => rfl
  | cols =>
      exfalso
      obtain ⟨cells, -, served⟩ := bind_eq_ok.mp served
      obtain ⟨regions, cut, -⟩ := bind_eq_ok.mp served
      obtain ⟨_, -, cut⟩ := bind_eq_ok.mp cut
      rw [OutputMatrix.WellShaped, isSparse] at shaped
      cases stored : matrix.storage with
      | unallocated =>
          rw [stored] at shaped
          exact shaped.elim
      | dense grid =>
          rw [stored] at shaped
          exact absurd shaped.1 (by decide)
      | sparse rows =>
          rw [stored] at cut
          exact refuseShape_ne_ok cut

/-- However a matrix is filled, filling in order leaves the same storage. -/
theorem FilledBy.fillInOrder_eq {blueprint : Blueprint} {source : BudgetSource}
    {storage : Storage} (filling : plan.FilledBy matrix visits storage)
    (made : plan.Made blueprint source) {old : OutputMatrix} {expected : Nat}
    (allocated : old.allocate blueprint.grid.rows blueprint.grid.cols plan.sparse expected =
      .ok matrix) :
    ∃ filled, plan.fillInOrder visits matrix = .ok filled ∧ filled.storage = storage := by
  cases filling with
  | inOrder ran => exact ⟨_, ran, rfl⟩
  | handedOn ran => exact ⟨_, (fillFrom_eq _).symm.trans ran, rfl⟩
  | @shared seeds axis spans shares storage seeds_size seeds_stored cells_counted tile served
      ends =>
      obtain rfl := made.blueprint_eq
      have suits := suits_allocate allocated
      have countable := made.countable (Size.mul_eq_ok.mpr ⟨cells_counted, rfl⟩)
      have cuttable := cuttable_of_ofSpans suits.shaped served
      have extent_eq : matrix.extent axis = Share.extentOf plan.blueprint.grid axis := by
        cases axis with
        | rows => exact suits.rows_eq
        | cols => exact suits.cols_eq
      obtain ⟨others, served', serves⟩ := Share.ofSpans_ok countable.counts suits.shaped extent_eq
        cuttable seeds_size seeds_stored tile
      obtain rfl := Except.ok.inj (served.symm.trans served')
      have outcome := (countable.ends_iff suits seeds_size cuttable tile serves).mp ends
      cases inOrder : plan.fillInOrder (.table seeds) matrix with
      | error failure =>
          rw [inOrder] at outcome
          contradiction
      | ok filled =>
          rw [inOrder] at outcome
          exact ⟨filled, rfl, (Except.ok.inj outcome).symm⟩

end Plan

/-! ## What a block depends on -/

/-- A filling of a blueprint: with a plan of any budgets and any layout, into a matrix that is
allocated for it, with any seeds and in any of the ways there are. -/
structure Filling (blueprint : Blueprint) where
  plan : Plan
  made : plan.Made blueprint (.table plan.budgets)
  old : OutputMatrix
  matrix : OutputMatrix
  expected : Nat
  allocated : old.allocate blueprint.grid.rows blueprint.grid.cols plan.sparse expected =
    .ok matrix
  seeds : WindowSeeds
  storage : Storage
  filled : plan.FilledBy matrix seeds storage

namespace Filling

variable {blueprint : Blueprint}

/-- Whether a block is one of those that are filled. -/
def Has (filling : Filling blueprint) (block : BlockIndex) : Prop :=
  BlockGrid.Has filling.plan.blocksDown filling.plan.blocksAcross block

/-- The seed that a block is visited with. -/
def seedAt (filling : Filling blueprint) (block : BlockIndex) : Except Failure UInt64 :=
  filling.seeds.get (block.number filling.plan.blocksAcross) block

/-- The value of a cell of a block, by row and column within the block. -/
def cellAt (filling : Filling blueprint) (block : BlockIndex) (row col : Nat) :
    Except Fault Float :=
  filling.storage.get ((blueprint.grid.rowSpan block).start + row)
    ((blueprint.grid.colSpan block).start + col)

/-- Every filled block has a seed, is filled from it without a fault, and holds the content for its
shape, this seed and its budget. -/
theorem cellAt_eq_content (filling : Filling blueprint) :
    ∃ rule, FillRule.ofBlueprint blueprint = .ok rule ∧
      ∀ block, filling.Has block → ∃ seed, filling.seedAt block = .ok seed ∧
        (∃ writes, rule.blockWrites block seed (filling.plan.budgetAt block) = .ok writes) ∧
        ∀ row col, row < (blueprint.grid.rowSpan block).length →
          col < (blueprint.grid.colSpan block).length →
          filling.cellAt block row col =
            .ok (rule.content (blueprint.grid.rowSpan block).length
              (blueprint.grid.colSpan block).length seed (filling.plan.budgetAt block) row
              col) := by
  obtain ⟨filled, inOrder, storage_eq⟩ :=
    filling.filled.fillInOrder_eq filling.made filling.allocated
  simp only [cellAt, ← storage_eq]
  exact filling.made.get_eq_content filling.allocated inOrder

theorem formed (filling : Filling blueprint) :
    filling.storage.HasShape filling.plan.sparse blueprint.grid.rows blueprint.grid.cols ∧
      filling.storage.WellFormed blueprint.grid.rows blueprint.grid.cols := by
  obtain ⟨filled, inOrder, storage_eq⟩ :=
    filling.filled.fillInOrder_eq filling.made filling.allocated
  obtain ⟨rule, -, -, accepts, put⟩ := filling.made.puts_of_fillInOrder filling.allocated inOrder
  rw [← storage_eq]
  exact ⟨accepts.shape.putList put, accepts.wellFormed put⟩

/-- After the layout of a filling is settled, every block still holds its content. -/
theorem content_of_settled (filling : Filling blueprint) {settled : OutputMatrix}
    {conversion : Option Conversion}
    (settles : (filling.matrix.withStorage filling.storage).recount.settleLayout =
      .ok (settled, conversion)) :
    ∃ rule, FillRule.ofBlueprint blueprint = .ok rule ∧
      ∀ block, filling.Has block → ∃ seed, filling.seedAt block = .ok seed ∧
        (∃ writes, rule.blockWrites block seed (filling.plan.budgetAt block) = .ok writes) ∧
        ∀ row col, row < (blueprint.grid.rowSpan block).length →
          col < (blueprint.grid.colSpan block).length →
          ∃ kept, settled.get ((blueprint.grid.rowSpan block).start + row)
              ((blueprint.grid.colSpan block).start + col) = .ok kept ∧
            SameValue (rule.content (blueprint.grid.rowSpan block).length
              (blueprint.grid.colSpan block).length seed (filling.plan.budgetAt block) row col)
              kept := by
  obtain ⟨rule, rule_made, contents⟩ := filling.cellAt_eq_content
  obtain ⟨shape, formed⟩ := filling.formed
  rw [OutputMatrix.allocate_eq filling.allocated] at settles
  refine ⟨rule, rule_made, fun block has => ?_⟩
  obtain ⟨seed, seed_eq, drawn, content⟩ := contents block has
  refine ⟨seed, seed_eq, drawn, fun row col row_lt col_lt => ?_⟩
  obtain ⟨within_rows, within_cols⟩ := (BlockGrid.holds_offset row_lt col_lt 0.0).within
  obtain ⟨value, kept, get_eq, kept_eq, same⟩ :=
    OutputMatrix.get_settleLayout settles shape formed within_rows within_cols
  obtain rfl := Except.ok.inj ((content row col row_lt col_lt).symm.trans get_eq)
  exact ⟨kept, kept_eq, same⟩

/-- Every generation that draws passes through a filling with the budgets of its plan and the seeds
of its origin; then cells are counted and the layout settled. -/
theorem exists_of_generate {source : BudgetSource} {origin : SeedOrigin} {tasks : Nat}
    {session after : Session} (draws : blueprint.needsNoDraws = false)
    (ran : blueprint.generate source origin tasks session = .ok () after) :
    ∃ (filling : Filling blueprint) (conversion : Option Conversion),
      Plan.ofBlueprint blueprint source origin = .ok filling.plan ∧
      origin.windowSeeds filling.plan.blocksDown filling.plan.blocksAcross = .ok filling.seeds ∧
      (filling.matrix.withStorage filling.storage).recount.settleLayout =
        .ok (after.matrix, conversion) := by
  obtain ⟨plan, matrix, filled, conversion, planned, allocated, filling, settled⟩ :=
    Blueprint.stages_of_generate draws ran
  have made := Plan.made_ofBlueprint planned
  obtain ⟨seeds, seeds_eq, inOrder⟩ := filling.fillInOrder_eq made allocated
  rw [made.blueprint_eq] at allocated
  rw [Plan.eq_withStorage inOrder] at settled
  exact ⟨⟨plan, { made with table_eq := rfl }, _, matrix, _, allocated, seeds, filled.storage,
    .inOrder inOrder⟩, conversion, planned, seeds_eq, settled⟩

/-- A block depends on nothing but its shape, its seed and its budget. In two fillings of a
blueprint, two blocks hold the same values if they agree in these, wherever they stand, whatever the
seeds and the budgets of all other blocks are, and however the matrices are laid out and filled. -/
theorem block_depends_on_seed_and_budget (filling filling' : Filling blueprint)
    {block block' : BlockIndex} (has : filling.Has block) (has' : filling'.Has block')
    (heights_eq : (blueprint.grid.rowSpan block).length = (blueprint.grid.rowSpan block').length)
    (widths_eq : (blueprint.grid.colSpan block).length = (blueprint.grid.colSpan block').length)
    (seeds_eq : filling.seedAt block = filling'.seedAt block')
    (budgets_eq : filling.plan.budgetAt block = filling'.plan.budgetAt block') {row col : Nat}
    (row_lt : row < (blueprint.grid.rowSpan block).length)
    (col_lt : col < (blueprint.grid.colSpan block).length) :
    ∃ value, filling.cellAt block row col = .ok value ∧
      filling'.cellAt block' row col = .ok value := by
  obtain ⟨rule, rule_made, contents⟩ := filling.cellAt_eq_content
  obtain ⟨rule', rule_made', contents'⟩ := filling'.cellAt_eq_content
  obtain ⟨seed, seed_eq, -, content⟩ := contents block has
  obtain ⟨seed', seed_eq', -, content'⟩ := contents' block' has'
  obtain rfl := Except.ok.inj (rule_made.symm.trans rule_made')
  obtain rfl := Except.ok.inj (seed_eq.symm.trans (seeds_eq.trans seed_eq'))
  refine ⟨_, content row col row_lt col_lt, ?_⟩
  rw [heights_eq, widths_eq, budgets_eq]
  exact content' row col (heights_eq ▸ row_lt) (widths_eq ▸ col_lt)

/-- The upper block of a dense filling is the lower block of a sparse one, whose streams come from
elsewhere and whose upper block differs. -/
theorem upper_block_is_lower_block :
    ∃ filling filling' : Filling Plan.twoBlocks.blueprint,
      (filling.plan = { Plan.twoBlocks with budgets := #[2, 3] } ∧
        filling.seeds = .table #[5, 6]) ∧
      (filling'.plan = { Plan.twoBlocks with budgets := #[1, 2], sparse := true } ∧
        filling'.seeds = .table #[9, 5]) ∧
      ∃ value, filling.cellAt ⟨0, 0⟩ 1 0 = .ok value ∧ filling'.cellAt ⟨1, 0⟩ 1 0 = .ok value := by
  have made : Plan.Made { Plan.twoBlocks with budgets := #[2, 3] } Plan.twoBlocks.blueprint
      (.table #[2, 3]) := ⟨rfl, ⟨rfl, rfl⟩, by decide, rfl, by decide⟩
  have made' : Plan.Made { Plan.twoBlocks with budgets := #[1, 2], sparse := true }
      Plan.twoBlocks.blueprint (.table #[1, 2]) := ⟨rfl, ⟨rfl, rfl⟩, by decide, rfl, by decide⟩
  have allocated : (OutputMatrix.unallocated 0 0 true).allocate 4 2 false 4 =
      .ok ⟨4, 2, false, 0, OutputMatrix.perRow 4 4, .blank false 4 2⟩ := rfl
  have allocated' : (OutputMatrix.unallocated 0 0 true).allocate 4 2 true 4 =
      .ok ⟨4, 2, true, 0, OutputMatrix.perRow 4 4, .blank true 4 2⟩ := rfl
  have counted : Size.mul 4 2 = .ok 8 := rfl
  have seeds_size : (#[5, 6] : Array UInt64).size = 2 * 1 := rfl
  have seeds_size' : (#[9, 5] : Array UInt64).size = 2 * 1 := rfl
  obtain ⟨filled, inOrder⟩ := (made.countable counted).fillInOrder_ok
    (Plan.suits_allocate allocated) seeds_size nofun
  obtain ⟨filled', inOrder'⟩ := (made'.countable counted).fillInOrder_ok
    (Plan.suits_allocate allocated') seeds_size' (fun _ => by decide)
  have handedOn := (Plan.fillFrom_eq ⟨.ofSeed 3, .ofSeed 4⟩).trans inOrder'
  refine ⟨⟨_, made, _, _, _, allocated, _, _, .inOrder inOrder⟩,
    ⟨_, made', _, _, _, allocated', _, _, .handedOn handedOn⟩, ⟨rfl, rfl⟩, ⟨rfl, rfl⟩, ?_⟩
  apply block_depends_on_seed_and_budget
  · exact ⟨Nat.two_pos, Nat.one_pos⟩
  · exact ⟨Nat.one_lt_two, Nat.one_pos⟩
  · rfl
  · rfl
  · rfl
  · rfl
  · decide
  · decide

end Filling

end SeededMatrix
