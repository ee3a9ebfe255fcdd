import SeededMatrix.Proofs.Generation.Fillings
import SeededMatrix.Proofs.Generation.Progress

/-!
# Blocks that are generated alone

A block can be cut out of a blueprint and generated as a matrix of its own, from the seed and the
budget that it has in the whole. Its cells are those of the block in the whole matrix, as long as
neither of the two has fewer non-zero cells to expect than blocks.
-/

namespace SeededMatrix

open SeededMatrix.Random

/-! ## One rule for two grids -/

namespace FillRule

/-- Whether two rules fill blocks of one shape, seed and budget in the same way: nothing is asked of
their grids. -/
structure FillsAlike (rule other : FillRule) : Prop where
  values_eq : rule.drawValue = other.drawValue
  density_eq : rule.blueprint.density = other.blueprint.density
  scarce_eq : rule.scarce = other.scarce

namespace FillsAlike

variable {rule other : FillRule} (alike : rule.FillsAlike other) (width : Nat)

include alike

theorem geometricWrites_eq {size : Nat} (small : size < Size.limit) (logMiss : Float)
    (landed budget : Nat) (occupancy values : Xoshiro) :
    rule.geometricWrites width size small logMiss landed budget occupancy values =
      other.geometricWrites width size small logMiss landed budget occupancy values := by
  induction budget generalizing landed occupancy values with
  | zero => rw [geometricWrites, geometricWrites]
  | succ budget induction =>
      rw [geometricWrites, geometricWrites]
      simp only [alike.values_eq, induction]

theorem everyCellWrites_eq (remaining cell : Nat) (values : Xoshiro) :
    rule.everyCellWrites width remaining cell values =
      other.everyCellWrites width remaining cell values := by
  induction remaining generalizing cell values with
  | zero => rfl
  | succ remaining induction =>
      rw [everyCellWrites, everyCellWrites]
      simp only [alike.values_eq, induction]

theorem coinWrites_eq (density : Float) (remaining cell budget : Nat)
    (occupancy values : Xoshiro) :
    rule.coinWrites width density remaining cell budget occupancy values =
      other.coinWrites width density remaining cell budget occupancy values := by
  induction remaining generalizing cell budget occupancy values with
  | zero => rfl
  | succ remaining induction =>
      cases budget with
      | zero => rfl
      | succ budget =>
          rw [coinWrites, coinWrites]
          simp only [alike.values_eq, induction]

theorem localWrites_eq (height : Nat) (seed : UInt64) (budget : Nat) :
    rule.localWrites height width seed budget = other.localWrites height width seed budget := by
  rw [FillRule.localWrites_eq, FillRule.localWrites_eq]
  simp only [alike.density_eq, alike.scarce_eq, alike.geometricWrites_eq, alike.everyCellWrites_eq,
    alike.coinWrites_eq, singleWrite, alike.values_eq]

theorem content_eq (height : Nat) (seed : UInt64) (budget row col : Nat) :
    rule.content height width seed budget row col =
      other.content height width seed budget row col := by
  rw [content, content, ownWrites, ownWrites, alike.localWrites_eq, alike.density_eq]

end FillsAlike

end FillRule

/-! ## The cutout of a block -/

theorem Plan.Made.only_block {plan : Plan} {blueprint : Blueprint} {source : BudgetSource}
    (made : plan.Made blueprint source) (counts : blueprint.grid.Counts 1 1) {block : BlockIndex}
    (has : BlockGrid.Has plan.blocksDown plan.blocksAcross block) : block = ⟨0, 0⟩ := by
  obtain ⟨down_eq, across_eq⟩ := made.counts.unique counts
  obtain ⟨row, col⟩ := block
  rw [down_eq, across_eq] at has
  obtain ⟨row_lt, col_lt⟩ := has
  exact congrArg₂ BlockIndex.mk (Nat.lt_one_iff.mp row_lt) (Nat.lt_one_iff.mp col_lt)

namespace Blueprint

variable {blueprint : Blueprint} {down across : Nat} {block : BlockIndex}

/-- The blueprint of a block as a matrix of its own: with the shape of the block, and with blocks of
the same size, which is no smaller. -/
def cutout (blueprint : Blueprint) {down across : Nat} (counts : blueprint.grid.Counts down across)
    {block : BlockIndex} (has : BlockGrid.Has down across block) : Blueprint :=
  { blueprint with
    grid :=
      { blueprint.grid with
        rows := (blueprint.grid.rowSpan block).length
        cols := (blueprint.grid.colSpan block).length }
    rows_pos := counts.height_pos has
    cols_pos := counts.width_pos has }

variable (counts : blueprint.grid.Counts down across) (has : BlockGrid.Has down across block)

theorem needsNoDraws_cutout :
    (blueprint.cutout counts has).needsNoDraws = blueprint.needsNoDraws := rfl

/-- A block that is cut out is the only block of its matrix, and covers it. -/
theorem cutout_spec :
    (blueprint.cutout counts has).grid.Counts 1 1 ∧
      (blueprint.cutout counts has).grid.rowSpan ⟨0, 0⟩ =
        ⟨0, (blueprint.grid.rowSpan block).length⟩ ∧
      (blueprint.cutout counts has).grid.colSpan ⟨0, 0⟩ =
        ⟨0, (blueprint.grid.colSpan block).length⟩ := by
  have height_pos := counts.height_pos has
  have width_pos := counts.width_pos has
  obtain ⟨blockHeight_pos, rows_fit, -⟩ := counts.down_spec
  obtain ⟨blockWidth_pos, cols_fit, -⟩ := counts.across_spec
  have height_eq : (blueprint.grid.rowSpan block).length =
      min blueprint.grid.blockHeight
        (blueprint.grid.rows - block.row * blueprint.grid.blockHeight) :=
    length_blockSpan
  have width_eq : (blueprint.grid.colSpan block).length =
      min blueprint.grid.blockWidth (blueprint.grid.cols - block.col * blueprint.grid.blockWidth) :=
    length_blockSpan
  refine ⟨⟨?_, ?_⟩, ?_, ?_⟩
  · apply Size.divUp_eq_ok.mpr
    exact ⟨blockHeight_pos, by simp only [cutout]; omega,
      blocksAlong_eq_one height_pos (by simp only [cutout]; omega)⟩
  · apply Size.divUp_eq_ok.mpr
    exact ⟨blockWidth_pos, by simp only [cutout]; omega,
      blocksAlong_eq_one width_pos (by simp only [cutout]; omega)⟩
  · exact blockSpan_zero (by simp only [cutout]; omega)
  · exact blockSpan_zero (by simp only [cutout]; omega)

/-- If neither of them is scarce, a block is filled in the whole matrix as it is when it is cut out.
-/
theorem fillsAlike_cutout {rule rule' : FillRule}
    (rule_made : FillRule.ofBlueprint blueprint = .ok rule)
    (rule_made' : FillRule.ofBlueprint (blueprint.cutout counts has) = .ok rule')
    (plenty : blueprint.isScarce = .ok false)
    (plenty' : (blueprint.cutout counts has).isScarce = .ok false) : rule'.FillsAlike rule := by
  obtain ⟨sampled, least_eq, range_eq, scarce_eq⟩ := FillRule.spec_ofBlueprint rule_made
  obtain ⟨sampled', least_eq', range_eq', scarce_eq'⟩ := FillRule.spec_ofBlueprint rule_made'
  have sampler_eq : rule'.sampler = rule.sampler := Except.ok.inj (sampled'.symm.trans sampled)
  refine ⟨?_, ?_, ?_⟩
  · funext values
    rw [FillRule.drawValue, FillRule.drawValue, sampler_eq, least_eq, least_eq', range_eq,
      range_eq']
    rfl
  · rw [FillRule.blueprint_ofBlueprint rule_made, FillRule.blueprint_ofBlueprint rule_made']
    rfl
  · exact (Except.ok.inj (scarce_eq'.symm.trans plenty')).trans
      (Except.ok.inj (scarce_eq.symm.trans plenty)).symm

/-- A block that is filled in the whole matrix is filled when it is cut out. -/
theorem blockWrites_cutout {rule rule' : FillRule}
    (rule_made : FillRule.ofBlueprint blueprint = .ok rule)
    (rule_made' : FillRule.ofBlueprint (blueprint.cutout counts has) = .ok rule')
    (alike : rule'.FillsAlike rule) {seed : UInt64} {budget : Nat}
    (drawn : ∃ writes, rule.blockWrites block seed budget = .ok writes) :
    ∃ writes, rule'.blockWrites ⟨0, 0⟩ seed budget = .ok writes := by
  obtain ⟨counts', rowSpan_eq, colSpan_eq⟩ := cutout_spec counts has
  have blueprint_eq := FillRule.blueprint_ofBlueprint rule_made
  rw [← FillRule.blueprint_ofBlueprint rule_made'] at counts' rowSpan_eq colSpan_eq
  rw [FillRule.blockWrites_ok_iff (blueprint_eq ▸ counts) has, blueprint_eq] at drawn
  rw [FillRule.blockWrites_ok_iff counts' ⟨Nat.one_pos, Nat.one_pos⟩, rowSpan_eq, colSpan_eq,
    alike.density_eq, alike.localWrites_eq, blueprint_eq]
  exact drawn

/-- If its block is filled in the whole matrix, a cutout can be generated, unless its storage is too
large. -/
theorem generate_cutout_ok {rule : FillRule} (draws : blueprint.needsNoDraws = false)
    (rule_made : FillRule.ofBlueprint blueprint = .ok rule)
    (plenty : blueprint.isScarce = .ok false)
    (plenty' : (blueprint.cutout counts has).isScarce = .ok false) {seed : UInt64} {budget : Nat}
    (drawn : ∃ writes, rule.blockWrites block seed budget = .ok writes) {tasks : Nat}
    {session : Session}
    (allocates : ∀ left, (blueprint.cutout counts has).generate (.table #[budget]) (.shared seed)
      tasks session ≠ .error (.fault .storageTooLarge) left) :
    ∃ after, (blueprint.cutout counts has).generate (.table #[budget]) (.shared seed) tasks
      session = .ok () after := by
  obtain ⟨counts', -, -⟩ := cutout_spec counts has
  have table_eq : (BudgetSource.table #[budget]).toTable = .ok #[budget] := rfl
  obtain ⟨plan, planned⟩ :=
    Plan.ofBlueprint_ok counts' (by decide) table_eq (by simp) (.shared seed)
  have made := Plan.made_ofBlueprint planned
  have unfolded : (blueprint.cutout counts has).generate (.table #[budget]) (.shared seed) tasks
      session = plan.execute (.shared seed) tasks session := by
    rw [generate, needsNoDraws_cutout, if_neg (by simp [draws]), planned]
    rfl
  rw [unfolded] at allocates ⊢
  cases ran : plan.execute (.shared seed) tasks session with
  | ok result after => exact ⟨after, rfl⟩
  | error failure left =>
      exfalso
      rcases made.failure_of_execute ran with
        rfl | ⟨⟨generator, shared⟩, -⟩ | ⟨rule', visits, other, rule_made', visits_eq, has', failed⟩
      · exact allocates left ran
      · contradiction
      · obtain ⟨writes, drawn'⟩ := blockWrites_cutout counts has rule_made rule_made'
          (fillsAlike_cutout counts has rule_made rule_made' plenty plenty') drawn
        obtain rfl := Except.ok.inj visits_eq
        obtain rfl := made.only_block counts' has'
        rw [FillRule.visitWrites_eq, WindowSeeds.get, ok_bind,
          FillRule.budgetOf_eq has' made.blocks_counted made.budgets_enough, ok_bind,
          ← Except.ok.inj made.table_eq] at failed
        simp [BlockIndex.number, drawn'] at failed

/-- A cutout that is generated holds the content for its shape, its seed and its budget. -/
theorem content_of_cutout (draws : blueprint.needsNoDraws = false) {seed : UInt64} {budget : Nat}
    {tasks : Nat} {session after : Session}
    (ran : (blueprint.cutout counts has).generate (.table #[budget]) (.shared seed) tasks session =
      .ok () after) :
    ∃ rule, FillRule.ofBlueprint (blueprint.cutout counts has) = .ok rule ∧
      ∀ row col, row < (blueprint.grid.rowSpan block).length →
        col < (blueprint.grid.colSpan block).length →
        ∃ kept, after.matrix.get row col = .ok kept ∧
          SameValue (rule.content (blueprint.grid.rowSpan block).length
            (blueprint.grid.colSpan block).length seed budget row col) kept := by
  obtain ⟨counts', rowSpan_eq, colSpan_eq⟩ := cutout_spec counts has
  obtain ⟨filling, conversion, planned, seeds_eq, settled⟩ := Filling.exists_of_generate
    ((needsNoDraws_cutout counts has).trans draws) ran
  have made := Plan.made_ofBlueprint planned
  have first : filling.Has ⟨0, 0⟩ := by
    obtain ⟨down_eq, across_eq⟩ := made.counts.unique counts'
    rw [Filling.Has, down_eq, across_eq]
    exact ⟨Nat.one_pos, Nat.one_pos⟩
  have budgetAt_eq : filling.plan.budgetAt ⟨0, 0⟩ = budget := by
    rw [Plan.budgetAt, ← Except.ok.inj made.table_eq]
    simp [BlockIndex.number]
  obtain ⟨rule, rule_made, contents⟩ := filling.content_of_settled settled
  obtain ⟨seed', seed_eq, -, content⟩ := contents ⟨0, 0⟩ first
  rw [Filling.seedAt, ← Except.ok.inj seeds_eq] at seed_eq
  obtain rfl := Except.ok.inj seed_eq
  refine ⟨rule, rule_made, fun row col row_lt col_lt => ?_⟩
  simpa only [rowSpan_eq, colSpan_eq, budgetAt_eq, Nat.zero_add, Span.length, Nat.sub_zero] using
    content row col (by simpa only [rowSpan_eq]) (by simpa only [colSpan_eq])

/-- A block can be generated alone. If a matrix is generated, then so is each of its blocks when it
is cut out, from the seed and the budget of the block and with any number of tasks, unless its
storage is too large; and the cells are those of the block in the whole matrix, up to the sign of
zeros. This is so as long as neither of the two matrices is scarce. -/
theorem block_generated_alone {source : BudgetSource} {origin : SeedOrigin} {tasks : Nat}
    {session after : Session} (draws : blueprint.needsNoDraws = false)
    (ran : blueprint.generate source origin tasks session = .ok () after)
    {down across : Nat} (counts : blueprint.grid.Counts down across) {block : BlockIndex}
    (has : BlockGrid.Has down across block)
    {seeds : WindowSeeds} (seeds_eq : origin.windowSeeds down across = .ok seeds) {seed : UInt64}
    (seed_eq : seeds.get (block.number across) block = .ok seed)
    {budgets : Array Nat} (budgets_eq : source.toTable = .ok budgets) {budget : Nat}
    (budget_eq : budgets[block.number across]? = some budget)
    (plenty : blueprint.isScarce = .ok false)
    (plenty' : (blueprint.cutout counts has).isScarce = .ok false)
    {tasks' : Nat} {session' : Session}
    (allocates : ∀ left, (blueprint.cutout counts has).generate (.table #[budget]) (.shared seed)
      tasks' session' ≠ .error (.fault .storageTooLarge) left) :
    ∃ after', (blueprint.cutout counts has).generate (.table #[budget]) (.shared seed) tasks'
        session' = .ok () after' ∧
      ∀ row col, row < (blueprint.grid.rowSpan block).length →
        col < (blueprint.grid.colSpan block).length →
        ∃ value value', after.matrix.get ((blueprint.grid.rowSpan block).start + row)
            ((blueprint.grid.colSpan block).start + col) = .ok value ∧
          after'.matrix.get row col = .ok value' ∧ SameValue value value' := by
  obtain ⟨filling, conversion, planned, windowSeeds_eq, settled⟩ :=
    Filling.exists_of_generate draws ran
  have made := Plan.made_ofBlueprint planned
  obtain ⟨rfl, rfl⟩ := made.counts.unique counts
  obtain rfl := Except.ok.inj (windowSeeds_eq.symm.trans seeds_eq)
  obtain rfl := Except.ok.inj (made.table_eq.symm.trans budgets_eq)
  have budgetAt_eq : filling.plan.budgetAt block = budget := by
    rw [Plan.budgetAt, Array.getD_eq_getD_getElem?, budget_eq, Option.getD_some]
  obtain ⟨rule, rule_made, contents⟩ := filling.content_of_settled settled
  obtain ⟨seed', seed_eq', drawn, content⟩ := contents block has
  obtain rfl := Except.ok.inj (seed_eq.symm.trans seed_eq')
  rw [budgetAt_eq] at drawn content
  obtain ⟨after', ran'⟩ :=
    generate_cutout_ok counts has draws rule_made plenty plenty' drawn allocates
  obtain ⟨rule', rule_made', content'⟩ := content_of_cutout counts has draws ran'
  have alike := fillsAlike_cutout counts has rule_made rule_made' plenty plenty'
  refine ⟨after', ran', fun row col row_lt col_lt => ?_⟩
  obtain ⟨value, value_eq, same⟩ := content row col row_lt col_lt
  obtain ⟨value', value_eq', same'⟩ := content' row col row_lt col_lt
  rw [alike.content_eq] at same'
  exact ⟨value, value', value_eq, value_eq', same.symm.trans same'⟩

/-- Three rows in blocks of two rows, so that the lower block is cut off. -/
def threeRows : Blueprint :=
  { Plan.oneCell with
    grid := ⟨3, 2, 2, 2⟩
    rows_pos := Nat.succ_pos 2
    cols_pos := Nat.two_pos
    blockHeight_pos := Nat.two_pos
    blockWidth_pos := Nat.two_pos }

theorem counts_threeRows : threeRows.grid.Counts 2 1 :=
  ⟨rfl, rfl⟩

theorem has_lowerBlock : BlockGrid.Has 2 1 ⟨1, 0⟩ :=
  ⟨Nat.one_lt_two, Nat.one_pos⟩

theorem generates_threeRows :
    ∃ after, threeRows.generate (.table #[4, 2]) (.shared 7) 2 ⟨.unallocated 0 0 false, #[]⟩ =
      .ok () after :=
  Action.exists_of_succeeds (by decide +kernel)

theorem generates_lowerBlock :
    ∃ after, (threeRows.cutout counts_threeRows has_lowerBlock).generate (.table #[2]) (.shared 7) 1
      ⟨.unallocated 0 0 true, #[]⟩ = .ok () after :=
  Action.exists_of_succeeds (by decide +kernel)

/-- The lower block is generated alone as a single row. -/
theorem lower_block_generated_alone :
    ∃ after after' : Session,
      threeRows.generate (.table #[4, 2]) (.shared 7) 2 ⟨.unallocated 0 0 false, #[]⟩ =
          .ok () after ∧
        (threeRows.cutout counts_threeRows has_lowerBlock).generate (.table #[2]) (.shared 7) 1
            ⟨.unallocated 0 0 true, #[]⟩ = .ok () after' ∧
        ∃ value value', after.matrix.get 2 1 = .ok value ∧ after'.matrix.get 0 1 = .ok value' ∧
          SameValue value value' := by
  obtain ⟨after, ran⟩ := generates_threeRows
  obtain ⟨alone, ranAlone⟩ := generates_lowerBlock
  have budget_eq : (#[4, 2] : Array Nat)[BlockIndex.number 1 ⟨1, 0⟩]? = some 2 := rfl
  have plenty : threeRows.isScarce = .ok false := by decide +kernel
  have plenty' : (threeRows.cutout counts_threeRows has_lowerBlock).isScarce = .ok false := by
    decide +kernel
  have allocates : ∀ left, (threeRows.cutout counts_threeRows has_lowerBlock).generate
      (.table #[2]) (.shared 7) 1 ⟨.unallocated 0 0 true, #[]⟩ ≠
        .error (.fault .storageTooLarge) left := by
    intro left failed
    exact nomatch ranAlone.symm.trans failed
  obtain ⟨after', ran', agrees⟩ := block_generated_alone (by decide +kernel) ran
    counts_threeRows has_lowerBlock rfl rfl rfl budget_eq plenty plenty' allocates
  obtain ⟨value, value', get_eq, get_eq', same⟩ := agrees 0 1 Nat.one_pos Nat.one_lt_two
  exact ⟨after, after', ran, ran', value, value', get_eq, get_eq', same⟩

end Blueprint

end SeededMatrix
