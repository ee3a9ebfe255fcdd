import SeededMatrix.Proofs.Estimates
import SeededMatrix.Proofs.Fill.Patterns
import SeededMatrix.Proofs.Generation.Contents
import SeededMatrix.Proofs.Generation.Crews
import SeededMatrix.Proofs.Generation.Progress

/-!
# Scarce matrices

Where fewer cells are expected than there are blocks, every block with a budget gets one value,
however large its budget is, and no other block gets any. The estimator knows the same regime and
grants no block more than one cell, so as many cells are written as its budgets add up to.
-/

namespace SeededMatrix

/-! ## One write in each block -/

namespace FillRule

variable {rule : FillRule} {down across : Nat} {block : BlockIndex} {seed : UInt64} {budget : Nat}

theorem length_localWrites_of_scarce (scarce : rule.scarce = true) {height width : Nat}
    {writes : Writes} (drawn : rule.localWrites height width seed budget = .ok writes) :
    writes.toList.length = 1 := by
  rw [localWrites_eq, scarce] at drawn
  obtain ⟨size, -, drawn⟩ := bind_eq_ok.mp drawn
  obtain ⟨last, -, drawn⟩ := bind_eq_ok.mp drawn
  obtain rfl := Except.ok.inj drawn
  rfl

/-- A block of a scarce matrix gets one write if its budget allows for any. -/
theorem length_blockWrites_of_scarce (scarce : rule.scarce = true)
    (positive : 0.0 < rule.blueprint.density) (counts : rule.blueprint.grid.Counts down across)
    (has : BlockGrid.Has down across block) {writes : Writes}
    (drawn : rule.blockWrites block seed budget = .ok writes) :
    writes.toList.length = if 0 < budget then 1 else 0 := by
  have dense := not_le_zero_of_pos positive
  rcases blockWrites_cases counts has drawn with
    ⟨nothing, rfl⟩ | ⟨something, own, own_drawn, -, -, lists⟩
  · rw [if_neg (Nat.not_lt.mpr (nothing.resolve_right dense).le)]
    rfl
  · rw [if_pos (Nat.pos_of_ne_zero fun none => something (.inl none)), lists, List.length_map]
    exact length_localWrites_of_scarce scarce own_drawn

end FillRule

namespace Plan

variable {plan : Plan} {blueprint : Blueprint} {source : BudgetSource}

/-- Whether writes are one in each block that has a budget, and none elsewhere. -/
structure OneEach (plan : Plan) (writes : List Write) : Prop where
  single : ∀ block, BlockGrid.Has plan.blocksDown plan.blocksAcross block →
    writes.countP (fun write => plan.blueprint.grid.Holds block write) =
      if 0 < plan.budgetAt block then 1 else 0
  inside : ∀ write ∈ writes, ∃ block, BlockGrid.Has plan.blocksDown plan.blocksAcross block ∧
    0 < plan.budgetAt block ∧ plan.blueprint.grid.Holds block write

/-- A block of a scarce matrix yields one write if it has a budget, and none otherwise. -/
theorem Made.length_numberedWrites_of_scarce (made : plan.Made blueprint source)
    (scarce : blueprint.isScarce = .ok true) (positive : 0.0 < blueprint.density)
    {rule : FillRule} (rule_made : FillRule.ofBlueprint blueprint = .ok rule)
    {visits : WindowSeeds} {block : BlockIndex}
    (visited : ∃ writes, rule.visitWrites plan.blocksAcross plan.budgets visits block
      (block.number plan.blocksAcross) = .ok writes)
    (has : BlockGrid.Has plan.blocksDown plan.blocksAcross block) :
    (rule.numberedWrites plan.blocksAcross plan.budgets visits block).length =
      if 0 < plan.budgetAt block then 1 else 0 := by
  have counts := made.counts_of_rule rule_made
  have rule_scarce : rule.scarce = true :=
    Except.ok.inj ((FillRule.spec_ofBlueprint rule_made).2.2.2.symm.trans scarce)
  rw [← FillRule.blueprint_ofBlueprint rule_made] at positive
  obtain ⟨writes, drawn⟩ := visited
  obtain ⟨seed, -, block_drawn, -⟩ := FillRule.numberedWrites_eq counts has made.blocks_counted
    made.budgets_enough drawn
  rw [FillRule.numberedWrites, drawn, Writes.toList_ofExcept_ok]
  exact FillRule.length_blockWrites_of_scarce rule_scarce positive counts has block_drawn

/-- If every block yields one write for its budget or none without one, so do all blocks together.
-/
theorem Made.oneEach (made : plan.Made blueprint source) {rule : FillRule} {visits : WindowSeeds}
    (rule_made : FillRule.ofBlueprint blueprint = .ok rule)
    (lengths : ∀ block, BlockGrid.Has plan.blocksDown plan.blocksAcross block →
      (rule.numberedWrites plan.blocksAcross plan.budgets visits block).length =
        if 0 < plan.budgetAt block then 1 else 0)
    {writes : List Write} (perm : writes.Perm (plan.window.blocks.flatMap
      (rule.numberedWrites plan.blocksAcross plan.budgets visits))) : plan.OneEach writes := by
  have counts := made.counts_of_rule rule_made
  have blueprint_eq := FillRule.blueprint_ofBlueprint rule_made
  rw [← made.blueprint_eq] at blueprint_eq
  constructor
  · intro block has
    rw [← lengths block has, ← FillRule.countP_holds counts perm has, blueprint_eq]
  · intro write member
    obtain ⟨block, block_mem, member⟩ := List.mem_flatMap.mp (perm.mem_iff.mp member)
    have has := BlockWindow.has_of_mem_all block_mem
    refine ⟨block, has, ?_, ?_⟩
    · by_contra nothing
      have none := lengths block has
      rw [if_neg nothing, List.length_eq_zero_iff] at none
      rw [none] at member
      contradiction
    · rw [← blueprint_eq]
      exact (FillRule.numberedWrites_fills counts has).1 write member

theorem map_budgetAt (size_eq : plan.budgets.size = plan.blocksDown * plan.blocksAcross) :
    plan.window.blocks.map plan.budgetAt = plan.budgets.toList := by
  have numbers := BlockWindow.numbers_all plan.blocksDown plan.blocksAcross
  calc
    _ = (plan.window.blocks.map (BlockIndex.number plan.blocksAcross)).map fun number =>
          plan.budgets.getD number 0 := by
      rw [List.map_map]
      rfl
    _ = (List.range (plan.blocksDown * plan.blocksAcross)).map fun number =>
          plan.budgets.getD number 0 := by
      rw [window, numbers]
    _ = _ := by
      apply List.ext_getElem (by simp [size_eq])
      intro number here there
      have number_lt : number < plan.budgets.size := by simpa using there
      simp [Array.getD_eq_getD_getElem?, number_lt]

/-- Where no budget is larger than one, writes that are one for each budget are as many as the
budgets add up to. -/
theorem length_eq_sum (size_eq : plan.budgets.size = plan.blocksDown * plan.blocksAcross)
    (few : ∀ budget ∈ plan.budgets, budget ≤ 1) {yield : BlockIndex → List Write}
    (lengths : ∀ block, BlockGrid.Has plan.blocksDown plan.blocksAcross block →
      (yield block).length = if 0 < plan.budgetAt block then 1 else 0) :
    (plan.window.blocks.flatMap yield).length = plan.budgets.sum := by
  have entries := map_budgetAt size_eq
  rw [List.length_flatMap, ← Array.sum_toList, ← entries]
  apply congrArg
  apply List.map_congr_left
  intro block member
  have has := BlockWindow.has_of_mem_all member
  have budget_le : plan.budgetAt block ≤ 1 := by
    apply few
    rw [← Array.mem_toList_iff, ← entries]
    exact List.mem_map_of_mem member
  rw [lengths block has]
  split <;> omega

end Plan

/-! ## Every scarce generation -/

namespace Blueprint

variable {blueprint : Blueprint} {source : BudgetSource} {origin : SeedOrigin} {tasks : Nat}
  {session after : Session}

/-- In a scarce matrix, whatever the budgets and however many tasks there are, one cell is written
in each block that has a budget, and no other cell; every run of the crew ends so. The matrix counts
the written values that are not zero. With the budgets of the estimator, none of which is larger
than one, as many cells are written as the budgets add up to. Only what cannot be planned, stored or
counted is not generated. -/
theorem scarce_blocks_get_one_value (draws : blueprint.needsNoDraws = false)
    (scarce : blueprint.isScarce = .ok true) (positive : 0.0 < blueprint.density) :
    (∀ failure, blueprint.generate source origin tasks session = .error failure after →
      Plan.ofBlueprint blueprint source origin = .error failure ∨
        failure = .fault .storageTooLarge ∨
        failure = .fault .overflow ∧ Size.limit ≤ blueprint.grid.rows * blueprint.grid.cols) ∧
    (blueprint.generate source origin tasks session = .ok () after →
      ∃ plan matrix crew storage conversion,
        blueprint.Begins source origin tasks session plan matrix crew ∧
        (∀ outcome, crew.Ends outcome ↔ outcome = .ok storage) ∧
        (matrix.withStorage storage).recount.settleLayout = .ok (after.matrix, conversion) ∧
        source.toTable = .ok plan.budgets ∧
        blueprint.grid.Counts plan.blocksDown plan.blocksAcross ∧
        plan.OneEach crew.pending ∧
        after.matrix.nonZeros = crew.pending.countP Write.nonZero ∧
        after.matrix.storage.nonZeroCount = after.matrix.nonZeros ∧
        ∀ seed estimate, BudgetStream.ofBlueprint blueprint seed = .ok estimate →
          source.toTable = estimate.toTable →
          (∀ budget ∈ plan.budgets, budget ≤ 1) ∧ crew.pending.length = plan.budgets.sum ∧
          ((∀ write ∈ crew.pending, write.nonZero = true) →
            after.matrix.nonZeros = plan.budgets.sum)) := by
  refine ⟨fun failure failed => failure_of_generate draws failed, fun ran => ?_⟩
  obtain ⟨plan, matrix, filled, conversion, planned, allocated, filling, settled⟩ :=
    stages_of_generate draws ran
  have made := Plan.made_ofBlueprint planned
  obtain ⟨visits, visits_eq, inOrder⟩ := filling.fillInOrder_eq made allocated
  rw [made.blueprint_eq] at allocated
  obtain ⟨rule, rule_made, visited, accepts, put⟩ := made.puts_of_fillInOrder allocated inOrder
  obtain ⟨crew, manned, ends, pending_perm⟩ :=
    made.crew_of_filled allocated filling visits_eq inOrder rule_made
  have lengths := fun block has =>
    made.length_numberedWrites_of_scarce scarce positive rule_made (visited block has) has
  have filled_eq := Plan.eq_withStorage inOrder
  have counted : after.matrix.nonZeros = crew.pending.countP Write.nonZero := by
    rw [OutputMatrix.nonZeros_settleLayout settled, pending_perm.countP_eq]
    exact accepts.nonZeroCount_eq put
  obtain ⟨shaped, formed⟩ := made.wellFormed_of_fillInOrder allocated inOrder
  have recounted : after.matrix.storage.nonZeroCount = after.matrix.nonZeros := by
    rw [OutputMatrix.nonZeros_settleLayout settled,
      OutputMatrix.nonZeroCount_settleLayout settled shaped formed]
    rfl
  refine ⟨plan, matrix, crew, filled.storage, conversion, ⟨planned, allocated, manned⟩, ends,
    filled_eq ▸ settled, made.table_eq, made.counts, made.oneEach rule_made lengths pending_perm,
    counted, recounted, fun seed estimate started table_eq => ?_⟩
  -- The estimator counts the same blocks, so its table is the one of the plan.
  obtain ⟨down, across, budgets, counts', budgets_eq, size_eq, few⟩ :=
    BudgetStream.toTable_ofBlueprint started
  obtain ⟨rfl, rfl⟩ := made.counts.unique counts'
  obtain rfl := Except.ok.inj (made.table_eq.symm.trans (table_eq.trans budgets_eq))
  have length_eq : crew.pending.length = plan.budgets.sum := by
    rw [pending_perm.length_eq]
    exact Plan.length_eq_sum size_eq (few scarce) lengths
  refine ⟨few scarce, length_eq, fun nonZero => ?_⟩
  rw [counted, ← length_eq, List.countP_eq_length]
  exact nonZero

/-- For the seed three, the estimator grants the first block of the row a cell, and the second none.
-/
theorem estimate_oneRow :
    ∃ estimate after, BudgetStream.ofBlueprint oneRow 3 = .ok estimate ∧
      estimate.toTable = .ok #[1, 0] ∧
      oneRow.generate (.stream estimate) (.shared 7) 1 ⟨.unallocated 0 0 false, #[]⟩ =
        .ok () after ∧ after.matrix.nonZeros = 1 := by
  have evaluated : (match BudgetStream.ofBlueprint oneRow 3 with
    | .ok estimate =>
        match estimate.toTable, oneRow.generate (.stream estimate) (.shared 7) 1
          ⟨.unallocated 0 0 false, #[]⟩ with
        | .ok budgets, .ok _ after => decide (budgets = #[1, 0] ∧ after.matrix.nonZeros = 1)
        | _, _ => false
    | .error _ => false) = true := by decide +kernel
  split at evaluated
  next estimate started =>
    split at evaluated
    next budgets result after table_eq ran =>
      obtain ⟨rfl, counted⟩ := of_decide_eq_true evaluated
      exact ⟨estimate, after, started, table_eq, ran, counted⟩
    next => contradiction
  next => contradiction

/-- One value is written into the row, as the estimator has it. -/
theorem one_row_gets_one_value :
    ∃ estimate after plan matrix crew, BudgetStream.ofBlueprint oneRow 3 = .ok estimate ∧
      oneRow.generate (.stream estimate) (.shared 7) 1 ⟨.unallocated 0 0 false, #[]⟩ =
        .ok () after ∧
      oneRow.Begins (.stream estimate) (.shared 7) 1 ⟨.unallocated 0 0 false, #[]⟩ plan matrix
        crew ∧
      plan.OneEach crew.pending ∧ crew.pending.length = 1 ∧ after.matrix.nonZeros = 1 := by
  obtain ⟨estimate, after, started, table_eq, ran, counted⟩ := estimate_oneRow
  have scarce : oneRow.isScarce = .ok true := by decide +kernel
  obtain ⟨plan, matrix, crew, -, -, begins, -, -, source_eq, -, oneEach, -, -, estimated⟩ :=
    (scarce_blocks_get_one_value (by decide +kernel) scarce (by decide +kernel)).2 ran
  obtain ⟨-, length_eq, -⟩ := estimated 3 estimate started rfl
  have budgets_eq : plan.budgets = #[1, 0] := Except.ok.inj (source_eq.symm.trans table_eq)
  rw [budgets_eq] at length_eq
  exact ⟨estimate, after, plan, matrix, crew, started, ran, begins, oneEach, length_eq, counted⟩

/-- A row of `2 ^ 62` cells in two blocks, one of which is expected to get a value. -/
def vastRow : Blueprint :=
  { Plan.oneCell with
    grid := ⟨1, 0x4000_0000_0000_0000, 1, 0x2000_0000_0000_0000⟩
    density := 2.168404344971009e-19
    rows_pos := Nat.one_pos
    cols_pos := by decide
    blockHeight_pos := Nat.one_pos
    blockWidth_pos := by decide
    density_nonneg := by decide +kernel
    density_le_one := by decide +kernel }

/-- If the first block is granted `2 ^ 60` cells, its row is to make room for as many before it
stores the first value, and cannot. -/
theorem vast_row_not_filled :
    (vastRow.needsNoDraws = false ∧ vastRow.isScarce = .ok true ∧ 0.0 < vastRow.density) ∧
      ∃ after, vastRow.generate (.table #[0x1000_0000_0000_0000, 0]) (.shared 7) 1
        ⟨.unallocated 0 0 false, #[]⟩ = .error (.fault .storageTooLarge) after := by
  refine ⟨by decide +kernel, ?_⟩
  have evaluated : (match vastRow.generate (.table #[0x1000_0000_0000_0000, 0]) (.shared 7) 1
      ⟨.unallocated 0 0 false, #[]⟩ with
    | .error (.fault fault) _ => decide (fault = .storageTooLarge)
    | _ => false) = true := by decide +kernel
  split at evaluated
  next fault after failed =>
    obtain rfl := of_decide_eq_true evaluated
    exact ⟨after, failed⟩
  next => contradiction

end Blueprint

end SeededMatrix
