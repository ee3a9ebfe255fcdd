import SeededMatrix.Proofs.Generation.Budgets
import Mathlib.Algebra.BigOperators.Group.List.Basic

/-!
# What a crew puts

The crew of a filling puts the writes of all blocks, though shares may take the blocks in another
order, and every run of it ends with the same storage. What it puts into a block are the writes of
this block.
-/

namespace SeededMatrix

namespace Plan

variable {plan : Plan} {old matrix filled : OutputMatrix} {expected tasks : Nat}
  {blueprint : Blueprint} {source : BudgetSource} {origin : SeedOrigin} {visits : WindowSeeds}
  {crew : Crew}

theorem Made.pending_soloCrew (made : plan.Made blueprint source)
    (allocated : old.allocate blueprint.grid.rows blueprint.grid.cols plan.sparse expected =
      .ok matrix)
    (inOrder : plan.fillInOrder visits matrix = .ok filled)
    (crew_ok : plan.soloCrew visits matrix = .ok crew) {rule : FillRule}
    (rule_made : FillRule.ofBlueprint blueprint = .ok rule) :
    crew.Complete ∧ crew.pending = plan.window.blocks.flatMap
      (rule.numberedWrites plan.blocksAcross plan.budgets visits) := by
  obtain ⟨rule', writes, rule_made', drawn, complete, lists, -⟩ :=
    made.writes_of_fillInOrder allocated inOrder
  obtain rfl := Except.ok.inj (rule_made'.symm.trans rule_made)
  obtain ⟨region, -, crew_ok⟩ := bind_eq_ok.mp crew_ok
  rw [made.blueprint_eq, rule_made, ok_bind, drawn, ok_bind] at crew_ok
  obtain rfl := Except.ok.inj crew_ok
  refine ⟨by simpa [Crew.Complete] using complete, ?_⟩
  rw [← lists]
  simp [Crew.pending]

/-- The crew of a filled matrix puts the writes of all blocks. -/
theorem Made.pending_fillCrew (made : plan.Made blueprint source)
    (allocated : old.allocate blueprint.grid.rows blueprint.grid.cols plan.sparse expected =
      .ok matrix)
    (visits_eq : origin.windowSeeds plan.blocksDown plan.blocksAcross = .ok visits)
    (inOrder : plan.fillInOrder visits matrix = .ok filled)
    (crew_ok : plan.fillCrew origin tasks matrix = .ok crew) {rule : FillRule}
    (rule_made : FillRule.ofBlueprint blueprint = .ok rule) :
    crew.Complete ∧ crew.pending.Perm (plan.window.blocks.flatMap
      (rule.numberedWrites plan.blocksAcross plan.budgets visits)) := by
  obtain rfl := made.blueprint_eq
  obtain ⟨visits', visits_eq', cases⟩ := made.fillCrew_cases allocated crew_ok
  obtain rfl := Except.ok.inj (visits_eq'.symm.trans visits_eq)
  rcases cases with solo | ⟨table, spans, shares, rfl, countable, size_eq, tile, serves, rfl⟩
  · obtain ⟨complete, pending_eq⟩ := made.pending_soloCrew allocated inOrder solo rule_made
    exact ⟨complete, .of_eq pending_eq⟩
  · -- What a block yields from the tables is what it yields when it is visited by its number: both
    -- list the writes of the window of all blocks.
    obtain ⟨rule', writes, rule_made', drawn, -, lists, -⟩ :=
      made.writes_of_fillInOrder allocated inOrder
    obtain rfl := Except.ok.inj (rule_made'.symm.trans rule_made)
    obtain ⟨writes', drawn', -, lists'⟩ := countable.windowWrites_all rule_made size_eq
    obtain rfl := Except.ok.inj (drawn'.symm.trans drawn)
    refine ⟨countable.complete_crew size_eq tile serves, ?_⟩
    rw [countable.pending_crew rule_made size_eq tile serves, ← lists, lists']
    exact (Share.blocks_perm tile).flatMap_right _

/-- Every filling has a crew that puts the writes of all blocks, and all of its runs end with the
filled storage. -/
theorem Made.crew_of_filled (made : plan.Made blueprint source)
    (allocated : old.allocate blueprint.grid.rows blueprint.grid.cols plan.sparse expected =
      .ok matrix)
    (filling : plan.Filled tasks matrix filled origin)
    (visits_eq : origin.windowSeeds plan.blocksDown plan.blocksAcross = .ok visits)
    (inOrder : plan.fillInOrder visits matrix = .ok filled) {rule : FillRule}
    (rule_made : FillRule.ofBlueprint blueprint = .ok rule) :
    ∃ crew, plan.fillCrew origin tasks matrix = .ok crew ∧
      (∀ outcome, crew.Ends outcome ↔ outcome = .ok filled.storage) ∧
      crew.pending.Perm (plan.window.blocks.flatMap
        (rule.numberedWrites plan.blocksAcross plan.budgets visits)) := by
  obtain ⟨crew, crew_ok, ends⟩ := filling.ends
  obtain ⟨complete, pending_perm⟩ :=
    made.pending_fillCrew allocated visits_eq inOrder crew_ok rule_made
  have separate := (made.orderly_fillCrew allocated crew_ok).separate
  have storage_eq := (Crew.ends_iff separate complete).mp ends
  refine ⟨crew, crew_ok, fun outcome => ?_, pending_perm⟩
  rw [Crew.ends_iff separate complete, storage_eq]

end Plan

/-- Of the writes of all blocks, those within a block are its own. -/
theorem FillRule.countP_holds {rule : FillRule} {down across : Nat} {budgets : Array Nat}
    {visits : WindowSeeds} (counts : rule.blueprint.grid.Counts down across) {writes : List Write}
    (perm : writes.Perm ((BlockWindow.blocks ⟨.upTo down, .upTo across⟩).flatMap
      (rule.numberedWrites across budgets visits)))
    {block : BlockIndex} (has : BlockGrid.Has down across block) :
    writes.countP (fun write => rule.blueprint.grid.Holds block write) =
      (rule.numberedWrites across budgets visits block).length := by
  have elsewhere : ∀ other, other ≠ block →
      other ∈ BlockWindow.blocks ⟨.upTo down, .upTo across⟩ →
        (rule.numberedWrites across budgets visits other).countP
          (fun write => rule.blueprint.grid.Holds block write) = 0 := by
    intro other distinct other_mem
    rw [List.countP_eq_zero]
    intro write member holds
    have has' := BlockWindow.has_of_mem_all other_mem
    have holds' := (numberedWrites_fills counts has').1 write member
    exact distinct (holds'.unique (of_decide_eq_true holds))
  have here : (rule.numberedWrites across budgets visits block).countP
      (fun write => rule.blueprint.grid.Holds block write) =
        (rule.numberedWrites across budgets visits block).length := by
    rw [List.countP_eq_length]
    exact fun write member => decide_eq_true ((numberedWrites_fills counts has).1 write member)
  have once := List.count_eq_one_of_mem (BlockWindow.nodup_blocks _) (BlockWindow.mem_all has)
  calc
    _ = ((BlockWindow.blocks ⟨.upTo down, .upTo across⟩).map fun other =>
          (rule.numberedWrites across budgets visits other).countP
            fun write => rule.blueprint.grid.Holds block write).sum := by
      rw [perm.countP_eq, List.countP_flatMap]
      rfl
    _ = _ := List.sum_map_eq_nsmul_single block _ elsewhere
    _ = _ := by rw [once, one_nsmul, here]

end SeededMatrix
