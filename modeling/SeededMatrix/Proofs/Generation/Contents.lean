import SeededMatrix.Proofs.Generation.Budgets

/-!
# Contents of filled blocks

What a block of a filled matrix holds can be told without the matrix: it is what the own writes of
the block, drawn for its shape, its seed and its budget, leave in a block of zeros. No other block
has a part in it.
-/

namespace SeededMatrix

/-! ## The content of a block -/

/-- The value that writes leave in a cell, zero if none of them writes it. -/
def valueIn (writes : List Write) (row col : Nat) : Float :=
  match writes.find? fun write => write.row = row && write.col = col with
  | some write => write.value
  | none => 0.0

namespace FillRule

variable (rule : FillRule) (height width : Nat) (seed : UInt64) (budget : Nat)

/-- The writes of a block of this shape, seed and budget, by row and column within the block. -/
def ownWrites : List Write :=
  if budget = 0 ∨ rule.blueprint.density ≤ 0.0 then []
  else
    match rule.localWrites height width seed budget with
    | .ok writes => writes.toList
    | .error _ => []

/-- The value of a cell of a block of this shape, seed and budget. -/
def content (row col : Nat) : Float :=
  valueIn (rule.ownWrites height width seed budget) row col

variable {rule seed budget} {down across : Nat} {block : BlockIndex}

/-- A block yields its own writes, moved to where it begins. -/
theorem toList_blockWrites (counts : rule.blueprint.grid.Counts down across)
    (has : BlockGrid.Has down across block) {writes : Writes}
    (drawn : rule.blockWrites block seed budget = .ok writes) :
    writes.toList =
      (rule.ownWrites (rule.blueprint.grid.rowSpan block).length
        (rule.blueprint.grid.colSpan block).length seed budget).map
          (.moved (rule.blueprint.grid.rowSpan block).start
            (rule.blueprint.grid.colSpan block).start) := by
  rw [ownWrites]
  rcases blockWrites_cases counts has drawn with
    ⟨nothing, rfl⟩ | ⟨something, own, own_drawn, -, -, lists⟩
  · rw [if_pos nothing]
    rfl
  · rw [if_neg something, own_drawn]
    exact lists

/-- A block that is visited by its number yields its own writes for the seed of the visit and for
its budget, moved to where it begins. -/
theorem numberedWrites_eq (counts : rule.blueprint.grid.Counts down across)
    (has : BlockGrid.Has down across block) (counted : down * across < Size.limit)
    {budgets : Array Nat} (budgets_enough : down * across ≤ budgets.size) {visits : WindowSeeds}
    {writes : Writes}
    (drawn : rule.visitWrites across budgets visits block (block.number across) = .ok writes) :
    ∃ seed, visits.get (block.number across) block = .ok seed ∧
      rule.blockWrites block seed (budgets.getD (block.number across) 0) = .ok writes ∧
      rule.numberedWrites across budgets visits block =
        (rule.ownWrites (rule.blueprint.grid.rowSpan block).length
          (rule.blueprint.grid.colSpan block).length seed
          (budgets.getD (block.number across) 0)).map
            (.moved (rule.blueprint.grid.rowSpan block).start
              (rule.blueprint.grid.colSpan block).start) := by
  rw [numberedWrites, drawn, Writes.toList_ofExcept_ok]
  rw [visitWrites_eq] at drawn
  obtain ⟨seed, seed_eq, drawn⟩ := bind_eq_ok.mp drawn
  obtain ⟨budget, budget_eq, drawn⟩ := bind_eq_ok.mp drawn
  rw [budgetOf_eq has counted budgets_enough] at budget_eq
  obtain rfl := Except.ok.inj budget_eq
  rw [lift_eq_ok] at drawn
  exact ⟨seed, seed_eq, drawn, toList_blockWrites counts has drawn⟩

end FillRule

/-- The cells of a block are those behind its first row and its first column. -/
theorem BlockGrid.holds_offset {grid : BlockGrid} {block : BlockIndex} {row col : Nat}
    (row_lt : row < (grid.rowSpan block).length) (col_lt : col < (grid.colSpan block).length)
    (value : Float) :
    grid.Holds block
      ⟨(grid.rowSpan block).start + row, (grid.colSpan block).start + col, value⟩ := by
  simp only [Holds, Span.length] at *
  omega

namespace Plan

variable {plan : Plan} {old matrix filled : OutputMatrix} {expected : Nat}
  {blueprint : Blueprint} {source : BudgetSource} {visits : WindowSeeds}

/-- Every block of a filled matrix has a seed, is filled from it without a fault, and holds the
content for its shape, this seed and its budget. -/
theorem Made.get_eq_content (made : plan.Made blueprint source)
    (allocated : old.allocate blueprint.grid.rows blueprint.grid.cols plan.sparse expected =
      .ok matrix)
    (inOrder : plan.fillInOrder visits matrix = .ok filled) :
    ∃ rule, FillRule.ofBlueprint blueprint = .ok rule ∧
      ∀ block, BlockGrid.Has plan.blocksDown plan.blocksAcross block →
        ∃ seed, visits.get (block.number plan.blocksAcross) block = .ok seed ∧
          (∃ writes, rule.blockWrites block seed (plan.budgetAt block) = .ok writes) ∧
          ∀ row col, row < (blueprint.grid.rowSpan block).length →
            col < (blueprint.grid.colSpan block).length →
            filled.storage.get ((blueprint.grid.rowSpan block).start + row)
                ((blueprint.grid.colSpan block).start + col) =
              .ok (rule.content (blueprint.grid.rowSpan block).length
                (blueprint.grid.colSpan block).length seed (plan.budgetAt block) row col) := by
  obtain ⟨rule, rule_made, visited, accepts, put⟩ := made.puts_of_fillInOrder allocated inOrder
  refine ⟨rule, rule_made, fun block has => ?_⟩
  have counts := made.counts_of_rule rule_made
  have blueprint_eq := FillRule.blueprint_ofBlueprint rule_made
  obtain ⟨writes, drawn⟩ := visited block has
  obtain ⟨seed, seed_eq, block_drawn, own_eq⟩ := FillRule.numberedWrites_eq counts has
    made.blocks_counted made.budgets_enough drawn
  rw [blueprint_eq] at own_eq
  refine ⟨seed, seed_eq, ⟨writes, block_drawn⟩, fun row col row_lt col_lt => ?_⟩
  rw [FillRule.content, valueIn]
  split
  next write found =>
    have here := List.find?_some found
    simp only [Bool.and_eq_true, decide_eq_true_eq] at here
    obtain ⟨rfl, rfl⟩ := here
    have written : write.moved (blueprint.grid.rowSpan block).start
        (blueprint.grid.colSpan block).start ∈
          rule.numberedWrites plan.blocksAcross plan.budgets visits block := by
      rw [own_eq]
      exact List.mem_map_of_mem (List.mem_of_find?_eq_some found)
    exact accepts.get_of_mem put (List.mem_flatMap.mpr ⟨block, BlockWindow.mem_all has, written⟩)
  next missing =>
    have within := (BlockGrid.holds_offset row_lt col_lt 0.0).within
    rw [accepts.get_of_not_mem put, Storage.get_blank within.1 within.2]
    rintro write written ⟨row_eq, col_eq⟩
    obtain ⟨other, other_mem, written⟩ := List.mem_flatMap.mp written
    have holds := (FillRule.numberedWrites_fills counts
      (BlockWindow.has_of_mem_all other_mem)).1 write written
    have holds' := BlockGrid.holds_offset row_lt col_lt write.value
    rw [row_eq, col_eq] at holds'
    rw [blueprint_eq] at holds
    obtain rfl := holds.unique holds'
    rw [own_eq] at written
    obtain ⟨source, source_mem, rfl⟩ := List.mem_map.mp written
    have elsewhere := List.find?_eq_none.mp missing source source_mem
    simp only [Write.moved, Nat.add_left_cancel_iff] at row_eq col_eq
    simp [row_eq, col_eq] at elsewhere

end Plan

end SeededMatrix
