import SeededMatrix.Proofs.Fill.WindowWrites
import SeededMatrix.Proofs.Output.Relayout

/-!
# Values and budgets

A block that gets a value in every cell takes the first values of its stream, one for each cell,
and its budget does not end it. Such a block keeps its budget exactly if enough of these values are
zero; every other block keeps its budget anyway.
-/

namespace SeededMatrix

open SeededMatrix.Random

namespace FillRule

variable {rule : FillRule}

/-- The next values of a stream. -/
def draws (rule : FillRule) : (count : Nat) → (values : Xoshiro) → List Float
  | 0, _ => []
  | count + 1, values =>
      (rule.drawValue values).1 :: draws rule count (rule.drawValue values).2

theorem values_everyCellWrites (width remaining cell : Nat) (values : Xoshiro) :
    (rule.everyCellWrites width remaining cell values).toList.map Write.value =
      rule.draws remaining values := by
  induction remaining generalizing cell values with
  | zero => rfl
  | succ remaining induction =>
      rw [everyCellWrites, draws]
      exact congrArg _ (induction (cell + 1) _)

/-- Number of cells of a block. -/
def area (rule : FillRule) (block : BlockIndex) : Nat :=
  (rule.blueprint.grid.rowSpan block).length * (rule.blueprint.grid.colSpan block).length

/-- Number of values that are not zero among those for all cells of a block. -/
def nonZeroDraws (rule : FillRule) (block : BlockIndex) (seed : UInt64) : Nat :=
  (rule.draws (rule.area block) (valueStream seed)).countP fun value => value != 0.0

/-- Whether a block gets a value in every cell and is not held back by its budget. -/
def PassesBudget (rule : FillRule) (block : BlockIndex) (budget : Nat) : Prop :=
  ¬(budget = 0 ∨ rule.blueprint.density ≤ 0.0) ∧
    rule.WantsEveryCell (rule.blueprint.grid.rowSpan block).length
      (rule.blueprint.grid.colSpan block).length budget

variable {down across budget : Nat} {block : BlockIndex} {seed : UInt64} {writes : Writes}

/-- A block that is not held back by its budget writes the first values of its stream. -/
theorem nonZeros_of_passesBudget (counts : rule.blueprint.grid.Counts down across)
    (has : BlockGrid.Has down across block)
    (drawn : rule.blockWrites block seed budget = .ok writes)
    (passes : rule.PassesBudget block budget) :
    writes.toList.countP Write.nonZero = rule.nonZeroDraws block seed := by
  obtain ⟨something, plenty, everyCell⟩ := passes
  rcases blockWrites_cases counts has drawn with ⟨nothing, -⟩ | ⟨-, own, own_drawn, -, -, lists⟩
  · exact absurd nothing something
  · rw [localWrites_eq, plenty, everyCell] at own_drawn
    simp only [Bool.false_eq_true, if_false] at own_drawn
    split at own_drawn
    · obtain rfl := Except.ok.inj own_drawn
      rw [nonZeroDraws, ← values_everyCellWrites _ _ 0, lists, List.countP_map, List.countP_map]
      rfl
    · contradiction

theorem length_blockWrites_le (counts : rule.blueprint.grid.Counts down across)
    (has : BlockGrid.Has down across block)
    (drawn : rule.blockWrites block seed budget = .ok writes)
    (held : ¬rule.PassesBudget block budget) : writes.toList.length ≤ budget := by
  rcases blockWrites_cases counts has drawn with ⟨-, rfl⟩ | ⟨something, own, own_drawn, -, -, lists⟩
  · exact Nat.zero_le _
  · have budget_pos : 0 < budget := Nat.pos_of_ne_zero fun none => something (.inl none)
    rw [lists, List.length_map]
    exact rule.length_localWrites_le budget_pos (fun wants => held ⟨something, wants⟩) own_drawn

/-- A block keeps its budget unless it gets a value in every cell and too many of them are not zero.
-/
theorem nonZeros_le_iff (counts : rule.blueprint.grid.Counts down across)
    (has : BlockGrid.Has down across block)
    (drawn : rule.blockWrites block seed budget = .ok writes) :
    writes.toList.countP Write.nonZero ≤ budget ↔
      (rule.PassesBudget block budget → rule.nonZeroDraws block seed ≤ budget) := by
  by_cases passes : rule.PassesBudget block budget
  · rw [nonZeros_of_passesBudget counts has drawn passes]
    exact ⟨fun few _ => few, fun few => few passes⟩
  · have few : writes.toList.countP Write.nonZero ≤ budget :=
      List.countP_le_length.trans (length_blockWrites_le counts has drawn passes)
    exact ⟨fun _ => (absurd · passes), fun _ => few⟩

end FillRule

end SeededMatrix
