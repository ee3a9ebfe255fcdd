import SeededMatrix.BlockGrid
import SeededMatrix.Session

/-!
# Arithmetic progressions

A column `first, first + increment, …` that ends before it would pass `last`. The terms are summed
up one by one, so that rounding errors add up; `last` is a term only if its number, rounded down,
reaches it.
-/

namespace SeededMatrix.Progression

/-- The increment to use: an increment of one turns around when the end lies below the start. -/
def increment (first last step : Float) : Float :=
  if last < first && step == 1.0 then -1.0 else step

/-- Whether an increment is zero or leads away from the end. -/
def isWrongWay (first last step : Float) : Bool :=
  (last < first && 0.0 < step) || (first < last && step < 0.0) || step == 0.0

/-- Number of terms, as a double. -/
def terms (first last step : Float) : Float :=
  1.0 + ((last - first) / step).floor

/-- Number of terms; a wrong increment, a bound that is not finite and too many terms are refused.
-/
def count (first last step : Float) : Except Refusal Nat :=
  if isWrongWay first last step then .error (.column (.wrongIncrement first last step))
  else if !first.isFinite || !last.isFinite || !step.isFinite then
    .error (.column (.boundsNotFinite first last step))
  else if Size.toFloat BlockGrid.maxBlocks < terms first last step then
    .error (.shape (.tooManyTerms (terms first last step)))
  else .ok (Size.ofFloat (terms first last step))

/-- Writes `remaining` terms down the first column from row `row` on. -/
def writesFrom (step : Float) : (remaining row : Nat) → (term : Float) → Writes
  | 0, _, _ => .done
  | remaining + 1, row, term =>
      .next ⟨row, 0, term⟩ fun _ => writesFrom step remaining (row + 1) (term + step)

/-- Makes the column of a progression in the session; it is always dense. -/
def generate (first last step : Float) : Action Unit := do
  let rows ← count first last step
  Action.allocate rows 1 false rows
  Action.update fun matrix => do
    matrix.putAll (← matrix.wholeRegion) (writesFrom step rows 0 first)
  discard Action.recount

end SeededMatrix.Progression
