import SeededMatrix.Random.Word
import Mathlib.Logic.Function.Iterate

/-!
# Numbered draws

A stream is a way to draw together with the state where it begins. Its draws are told by number, and
the stream behind some draws is the stream that begins in the state that they leave.
-/

namespace SeededMatrix

section Draws

variable {σ α : Type}

/-- The draw with a number, counted from zero, of a stream that begins in a state. -/
def nthDraw (draw : σ → α × σ) (state : σ) (number : Nat) : α :=
  (draw (Nat.iterate (fun state => (draw state).2) number state)).1

@[simp] theorem nthDraw_zero (draw : σ → α × σ) (state : σ) :
    nthDraw draw state 0 = (draw state).1 := rfl

/-- The state behind some draws of a stream. -/
def stateAfter (draw : σ → α × σ) (count : Nat) (state : σ) : σ :=
  Nat.iterate (fun state => (draw state).2) count state

theorem stateAfter_succ (draw : σ → α × σ) (count : Nat) (state : σ) :
    stateAfter draw (count + 1) state = stateAfter draw count (draw state).2 := rfl

theorem nthDraw_succ (draw : σ → α × σ) (state : σ) (number : Nat) :
    nthDraw draw state (number + 1) = nthDraw draw (draw state).2 number := rfl

/-- The first draws of a stream. -/
def firstDraws (draw : σ → α × σ) (count : Nat) (state : σ) : List α :=
  (List.range count).map (nthDraw draw state)

theorem firstDraws_succ (draw : σ → α × σ) (count : Nat) (state : σ) :
    firstDraws draw (count + 1) state = (draw state).1 :: firstDraws draw count (draw state).2 := by
  rw [firstDraws, List.range_succ_eq_map, List.map_cons, List.map_map]
  rfl

theorem stateAfter_add (draw : σ → α × σ) (count more : Nat) (state : σ) :
    stateAfter draw (count + more) state =
      stateAfter draw more (stateAfter draw count state) := by
  induction count generalizing state with
  | zero => rw [Nat.zero_add]; rfl
  | succ count induction =>
      rw [Nat.add_right_comm, stateAfter_succ, stateAfter_succ, induction]

theorem nthDraw_stateAfter (draw : σ → α × σ) (count number : Nat) (state : σ) :
    nthDraw draw (stateAfter draw count state) number = nthDraw draw state (count + number) := by
  induction count generalizing state with
  | zero => rw [Nat.zero_add]; rfl
  | succ count induction =>
      rw [Nat.add_right_comm, stateAfter_succ, nthDraw_succ, induction]

end Draws

end SeededMatrix
