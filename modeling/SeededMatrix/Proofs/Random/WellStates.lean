import SeededMatrix.Random.Well
import Mathlib.Algebra.Ring.Nat
import Mathlib.Logic.Function.Basic

/-!
# States of WELL1024a

A step replaces two words of the state and reads three more, which lie apart from them. It is linear
over the field of two elements, and `undo` computes the state before it: the three words are still
there, and a shift that was added to a word can be taken back. So no two states have the same
successor, and the state without a set bit, which follows itself, follows no other.
-/

namespace SeededMatrix.Random

/-! ## Shifts that are added to a word -/

/-- The word that becomes this one when its shift to the left by 11 bits is added to it. -/
def takeBackShift (word : UInt32) : UInt32 :=
  word ^^^ (word <<< 11) ^^^ (word <<< 22)

theorem shift_twice (word : UInt32) : word <<< 11 <<< 11 = word <<< 22 :=
  (UInt32.shiftLeft_add (by decide) (by decide) (by decide)).symm

theorem shift_thrice (word : UInt32) : word <<< 22 <<< 11 = 0 := by
  apply UInt32.toBitVec_inj.mp
  simp

theorem shift_twice_more (word : UInt32) : word <<< 11 <<< 22 = 0 := by
  apply UInt32.toBitVec_inj.mp
  simp

@[simp] theorem xor_cancel_left (left right : UInt32) : left ^^^ (left ^^^ right) = right := by
  rw [← UInt32.xor_assoc, UInt32.xor_self, UInt32.zero_xor]

@[simp] theorem xor_cancel_right (left right : UInt32) : left ^^^ right ^^^ right = left := by
  rw [UInt32.xor_assoc, UInt32.xor_self, UInt32.xor_zero]

theorem xor_xor_comm (a b c d : UInt32) : (a ^^^ b) ^^^ (c ^^^ d) = (a ^^^ c) ^^^ (b ^^^ d) := by
  ac_rfl

theorem shiftLeft_sum (left right count : UInt32) :
    (left ^^^ right) ^^^ ((left ^^^ right) <<< count) =
      (left ^^^ (left <<< count)) ^^^ (right ^^^ (right <<< count)) := by
  rw [UInt32.shiftLeft_xor, xor_xor_comm]

theorem shiftRight_sum (left right count : UInt32) :
    (left ^^^ right) ^^^ ((left ^^^ right) >>> count) =
      (left ^^^ (left >>> count)) ^^^ (right ^^^ (right >>> count)) := by
  rw [UInt32.shiftRight_xor, xor_xor_comm]

theorem takeBackShift_shift (word : UInt32) : takeBackShift (word ^^^ (word <<< 11)) = word := by
  rw [takeBackShift, UInt32.shiftLeft_xor, UInt32.shiftLeft_xor, shift_twice, shift_twice_more]
  simp [UInt32.xor_assoc]

theorem shift_takeBackShift (word : UInt32) :
    takeBackShift word ^^^ (takeBackShift word <<< 11) = word := by
  rw [takeBackShift, UInt32.shiftLeft_xor, UInt32.shiftLeft_xor, shift_twice, shift_thrice]
  simp [UInt32.xor_assoc]

namespace Well

private theorem positions_neZero : NeZero 32 := ⟨by decide⟩

attribute [local instance] positions_neZero

/-! ## Two replaced words -/

/-- The position before a position. -/
def previous (index : Fin 32) : Fin 32 := index + 31

theorem previous_add_one (index : Fin 32) : previous index + 1 = index := by
  revert index
  decide

theorem previous_of_add_one (index : Fin 32) : previous (index + 1) = index := by
  revert index
  decide

theorem previous_ne : ∀ index : Fin 32, previous index ≠ index := by decide

/-- The words that a step reads and keeps lie apart from those that it replaces. -/
theorem taps_apart : ∀ distance ∈ [(3 : Fin 32), 10, 24], ∀ index : Fin 32,
    index + distance ≠ index ∧ index + distance ≠ previous index := by decide

/-- Two words, one at a position and one before it, are replaced. -/
def replace (words : Vector UInt32 32) (index : Fin 32) (here before : UInt32) :
    Vector UInt32 32 :=
  (words.set index here).set (previous index) before

theorem get_eq (words : Vector UInt32 32) (index : Fin 32) :
    words.get index = words[index.val] := rfl

section Replace

variable (words : Vector UInt32 32) (index : Fin 32) (here before : UInt32)

@[simp] theorem replace_previous :
    (replace words index here before).get (previous index) = before := by
  simp [replace, get_eq]

@[simp] theorem replace_here : (replace words index here before).get index = here := by
  have apart := Fin.val_ne_of_ne (previous_ne index)
  simp [replace, get_eq, apart]

theorem replace_apart {other : Fin 32} (not_here : other ≠ index)
    (not_previous : other ≠ previous index) :
    (replace words index here before).get other = words.get other := by
  have apart := Fin.val_ne_of_ne not_here.symm
  have apart' := Fin.val_ne_of_ne not_previous.symm
  simp [replace, get_eq, apart, apart']

theorem words_ext {left right : Vector UInt32 32}
    (same : ∀ index : Fin 32, left.get index = right.get index) : left = right :=
  Vector.ext fun index index_lt => same ⟨index, index_lt⟩

/-- A replacement is told by the two positions and by what lies apart from them. -/
theorem replace_eq {result : Vector UInt32 32} (at_here : result.get index = here)
    (at_previous : result.get (previous index) = before)
    (elsewhere : ∀ other, other ≠ index → other ≠ previous index →
      result.get other = words.get other) :
    replace words index here before = result := by
  apply words_ext
  intro other
  by_cases is_previous : other = previous index
  · rw [is_previous, replace_previous, at_previous]
  by_cases is_here : other = index
  · rw [is_here, replace_here, at_here]
  rw [replace_apart _ _ _ _ is_here is_previous, elsewhere other is_here is_previous]

theorem replace_replace : replace (replace words index here before) index (words.get index)
    (words.get (previous index)) = words := by
  apply replace_eq _ _ _ _ rfl rfl
  intro other not_here not_previous
  exact (replace_apart words index here before not_here not_previous).symm

end Replace

/-! ## The step and its inverse -/

/-- What a step adds to the current word from the word three positions on. -/
def nearTap (words : Vector UInt32 32) (index : Fin 32) : UInt32 :=
  words.get (index + 3) ^^^ (words.get (index + 3) >>> 8)

/-- Sum of two words with their shifts. -/
def farSum (far near : UInt32) : UInt32 :=
  (far ^^^ (far <<< 19)) ^^^ (near ^^^ (near <<< 14))

/-- What a step takes from the words twenty-four and ten positions on. -/
def farTaps (words : Vector UInt32 32) (index : Fin 32) : UInt32 :=
  farSum (words.get (index + 24)) (words.get (index + 10))

/-- The output of a step from the word before and the two sums. -/
def output (before near far : UInt32) : UInt32 :=
  (before ^^^ (before <<< 11)) ^^^ (near ^^^ (near <<< 7)) ^^^ (far ^^^ (far <<< 13))

/-- The word before a step, from its output and the two sums. -/
def input (word near far : UInt32) : UInt32 :=
  takeBackShift (word ^^^ (far ^^^ (far <<< 13)) ^^^ (near ^^^ (near <<< 7)))

theorem input_output (before near far : UInt32) :
    input (output before near far) near far = before := by
  rw [input, output, xor_cancel_right, xor_cancel_right, takeBackShift_shift]

theorem output_input (word near far : UInt32) :
    output (input word near far) near far = word := by
  rw [output, input, shift_takeBackShift, xor_cancel_right, xor_cancel_right]

/-- A step in terms of its parts. -/
theorem drawWord32_eq (state : Well) :
    let near := state.words.get state.index ^^^ nearTap state.words state.index
    let far := farTaps state.words state.index
    let word := output (state.words.get (previous state.index)) near far
    state.drawWord32 =
      (word, ⟨replace state.words state.index (near ^^^ far) word, previous state.index⟩) := rfl

/-- The state before a step. -/
def undo (state : Well) : Well :=
  let index := state.index + 1
  let far := farTaps state.words index
  let near := state.words.get index ^^^ far
  ⟨replace state.words index (near ^^^ nearTap state.words index)
    (input (state.words.get state.index) near far), index⟩

section Taps

variable (words : Vector UInt32 32) (index : Fin 32) (here before : UInt32)

theorem replace_tap {distance : Fin 32} (tapped : distance ∈ [(3 : Fin 32), 10, 24]) :
    (replace words index here before).get (index + distance) = words.get (index + distance) := by
  obtain ⟨not_here, not_previous⟩ := taps_apart distance tapped index
  exact replace_apart words index here before not_here not_previous

@[simp] theorem nearTap_replace :
    nearTap (replace words index here before) index = nearTap words index := by
  rw [nearTap, replace_tap words index here before (by decide), nearTap]

@[simp] theorem farTaps_replace :
    farTaps (replace words index here before) index = farTaps words index := by
  rw [farTaps, replace_tap words index here before (by decide),
    replace_tap words index here before (by decide), farTaps]

end Taps

theorem undo_drawWord32 (state : Well) : undo state.drawWord32.2 = state := by
  rw [drawWord32_eq, undo]
  simp only [previous_add_one, farTaps_replace, nearTap_replace, replace_here, replace_previous,
    xor_cancel_right, input_output, replace_replace]

theorem drawWord32_undo (state : Well) : (undo state).drawWord32.2 = state := by
  obtain ⟨words, index⟩ := state
  obtain ⟨next, rfl⟩ : ∃ next, index = previous next :=
    ⟨index + 1, (previous_of_add_one index).symm⟩
  rw [undo, drawWord32_eq]
  simp only [previous_add_one, farTaps_replace, nearTap_replace, replace_here, replace_previous,
    xor_cancel_right, output_input, replace_replace]

theorem previous_val (index : Fin 32) : (previous index).val = (index.val + 31) % 32 := rfl

/-! ## Linearity -/

/-- Sum of the words of two states over the field of two elements. -/
def sumWords (left right : Vector UInt32 32) : Vector UInt32 32 :=
  left.zipWith (· ^^^ ·) right

/-- Sum of two states at one position. -/
def xor (left right : Well) : Well :=
  ⟨sumWords left.words right.words, left.index⟩

section Sums

variable (left right : Vector UInt32 32) (index : Fin 32)

@[simp] theorem get_sumWords :
    (sumWords left right).get index = left.get index ^^^ right.get index := by
  simp [sumWords, get_eq]

theorem nearTap_sumWords :
    nearTap (sumWords left right) index = nearTap left index ^^^ nearTap right index := by
  rw [nearTap, get_sumWords, shiftRight_sum, nearTap, nearTap]

theorem farSum_xor (far far' near near' : UInt32) :
    farSum (far ^^^ far') (near ^^^ near') = farSum far near ^^^ farSum far' near' := by
  rw [farSum, shiftLeft_sum, shiftLeft_sum, xor_xor_comm, farSum, farSum]

theorem farTaps_sumWords :
    farTaps (sumWords left right) index = farTaps left index ^^^ farTaps right index := by
  rw [farTaps, get_sumWords, get_sumWords, farSum_xor, farTaps, farTaps]

theorem output_xor (before before' near near' far far' : UInt32) :
    output (before ^^^ before') (near ^^^ near') (far ^^^ far') =
      output before near far ^^^ output before' near' far' := by
  rw [output, shiftLeft_sum, shiftLeft_sum, shiftLeft_sum,
    xor_xor_comm (before ^^^ (before <<< 11)),
    xor_xor_comm ((before ^^^ (before <<< 11)) ^^^ (near ^^^ (near <<< 7))), output, output]

theorem replace_sumWords (here here' before before' : UInt32) :
    replace (sumWords left right) index (here ^^^ here') (before ^^^ before') =
      sumWords (replace left index here before) (replace right index here' before') := by
  apply replace_eq
  · rw [get_sumWords, replace_here, replace_here]
  · rw [get_sumWords, replace_previous, replace_previous]
  · intro other not_here not_previous
    simp only [get_sumWords, replace_apart _ _ _ _ not_here not_previous]

end Sums

/-- A step of a sum of two states at one position is the sum of their steps. -/
theorem drawWord32_xor {left right : Well} (same : left.index = right.index) :
    (left.xor right).drawWord32 =
      (left.drawWord32.1 ^^^ right.drawWord32.1, left.drawWord32.2.xor right.drawWord32.2) := by
  obtain ⟨left, index⟩ := left
  obtain ⟨right, _⟩ := right
  obtain rfl : index = _ := same
  rw [drawWord32_eq]
  dsimp only [xor]
  rw [get_sumWords, nearTap_sumWords, farTaps_sumWords, get_sumWords,
    xor_xor_comm (left.get index), output_xor,
    xor_xor_comm (left.get index ^^^ nearTap left index), replace_sumWords]
  rfl

/-! ## The state without a set bit -/

/-- Words without a set bit. -/
def noBits : Vector UInt32 32 :=
  .replicate 32 0

@[simp] theorem get_noBits (index : Fin 32) : noBits.get index = 0 := by
  rw [get_eq]
  simp [noBits]

theorem replace_noBits (index : Fin 32) : replace noBits index 0 0 = noBits :=
  replace_eq _ _ _ _ (get_noBits index) (get_noBits _) fun _ _ _ => rfl

theorem drawWord32_noBits (index : Fin 32) :
    (drawWord32 ⟨noBits, index⟩).2 = ⟨noBits, previous index⟩ := by
  have near_eq : nearTap noBits index = 0 := by
    rw [nearTap, get_noBits]
    rfl
  have far_eq : farTaps noBits index = 0 := by
    rw [farTaps, get_noBits, get_noBits]
    rfl
  rw [drawWord32_eq]
  dsimp only
  rw [near_eq, far_eq, get_noBits, get_noBits]
  exact congrArg (Well.mk · (previous index)) (replace_noBits index)

/-- A step does not lose the last bit, since only the state without a bit leads to itself. -/
theorem drawWord32_ne_noBits {state : Well} (some_bit : state.words ≠ noBits) :
    state.drawWord32.2.words ≠ noBits := by
  intro lost
  have follows : state.drawWord32.2 = (drawWord32 ⟨noBits, state.index⟩).2 := by
    rw [drawWord32_noBits, ← lost]
    rfl
  have same : state = ⟨noBits, state.index⟩ := by
    rw [← undo_drawWord32 state, follows, undo_drawWord32]
  exact some_bit (congrArg words same)

theorem ofWords_ne_noBits (words : Vector UInt32 32) : (ofWords words).words ≠ noBits := by
  rw [ofWords]
  split
  next =>
    intro lost
    have first := congrArg (fun words : Vector UInt32 32 => words[0]) lost
    simp [noBits] at first
  next some_set =>
    rintro rfl
    exact some_set (by simp [noBits])

/-! ## Calls -/

/-- A call of the generator. -/
inductive Call
  | word32
  | word64
  | bytes (count : Nat)

/-- The state after a call. -/
def Call.after : Call → Well → Well
  | word32, state => state.drawWord32.2
  | word64, state => state.drawWord64.2
  | bytes count, state => (state.drawBytes count).2

/-- The state after some calls. -/
def afterCalls (calls : List Call) (state : Well) : Well :=
  calls.foldl (fun state call => call.after state) state

section Kept

variable {kept : Well → Prop}

theorem kept_appendWords64 (step : ∀ state, kept state → kept state.drawWord32.2) (count : Nat)
    (drawn : Array UInt64) {state : Well} (holds : kept state) :
    kept (appendWords64 count drawn state).2 := by
  induction count generalizing drawn state with
  | zero => exact holds
  | succ count induction => exact induction _ (step _ (step _ holds))

theorem kept_after (step : ∀ state, kept state → kept state.drawWord32.2) (call : Call)
    {state : Well} (holds : kept state) : kept (call.after state) := by
  cases call with
  | word32 => exact step _ holds
  | word64 => exact step _ (step _ holds)
  | bytes count =>
      have whole := kept_appendWords64 step (count / 8) #[] holds
      rw [Call.after, drawBytes]
      dsimp only
      split
      · exact whole
      · exact step _ (step _ whole)

theorem kept_afterCalls (step : ∀ state, kept state → kept state.drawWord32.2)
    (calls : List Call) {state : Well} (holds : kept state) : kept (afterCalls calls state) := by
  induction calls generalizing state with
  | nil => exact holds
  | cons call calls induction => exact induction (kept_after step call holds)

end Kept

/-- No step loses state. A step moves the position back by one of the 32 places; it is linear, since
the sum of two states at one position steps to the sum of their steps and shows the sum of their
words; and it is a bijection of the states. Whatever words the generator starts from, some bit is
set behind any sequence of calls. -/
theorem step_loses_nothing :
    (∀ state : Well, state.drawWord32.2.index.val = (state.index.val + 31) % 32) ∧
    (∀ left right : Well, left.index = right.index →
      (left.xor right).drawWord32 =
        (left.drawWord32.1 ^^^ right.drawWord32.1, left.drawWord32.2.xor right.drawWord32.2)) ∧
    Function.Bijective (fun state : Well => state.drawWord32.2) ∧
    ∀ (words : Vector UInt32 32) (calls : List Call),
      (afterCalls calls (ofWords words)).words ≠ noBits := by
  refine ⟨fun state => previous_val state.index, fun left right same => drawWord32_xor same,
    ⟨Function.LeftInverse.injective undo_drawWord32,
      Function.RightInverse.surjective drawWord32_undo⟩, ?_⟩
  intro words calls
  have step (state : Well) (some_bit : state.words ≠ noBits) :
      state.drawWord32.2.words ≠ noBits := drawWord32_ne_noBits some_bit
  exact kept_afterCalls step calls (ofWords_ne_noBits words)

/-- From words without a set bit, thirteen bytes, a long and a short word leave some bit; and the
state with the first bit of every word adds to the one with the second bits. -/
theorem noBits_never_returns :
    (afterCalls [.bytes 13, .word64, .word32] (ofWords noBits)).words ≠ noBits ∧
    (xor ⟨.replicate 32 1, 5⟩ ⟨.replicate 32 2, 5⟩).drawWord32 =
      ((drawWord32 ⟨.replicate 32 1, 5⟩).1 ^^^ (drawWord32 ⟨.replicate 32 2, 5⟩).1,
        (drawWord32 ⟨.replicate 32 1, 5⟩).2.xor (drawWord32 ⟨.replicate 32 2, 5⟩).2) := by
  obtain ⟨-, linear, -, some_bit⟩ := step_loses_nothing
  exact ⟨some_bit noBits _, linear _ _ rfl⟩

end Well

end SeededMatrix.Random
