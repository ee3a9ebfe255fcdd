import SeededMatrix.Proofs.Random.Draws
import SeededMatrix.Random.Well
import Mathlib.Algebra.Order.Floor.Div
import Mathlib.Data.Nat.Digits.Defs

/-!
# Bytes of WELL1024a

Bytes are read off the stream of 64-bit words, the lowest byte of a word first. A word that was
begun is drawn whole, and what is left of it is lost: so a shorter filling is the front of a longer
one, and a filling can be cut behind whole words.
-/

namespace SeededMatrix.Random.Well

/-! ## Bytes of a word -/

/-- A byte of a word, by its place from the lowest one on. -/
def byteAt (word : UInt64) (place : Nat) : UInt8 :=
  (word >>> (8 * place).toUInt64).toUInt8

theorem bytesOfWord_eq (word : UInt64) : bytesOfWord word = (List.range 8).map (byteAt word) := rfl

@[simp] theorem length_bytesOfWord (word : UInt64) : (bytesOfWord word).length = 8 := rfl

theorem toNat_byteAt (word : UInt64) {place : Nat} (inside : place < 8) :
    (byteAt word place).toNat = word.toNat >>> (8 * place) % 256 := by
  have count_eq : (8 * place).toUInt64.toNat = 8 * place := by
    rw [Nat.toUInt64_eq, UInt64.toNat_ofNat']
    omega
  have below : 8 * place % 64 = 8 * place := by omega
  rw [byteAt, UInt64.toNat_toUInt8, UInt64.toNat_shiftRight, count_eq, below]

theorem ofDigits_shiftRight (count number : Nat) (exhausted : number >>> (8 * count) = 0) :
    Nat.ofDigits 256 ((List.range count).map fun place => number >>> (8 * place) % 256) =
      number := by
  induction count generalizing number with
  | zero => exact exhausted.symm
  | succ count induction =>
      have later (place : Nat) : number >>> (8 * (place + 1)) = number >>> 8 >>> (8 * place) := by
        rw [← Nat.shiftRight_add, Nat.mul_add, Nat.add_comm]
      have first : number % 256 + 256 * number >>> 8 = number := by
        rw [Nat.shiftRight_eq_div_pow]
        exact Nat.mod_add_div number 256
      rw [later] at exhausted
      rw [List.range_succ_eq_map, List.map_cons, List.map_map, Nat.ofDigits_cons]
      simp only [Function.comp_def, Nat.succ_eq_add_one, later]
      rw [induction _ exhausted]
      exact first

theorem ofDigits_bytesOfWord (word : UInt64) :
    Nat.ofDigits 256 ((bytesOfWord word).map UInt8.toNat) = word.toNat := by
  have digits : (bytesOfWord word).map UInt8.toNat =
      (List.range 8).map fun place => word.toNat >>> (8 * place) % 256 := by
    rw [bytesOfWord_eq, List.map_map]
    apply List.map_congr_left
    intro place member
    exact toNat_byteAt word (List.mem_range.mp member)
  rw [digits]
  apply ofDigits_shiftRight
  rw [Nat.shiftRight_eq_div_pow]
  exact Nat.div_eq_of_lt word.toNat_lt

/-! ## Bytes of the stream -/

/-- The byte with a number in the stream of words of a state. -/
def streamByte (state : Well) (number : Nat) : UInt8 :=
  byteAt (nthDraw drawWord64 state (number / 8)) (number % 8)

theorem streamByte_stateAfter (state : Well) (words number : Nat) :
    streamByte (stateAfter drawWord64 words state) number =
      streamByte state (8 * words + number) := by
  have quotient : (8 * words + number) / 8 = words + number / 8 := by omega
  have remainder : (8 * words + number) % 8 = number % 8 := by omega
  rw [streamByte, nthDraw_stateAfter, streamByte, quotient, remainder]

/-- The first bytes of the stream of a state. -/
def streamBytes (state : Well) (count : Nat) : List UInt8 :=
  (List.range count).map (streamByte state)

@[simp] theorem length_streamBytes (state : Well) (count : Nat) :
    (streamBytes state count).length = count := by
  simp [streamBytes]

theorem streamBytes_add (state : Well) (words count : Nat) :
    streamBytes state (8 * words + count) =
      streamBytes state (8 * words) ++ streamBytes (stateAfter drawWord64 words state) count := by
  have onward : streamByte state ∘ (8 * words + ·) =
      streamByte (stateAfter drawWord64 words state) :=
    funext fun number => (streamByte_stateAfter state words number).symm
  rw [streamBytes, List.range_add, List.map_append, List.map_map, onward]
  rfl

theorem take_streamBytes (state : Well) {count more : Nat} (count_le : count ≤ more) :
    (streamBytes state more).take count = streamBytes state count := by
  rw [streamBytes, ← List.map_take, List.take_range, Nat.min_eq_left count_le, streamBytes]

theorem streamBytes_eight (state : Well) :
    streamBytes state 8 = bytesOfWord state.drawWord64.1 := by
  rw [streamBytes, bytesOfWord_eq]
  apply List.map_congr_left
  intro number member
  have inside := List.mem_range.mp member
  rw [streamByte, Nat.div_eq_of_lt inside, Nat.mod_eq_of_lt inside, nthDraw_zero]

theorem flatMap_bytesOfWord (words : Nat) (state : Well) :
    (firstDraws drawWord64 words state).flatMap bytesOfWord = streamBytes state (8 * words) := by
  induction words generalizing state with
  | zero => rfl
  | succ words induction =>
      have shifted : 8 * (words + 1) = 8 * 1 + 8 * words := by omega
      rw [firstDraws_succ, List.flatMap_cons, induction, shifted, streamBytes_add,
        ← streamBytes_eight]
      rfl

/-! ## Filling -/

theorem appendWords64_eq (words : Nat) (drawn : Array UInt64) (state : Well) :
    appendWords64 words drawn state =
      (drawn ++ (firstDraws drawWord64 words state).toArray,
        stateAfter drawWord64 words state) := by
  induction words generalizing drawn state with
  | zero => simp [appendWords64, firstDraws, stateAfter]
  | succ words induction =>
      rw [appendWords64]
      dsimp only
      rw [induction, firstDraws_succ, stateAfter_succ]
      simp

/-- Bytes are filled from the stream, and the state behind them is that behind all words begun. -/
theorem drawBytes_eq (count : Nat) (state : Well) :
    drawBytes count state =
      (streamBytes state count, stateAfter drawWord64 (count ⌈/⌉ 8) state) := by
  have split : 8 * (count / 8) + count % 8 = count := Nat.div_add_mod count 8
  have rounded : count ⌈/⌉ 8 = (count + 7) / 8 := Nat.ceilDiv_eq_add_pred_div ..
  have whole : (firstDraws drawWord64 (count / 8) state).toArray.toList.flatMap bytesOfWord =
      streamBytes state (8 * (count / 8)) := flatMap_bytesOfWord _ _
  rw [drawBytes, drawWords64, appendWords64_eq]
  dsimp only
  rw [Array.empty_append, whole]
  split
  next even =>
    have words_eq : count ⌈/⌉ 8 = count / 8 := by omega
    have count_eq : 8 * (count / 8) = count := by omega
    rw [words_eq, count_eq]
  next uneven =>
    have words_eq : count ⌈/⌉ 8 = count / 8 + 1 := by omega
    have rest_le : count % 8 ≤ 8 := (Nat.mod_lt count (Nat.succ_pos 7)).le
    rw [words_eq, stateAfter_add, ← streamBytes_eight, take_streamBytes _ rest_le,
      ← streamBytes_add, split]
    rfl

/-- Bytes are read off the stream of words, whose bytes are their digits to the base 256, the
lowest one first. As many bytes are filled as are wanted, and they are the first ones of all words
put behind each other; the state behind them is that behind as many words as they begin. So the
bytes of a shorter filling are the front of those of a longer one, and bytes can be filled in two
turns if the first turn ends with a whole word. -/
theorem bytes_read_words (state : Well) (count : Nat) :
    (∀ word, (bytesOfWord word).length = 8 ∧
      Nat.ofDigits 256 ((bytesOfWord word).map UInt8.toNat) = word.toNat) ∧
    (drawBytes count state).1.length = count ∧
    (∀ words, count ≤ 8 * words → (drawBytes count state).1 =
      ((firstDraws drawWord64 words state).flatMap bytesOfWord).take count) ∧
    (drawBytes count state).2 = stateAfter drawWord64 (count ⌈/⌉ 8) state ∧
    (∀ more, count ≤ more → (drawBytes count state).1 <+: (drawBytes more state).1) ∧
    (8 ∣ count → ∀ more, drawBytes (count + more) state =
      ((drawBytes count state).1 ++ (drawBytes more (drawBytes count state).2).1,
        (drawBytes more (drawBytes count state).2).2)) := by
  refine ⟨fun word => ⟨rfl, ofDigits_bytesOfWord word⟩, ?_, fun words enough => ?_, ?_,
    fun more longer => ?_, ?_⟩
  · rw [drawBytes_eq, length_streamBytes]
  · rw [drawBytes_eq, flatMap_bytesOfWord, take_streamBytes state enough]
  · rw [drawBytes_eq]
  · rw [drawBytes_eq, drawBytes_eq, ← take_streamBytes state longer]
    exact List.take_prefix _ _
  · rintro ⟨words, rfl⟩ more
    have whole : 8 * words ⌈/⌉ 8 = words := by
      rw [Nat.ceilDiv_eq_add_pred_div]
      omega
    have together : (8 * words + more) ⌈/⌉ 8 = words + more ⌈/⌉ 8 := by
      rw [Nat.ceilDiv_eq_add_pred_div, Nat.ceilDiv_eq_add_pred_div]
      omega
    rw [drawBytes_eq, drawBytes_eq, drawBytes_eq, together, whole, streamBytes_add,
      stateAfter_add]

/-- Thirteen bytes are cut out of two words and lie in front of twenty-one, which sixteen and then
five fill as well. -/
theorem thirteen_of_twentyone_bytes :
    (drawBytes 13 (ofRoot 7)).1 =
      ((firstDraws drawWord64 2 (ofRoot 7)).flatMap bytesOfWord).take 13 ∧
    (drawBytes 13 (ofRoot 7)).1 <+: (drawBytes 21 (ofRoot 7)).1 ∧
    drawBytes 21 (ofRoot 7) =
      ((drawBytes 16 (ofRoot 7)).1 ++ (drawBytes 5 (drawBytes 16 (ofRoot 7)).2).1,
        (drawBytes 5 (drawBytes 16 (ofRoot 7)).2).2) := by
  obtain ⟨-, -, words, -, front, -⟩ := bytes_read_words (ofRoot 7) 13
  obtain ⟨-, -, -, -, -, turns⟩ := bytes_read_words (ofRoot 7) 16
  exact ⟨words 2 (by decide), front 21 (by decide), turns (by decide) 5⟩

end SeededMatrix.Random.Well
