/-!
# Random words

A generator is a state and a step that yields a 64-bit word. This module holds what all generators
share: the class of generators, numbers in the unit interval, and the budget of attempts behind
every loop that draws until a word is accepted. Two generators follow: SplitMix64, a counter with a
large odd stride whose values are mixed on the way out, which expands one seed into the longer seeds
of the others, and Xoshiro256++, which draws cell values and occupancy.
-/

namespace SeededMatrix.Random

/-- A generator of 64-bit words with states in `σ`. -/
class WordSource (σ : Type) where
  /-- The next word and the state after it. -/
  drawWord : σ → UInt64 × σ

export WordSource (drawWord)

/-- Rotation of a word to the left by `1 ≤ count ≤ 63` bits. -/
@[inline] def rotateLeft (word count : UInt64) : UInt64 :=
  (word <<< count) ||| (word >>> (64 - count))

/-- Attempts of a loop that draws until it accepts; the number keeps the recursion structural. That
no run reaches it is an assumption. It concerns one parameter only: from a mean of about `2.56e305`
on, the product of a Poisson mean with its logarithm is no finite number, and no proposal is ever
accepted. Such means are assumed not to be drawn from. Every other attempt is refused with
probability below one half or little above. -/
def attempts : Nat := 0x4000_0000_0000_0000

/-- The distance between two neighbouring numbers of `unitOfWord`, `2 ^ (-53)`. -/
def unitStep : Float := Float.ofBits 0x3ca0000000000000

/-- The number in `[0, 1)` that the upper 53 bits of a word count out. -/
@[inline] def unitOfWord (word : UInt64) : Float :=
  (word >>> 11).toFloat * unitStep

/-- A number in `[0, 1)` and the state after it. -/
@[inline] def drawUnit {σ : Type} [WordSource σ] (source : σ) : Float × σ :=
  let (word, source) := drawWord source
  (unitOfWord word, source)

/-- Subtracted from a double in `[1, 2)` it leaves a number in the open unit interval: `1 - 2 ^
(-53)`. -/
def openUnitShift : Float := Float.ofBits 0x3fefffffffffffff

/-- A number in the open interval `(0, 1)` and the state after it. -/
@[inline] def drawOpenUnit {σ : Type} [WordSource σ] (source : σ) : Float × σ :=
  let (word, source) := drawWord source
  (Float.ofBits ((word >>> 12) ||| 0x3ff0000000000000) - openUnitShift, source)

/-! ## SplitMix64 -/

/-- The counter. -/
structure SplitMix where
  counter : UInt64
deriving DecidableEq, Repr

namespace SplitMix

/-- Moves the counter on. -/
def step (source : SplitMix) : SplitMix :=
  ⟨source.counter + 0x9e3779b97f4a7c15⟩

/-- The mix of a counter that yields 64 bits. -/
def mix64 (counter : UInt64) : UInt64 :=
  let z := (counter ^^^ (counter >>> 30)) * 0xbf58476d1ce4e5b9
  let z := (z ^^^ (z >>> 27)) * 0x94d049bb133111eb
  z ^^^ (z >>> 31)

/-- The mix of a counter that yields 32 bits. -/
def mix32 (counter : UInt64) : UInt32 :=
  let z := (counter ^^^ (counter >>> 33)) * 0x62a9d9ed799705f5
  let z := (z ^^^ (z >>> 28)) * 0xcb24d0a5c88c35b3
  (z >>> 32).toUInt32

/-- The next 64-bit word. -/
def drawWord64 (source : SplitMix) : UInt64 × SplitMix :=
  (mix64 source.step.counter, source.step)

/-- The next 32-bit word. -/
def drawWord32 (source : SplitMix) : UInt32 × SplitMix :=
  (mix32 source.step.counter, source.step)

end SplitMix

/-! ## Xoshiro256++ -/

/-- Four words of state. -/
structure Xoshiro where
  s0 : UInt64
  s1 : UInt64
  s2 : UInt64
  s3 : UInt64
deriving DecidableEq, Repr

namespace Xoshiro

/-- The state of a seed: four words of SplitMix64. -/
def ofSeed (seed : UInt64) : Xoshiro :=
  let (s0, expansion) := SplitMix.drawWord64 ⟨seed⟩
  let (s1, expansion) := expansion.drawWord64
  let (s2, expansion) := expansion.drawWord64
  let (s3, _) := expansion.drawWord64
  ⟨s0, s1, s2, s3⟩

/-- The word that a state shows. -/
@[inline] def word (state : Xoshiro) : UInt64 :=
  rotateLeft (state.s0 + state.s3) 23 + state.s0

/-- The state after a state. -/
@[inline] def step (state : Xoshiro) : Xoshiro :=
  let s2 := state.s2 ^^^ state.s0
  let s3 := state.s3 ^^^ state.s1
  ⟨state.s0 ^^^ s3, state.s1 ^^^ s2, s2 ^^^ (state.s1 <<< 17), rotateLeft s3 45⟩

@[inline] instance : WordSource Xoshiro where
  drawWord state := (state.word, state.step)

/-- Sum of two states over the field of two elements. -/
def xor (left right : Xoshiro) : Xoshiro :=
  ⟨left.s0 ^^^ right.s0, left.s1 ^^^ right.s1, left.s2 ^^^ right.s2, left.s3 ^^^ right.s3⟩

/-- The coefficients, lowest first, of the polynomial that moves a state `2 ^ 128` steps ahead. -/
def jumpWords : List UInt64 :=
  [0x180ec6d33cfd0aba, 0xd5a61266f0c9392c, 0xa9582618e03fc9aa, 0x39abdc4529b1661c]

/-- Adds the states that the coefficients of one word select while the state steps on. -/
def accumulate (coefficients : UInt64) : (bits : Nat) → (sum state : Xoshiro) → Xoshiro × Xoshiro
  | 0, sum, state => (sum, state)
  | bits + 1, sum, state =>
      let sum := if coefficients &&& 1 == 1 then sum.xor state else sum
      accumulate (coefficients >>> 1) bits sum state.step

/-- The state `2 ^ 128` steps ahead. -/
def jump (state : Xoshiro) : Xoshiro :=
  (jumpWords.foldl (fun (sum, state) coefficients => accumulate coefficients 64 sum state)
    (⟨0, 0, 0, 0⟩, state)).1

end Xoshiro

end SeededMatrix.Random
