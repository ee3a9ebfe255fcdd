import SeededMatrix.Random.Word

/-!
# WELL1024a

A generator with 1024 bits of state and period `2 ^ 1024 - 1`. It turns one root seed into the seeds
of all blocks. Its step is linear over the field of two elements, and zero is its fixed point; the
constructor keeps away from it.
-/

namespace SeededMatrix.Random

/-- Thirty-two words of state and the position of the current one. -/
structure Well where
  words : Vector UInt32 32
  index : Fin 32
deriving DecidableEq, Repr

namespace Well

/-- Starts from 32 words; if all are zero, one bit is set. -/
def ofWords (words : Vector UInt32 32) : Well :=
  if words.all (· == 0) then ⟨words.set 0 1, 0⟩ else ⟨words, 0⟩

/-- The 32-bit word of four bytes, lowest first. -/
def wordOfBytes (b0 b1 b2 b3 : UInt8) : UInt32 :=
  b0.toUInt32 ||| (b1.toUInt32 <<< 8) ||| (b2.toUInt32 <<< 16) ||| (b3.toUInt32 <<< 24)

/-- Starts from 128 bytes, four to a word, lowest first. -/
def ofBytes (bytes : Vector UInt8 128) : Well :=
  ofWords (Vector.ofFn fun i =>
    wordOfBytes bytes[4 * i.val] bytes[4 * i.val + 1] bytes[4 * i.val + 2] bytes[4 * i.val + 3])

/-- Draws `n` words from a generator of words. -/
def drawWords {σ : Type} (next : σ → UInt32 × σ) : (n : Nat) → σ → Vector UInt32 n × σ
  | 0, state => (#v[], state)
  | n + 1, state =>
      let (words, state) := drawWords next n state
      let (word, state) := next state
      (words.push word, state)

/-- One step of the generator that stretches a small seed: a linear congruence whose upper bits are
shifted together and rotated by the five highest of them. -/
def stretch (state : UInt64) : UInt32 × UInt64 :=
  let state := state * 6364136223846793005 + 11634580027462260723
  let folded := (((state >>> 18) ^^^ state) >>> 27).toUInt32
  let rotation := (state >>> 59).toUInt32
  ((folded >>> rotation) ||| (folded <<< ((32 - rotation) &&& 31)), state)

/-- Starts from a 64-bit seed stretched to 32 words. -/
def ofSeed (seed : UInt64) : Well :=
  ofWords (drawWords stretch 32 seed).1

/-- Number of words that a root seed is expanded to. -/
abbrev rootWords : Nat := 32

/-- Starts from a root seed expanded by SplitMix64. -/
def ofRoot (root : UInt64) : Well :=
  ofWords (drawWords SplitMix.drawWord32 rootWords ⟨root⟩).1

/-- The next 32-bit word. Two words of the state are replaced: the current one, and the one before
it, which is also the output and becomes the current one. -/
def drawWord32 (state : Well) : UInt32 × Well :=
  let v := state.words
  let i := state.index
  let before := i + 31
  let vm1 := v[i + 3]
  let vm2 := v[i + 24]
  let vm3 := v[i + 10]
  let z0 := v[before]
  let z1 := v[i] ^^^ (vm1 ^^^ (vm1 >>> 8))
  let z2 := (vm2 ^^^ (vm2 <<< 19)) ^^^ (vm3 ^^^ (vm3 <<< 14))
  let z3 := z1 ^^^ z2
  let z4 := (z0 ^^^ (z0 <<< 11)) ^^^ (z1 ^^^ (z1 <<< 7)) ^^^ (z2 ^^^ (z2 <<< 13))
  (z4, ⟨(v.set i z3).set before z4, before⟩)

/-- The next 64-bit word: two words, the upper half first. -/
def drawWord64 (state : Well) : UInt64 × Well :=
  let (high, state) := state.drawWord32
  let (low, state) := state.drawWord32
  ((high.toUInt64 <<< 32) ||| low.toUInt64, state)

/-- The eight bytes of a word, lowest first. -/
def bytesOfWord (word : UInt64) : List UInt8 :=
  (List.range 8).map fun i => (word >>> (8 * i).toUInt64).toUInt8

/-- Appends `n` words of 64 bits to those drawn before. -/
def appendWords64 : (n : Nat) → (drawn : Array UInt64) → Well → Array UInt64 × Well
  | 0, drawn, state => (drawn, state)
  | n + 1, drawn, state =>
      let (word, state) := state.drawWord64
      appendWords64 n (drawn.push word) state

/-- `n` words of 64 bits. -/
def drawWords64 (n : Nat) (state : Well) : Array UInt64 × Well :=
  appendWords64 n #[] state

/-- Fills `n` bytes: whole words first, then the low end of one more word if fewer than eight bytes
are missing. -/
def drawBytes (n : Nat) (state : Well) : List UInt8 × Well :=
  let (words, state) := drawWords64 (n / 8) state
  let whole := words.toList.flatMap bytesOfWord
  if n % 8 = 0 then (whole, state)
  else
    let (word, state) := state.drawWord64
    (whole ++ (bytesOfWord word).take (n % 8), state)

end Well

end SeededMatrix.Random
