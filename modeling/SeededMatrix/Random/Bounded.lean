import SeededMatrix.Random.Word
import SeededMatrix.Size

/-!
# Bounded draws

Three ways to draw a number below `n` without bias. Each looks at one word, accepts or refuses it,
and draws again after a refusal. The first scales a word by `n` and keeps the upper half of the
product; it serves words of 64 and of 32 bits. The last takes the remainder of 63 bits and refuses
the incomplete top interval. `shuffle` permutes a table by such draws. A computation that only needs
indices asks for them through `IndexSource`, whatever they come from.
-/

namespace SeededMatrix.Random

/-- A kind of computation that draws indices. -/
class IndexSource (m : Type → Type) where
  /-- A number below `n`. -/
  index : (n : Nat) → 0 < n → m (Fin n)

export IndexSource (index)

/-- The largest lower half of a product that is accepted: one less than `n` shifted up to the top
bit of a word of `width` bits. -/
def scaleZone (width n : Nat) : Nat :=
  (n <<< (width - 1 - n.log2)) - 1

/-- The upper half of `word * n`, if the lower half is accepted. -/
def scaleWord? (width n word : Nat) : Option Nat :=
  let product := word * n
  if product % (1 <<< width) ≤ scaleZone width n then some (product >>> width) else none

/-- Remainder of 63 bits by `n`, unless the bits lie in the top interval that is shorter than `n`:
there `bits - remainder + (n - 1)` passes the largest number of 63 bits. -/
def remainder? (n bits : Nat) : Except Fault (Option Nat) :=
  if n = 0 then .error .divisionByZero
  else do
    let remainder := bits % n
    let last ← Size.add (← Size.sub bits remainder) (← Size.sub n 1)
    return if last ≤ 0x7fff_ffff_ffff_ffff then some remainder else none

/-- Draws until a word is accepted with a number below `n`. -/
def drawAccepted {σ : Type} [WordSource σ] (n : Nat) (positive : 0 < n)
    (accept? : UInt64 → Option Nat) : (attempts : Nat) → σ → Fin n × σ
  | 0, source => (⟨0, positive⟩, source)
  | attempts + 1, source =>
      let (word, source) := drawWord source
      match accept? word with
      | some number =>
          if below : number < n then (⟨number, below⟩, source)
          else drawAccepted n positive accept? attempts source
      | none => drawAccepted n positive accept? attempts source

/-- A number below `n < 2 ^ 64` by scaling words of 64 bits. -/
def below64 {σ : Type} [WordSource σ] (n : Nat) (positive : 0 < n) (source : σ) : Fin n × σ :=
  drawAccepted n positive (fun word => scaleWord? 64 n word.toNat) attempts source

/-- A number below `n < 2 ^ 32` by scaling the upper 32 bits of words. -/
def below32 {σ : Type} [WordSource σ] (n : Nat) (positive : 0 < n) (source : σ) : Fin n × σ :=
  drawAccepted n positive (fun word => scaleWord? 32 n (word >>> 32).toNat) attempts source

/-- Draws until the remainder of the upper 63 bits of a word is accepted. -/
def drawRemainder {σ : Type} [WordSource σ] (n : Nat) :
    (attempts : Nat) → σ → Except Fault (Nat × σ)
  | 0, source => .ok (0, source)
  | attempts + 1, source =>
      let (word, source) := drawWord source
      match remainder? n (word >>> 1).toNat with
      | .error fault => .error fault
      | .ok (some number) => .ok (number, source)
      | .ok none => drawRemainder n attempts source

/-- A number below `0 < n < 2 ^ 63` by remainders of the upper 63 bits of words. -/
def belowByRemainder {σ : Type} [WordSource σ] (n : Nat) (source : σ) : Except Fault (Nat × σ) :=
  drawRemainder n attempts source

instance {σ : Type} [WordSource σ] : IndexSource (StateM σ) where
  index := below64

/-- Swaps the entry at each position from `last` down to the second with an entry at or before it.
-/
def shuffleFrom {σ α : Type} [WordSource σ] : (last : Nat) → Array α → σ → Array α × σ
  | 0, table, source => (table, source)
  | last + 1, table, source =>
      let (other, source) :=
        if last + 2 < 0x1_0000_0000 then below32 (last + 2) (by omega) source
        else below64 (last + 2) (by omega) source
      shuffleFrom last (table.swapIfInBounds (last + 1) other) source

/-- A table in random order. -/
def shuffle {σ α : Type} [WordSource σ] (table : Array α) (source : σ) : Array α × σ :=
  shuffleFrom (table.size - 1) table source

end SeededMatrix.Random
