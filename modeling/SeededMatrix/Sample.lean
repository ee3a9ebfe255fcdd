import SeededMatrix.Random.Bounded
import SeededMatrix.Session

/-!
# Samples of a population

The population is `1, …, population`. With replacement, every value is drawn for itself. Without, a
reservoir starts with the first values; each later value is offered to it and replaces a random
entry with the chance that keeps every subset equally likely. A reservoir leaves early values near
their first places, so it is shuffled at the end.
-/

namespace SeededMatrix

open SeededMatrix.Random

namespace Reservoir

section Offers

variable {m : Type → Type} [Monad m] [IndexSource m] {size : Nat}

/-- The reservoir of the first `size` values. -/
def initial (size : Nat) : Vector Nat size :=
  Vector.ofFn fun place => place.val + 1

/-- Offers the value after the first `seen` ones: it enters if an index below the number of values
offered so far falls below the size, and then replaces a random entry. -/
def offer (positive : 0 < size) (seen : Nat) (reservoir : Vector Nat size) :
    m (Vector Nat size) := do
  let chance ← index (seen + 1) (Nat.succ_pos seen)
  if chance.val < size then
    let slot ← index size positive
    return reservoir.set slot (seen + 1)
  else return reservoir

/-- Offers `count` values after the first `seen` ones. -/
def offerMany (positive : 0 < size) :
    (count seen : Nat) → Vector Nat size → m (Vector Nat size)
  | 0, _, reservoir => return reservoir
  | count + 1, seen, reservoir => do
      let reservoir ← offer positive seen reservoir
      offerMany positive count (seen + 1) reservoir

/-- The reservoir after the whole population was offered. -/
def fill (population size : Nat) (positive : 0 < size) : m (Vector Nat size) :=
  offerMany positive (population - size) size (initial size)

end Offers

end Reservoir

namespace Sample

/-- A sample without replacement in random order. Room for all values, of eight bytes each, is
reserved at once, and the number of the first value that is offered must be a size. -/
def withoutReplacement {σ : Type} [WordSource σ] (population size : Nat) (positive : 0 < size)
    (source : σ) : Except Fault (Array Nat × σ) := do
  Size.reserve size 8
  discard (Size.add size 1)
  let (reservoir, source) := (Reservoir.fill population size positive : StateM σ _).run source
  return shuffle reservoir.toArray source

/-- Appends `count` values drawn with replacement. -/
def drawOnto {σ : Type} [WordSource σ] (population : Nat) :
    (count : Nat) → (drawn : Array Nat) → σ → Except Fault (Array Nat × σ)
  | 0, drawn, source => .ok (drawn, source)
  | count + 1, drawn, source => do
      let (number, source) ← belowByRemainder population source
      let value ← Size.add 1 number
      drawOnto population count (drawn.push value) source

/-- A sample with replacement. Room for all values is reserved at once. -/
def withReplacement {σ : Type} [WordSource σ] (population size : Nat) (source : σ) :
    Except Fault (Array Nat × σ) := do
  Size.reserve size 8
  drawOnto population size #[] source

/-- The drawn values; an empty population, an empty sample and a sample without replacement that is
larger than the population are refused. -/
def draw {σ : Type} [WordSource σ] (population : Int) (size : Nat) (replace : Bool) (source : σ) :
    Except Failure (Array Nat) :=
  if population ≤ 0 then .error (.refusal (.column (.emptyPopulation population)))
  else if empty : size = 0 then .error (.refusal (.column .emptySample))
  else if !replace && population.toNat < size then
    .error (.refusal (.column (.sampleTooLarge size population.toNat)))
  else do
    let (values, _) ←
      if replace then withReplacement population.toNat size source
      else withoutReplacement population.toNat size (Nat.pos_of_ne_zero empty) source
    return values

/-- Makes the column of a sample in the session from the seed of its draws. -/
def generate (population : Int) (size : Nat) (replace : Bool) (seed : UInt64) : Action Unit := do
  let values ← draw population size replace (Xoshiro.ofSeed seed)
  Action.allocate size 1 false size
  Action.update fun matrix => do
    let writes := values.toList.mapIdx fun row value => (⟨row, 0, Size.toFloat value⟩ : Write)
    matrix.putAll (← matrix.wholeRegion) (.ofList writes)
  discard Action.recount
  Action.settleLayout

end Sample

end SeededMatrix
