import SeededMatrix.Blueprint
import SeededMatrix.Random.NormalLayers
import SeededMatrix.Random.Word

/-!
# Samplers of cell values

A sampler turns the words of a generator into values of one distribution. Uniform values are left in
the unit interval; whoever needs another range rescales them.

Standard normal numbers come from the layer method: one word picks a layer and a signed position on
it. Left of the next layer's edge the position is under the curve at once; beyond it a second number
decides; in the lowest layer the part beyond the edge stands for the tail, which is sampled by
itself.

Poisson counts of a small mean multiply numbers of the unit interval until the product falls below
`exp (-mean)`. From mean `12` on, a Cauchy number is drawn and accepted by comparison with the
Poisson weights, whose factorial is read off an approximation of the logarithm of the gamma
function.
-/

namespace SeededMatrix.Random

/-! ## Standard normal numbers -/

namespace Normal

open NormalLayers

/-- A number in the tail beyond `tailEdge`, with the sign of `position`. It is drawn until the pair
of logarithms lies under the exponential bound. -/
def tail {σ : Type} [WordSource σ] (position : Float) :
    (attempts : Nat) → (across down : Float) → σ → Float × σ
  | 0, across, _, source =>
      (if position < 0.0 then across - tailEdge else tailEdge - across, source)
  | attempts + 1, across, down, source =>
      if -2.0 * down < across * across then
        let (p, source) := drawOpenUnit source
        let (q, source) := drawOpenUnit source
        tail position attempts (p.log / tailEdge) q.log source
      else (if position < 0.0 then across - tailEdge else tailEdge - across, source)

/-- The signed position in `[-1, 1)` that the upper 52 bits of a word give. -/
@[inline] def positionOfWord (word : UInt64) : Float :=
  Float.ofBits ((word >>> 12) ||| 0x4000000000000000) - 3.0

/-- Draws until a position is accepted. -/
def sample {σ : Type} [WordSource σ] : (attempts : Nat) → σ → Float × σ
  | 0, source => (0.0, source)
  | attempts + 1, source =>
      let (word, source) := drawWord source
      let layer : Fin 256 := ⟨(word &&& 0xff).toNat % 256, Nat.mod_lt _ (by decide)⟩
      let position := positionOfWord word
      let x := position * edges[layer.val]
      if x.abs < edges[layer.val + 1] then (x, source)
      else if layer.val = 0 then tail position Random.attempts 1.0 0.0 source
      else
        let (u, source) := drawUnit source
        let low := heights[layer.val]
        let high := heights[layer.val + 1]
        if high + (low - high) * u < (-x * x / 2.0).exp then (x, source)
        else sample attempts source

/-- A standard normal number and the state after it. -/
@[inline] def next {σ : Type} [WordSource σ] (source : σ) : Float × σ :=
  sample attempts source

end Normal

/-! ## Poisson counts -/

/-- The half circumference of the unit circle. -/
def halfTurn : Float := Float.ofBits 0x400921fb54442d18

/-- The coefficients of the approximation of `logGamma`. -/
def logGammaCoefficients : List Float :=
  [76.18009172947146, -86.50532032941677, 24.01409824083091, -1.231739572450155,
    0.1208650973866179e-2, -0.5395239384953e-5]

/-- Logarithm of the gamma function for positive numbers, by a series of six terms. -/
def logGamma (x : Float) : Float :=
  let shifted := x + 5.5
  let log := (x + 0.5) * shifted.log - shifted
  let (series, _) := logGammaCoefficients.foldl
    (fun (series, denominator) coefficient =>
      let denominator := denominator + 1.0
      (series + coefficient / denominator, denominator))
    (1.000000000190015, x)
  log + (2.5066282746310005 * series / x).log

/-- A Poisson distribution with the numbers that each of its draws needs. -/
structure Poisson where
  mean : Float
  expNegMean : Float
  sqrtTwiceMean : Float
  logMean : Float
  /-- Logarithm of the weight at the mean, up to the sign of the mean. -/
  logWeight : Float

namespace Poisson

/-- The distribution of a mean, which must be finite and positive. -/
def ofMean (mean : Float) : Except Refusal Poisson :=
  if !mean.isFinite then .error (.parameter (.meanNotFinite mean))
  else if 0.0 < mean then
    .ok {
      mean
      expNegMean := (-mean).exp
      sqrtTwiceMean := (2.0 * mean).sqrt
      logMean := mean.log
      logWeight := mean * mean.log - logGamma (1.0 + mean) }
  else .error (.parameter (.meanOutsideDistribution mean))

/-- Counts factors until the product is no larger than `bound`; the count starts one low. -/
def multiply {σ : Type} [WordSource σ] (bound : Float) :
    (attempts : Nat) → (product count : Float) → σ → Float × σ
  | 0, _, count, source => (count - 1.0, source)
  | attempts + 1, product, count, source =>
      if bound < product then
        let (factor, source) := drawUnit source
        multiply bound attempts (product * factor) (count + 1.0) source
      else (count - 1.0, source)

/-- A Cauchy number and its place on the axis of counts, drawn until the place is not negative. -/
def proposal {σ : Type} [WordSource σ] (law : Poisson) :
    (attempts : Nat) → σ → Float × Float × σ
  | 0, source => (0.0, law.mean, source)
  | attempts + 1, source =>
      let (u, source) := drawUnit source
      let deviation := 0.0 + 1.0 * (halfTurn * u).tan
      let place := law.sqrtTwiceMean * deviation + law.mean
      if 0.0 ≤ place then (deviation, place, source) else proposal law attempts source

/-- Draws proposals until one is accepted, for means up to about `2.56e305`. -/
def accept {σ : Type} [WordSource σ] (law : Poisson) : (attempts : Nat) → σ → Float × σ
  | 0, source => (law.mean.floor, source)
  | attempts + 1, source =>
      let (deviation, place, source) := proposal law Random.attempts source
      let count := place.floor
      let ratio := 0.9 * (1.0 + deviation * deviation) *
        (count * law.logMean - logGamma (1.0 + count) - law.logWeight).exp
      let (u, source) := drawUnit source
      if u ≤ ratio then (count, source) else accept law attempts source

/-- A count and the state after it. -/
def next {σ : Type} [WordSource σ] (law : Poisson) (source : σ) : Float × σ :=
  if law.mean < 12.0 then multiply law.expNegMean attempts 1.0 0.0 source
  else accept law attempts source

end Poisson

/-! ## Samplers -/

/-- A distribution ready to be drawn from. -/
inductive Sampler
  | uniform
  | normal
  | poisson (law : Poisson)

namespace Sampler

/-- The sampler of a distribution; only the Poisson distribution looks at the mean, and refuses one
that is not finite and positive. -/
def ofDistribution (distribution : Distribution) (mean : Float) : Except Refusal Sampler :=
  match distribution with
  | .uniform => .ok uniform
  | .normal => .ok normal
  | .poisson => (Poisson.ofMean mean).map poisson

/-- The next value and the state after it. -/
def next {σ : Type} [WordSource σ] (sampler : Sampler) (source : σ) : Float × σ :=
  match sampler with
  | uniform => drawUnit source
  | normal => Normal.next source
  | poisson law => law.next source

end Sampler

end SeededMatrix.Random
