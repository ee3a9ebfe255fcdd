import SeededMatrix.Blueprint
import SeededMatrix.Output.Matrix
import SeededMatrix.Random.Sampler

/-!
# Filling one block

A block is filled from its seed and its budget. Two streams are set to the seed: one of values, and
one of occupancy, which is jumped ahead so that the two do not overlap. The occupancy stream is
uniform whatever the distribution of values is. How the cells are chosen that get a value depends on
the block alone: whether a matrix of its shape and budget would be sparse, and whether every cell is
wanted. The result is the sequence of writes in their order, the number of placed values, and the
streams as they are left for the next block.
-/

namespace SeededMatrix

open SeededMatrix.Random

/-! ## Patterns -/

/-- How the cells of a block are visited. -/
inductive FillPattern
  /-- From one chosen cell to the next by a random gap. -/
  | geometricGaps
  /-- Every cell. -/
  | everyCell
  /-- Every cell, each kept or left by a draw of its own. -/
  | coinPerCell
deriving DecidableEq, Repr

/-- The pattern for a block of this shape and budget. -/
def FillPattern.select (height width budget : Nat) (density : Float) : FillPattern :=
  if Layout.prefersSparse height width budget then geometricGaps
  else if density == 1.0 then everyCell
  else coinPerCell

/-! ## Rules and streams -/

/-- What the filling of blocks needs from a blueprint. -/
structure FillRule where
  blueprint : Blueprint
  sampler : Sampler
  /-- The value that the sample zero is rescaled to. -/
  least : Float
  /-- The length of the range that samples are rescaled to. -/
  range : Float
  scarce : Bool

namespace FillRule

/-- The rule of a blueprint. -/
def ofBlueprint (blueprint : Blueprint) : Except Failure FillRule := do
  let (least, greatest) := blueprint.bounds
  let sampler ← Sampler.ofDistribution blueprint.distribution blueprint.mean
  let scarce ← blueprint.isScarce
  return { blueprint, sampler, least, range := greatest - least, scarce }

/-- The next value and the state of the value stream after it. -/
@[inline] def drawValue (rule : FillRule) (values : Xoshiro) : Float × Xoshiro :=
  let (sample, values) := rule.sampler.next values
  (rule.least + rule.range * sample, values)

/-- The stream of values of a block seed. -/
def valueStream (seed : UInt64) : Xoshiro :=
  Xoshiro.ofSeed seed

/-- The stream of occupancy of a block seed. -/
def occupancyStream (seed : UInt64) : Xoshiro :=
  (Xoshiro.ofSeed seed).jump

end FillRule

/-- The two streams that blocks are filled from. -/
structure Streams where
  values : Xoshiro
  occupancy : Xoshiro

namespace Streams

/-- The streams before any block is filled. -/
def initial : Streams :=
  ⟨.ofSeed 0, .ofSeed 0⟩

/-- Both streams set to their beginning for a block seed. -/
def reseed (streams : Streams) (seed : UInt64) : Streams :=
  { streams with
    values := FillRule.valueStream seed
    occupancy := FillRule.occupancyStream seed }

end Streams

/-! ## The filling of a block -/

/-- The filling of a block, drawn one write at a time. -/
inductive BlockPass
  /-- The block is filled: the number of values that were placed, and the streams as they are left.
  -/
  | ended (placed : Nat) (streams : Streams)
  /-- No further write can be drawn. -/
  | failed (fault : Fault)
  /-- A write, and what follows it. -/
  | next (write : Write) (rest : Unit → BlockPass)

namespace BlockPass

/-- Each write changed as it is drawn; a write that cannot be changed ends the filling. -/
def map (change : Write → Except Fault Write) : BlockPass → BlockPass
  | ended placed streams => ended placed streams
  | failed fault => failed fault
  | next write rest =>
      match change write with
      | .ok write => next write fun _ => (rest ()).map change
      | .error fault => failed fault

/-- The writes of a block, and then those that are drawn from the streams that it leaves. -/
def andThen (pass : BlockPass) (others : Streams → Writes) : Writes :=
  match pass with
  | ended _ streams => others streams
  | failed fault => .failed (.fault fault)
  | next write rest => .next write fun _ => (rest ()).andThen others

end BlockPass

namespace FillRule

/-- The write at cell number `cell`, counted row after row in a block of `width` columns. -/
@[inline] def writeAt (width cell : Nat) (value : Float) : Write :=
  ⟨cell / width, cell % width, value⟩

/-- Fills one cell drawn uniformly from `size` cells. A product that rounds up to the size counts as
the last cell. -/
def fillOneCell (rule : FillRule) (width size : Nat) (occupancy values : Xoshiro) : BlockPass :=
  let (u, occupancy) := drawUnit occupancy
  let cell := min (Size.ofFloat (u * Size.toFloat size)) (size - 1)
  let (value, values) := rule.drawValue values
  .next (writeAt width cell value) fun _ => .ended 1 ⟨values, occupancy⟩

/-- The cells to leave out before the next chosen one: with chance `1 - density` for each further
cell, as the draw `u` decides. -/
@[inline] def gap (logMiss u : Float) : Nat :=
  Size.ofFloat (Size.ceil (u.log / logMiss) - 1.0)

/-- Fills from one chosen cell to the next until the block or the budget ends. `landed` counts the
cells up to and with the last chosen one. -/
def fillByGaps (rule : FillRule) (width size : Nat) (small : size < Size.limit) (logMiss : Float)
    (budget landed placed : Nat) (occupancy values : Xoshiro) : BlockPass :=
  if landed < size ∧ placed < budget then
    let (u, occupancy) := drawUnit occupancy
    let next := Size.saturatingAdd (Size.saturatingAdd landed (gap logMiss u)) 1
    if next ≤ size then
      let (value, values) := rule.drawValue values
      .next (writeAt width (next - 1) value) fun _ =>
        fillByGaps rule width size small logMiss budget next (placed + 1) occupancy values
    else .ended placed ⟨values, occupancy⟩
  else .ended placed ⟨values, occupancy⟩
termination_by size - landed
decreasing_by
  simp only [Size.saturatingAdd, Size.limit] at *
  omega

/-- Fills the last `left` cells of row `row`, from column `col` on, and goes on behind them. -/
def fillRow (rule : FillRule) (row : Nat) (behind : (values : Xoshiro) → BlockPass) :
    (left col : Nat) → (values : Xoshiro) → BlockPass
  | 0, _, values => behind values
  | left + 1, col, values =>
      let (value, values) := rule.drawValue values
      .next ⟨row, col, value⟩ fun _ => fillRow rule row behind left (col + 1) values

/-- Fills every cell of the last `left` rows, from row `row` on, and reports `size` cells. -/
def fillEveryCell (rule : FillRule) (width size : Nat) (occupancy : Xoshiro) :
    (left row : Nat) → (values : Xoshiro) → BlockPass
  | 0, _, values => .ended size ⟨values, occupancy⟩
  | left + 1, row, values =>
      rule.fillRow row (fillEveryCell rule width size occupancy left (row + 1)) width 0 values

/-- Fills those of the last `left` cells of row `row` whose draw does not exceed the density, and
goes on behind them. When the budget ends, so does the filling of all rows. -/
def fillRowByCoins (rule : FillRule) (density : Float) (budget row : Nat)
    (behind : (placed : Nat) → (occupancy values : Xoshiro) → BlockPass) :
    (left col placed : Nat) → (occupancy values : Xoshiro) → BlockPass
  | 0, _, placed, occupancy, values => behind placed occupancy values
  | left + 1, col, placed, occupancy, values =>
      if budget ≤ placed then .ended placed ⟨values, occupancy⟩
      else
        let (u, occupancy) := drawUnit occupancy
        if u ≤ density then
          let (value, values) := rule.drawValue values
          .next ⟨row, col, value⟩ fun _ =>
            fillRowByCoins rule density budget row behind left (col + 1) (placed + 1) occupancy
              values
        else
          fillRowByCoins rule density budget row behind left (col + 1) placed occupancy values

/-- Fills those cells of the last `left` rows whose draw does not exceed the density, until the
budget ends. -/
def fillByCoins (rule : FillRule) (width : Nat) (density : Float) (budget : Nat) :
    (left row placed : Nat) → (occupancy values : Xoshiro) → BlockPass
  | 0, _, placed, occupancy, values => .ended placed ⟨values, occupancy⟩
  | left + 1, row, placed, occupancy, values =>
      rule.fillRowByCoins density budget row (fillByCoins rule width density budget left (row + 1))
        width 0 placed occupancy values

/-- Fills the cells of a block from streams that are set to its seed, by row and column within the
block. A block of a scarce matrix gets one value; any other is filled by the pattern of its shape
and budget. -/
def fillCells (rule : FillRule) (height width budget : Nat) (streams : Streams) :
    Except Fault BlockPass :=
  let ⟨values, occupancy⟩ := streams
  let density := rule.blueprint.density
  let size := height * width
  if rule.scarce then do
    let size ← Size.mul height width
    let _ ← Size.sub size 1
    return rule.fillOneCell width size occupancy values
  else
    match FillPattern.select height width budget density with
    | .geometricGaps =>
        if small : size < Size.limit then
          .ok (rule.fillByGaps width size small (1.0 - density).log budget 0 0 occupancy values)
        else .error .overflow
    | .everyCell =>
        -- The cells are only counted behind the last one, but nothing is kept of a run that faults.
        if size < Size.limit then
          .ok (rule.fillEveryCell width size occupancy height 0 values)
        else .error .overflow
    | .coinPerCell => .ok (rule.fillByCoins width density budget height 0 0 occupancy values)

/-- A write moved from the block to the matrix. -/
def shift (firstRow firstCol : Nat) (write : Write) : Except Fault Write := do
  return ⟨← Size.add firstRow write.row, ← Size.add firstCol write.col, write.value⟩

/-- Fills a block, by row and column of the matrix, from streams that are anywhere. Without a budget
or at density zero nothing is written, and the streams stay where they are. -/
def fillBlock (rule : FillRule) (block : BlockIndex) (seed : UInt64) (budget : Nat)
    (streams : Streams) : Except Fault BlockPass := do
  let grid := rule.blueprint.grid
  if budget = 0 || rule.blueprint.density ≤ 0.0 then return .ended 0 streams
  else
    let height ← grid.heightAt block.row
    let width ← grid.widthAt block.col
    let firstRow ← Size.mul block.row grid.blockHeight
    let firstCol ← Size.mul block.col grid.blockWidth
    let pass ← rule.fillCells height width budget (streams.reseed seed)
    return pass.map (shift firstRow firstCol)

end FillRule

end SeededMatrix
