import SeededMatrix.Blueprint
import SeededMatrix.Random.Word

/-!
# Budgets of non-zero cells

The number of non-zero cells that each block may get, as a one-shot stream in the order of the
blocks. With fewer expected cells than blocks, a coin decides for each block whether it gets one
cell or none, with a probability in proportion to the block's area; that is right on average, but no
block gets two. Otherwise a block gets its share of the area, rounded down.
-/

namespace SeededMatrix

open SeededMatrix.Random

/-- How a budget is estimated. -/
inductive BudgetRule
  /-- A coin for each block; `probability` is that of a full block. -/
  | coins (probability : Float) (source : Xoshiro)
  /-- The wanted share of the block's area. -/
  | share

/-- The budgets of the blocks from number `position` on. -/
structure BudgetStream where
  grid : BlockGrid
  density : Float
  blocks : Nat
  blocksAcross : Nat
  position : Nat
  rule : BudgetRule

namespace BudgetStream

/-- Starts the stream of a grid; the seed drives the coins. -/
def ofGrid (grid : BlockGrid) (density : Float) (seed : UInt64) : Except Failure BudgetStream := do
  if grid.rows = 0 || grid.cols = 0 || grid.blockHeight = 0 || grid.blockWidth = 0 then
    refuseShape
      (.emptyGrid grid.rows grid.cols grid.blockHeight grid.blockWidth)
  let blocksAcross ← grid.blocksAcross
  let blocks ← grid.admittedBlocks
  let rule :=
    if grid.isScarce blocks density then
      .coins (Size.toFloat (grid.expectedNonZeros density) / Size.toFloat blocks)
        (Xoshiro.ofSeed seed)
    else .share
  return ⟨grid, density, blocks, blocksAcross, 0, rule⟩

/-- Starts the stream of a blueprint. -/
def ofBlueprint (blueprint : Blueprint) (seed : UInt64) : Except Failure BudgetStream :=
  ofGrid blueprint.grid blueprint.density seed

/-- Whether coins decide. -/
def isScarce (stream : BudgetStream) : Bool :=
  match stream.rule with
  | .coins .. => true
  | .share => false

/-- Number of budgets to come. -/
def remaining (stream : BudgetStream) : Nat :=
  stream.blocks - stream.position

/-- Number of cells of a block, as a double. -/
def blockArea (stream : BudgetStream) (block : Nat) : Except Fault Float := do
  if stream.blocksAcross = 0 then throw .divisionByZero
  let rows ← stream.grid.heightAt (block / stream.blocksAcross)
  let cols ← stream.grid.widthAt (block % stream.blocksAcross)
  return Size.toFloat rows * Size.toFloat cols

/-- The budget of a block of this area, and the rule after it. -/
def estimate (stream : BudgetStream) (area : Float) : Nat × BudgetRule :=
  match stream.rule with
  | .coins probability source =>
      let capacity := Size.toFloat stream.grid.blockHeight * Size.toFloat stream.grid.blockWidth
      let (coin, source) := drawUnit source
      (if coin ≤ probability / capacity * area then 1 else 0, .coins probability source)
  | .share => (Size.ofFloat (stream.density * area), .share)

/-- The next budget and the stream behind it; nothing once every block had its turn. -/
def next? (stream : BudgetStream) : Except Fault (Option (Nat × BudgetStream)) := do
  if stream.blocks ≤ stream.position then return none
  else
    let area ← stream.blockArea stream.position
    let (budget, rule) := stream.estimate area
    return some (budget, { stream with position := stream.position + 1, rule })

/-- Appends up to `count` budgets to those taken before. -/
def takeOnto : (count : Nat) → (taken : Array Nat) → BudgetStream →
    Except Fault (Array Nat × BudgetStream)
  | 0, taken, stream => .ok (taken, stream)
  | count + 1, taken, stream => do
      match ← stream.next? with
      | some (budget, stream) => takeOnto count (taken.push budget) stream
      | none => return (taken, stream)

/-- Up to `count` budgets and the stream behind them. -/
def take (count : Nat) (stream : BudgetStream) : Except Fault (Array Nat × BudgetStream) :=
  takeOnto count #[] stream

/-- The budgets of all blocks to come. -/
def toTable (stream : BudgetStream) : Except Fault (Array Nat) := do
  return (← stream.take stream.remaining).1

end BudgetStream

end SeededMatrix
