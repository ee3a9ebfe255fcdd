import SeededMatrix.Fill.Block
import SeededMatrix.Random.Well

/-!
# Filling a window of blocks

Every block has a seed of its own. A table of seeds is drawn in the order of the blocks from a
generator that a root seed sets up, or handed in as one seed for all blocks. A window is a rectangle
in the grid of blocks; a window of the table keeps the order, so that the seeds of the rectangle
still meet their blocks.

The blocks of a window are visited row after row; each takes the next seed and the budget of its own
number, and its writes follow those of the block before it. The two streams are handed on from block
to block.
-/

namespace SeededMatrix

open SeededMatrix.Random

/-! ## Seed tables -/

/-- Where the seeds of the blocks come from. -/
inductive SeedOrigin
  /-- A generator that draws one seed per block. -/
  | drawn (generator : Well)
  /-- One seed that stands for the seed of every block. -/
  | shared (seed : UInt64)

namespace SeedTable

/-- Draws the seeds of a grid of blocks; room for all of them is reserved at once. -/
def draw (generator : Well) (blocksDown blocksAcross : Nat) : Except Fault (Array UInt64) := do
  let blocks ← Size.mul blocksDown blocksAcross
  Size.reserve blocks 8
  return (generator.drawWords64 blocks).1

/-- The entries of `width` columns from `first` on, in one row of a table with `blocksAcross`
columns. -/
def rowWindow {α : Type} (table : Array α) (blocksAcross first width row : Nat) :
    Except Fault (Array α) := do
  let start ← Size.add (← Size.mul row blocksAcross) first
  let stop ← Size.add start width
  if stop ≤ table.size then return table.extract start stop else throw .outOfBounds

/-- Appends the windows of `count` consecutive rows. -/
def appendRows {α : Type} (table : Array α) (blocksAcross first width : Nat) :
    (count row : Nat) → (taken : Array α) → Except Fault (Array α)
  | 0, _, taken => .ok taken
  | count + 1, row, taken => do
      let entries ← rowWindow table blocksAcross first width row
      appendRows table blocksAcross first width count (row + 1) (taken ++ entries)

/-- The entries of a rectangle of blocks, row after row; room for all of them is reserved at once.
-/
def window {α : Type} (table : Array α) (rows cols : Span) (blocksAcross : Nat) :
    Except Fault (Array α) := do
  Size.reserve (← Size.mul rows.length cols.length) 8
  appendRows table blocksAcross cols.start cols.length rows.length rows.start #[]

end SeedTable

/-! ## Windows -/

/-- A rectangle of blocks. -/
structure BlockWindow where
  rows : Span
  cols : Span
deriving DecidableEq, Repr

/-- The blocks of a window, row after row. -/
def BlockWindow.blocks (window : BlockWindow) : List BlockIndex :=
  window.rows.indices.flatMap fun row => window.cols.indices.map fun col => ⟨row, col⟩

/-- The seeds of the blocks of a window. -/
inductive WindowSeeds
  /-- One seed per visited block, in the order of the visit. -/
  | table (seeds : Array UInt64)
  /-- One seed for every block. -/
  | single (seed : UInt64)

/-- The seed of the block that is visited as number `visit`. -/
def WindowSeeds.get (seeds : WindowSeeds) (visit : Nat) (block : BlockIndex) :
    Except Failure UInt64 :=
  match seeds with
  | table seeds =>
      match seeds[visit]? with
      | some seed => .ok seed
      | none => refuseShape (.missingSeed seeds.size block.row block.col)
  | single seed => .ok seed

namespace FillRule

/-- The budget of a block, by its number in the whole grid. -/
def budgetOf (budgets : Array Nat) (blocksAcross : Nat) (block : BlockIndex) :
    Except Failure Nat := do
  let number ← Size.add (← Size.mul block.row blocksAcross) block.col
  match budgets[number]? with
  | some budget => return budget
  | none => refuseShape (.missingBudget budgets.size number)

/-- Fills the next block to be visited, as number `visit`. -/
def fillVisited (rule : FillRule) (blocksAcross : Nat) (budgets : Array Nat) (seeds : WindowSeeds)
    (block : BlockIndex) (visit : Nat) (streams : Streams) : Except Failure BlockPass := do
  let seed ← seeds.get visit block
  let budget ← budgetOf budgets blocksAcross block
  rule.fillBlock block seed budget streams

/-- The writes of the blocks to come, each filled from the streams that the one before it leaves;
`visit` blocks have been visited before. -/
def fillBlocks (rule : FillRule) (blocksAcross : Nat) (budgets : Array Nat) (seeds : WindowSeeds) :
    List BlockIndex → (visit : Nat) → Streams → Writes
  | [], _, _ => .done
  | block :: blocks, visit, streams =>
      match rule.fillVisited blocksAcross budgets seeds block visit streams with
      | .ok pass =>
          pass.andThen (fillBlocks rule blocksAcross budgets seeds blocks (visit + 1))
      | .error failure => .failed failure

/-- The writes of the blocks of a window. `budgets` is the table of the whole grid, `seeds` that of
the window. -/
def windowWrites (rule : FillRule) (window : BlockWindow) (budgets : Array Nat)
    (seeds : WindowSeeds) : Except Failure Writes := do
  let blocksAcross ← rule.blueprint.grid.blocksAcross
  return rule.fillBlocks blocksAcross budgets seeds window.blocks 0 .initial

end FillRule

end SeededMatrix
