import SeededMatrix.Budget
import SeededMatrix.Fill.Share
import SeededMatrix.Session

/-!
# Generating a random matrix

Generation first plans: it counts the blocks, takes the table of budgets and chooses a layout, all
without touching the output. Then it empties and allocates the output, draws one seed per block, and
fills the blocks in order or shared out among tasks. The number of tasks never changes the matrix.
At the end the non-zero cells are counted and the layout is settled.
-/

namespace SeededMatrix

open SeededMatrix.Random

/-- Where the budgets of the blocks come from. -/
inductive BudgetSource
  /-- One entry per block, row after row; more entries are ignored. -/
  | table (entries : Array Nat)
  /-- An estimate, taken when it is needed. -/
  | stream (estimate : BudgetStream)

/-- The table of budgets. -/
def BudgetSource.toTable : BudgetSource → Except Fault (Array Nat)
  | table entries => .ok entries
  | stream estimate => estimate.toTable

/-- What is decided before the output is touched. -/
structure Plan where
  blueprint : Blueprint
  blocksDown : Nat
  blocksAcross : Nat
  budgets : Array Nat
  expectedNonZeros : Nat
  /-- Whether the cells are written to sparse rows. -/
  sparse : Bool

namespace Plan

/-- Number of cells from which on blocks are shared out. -/
def sharingThreshold : Nat := 512 * 1024

/-- The non-zero cells to expect: by the density if each block has a seed, by the budget of the
first block if one seed stands for all. -/
def expected (blueprint : Blueprint) (budgets : Array Nat) : SeedOrigin → Except Fault Nat
  | .drawn _ =>
      .ok (Size.ofFloat (blueprint.density * Size.toFloat blueprint.grid.rows *
        Size.toFloat blueprint.grid.cols))
  | .shared _ =>
      match budgets[0]? with
      | some budget => .ok budget
      | none => .error .outOfBounds

/-- Plans the generation of a blueprint; too many blocks and too few budgets are refused. -/
def ofBlueprint (blueprint : Blueprint) (budgets : BudgetSource) (seeds : SeedOrigin) :
    Except Failure Plan := do
  let grid := blueprint.grid
  let blocksDown ← grid.blocksDown
  let blocksAcross ← grid.blocksAcross
  let blocks ← grid.admittedBlocks
  let budgets ← budgets.toTable
  if budgets.size < blocks then refuseShape (.shortBudgetTable budgets.size blocks)
  let expectedNonZeros ← expected blueprint budgets seeds
  let sparse := Layout.prefersSparse grid.rows grid.cols expectedNonZeros
  return { blueprint, blocksDown, blocksAcross, budgets, expectedNonZeros, sparse }

/-- The window of all blocks. -/
def window (plan : Plan) : BlockWindow :=
  ⟨.upTo plan.blocksDown, .upTo plan.blocksAcross⟩

/-- Fills all blocks of an allocated matrix in order. -/
def fillInOrder (plan : Plan) (seeds : WindowSeeds) (matrix : OutputMatrix) :
    Except Failure OutputMatrix := do
  let region ← matrix.wholeRegion
  let rule ← FillRule.ofBlueprint plan.blueprint
  let writes ← rule.windowWrites plan.window plan.budgets seeds
  matrix.putAll region writes

/-- Fills all blocks of an allocated matrix by one share for each span of blocks along an axis. -/
def fillShared (plan : Plan) (seeds : Array UInt64) (axis : Axis) (spans : List Span)
    (matrix : OutputMatrix) : Except Failure OutputMatrix := do
  let shares ← Share.ofSpans matrix plan.blueprint.grid axis plan.blocksDown plan.blocksAcross seeds
    spans
  Share.run plan.blueprint plan.budgets shares matrix

/-- Whether the blocks are shared out: among two tasks or more, not for sparse rows that one row of
blocks covers, from a number of cells on, and if the storage can be cut along the axis. -/
def sharesOut (plan : Plan) (axis : Axis) (tasks cells : Nat) (matrix : OutputMatrix) : Bool :=
  1 < tasks && !(plan.blueprint.grid.rows ≤ plan.blueprint.grid.blockHeight && plan.sparse) &&
    sharingThreshold ≤ cells && matrix.canShare axis

/-- Fills the allocated matrix of a session from a generator of block seeds. -/
def fillFromRoot (plan : Plan) (generator : Well) (tasks : Nat) : Action Unit := do
  let grid := plan.blueprint.grid
  let seeds ← SeedTable.draw generator plan.blocksDown plan.blocksAcross
  let cells ← Size.mul grid.rows grid.cols
  let axis := Share.axis plan.sparse plan.blocksDown plan.blocksAcross tasks
  if ← Action.inspect fun matrix => .ok (plan.sharesOut axis tasks cells matrix) then
    let spans ← Share.blockSpans axis plan.blocksDown plan.blocksAcross tasks
    Action.tell (.shared axis spans.length plan.blocksDown plan.blocksAcross tasks)
    Action.update (plan.fillShared seeds axis spans)
  else
    Action.tell (.sequential grid.rows grid.cols plan.sparse tasks)
    Action.update (plan.fillInOrder (.table seeds))

/-- Allocates and fills the matrix of a session, counts its non-zero cells and settles its layout.
-/
def execute (plan : Plan) (seeds : SeedOrigin) (tasks : Nat) : Action Unit := do
  let grid := plan.blueprint.grid
  Action.allocate grid.rows grid.cols plan.sparse plan.expectedNonZeros
  match seeds with
  | .drawn generator => plan.fillFromRoot generator tasks
  | .shared seed => Action.update (plan.fillInOrder (.single seed))
  discard Action.recount
  Action.settleLayout

end Plan

namespace Blueprint

/-- Makes the matrix of a blueprint that needs no draws: empty sparse rows for zeros, a filled grid
for any other value. -/
def generateConstant (blueprint : Blueprint) : Action Unit := do
  let grid := blueprint.grid
  if blueprint.least == 0.0 && blueprint.greatest == 0.0 then
    Action.tell (.allZero grid.rows grid.cols)
    Action.update fun matrix => .ok (matrix.reshape grid.rows grid.cols true 0)
  else
    Action.tell (.constant blueprint.least grid.rows grid.cols)
    Action.update fun matrix => matrix.refill grid.rows grid.cols blueprint.least

/-- Makes the matrix of a blueprint from the budgets and the seeds of its blocks, with up to `tasks`
tasks. -/
def generate (blueprint : Blueprint) (budgets : BudgetSource) (seeds : SeedOrigin) (tasks : Nat) :
    Action Unit := do
  if blueprint.needsNoDraws then blueprint.generateConstant
  else
    let plan ← Plan.ofBlueprint blueprint budgets seeds
    plan.execute seeds tasks

end Blueprint

end SeededMatrix
