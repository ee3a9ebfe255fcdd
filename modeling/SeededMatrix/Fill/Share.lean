import SeededMatrix.Fill.Window

/-!
# Sharing the blocks out

To be filled by several tasks, the grid of blocks is cut along one axis into balanced spans of
blocks, and the matrix into the regions of their cells. Each task gets a window of blocks, the
region that holds them and the seeds of exactly its blocks, so that tasks have nothing in common.
-/

namespace SeededMatrix

/-- The part of one task. -/
structure Share where
  task : Nat
  window : BlockWindow
  region : Region
  seeds : Array UInt64

namespace Share

/-- The axis along which blocks are shared out: columns only if the matrix is dense, has fewer rows
of blocks than tasks, and more columns of blocks than rows of blocks. -/
def axis (sparse : Bool) (blocksDown blocksAcross tasks : Nat) : Axis :=
  if !sparse && blocksDown < tasks && blocksDown < blocksAcross then .cols else .rows

/-- The cells of a span of blocks; the last block may be cut off by the end of the axis. -/
def cellSpan (blockLength extent : Nat) (blocks : Span) : Except Fault Span := do
  let start ← Size.mul blocks.start blockLength
  let stop ← Size.mul blocks.stop blockLength
  return ⟨start, min stop extent⟩

/-- The window of a span of blocks along an axis, whole along the other axis. -/
def windowOf (axis : Axis) (blocksDown blocksAcross : Nat) (blocks : Span) : BlockWindow :=
  match axis with
  | .rows => ⟨blocks, .upTo blocksAcross⟩
  | .cols => ⟨.upTo blocksDown, blocks⟩

/-- The spans of blocks that the tasks get; each takes sixteen bytes. -/
def spansOf (blocks tasks : Nat) : Except Fault (List Span) := do
  Size.reserve (min tasks blocks) 16
  return Span.balanced blocks tasks

/-- The spans of blocks that the tasks get along an axis. -/
def blockSpans (axis : Axis) (blocksDown blocksAcross tasks : Nat) : Except Fault (List Span) :=
  match axis with
  | .rows => spansOf blocksDown tasks
  | .cols => spansOf blocksAcross tasks

/-- The spans of cells that the tasks get. -/
def cellSpans (grid : BlockGrid) (axis : Axis) (spans : List Span) : Except Fault (List Span) :=
  match axis with
  | .rows => spans.mapM (cellSpan grid.blockHeight grid.rows)
  | .cols => spans.mapM (cellSpan grid.blockWidth grid.cols)

/-- Joins each region with its span of blocks and the seeds of these blocks. -/
def assemble (axis : Axis) (blocksDown blocksAcross : Nat) (seeds : Array UInt64) :
    (task : Nat) → List Region → List Span → Except Fault (List Share)
  | task, region :: regions, blocks :: spans => do
      let window := windowOf axis blocksDown blocksAcross blocks
      let own ← SeedTable.window seeds window.rows window.cols blocksAcross
      let shares ← assemble axis blocksDown blocksAcross seeds (task + 1) regions spans
      return ⟨task, window, region, own⟩ :: shares
  | _, _, _ => .ok []

/-- The shares of an allocated matrix, one for each span of blocks along an axis. -/
def ofSpans (matrix : OutputMatrix) (grid : BlockGrid) (axis : Axis) (blocksDown blocksAcross : Nat)
    (seeds : Array UInt64) (spans : List Span) : Except Failure (List Share) := do
  let cells ← cellSpans grid axis spans
  let regions ← matrix.regions axis cells
  assemble axis blocksDown blocksAcross seeds 0 regions spans

/-- The writes of one task. -/
def writes (share : Share) (blueprint : Blueprint) (budgets : Array Nat) :
    Except Failure Writes := do
  let rule ← FillRule.ofBlueprint blueprint
  rule.windowWrites share.window budgets (.table share.seeds)

/-- Does the work of one task: puts its writes through its region. -/
def fill (share : Share) (blueprint : Blueprint) (budgets : Array Nat) (matrix : OutputMatrix) :
    Except Failure OutputMatrix := do
  matrix.putAll share.region (← share.writes blueprint budgets)

/-- A refusal met in a task, wrapped with the number of the task. -/
def wrapRefusal {α : Type} (task : Nat) : Except Failure α → Except Failure α
  | .error (.refusal refusal) => .error (.refusal (.inTask task refusal))
  | outcome => outcome

/-- Runs tasks one after the other, each through its own region. -/
def run (blueprint : Blueprint) (budgets : Array Nat) :
    List Share → OutputMatrix → Except Failure OutputMatrix
  | [], matrix => .ok matrix
  | share :: shares, matrix => do
      let matrix ← wrapRefusal share.task (share.fill blueprint budgets matrix)
      run blueprint budgets shares matrix

end Share

end SeededMatrix
