import SeededMatrix.Output.Matrix

/-!
# Words about a matrix

The summary of a matrix shows its shape, its layout, its number of non-zero cells, and the upper
left corner of its cells. Events are what a run tells about its decisions; each has a level and a
wording in the log.
-/

namespace SeededMatrix

/-! ## Events -/

/-- How much a log line matters. -/
inductive Level
  | trace
  | debug
deriving DecidableEq, Repr

/-- A decision worth telling. -/
inductive Event
  /-- The generator of block seeds was set up from a root seed. -/
  | rootSeed (seed : UInt64)
  /-- All cells are zero; nothing is drawn. -/
  | allZero (rows cols : Nat)
  /-- All cells have one value; nothing is drawn. -/
  | constant (value : Float) (rows cols : Nat)
  /-- One task fills the matrix. -/
  | sequential (rows cols : Nat) (sparse : Bool) (tasks : Nat)
  /-- The blocks are shared out along an axis. -/
  | shared (axis : Axis) (shares blocksDown blocksAcross tasks : Nat)
  /-- The layout changed. -/
  | converted (conversion : Conversion)

namespace Event

/-- The level of an event. -/
def level : Event → Level
  | rootSeed _ => .trace
  | _ => .debug

/-- The wording of an event. -/
def text : Event → String
  | rootSeed seed => s!"Setting up RandSeeds with initial seed = {seed.toNat}."
  | allZero rows cols => s!"Shortcut: all-zero {rows}x{cols} output"
  | constant value rows cols =>
      "Shortcut: constant " ++ Decimal.shortest value ++ s!" over {rows}x{cols}"
  | sequential rows cols sparse tasks =>
      s!"Sequential rand: {rows}x{cols} (" ++ Layout.word sparse ++ s!" layout), k={tasks}"
  | shared axis shares blocksDown blocksAcross tasks =>
      "Parallel rand over " ++ axis.label ++
        s!": {shares} tasks for {blocksDown}x{blocksAcross} blocks, k={tasks}"
  | converted change =>
      s!"Converting {change.rows}x{change.cols} block ({change.nonZeros} nnz) to " ++
        Layout.word change.toSparse ++ " format"

/-- The log line of an event: its level, then its wording. -/
def line (event : Event) : String :=
  match event.level with
  | .trace => "TRACE " ++ event.text
  | .debug => "DEBUG " ++ event.text

end Event

/-! ## The summary -/

namespace OutputMatrix

/-- How many rows and columns the summary shows. -/
def shownCells : Nat := 5

/-- The shown cells of one row, each followed by a blank. -/
def shownRow (matrix : OutputMatrix) (row : Nat) : Except Fault String := do
  let cells ← (List.range (min shownCells matrix.cols)).mapM fun col => do
    return Decimal.fixed 4 (← matrix.get row col) ++ " "
  let more := if shownCells < matrix.cols then "..." else ""
  return s!"    row {row}: " ++ String.join cells ++ more ++ "\n"

/-- The shown rows, and how many are left out. Nothing is shown of what is not allocated. -/
def shownRows (matrix : OutputMatrix) : Except Fault String := do
  if matrix.rows = 0 || !matrix.hasStorage then return ""
  else
    let rows ← (List.range (min shownCells matrix.rows)).mapM matrix.shownRow
    let left := matrix.rows - min shownCells matrix.rows
    let more := if 0 < left then s!"    ... ({left} more rows)\n" else ""
    return "  content sample:\n" ++ String.join rows ++ more

/-- The summary of a matrix. -/
def summary (matrix : OutputMatrix) : Except Fault String := do
  let shown ← matrix.shownRows
  return "MatrixBlock \x7b\n" ++ s!"  dimensions: {matrix.rows} × {matrix.cols}\n" ++
    "  format: " ++ Layout.word matrix.sparse ++ s!"\n  nnz: {matrix.nonZeros}\n" ++ shown ++ "\x7d"

end OutputMatrix

end SeededMatrix
