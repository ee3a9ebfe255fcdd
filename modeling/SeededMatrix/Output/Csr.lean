import SeededMatrix.Output.Matrix

/-!
# Compressed sparse rows

The non-zero cells of a matrix as three tables: the columns and the values of all stored cells, row
after row, and the position where each row begins. Columns strictly increase within a row.
-/

namespace SeededMatrix

/-- Compressed rows of a shape. -/
structure Csr where
  rows : Nat
  cols : Nat
  /-- Where each row begins; one more position ends the last row. -/
  rowStarts : Array Nat
  columns : Array Nat
  values : Array Float

namespace Csr

/-- The stored cells of one row that are not zero. -/
def nonZeroEntries (row : StoredRow) : Array Entry :=
  row.entries.filter fun entry => entry.value != 0.0

/-- Whether columns strictly increase and stay below `cols`. -/
def increasing (cols : Nat) : List Nat → Bool
  | [] => true
  | [column] => column < cols
  | column :: next :: columns => column < next && increasing cols (next :: columns)

/-- Whether every row has increasing columns within the shape. -/
def wellFormed (csr : Csr) : Bool :=
  (List.range csr.rows).all fun row =>
    let first := csr.rowStarts.getD row 0
    let last := csr.rowStarts.getD (row + 1) 0
    increasing csr.cols (csr.columns.extract first last).toList

/-- Compresses rows of non-zero entries. Their columns and values are appended one after the other;
each of them takes eight bytes. A row whose columns do not increase within the shape is a fault. -/
def ofEntries (rows cols : Nat) (entries : Array (Array Entry)) : Except Fault Csr := do
  let stored := entries.flatten
  Size.append stored.size 8
  let rowStarts ← Size.runningSums (entries.map Array.size)
  let csr : Csr := ⟨rows, cols, rowStarts, stored.map Entry.column, stored.map Entry.value⟩
  if csr.wellFormed then return csr else .error .malformedCsr

/-- The non-zero cells of each row of a matrix. -/
def rowEntries (matrix : OutputMatrix) : Array (Array Entry) :=
  match matrix.storage with
  | .unallocated => Array.replicate matrix.rows #[]
  | .dense grid => (Storage.rowsOfGrid grid).map nonZeroEntries
  | .sparse rows => rows.map nonZeroEntries

/-- The non-zero cells of a matrix; the table of their numbers takes eight bytes per row. -/
def ofMatrix (matrix : OutputMatrix) : Except Fault Csr := do
  Size.reserve matrix.rows 8
  ofEntries matrix.rows matrix.cols (rowEntries matrix)

end Csr

end SeededMatrix
