import SeededMatrix.Failure
import SeededMatrix.Output.Storage

/-!
# Regions of a matrix

A region is a rectangle of the stored cells that one writer owns. It is addressed by the coordinates
of the whole matrix: `firstRow` and `firstCol` are those of its first cell. Where it lies in the
storage is kept apart (`rowBase`, `colBase`), because consecutive spans are cut off the storage one
after the other by their lengths. A region of sparse rows also knows how many cells are expected in
each of them.
-/

namespace SeededMatrix

/-- Between which neighbours a matrix is cut. -/
inductive Axis
  | rows
  | cols
deriving DecidableEq, Repr

/-- The name of an axis in a log line. -/
def Axis.label : Axis → String
  | .rows => "Rows"
  | .cols => "Cols"

/-- A rectangle of stored cells. -/
structure Region where
  /-- Row of the matrix that the first row of the region counts as. -/
  firstRow : Nat
  /-- Column of the matrix that the first column of the region counts as. -/
  firstCol : Nat
  rows : Nat
  cols : Nat
  /-- Stored row where the region begins. -/
  rowBase : Nat
  /-- Stored column where the region begins. -/
  colBase : Nat
  /-- Whether the region lies in sparse rows. -/
  sparse : Bool
  /-- Cells that an empty sparse row makes room for before it stores the first one. -/
  room : Nat
deriving DecidableEq, Repr

namespace Region

/-- Whether a cell of the matrix lies in the region. -/
def contains (region : Region) (row col : Nat) : Bool :=
  region.firstRow ≤ row && row < region.firstRow + region.rows &&
    region.firstCol ≤ col && col < region.firstCol + region.cols

/-- Writes a cell of the matrix through the region; a cell outside of it is a fault of a checked
build. -/
def put (region : Region) (storage : Storage) (row col : Nat) (value : Float) :
    Except Fault Storage :=
  if region.contains row col then
    storage.put (region.rowBase + (row - region.firstRow))
      (region.colBase + (col - region.firstCol)) value region.room
  else .error (.cellOutsideRegion row col)

/-- Cuts consecutive spans off a length of `stored` rows or columns, from `base` on. Each span gets
the region that `regionAt` makes of it and of the place where it begins. -/
def cut (stored : Nat) (regionAt : Span → Nat → Region) :
    (base : Nat) → List Span → Except Fault (List Region)
  | _, [] => .ok []
  | base, span :: spans =>
      if base + span.length ≤ stored then do
        return regionAt span base :: (← cut stored regionAt (base + span.length) spans)
      else .error .outOfBounds

/-- The rows of a span in a dense grid of `cols` columns. -/
def denseRows (cols : Nat) (span : Span) (base : Nat) : Region :=
  ⟨span.start, 0, span.length, cols, base, 0, false, 0⟩

/-- The columns of a span in a dense grid of `rows` rows. -/
def denseCols (rows : Nat) (span : Span) (base : Nat) : Region :=
  ⟨0, span.start, rows, span.length, 0, base, false, 0⟩

/-- The sparse rows of a span, of `cols` columns. Each row has room for `room` cells. -/
def sparseRows (cols room : Nat) (span : Span) (base : Nat) : Region :=
  ⟨span.start, 0, span.length, cols, base, 0, true, room⟩

end Region

end SeededMatrix
