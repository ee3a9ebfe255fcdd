import SeededMatrix.Output.Region

/-!
# The output matrix

The matrix that generation writes: its shape, its layout, a cached number of non-zero cells, an
estimate of the non-zero cells per row, and its storage. The layout is chosen before anything is
written: sparse rows when few cells will be non-zero and the rows are estimated to take less memory
than all cells would. Writers get disjoint regions of the allocated storage.

What fills a matrix is a sequence of writes that is drawn one write at a time: the next write is
only computed once the one before it was put, so that a write that faults ends the drawing as well.
A sequence ends in good order or with a failure.
-/

namespace SeededMatrix

/-! ## Choosing a layout -/

namespace Layout

/-- Share of non-zero cells from which on a matrix is always dense. -/
def denseShare : Float := 0.4

/-- Bytes of one cell of a dense matrix. -/
def bytesPerCell : Float := 8.0

/-- Bytes of a sparse row that holds entries, besides the entries. -/
def bytesPerRow : Float := 48.0

/-- Bytes of one entry of a sparse row. -/
def bytesPerEntry : Float := 16.0

/-- Bytes by which the table of sparse rows grows per row. -/
def bytesPerSlot : Float := 8.0

/-- Estimated bytes of sparse rows: at most as many rows hold entries as there are entries. -/
def sparseBytes (rows cols : Nat) (density : Float) : Float :=
  let nonZeros := density * Size.toFloat rows * Size.toFloat cols
  let occupiedRows := min (Size.toFloat rows) (Size.ceil nonZeros)
  Size.toFloat rows * bytesPerSlot + occupiedRows * bytesPerRow +
    nonZeros * bytesPerEntry

/-- Bytes of all cells. -/
def denseBytes (rows cols : Nat) : Float :=
  Size.toFloat rows * Size.toFloat cols * bytesPerCell

/-- Whether a matrix with this shape and number of non-zero cells is held as sparse rows. An empty
matrix is dense. -/
def prefersSparse (rows cols nonZeros : Nat) : Bool :=
  if rows = 0 || cols = 0 then false
  else
    let density := Size.toFloat nonZeros / Size.toFloat rows / Size.toFloat cols
    density < denseShare && sparseBytes rows cols density < denseBytes rows cols

/-- The word for a layout. -/
def word (sparse : Bool) : String :=
  if sparse then "sparse" else "dense"

end Layout

/-! ## The matrix and its regions -/

/-- A matrix in the making, or made. -/
structure OutputMatrix where
  rows : Nat
  cols : Nat
  /-- Whether the layout is that of sparse rows. -/
  sparse : Bool
  /-- The number of non-zero cells when they were last counted. -/
  nonZeros : Nat
  /-- The non-zero cells expected in each row. -/
  nonZerosPerRow : Nat
  storage : Storage

/-- A change of layout. -/
structure Conversion where
  rows : Nat
  cols : Nat
  nonZeros : Nat
  toSparse : Bool
deriving DecidableEq, Repr

namespace OutputMatrix

/-- A matrix of this shape and layout without storage. -/
def unallocated (rows cols : Nat) (sparse : Bool) : OutputMatrix :=
  ⟨rows, cols, sparse, 0, 0, .unallocated⟩

/-- Whether anything is allocated. -/
def hasStorage (matrix : OutputMatrix) : Bool :=
  match matrix.storage with
  | .unallocated => false
  | _ => true

/-- The expected non-zero cells per row, rounded up. -/
def perRow (rows nonZeros : Nat) : Nat :=
  if rows = 0 then 0
  else Size.ofFloat (Size.ceil (Size.toFloat nonZeros / Size.toFloat rows))

/-- A matrix of a new shape and layout without storage; nothing of the old one stays. -/
def reshape (_ : OutputMatrix) (rows cols : Nat) (sparse : Bool) (expectedNonZeros : Nat) :
    OutputMatrix :=
  ⟨rows, cols, sparse, 0, perRow rows expectedNonZeros, .unallocated⟩

/-- A dense matrix of a new shape with one value in every cell. Zeros are not allocated. -/
def refill (matrix : OutputMatrix) (rows cols : Nat) (value : Float) :
    Except Fault OutputMatrix := do
  let matrix := matrix.reshape rows cols false 0
  if value == 0.0 then return matrix
  else
    let grid ← Grid.filled rows cols value
    return { matrix with nonZeros := ← Size.mul rows cols, storage := .dense grid }

/-- Allocates a dense grid of zeros. -/
def allocateDense (matrix : OutputMatrix) : Except Fault OutputMatrix := do
  let grid ← Grid.filled matrix.rows matrix.cols 0.0
  return { matrix with sparse := false, storage := .dense grid }

/-- Allocates a table of empty sparse rows. -/
def allocateSparse (matrix : OutputMatrix) : Except Fault OutputMatrix := do
  let storage ← Storage.emptyRows matrix.rows
  return { matrix with sparse := true, storage }

/-- Empties the matrix, gives it a new shape and layout, and allocates its storage. -/
def allocate (matrix : OutputMatrix) (rows cols : Nat) (sparse : Bool) (expectedNonZeros : Nat) :
    Except Fault OutputMatrix :=
  let matrix := matrix.reshape rows cols sparse expectedNonZeros
  if sparse then matrix.allocateSparse else matrix.allocateDense

/-- Counts the non-zero cells and keeps the number. -/
def recount (matrix : OutputMatrix) : OutputMatrix :=
  { matrix with nonZeros := matrix.storage.nonZeroCount }

/-- Changes the layout if the kept number of non-zero cells calls for the other one, and tells so.
-/
def settleLayout (matrix : OutputMatrix) : Except Fault (OutputMatrix × Option Conversion) := do
  let toSparse := Layout.prefersSparse matrix.rows matrix.cols matrix.nonZeros
  if toSparse = matrix.sparse then return (matrix, none)
  else
    let storage ← matrix.storage.convert matrix.cols
    return ({ matrix with sparse := toSparse, storage },
      some ⟨matrix.rows, matrix.cols, matrix.nonZeros, toSparse⟩)

/-- Whether writers of disjoint regions may share the matrix when it is cut along an axis: dense
storage may be cut either way, sparse rows only between rows. -/
def canShare (matrix : OutputMatrix) (axis : Axis) : Bool :=
  match matrix.storage with
  | .unallocated => false
  | .dense _ => true
  | .sparse _ => axis = .rows

/-- Number of cells along an axis. -/
def extent (matrix : OutputMatrix) : Axis → Nat
  | .rows => matrix.rows
  | .cols => matrix.cols

/-- The first two neighbouring spans that do not meet. -/
def firstGap? : List Span → Option (Span × Span)
  | left :: right :: spans =>
      if left.stop = right.start then firstGap? (right :: spans) else some (left, right)
  | _ => none

/-- Refuses spans that do not meet, that begin backwards or that end past the axis. -/
def checkSpans (matrix : OutputMatrix) (axis : Axis) (spans : List Span) :
    Except Failure Unit := do
  if let some (left, right) := firstGap? spans then refuseShape (.spansApart left right)
  if let (some first, some last) := (spans.head?, spans.getLast?) then
    if first.stop < first.start || matrix.extent axis < last.stop then
      refuseShape (.spansPastAxis first.start last.stop (matrix.extent axis))

/-- Cuts the storage into one region per span of an axis. Joints and ends of the spans are checked;
their lengths are then cut off the storage one after the other, which faults when it runs out. -/
def regions (matrix : OutputMatrix) (axis : Axis) (spans : List Span) :
    Except Failure (List Region) := do
  matrix.checkSpans axis spans
  let base := (spans.head?.map Span.start).getD 0
  match matrix.storage, axis with
  | .dense grid, .rows => Region.cut grid.rows (Region.denseRows grid.cols) base spans
  | .dense grid, .cols => Region.cut grid.cols (Region.denseCols grid.rows) base spans
  | .sparse rows, .rows =>
      Region.cut rows.size (Region.sparseRows matrix.cols matrix.nonZerosPerRow) base spans
  | .sparse _, .cols => refuseShape .sparseColumns
  | .unallocated, _ => refuseShape (.unallocated matrix.rows matrix.cols)

/-- The region of all cells. -/
def wholeRegion (matrix : OutputMatrix) : Except Failure Region := do
  match (← matrix.regions .rows [.upTo matrix.rows]).getLast? with
  | some region => return region
  | none => refuseShape .noRegion

/-- The value of a cell; cells that are not allocated read as zero. -/
def get (matrix : OutputMatrix) (row col : Nat) : Except Fault Float :=
  if row < matrix.rows ∧ col < matrix.cols then matrix.storage.get row col
  else .error (.cellOutsideMatrix row col matrix.rows matrix.cols)

/-- The cells as a dense grid, whatever the layout. -/
def toGrid (matrix : OutputMatrix) : Except Fault Grid :=
  match matrix.storage with
  | .unallocated => Grid.filled matrix.rows matrix.cols 0.0
  | .dense grid => .ok grid
  | .sparse rows => Storage.gridOfRows rows matrix.cols

end OutputMatrix

/-! ## Sequences of writes -/

/-- A value for a cell. -/
structure Write where
  row : Nat
  col : Nat
  value : Float

/-- Writes in their order, each drawn when it is needed. -/
inductive Writes
  /-- All writes are drawn. -/
  | done
  /-- No further write can be drawn. -/
  | failed (failure : Failure)
  /-- A write, and what follows it. -/
  | next (write : Write) (rest : Unit → Writes)

namespace Writes

/-- The writes of a list. -/
def ofList : List Write → Writes
  | [] => done
  | write :: writes => next write fun _ => ofList writes

/-- Puts the writes through a region, one after the other. -/
def putThrough (region : Region) : Writes → Storage → Except Failure Storage
  | done, storage => .ok storage
  | failed failure, _ => .error failure
  | next write rest, storage =>
      match region.put storage write.row write.col write.value with
      | .ok storage => putThrough region (rest ()) storage
      | .error fault => .error (.fault fault)

end Writes

/-- Puts writes through a region of a matrix. -/
def OutputMatrix.putAll (matrix : OutputMatrix) (region : Region) (writes : Writes) :
    Except Failure OutputMatrix :=
  match matrix with
  | ⟨rows, cols, sparse, nonZeros, nonZerosPerRow, storage⟩ => do
      let storage ← writes.putThrough region storage
      return ⟨rows, cols, sparse, nonZeros, nonZerosPerRow, storage⟩

end SeededMatrix
