import SeededMatrix.Size

/-!
# Storage of a matrix

A matrix stores nothing, a dense grid, or one sparse row per row. Values are read, written, counted
and carried over between the two layouts here.

A dense grid holds every cell of its shape, row after row. Its size is checked before it is made:
the product of the non-empty axes, and the bytes of all cells, must fit into half of the address
space.

A sparse row stores the cells that were written, each with its column, in the order of writing.
Whoever writes columns in increasing order can look them up by halving. An empty row makes room for
the cells that are expected in it before it stores the first one.
-/

namespace SeededMatrix

/-! ## Dense grids -/

/-- All cells of a shape, row after row. -/
structure Grid where
  rows : Nat
  cols : Nat
  cells : Array Float
  size_cells : cells.size = rows * cols

namespace Grid

/-- Whether a dense grid of this shape can be addressed. An empty axis does not excuse a huge one.
-/
def fits (rows cols : Nat) : Bool :=
  max rows 1 * max cols 1 ≤ Size.allocationLimit && rows * cols * 8 ≤ Size.allocationLimit

/-- The grid with one value in every cell. -/
def filled (rows cols : Nat) (value : Float) : Except Fault Grid :=
  if fits rows cols then
    .ok ⟨rows, cols, Array.replicate (rows * cols) value, Array.size_replicate⟩
  else .error .storageTooLarge

/-- The value of a cell. -/
def get (grid : Grid) (row col : Nat) : Except Fault Float :=
  if row < grid.rows ∧ col < grid.cols then
    match grid.cells[row * grid.cols + col]? with
    | some value => .ok value
    | none => .error .outOfBounds
  else .error .outOfBounds

/-- Sets the value of a cell. -/
def set (grid : Grid) (row col : Nat) (value : Float) : Except Fault Grid :=
  match grid with
  | ⟨rows, cols, cells, size_cells⟩ =>
      if row < rows ∧ col < cols then
        .ok ⟨rows, cols, cells.setIfInBounds (row * cols + col) value, by
          simpa using size_cells⟩
      else .error .outOfBounds

/-- Number of cells that are not zero. -/
def nonZeroCount (grid : Grid) : Nat :=
  grid.cells.foldl (fun count value => if value != 0.0 then count + 1 else count) 0

/-- The cells of one row. -/
def row (grid : Grid) (row : Nat) : Array Float :=
  grid.cells.extract (row * grid.cols) ((row + 1) * grid.cols)

end Grid

/-! ## Sparse rows -/

/-- A stored cell of a row. -/
structure Entry where
  column : Nat
  value : Float

/-- The stored cells of a row in the order of writing. -/
structure StoredRow where
  entries : Array Entry

namespace StoredRow

/-- A row without stored cells. -/
def empty : StoredRow := ⟨#[]⟩

instance : Inhabited StoredRow := ⟨empty⟩

/-- Number of stored cells. -/
def size (row : StoredRow) : Nat :=
  row.entries.size

/-- Columns of the stored cells. -/
def columns (row : StoredRow) : List Nat :=
  row.entries.toList.map Entry.column

/-- Values of the stored cells. -/
def values (row : StoredRow) : List Float :=
  row.entries.toList.map Entry.value

/-- A row with one more cell behind the others. -/
def push (row : StoredRow) (column : Nat) (value : Float) : StoredRow :=
  match row with
  | ⟨entries⟩ => ⟨entries.push ⟨column, value⟩⟩

/-- Room in an empty row for `room` cells, at least for one; a column and a value each take eight
bytes. A row that stores cells grows with them. -/
def makeRoom (row : StoredRow) (room : Nat) : Except Fault Unit :=
  if row.size = 0 then Size.reserve (max room 1) 8 else .ok ()

/-- Stores one more cell behind the others, with room for `room` cells if it is the first. -/
def store (row : StoredRow) (column : Nat) (value : Float) (room : Nat) :
    Except Fault StoredRow := do
  row.makeRoom room
  return row.push column value

/-- Position of the last of `remaining` entries from `first` on that does not lie right of `column`,
or `first` if all of them do. The columns must not decrease. -/
def seek (entries : Array Entry) (column : Nat) (remaining first : Nat) : Nat :=
  if 1 < remaining then
    let half := remaining / 2
    let right := (entries[first + half]?).any fun entry => column < entry.column
    seek entries column (remaining - half) (if right then first else first + half)
  else first
termination_by remaining

/-- The value at a column, zero if the column is not stored. -/
def get (row : StoredRow) (column : Nat) : Float :=
  match row.entries[seek row.entries column row.entries.size 0]? with
  | some entry => if entry.column = column then entry.value else 0.0
  | none => 0.0

/-- Number of stored cells that are not zero. -/
def nonZeroCount (row : StoredRow) : Nat :=
  row.entries.foldl (fun count entry => if entry.value != 0.0 then count + 1 else count) 0

/-- Whether all stored cells agree, a value that is not-a-number agreeing with none. -/
def agrees (left right : StoredRow) : Bool :=
  left.columns == right.columns && left.values == right.values

end StoredRow

/-! ## Either layout -/

/-- What a matrix stores. -/
inductive Storage
  /-- Nothing; every cell reads as zero. -/
  | unallocated
  /-- Every cell. -/
  | dense (grid : Grid)
  /-- The written cells of each row. -/
  | sparse (rows : Array StoredRow)

namespace Storage

/-- A table of empty sparse rows; each slot of the table takes 48 bytes. -/
def emptyRows (rows : Nat) : Except Fault Storage := do
  Size.reserve rows 48
  return sparse (Array.replicate rows .empty)

/-- The value of a cell within the shape of the matrix. -/
def get (storage : Storage) (row col : Nat) : Except Fault Float :=
  match storage with
  | unallocated => .ok 0.0
  | dense grid => grid.get row col
  | sparse rows =>
      match rows[row]? with
      | some stored => .ok (stored.get col)
      | none => .error .outOfBounds

/-- Writes a value: a dense cell is set, a sparse row stores one more cell. A sparse row without
cells first makes room for `room` of them. -/
def put (storage : Storage) (row col : Nat) (value : Float) (room : Nat) :
    Except Fault Storage :=
  match storage with
  | unallocated => .error .outOfBounds
  | dense grid => do return dense (← grid.set row col value)
  | sparse rows =>
      if row < rows.size then do
        return sparse (← rows.modifyM row (·.store col value room))
      else .error .outOfBounds

/-- Number of stored cells that are not zero. -/
def nonZeroCount : Storage → Nat
  | unallocated => 0
  | dense grid => grid.nonZeroCount
  | sparse rows => rows.foldl (fun count row => count + row.nonZeroCount) 0

/-- The sparse rows of a dense grid: its cells that are not zero. -/
def rowsOfGrid (grid : Grid) : Array StoredRow :=
  Array.ofFn fun row : Fin grid.rows =>
    ((grid.row row).foldl (fun (stored, col) value =>
      (if value != 0.0 then stored.push col value else stored, col + 1))
      (StoredRow.empty, 0)).1

/-- The sparse rows of a dense grid, if there is room for them: a table of 48 bytes per row, and
eight bytes for each column and each value of a row, which are appended one after the other. -/
def sparseOfGrid (grid : Grid) : Except Fault (Array StoredRow) := do
  Size.reserve grid.rows 48
  let rows := rowsOfGrid grid
  rows.toList.forM fun row => Size.append row.size 8
  return rows

/-- Writes the stored cells of one row into a grid, later ones over earlier ones. -/
def scatterRow (grid : Grid) (row : Nat) (stored : StoredRow) : Except Fault Grid :=
  stored.entries.foldlM (fun grid entry => grid.set row entry.column entry.value) grid

/-- Writes the stored cells of consecutive rows into a grid. -/
def scatter : (rows : List StoredRow) → (row : Nat) → Grid → Except Fault Grid
  | [], _, grid => .ok grid
  | stored :: rows, row, grid => do scatter rows (row + 1) (← scatterRow grid row stored)

/-- The dense grid of sparse rows. -/
def gridOfRows (rows : Array StoredRow) (cols : Nat) : Except Fault Grid := do
  scatter rows.toList 0 (← Grid.filled rows.size cols 0.0)

/-- The storage in the other layout; what is not allocated stays so. -/
def convert (storage : Storage) (cols : Nat) : Except Fault Storage :=
  match storage with
  | unallocated => .ok unallocated
  | dense grid => do return sparse (← sparseOfGrid grid)
  | sparse rows => do return dense (← gridOfRows rows cols)

end Storage

end SeededMatrix
