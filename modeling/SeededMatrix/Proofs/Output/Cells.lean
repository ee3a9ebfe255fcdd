import SeededMatrix.Output.Storage
import SeededMatrix.Proofs.Sizes
import Mathlib.Tactic.Linarith

/-!
# Writing one cell

What one write does to a storage of known shape. A dense grid is told by the values of its cells, a
table of sparse rows by the entries of its rows. `put_eq` says when a write succeeds and what it
leaves behind; writes of different cells, or of different sparse rows, can change places.
-/

namespace SeededMatrix

/-! ## Dense grids -/

namespace Grid

/-- The grid with another value in one cell. -/
def setCell (grid : Grid) (row col : Nat) (value : Float) : Grid :=
  ⟨grid.rows, grid.cols, grid.cells.setIfInBounds (row * grid.cols + col) value, by
    simpa using grid.size_cells⟩

@[simp] theorem rows_setCell (grid : Grid) (row col : Nat) (value : Float) :
    (grid.setCell row col value).rows = grid.rows := rfl

@[simp] theorem cols_setCell (grid : Grid) (row col : Nat) (value : Float) :
    (grid.setCell row col value).cols = grid.cols := rfl

theorem set_eq {grid : Grid} {row col : Nat} (row_lt : row < grid.rows) (col_lt : col < grid.cols)
    (value : Float) : grid.set row col value = .ok (grid.setCell row col value) := by
  obtain ⟨rows, cols, cells, size_cells⟩ := grid
  simp only at row_lt col_lt
  simp [set, setCell, row_lt, col_lt]

theorem cellNumber_lt {rows cols row col : Nat} (row_lt : row < rows) (col_lt : col < cols) :
    row * cols + col < rows * cols := by
  calc
    row * cols + col < row * cols + cols := Nat.add_lt_add_left col_lt _
    _ = (row + 1) * cols := by ring
    _ ≤ rows * cols := Nat.mul_le_mul_right _ row_lt

theorem cellNumber_injective {cols row col row' col' : Nat} (col_lt : col < cols)
    (col_lt' : col' < cols) (numbers : row * cols + col = row' * cols + col') :
    row = row' ∧ col = col' := by
  have cols_pos : 0 < cols := Nat.zero_lt_of_lt col_lt
  have rows_eq : row = row' := by
    have quotients := congrArg (· / cols) numbers
    simpa [Nat.mul_comm _ cols, Nat.mul_add_div cols_pos, Nat.div_eq_of_lt col_lt,
      Nat.div_eq_of_lt col_lt'] using quotients
  subst rows_eq
  exact ⟨rfl, by omega⟩

theorem get_eq (grid : Grid) {row col : Nat} (row_lt : row < grid.rows)
    (col_lt : col < grid.cols) :
    grid.get row col = .ok (grid.cells.getD (row * grid.cols + col) 0.0) := by
  have number_lt : row * grid.cols + col < grid.cells.size := by
    rw [grid.size_cells]
    exact cellNumber_lt row_lt col_lt
  simp [get, row_lt, col_lt, number_lt]

/-- After a write the written cell has the new value, and every other cell the old one. -/
theorem get_setCell (grid : Grid) {row col : Nat} (row_lt : row < grid.rows)
    (col_lt : col < grid.cols) (value : Float) (row' col' : Nat) :
    (grid.setCell row col value).get row' col' =
      if row' = row ∧ col' = col then .ok value else grid.get row' col' := by
  by_cases inside : row' < grid.rows ∧ col' < grid.cols
  · obtain ⟨row_lt', col_lt'⟩ := inside
    have number_lt : row * grid.cols + col < grid.cells.size := by
      rw [grid.size_cells]
      exact cellNumber_lt row_lt col_lt
    rw [get_eq (grid.setCell row col value) row_lt' col_lt', get_eq grid row_lt' col_lt']
    by_cases same : row' = row ∧ col' = col
    · obtain ⟨rfl, rfl⟩ := same
      simp [setCell, Array.getD_eq_getD_getElem?, number_lt]
    · have numbers : row * grid.cols + col ≠ row' * grid.cols + col' := by
        intro equality
        obtain ⟨rfl, rfl⟩ := cellNumber_injective col_lt col_lt' equality
        exact same ⟨rfl, rfl⟩
      simp [setCell, same, Array.getD_eq_getD_getElem?, numbers]
  · have other : ¬(row' = row ∧ col' = col) := by
      rintro ⟨rfl, rfl⟩
      exact inside ⟨row_lt, col_lt⟩
    simp [get, inside, other]

theorem ext_get {left right : Grid} (rows_eq : left.rows = right.rows)
    (cols_eq : left.cols = right.cols)
    (cells_eq : ∀ row col, left.get row col = right.get row col) :
    left = right := by
  obtain ⟨rows, cols, leftCells, left_size⟩ := left
  obtain ⟨rightRows, rightCols, rightCells, right_size⟩ := right
  simp only at rows_eq cols_eq
  subst rows_eq cols_eq
  congr
  apply Array.ext (left_size.trans right_size.symm)
  intro number left_lt right_lt
  have cols_pos : 0 < cols := by
    by_contra empty
    simp [left_size, Nat.eq_zero_of_not_pos empty] at left_lt
  have row_lt : number / cols < rows := by
    rw [Nat.div_lt_iff_lt_mul cols_pos]
    omega
  have col_lt : number % cols < cols := Nat.mod_lt _ cols_pos
  have values := cells_eq (number / cols) (number % cols)
  rw [get_eq ⟨rows, cols, leftCells, left_size⟩ row_lt col_lt,
    get_eq ⟨rows, cols, rightCells, right_size⟩ row_lt col_lt] at values
  have number_eq : number / cols * cols + number % cols = number := Nat.div_add_mod' _ _
  simpa [number_eq, Array.getD_eq_getD_getElem?, left_lt, right_lt] using values

theorem setCell_comm {grid : Grid} {row col row' col' : Nat} (row_lt : row < grid.rows)
    (col_lt : col < grid.cols) (row_lt' : row' < grid.rows) (col_lt' : col' < grid.cols)
    (apart : ¬(row' = row ∧ col' = col)) (value value' : Float) :
    (grid.setCell row col value).setCell row' col' value' =
      (grid.setCell row' col' value').setCell row col value := by
  apply ext_get (by simp) (by simp)
  intro r c
  rw [get_setCell (grid.setCell row col value) row_lt' col_lt',
    get_setCell (grid.setCell row' col' value') row_lt col_lt,
    get_setCell grid row_lt col_lt, get_setCell grid row_lt' col_lt']
  by_cases first : r = row ∧ c = col
  · obtain ⟨rfl, rfl⟩ := first
    have other : ¬(r = row' ∧ c = col') := fun same => apart ⟨same.1.symm, same.2.symm⟩
    simp [other]
  · simp [first]

end Grid
/-! ## Sparse rows -/

namespace StoredRow

/-- Whether a row that is empty can make room for `room` cells. -/
def hasRoom (row : StoredRow) (room : Nat) : Bool :=
  row.size != 0 || max room 1 * 8 ≤ Size.allocationLimit

@[simp] theorem entries_push (row : StoredRow) (column : Nat) (value : Float) :
    (row.push column value).entries = row.entries.push ⟨column, value⟩ := rfl

theorem store_eq (row : StoredRow) (column : Nat) (value : Float) (room : Nat) :
    row.store column value room =
      if row.hasRoom room then .ok (row.push column value) else .error .storageTooLarge := by
  by_cases empty : row.size = 0
  · by_cases fits : max room 1 * 8 ≤ Size.allocationLimit <;>
      simp [store, makeRoom, hasRoom, Size.reserve, empty, fits]
  · simp [store, makeRoom, hasRoom, empty]

end StoredRow

/-! ## Storages -/

namespace Storage

/-- Whether a storage holds the cells of a matrix of this layout and shape. -/
def HasShape (storage : Storage) (isSparse : Bool) (rows cols : Nat) : Prop :=
  match storage with
  | unallocated => False
  | dense grid => isSparse = false ∧ grid.rows = rows ∧ grid.cols = cols
  | sparse table => isSparse = true ∧ table.size = rows

/-- Whether a row that stores nothing yet can make room for `room` cells. -/
def hasRoom (storage : Storage) (row room : Nat) : Bool :=
  match storage with
  | sparse table => table[row]?.all fun stored => stored.hasRoom room
  | _ => true

/-- The storage with one more write: a cell set, or an entry stored behind its row. -/
def write (storage : Storage) (row col : Nat) (value : Float) : Storage :=
  match storage with
  | unallocated => unallocated
  | dense grid => dense (grid.setCell row col value)
  | sparse table => sparse (table.modify row fun stored => stored.push col value)

variable {storage : Storage} {isSparse : Bool} {rows cols : Nat}

/-- A write within the shape succeeds if its row has room, and is too large for the address space
otherwise. -/
theorem put_eq (shape : storage.HasShape isSparse rows cols) {row col : Nat} (row_lt : row < rows)
    (col_lt : col < cols) (value : Float) (room : Nat) :
    storage.put row col value room =
      if storage.hasRoom row room then .ok (storage.write row col value)
      else .error .storageTooLarge := by
  cases storage with
  | unallocated => exact shape.elim
  | dense grid =>
      obtain ⟨-, rfl, rfl⟩ := shape
      simp [put, write, hasRoom, Grid.set_eq row_lt col_lt]
  | sparse table =>
      obtain ⟨-, rfl⟩ := shape
      by_cases fits : table[row].hasRoom room <;>
        simp [put, write, hasRoom, row_lt, fits, Array.modifyM, Array.modify, StoredRow.store_eq]

theorem hasRoom_of_roomy {room : Nat} (shape : storage.HasShape isSparse rows cols)
    (roomy : isSparse = true → max room 1 * 8 ≤ Size.allocationLimit) (row : Nat) :
    storage.hasRoom row room = true := by
  cases storage with
  | unallocated => rfl
  | dense grid => rfl
  | sparse table =>
      obtain ⟨rfl, -⟩ := shape
      simp [hasRoom, StoredRow.hasRoom, roomy]

theorem HasShape.write (shape : storage.HasShape isSparse rows cols) (row col : Nat)
    (value : Float) : (storage.write row col value).HasShape isSparse rows cols := by
  cases storage with
  | unallocated => exact shape
  | dense grid => exact shape
  | sparse table => simpa [Storage.write, HasShape] using shape

theorem HasShape.put (shape : storage.HasShape isSparse rows cols) {row col : Nat} {value : Float}
    {room : Nat} {after : Storage} (put : storage.put row col value room = .ok after) :
    after.HasShape isSparse rows cols := by
  cases storage with
  | unallocated => exact shape.elim
  | dense grid =>
      obtain ⟨grid', set, put⟩ := bind_eq_ok.mp put
      obtain rfl := Except.ok.inj put
      rw [Grid.set] at set
      split at set
      · obtain rfl := Except.ok.inj set
        exact shape
      · contradiction
  | sparse table =>
      by_cases row_lt : row < table.size
      · have as_wide : (sparse table).HasShape true table.size (col + 1) := ⟨rfl, rfl⟩
        rw [put_eq as_wide row_lt (Nat.lt_succ_self col)] at put
        split at put
        · obtain rfl := Except.ok.inj put
          exact shape.write _ _ _
        · contradiction
      · rw [Storage.put, if_neg row_lt] at put
        contradiction

end Storage

end SeededMatrix
