import SeededMatrix.Proofs.Output.Regions

/-!
# Well-formed rows

Sparse storage is well formed if it has one row for each row of the matrix and the columns of every
row strictly increase within the matrix. A write that lies right of everything in its row keeps it
so, and the rows of a dense grid are well formed.
-/

namespace SeededMatrix

namespace StoredRow

/-- Whether the stored columns strictly increase and are columns of the matrix. -/
structure WellFormed (cols : Nat) (row : StoredRow) : Prop where
  increasing : row.columns.Pairwise (· < ·)
  inside : ∀ column ∈ row.columns, column < cols

@[simp] theorem columns_empty : empty.columns = [] := rfl

@[simp] theorem columns_push (row : StoredRow) (column : Nat) (value : Float) :
    (row.push column value).columns = row.columns ++ [column] := by
  simp [columns]

theorem WellFormed.push {cols : Nat} {row : StoredRow} (formed : row.WellFormed cols)
    {column : Nat} (right : ∀ stored ∈ row.columns, stored < column) (column_lt : column < cols)
    (value : Float) : (row.push column value).WellFormed cols := by
  constructor
  · rw [columns_push, List.pairwise_append]
    exact ⟨formed.increasing, List.pairwise_singleton _ _, by simpa using right⟩
  · rw [columns_push, List.forall_mem_append]
    exact ⟨formed.inside, by simpa using column_lt⟩

end StoredRow

/-- Whether the writes of each row stand in strictly increasing columns. -/
def LeftToRight (writes : List Write) : Prop :=
  writes.Pairwise fun first second => first.row = second.row → first.col < second.col

namespace Storage

/-- Whether sparse storage has all rows of the matrix, each well formed. Other storage has no rows
that could be malformed. -/
def WellFormed (storage : Storage) (rows cols : Nat) : Prop :=
  match storage with
  | sparse table => table.size = rows ∧
      ∀ (row : Nat) (stored : StoredRow), table[row]? = some stored → stored.WellFormed cols
  | _ => True

/-- Whether everything that is stored in the row of a write lies left of it. -/
def LeftOf (storage : Storage) (write : Write) : Prop :=
  match storage with
  | sparse table => ∀ stored, table[write.row]? = some stored →
      ∀ column ∈ stored.columns, column < write.col
  | _ => True

theorem wellFormed_of_dense {storage : Storage} {rows cols : Nat}
    (shape : storage.HasShape false rows cols) : storage.WellFormed rows cols := by
  cases storage with
  | unallocated => trivial
  | dense grid => trivial
  | sparse table => simp [HasShape] at shape

theorem leftOf_of_dense {storage : Storage} {rows cols : Nat}
    (shape : storage.HasShape false rows cols) (write : Write) : storage.LeftOf write := by
  cases storage with
  | unallocated => trivial
  | dense grid => trivial
  | sparse table => simp [HasShape] at shape

theorem columns_blank {rows row : Nat} {stored : StoredRow}
    (found : (Array.replicate rows StoredRow.empty)[row]? = some stored) :
    stored.columns = [] := by
  rw [Array.getElem?_replicate] at found
  split at found
  · obtain rfl := Option.some.inj found
    rfl
  · contradiction

theorem wellFormed_blank (isSparse : Bool) (rows cols : Nat) :
    (blank isSparse rows cols).WellFormed rows cols := by
  cases isSparse with
  | false => trivial
  | true =>
      refine ⟨by simp, fun row stored found => ?_⟩
      constructor <;> simp [columns_blank found]

theorem leftOf_blank (isSparse : Bool) (rows cols : Nat) (write : Write) :
    (blank isSparse rows cols).LeftOf write := by
  cases isSparse with
  | false => trivial
  | true =>
      intro stored found
      simp [columns_blank found]

variable {storage after : Storage} {isSparse : Bool} {rows cols room : Nat} {write : Write}

theorem eq_write_of_putWrite (shape : storage.HasShape isSparse rows cols)
    (within : write.Within rows cols) (put : storage.putWrite room write = .ok after) :
    after = storage.write write.row write.col write.value := by
  rw [putWrite_eq shape within] at put
  split at put
  · exact (Except.ok.inj put).symm
  · contradiction

theorem WellFormed.putWrite (formed : storage.WellFormed rows cols)
    (shape : storage.HasShape isSparse rows cols) (within : write.Within rows cols)
    (right : storage.LeftOf write) (put : storage.putWrite room write = .ok after) :
    after.WellFormed rows cols := by
  rw [eq_write_of_putWrite shape within put]
  cases storage with
  | unallocated => trivial
  | dense grid => trivial
  | sparse table =>
      obtain ⟨size_eq, formed⟩ := formed
      refine ⟨by simpa using size_eq, fun row stored found => ?_⟩
      rw [Array.getElem?_modify] at found
      split at found
      next same =>
        subst same
        obtain ⟨old, old_found, rfl⟩ := Option.map_eq_some_iff.mp found
        exact (formed _ old old_found).push (right old old_found) within.2 _
      next => exact formed row stored found

/-- A write that lies right of a storage also lies right of it after an earlier write. -/
theorem LeftOf.putWrite {later : Write} (left : storage.LeftOf later)
    (shape : storage.HasShape isSparse rows cols) (within : write.Within rows cols)
    (order : write.row = later.row → write.col < later.col)
    (put : storage.putWrite room write = .ok after) : after.LeftOf later := by
  rw [eq_write_of_putWrite shape within put]
  cases storage with
  | unallocated => trivial
  | dense grid => trivial
  | sparse table =>
      intro stored found
      rw [Array.getElem?_modify] at found
      split at found
      next same =>
        obtain ⟨old, old_found, rfl⟩ := Option.map_eq_some_iff.mp found
        rw [StoredRow.columns_push, List.forall_mem_append]
        exact ⟨left old old_found, by simpa using order same⟩
      next => exact left stored found

/-! ## Rows of a grid -/

/-- The cells of a row that are not zero, with their columns from `column` on. -/
def nonZeroEntries (column : Nat) (values : List Float) : List Entry :=
  ((values.zipIdx column).filter fun cell => cell.1 != 0.0).map fun cell => ⟨cell.2, cell.1⟩

/-- Scanning a row of values stores those that are not zero. -/
theorem entries_scan (values : List Float) (stored : StoredRow) (column : Nat) :
    (values.foldl (fun (stored, column) value =>
      (if value != 0.0 then stored.push column value else stored, column + 1))
      (stored, column)).1.entries.toList =
        stored.entries.toList ++ nonZeroEntries column values := by
  induction values generalizing stored column with
  | nil => simp [nonZeroEntries]
  | cons value values induction =>
      rw [List.foldl_cons, induction]
      by_cases nonZero : (value != 0.0) = true <;> simp [nonZeroEntries, nonZero]

theorem columns_sublist (column : Nat) (values : List Float) :
    ((nonZeroEntries column values).map Entry.column).Sublist
      (List.range' column values.length) := by
  rw [← List.zipIdx_map_snd, nonZeroEntries, List.map_map]
  exact List.filter_sublist.map Prod.snd

theorem entries_rowsOfGrid {grid : Grid} {row : Nat} {stored : StoredRow}
    (found : (rowsOfGrid grid)[row]? = some stored) :
    row < grid.rows ∧ stored.entries.toList = nonZeroEntries 0 (grid.row row).toList := by
  obtain ⟨row_lt, stored_eq⟩ := Array.getElem?_eq_some_iff.mp found
  have row_lt : row < grid.rows := by simpa [rowsOfGrid] using row_lt
  refine ⟨row_lt, ?_⟩
  rw [← stored_eq]
  simp only [rowsOfGrid, Array.getElem_ofFn]
  rw [← Array.foldl_toList, entries_scan]
  rfl

theorem size_row {grid : Grid} {row : Nat} (row_lt : row < grid.rows) :
    (grid.row row).size = grid.cols := by
  have end_le : (row + 1) * grid.cols ≤ grid.cells.size := by
    rw [grid.size_cells]
    exact Nat.mul_le_mul_right _ row_lt
  rw [Grid.row, Array.size_extract, Nat.min_eq_left end_le, Nat.add_mul]
  omega

theorem wellFormed_rowsOfGrid (grid : Grid) :
    (sparse (rowsOfGrid grid)).WellFormed grid.rows grid.cols := by
  refine ⟨by simp [rowsOfGrid], fun row stored found => ?_⟩
  obtain ⟨row_lt, entries_eq⟩ := entries_rowsOfGrid found
  have sublist := columns_sublist 0 (grid.row row).toList
  rw [← entries_eq, Array.length_toList, size_row row_lt] at sublist
  refine ⟨(List.pairwise_lt_range' 1).sublist sublist, fun column member => ?_⟩
  have bounds := List.mem_range'_1.mp (sublist.subset member)
  omega

end Storage

end SeededMatrix
