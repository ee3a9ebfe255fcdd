import SeededMatrix.Proofs.Output.Capacity
import SeededMatrix.Proofs.Output.Consistency

/-!
# The views of a matrix

A matrix is read cell by cell, as a grid of all cells, as compressed rows, and by counting. All four
tell the same cells, whatever is stored: a grid shows every cell as it reads, explicit zeros in
sparse rows and values that are not-a-number included, and compressed rows hold exactly the cells
that are not zero, as many as counting finds. A grid or compressed rows can only be too large for
the address space, and it is told when they are.
-/

namespace SeededMatrix

namespace OutputMatrix

variable {matrix : OutputMatrix}

theorem within_of_get {row col : Nat} {value : Float} (reads : matrix.get row col = .ok value) :
    row < matrix.rows ∧ col < matrix.cols := by
  rw [get] at reads
  split at reads
  next within => exact within
  next => contradiction

/-- Every cell can be read, and reads in the sparse rows as in the matrix, up to the sign of zero.
-/
theorem Readable.get_sparseRows (readable : matrix.Readable) {row col : Nat}
    (row_lt : row < matrix.rows) (col_lt : col < matrix.cols) :
    ∃ value kept, matrix.get row col = .ok value ∧
      (Storage.sparse matrix.sparseRows).get row col = .ok kept ∧ SameValue value kept := by
  obtain ⟨rows, cols, sparse, nonZeros, nonZerosPerRow, storage⟩ := matrix
  rw [get, if_pos ⟨row_lt, col_lt⟩]
  cases storage with
  | unallocated =>
      have zero : (Storage.blank true rows cols).get row col = .ok 0.0 :=
        Storage.get_blank row_lt col_lt
      exact ⟨0.0, 0.0, rfl, zero, .refl 0.0⟩
  | dense grid =>
      obtain ⟨rfl, rfl⟩ := readable
      exact Storage.get_rowsOfGrid grid row_lt col_lt
  | sparse table =>
      have shape : (Storage.sparse table).HasShape true rows cols := ⟨rfl, readable.1⟩
      obtain ⟨value, reads⟩ := shape.get_ok row_lt col_lt
      exact ⟨value, value, reads, reads, .refl value⟩

end OutputMatrix

/-! ## Entries of a row -/

namespace Csr

/-- The entries of a row are its cells that do not read as zero. -/
theorem mem_nonZeroEntries {stored : StoredRow} (increasing : stored.columns.Pairwise (· < ·))
    {entry : Entry} :
    entry ∈ nonZeroEntries stored ↔
      stored.get entry.column = entry.value ∧ (entry.value != 0.0) = true := by
  rw [nonZeroEntries, Array.mem_filter]
  constructor
  · rintro ⟨member, nonZero⟩
    exact ⟨StoredRow.get_of_mem increasing member, nonZero⟩
  · rintro ⟨reads, nonZero⟩
    refine ⟨?_, nonZero⟩
    by_cases column_mem : entry.column ∈ stored.columns
    · obtain ⟨other, member, same⟩ := List.mem_map.mp column_mem
      have other_mem := Array.mem_toList_iff.mp member
      have value_eq : other.value = entry.value := by
        rw [← reads, ← same, StoredRow.get_of_mem increasing other_mem]
      obtain ⟨column, value⟩ := entry
      obtain rfl : other.column = column := same
      obtain rfl : other.value = value := value_eq
      exact other_mem
    · rw [StoredRow.get_of_not_mem column_mem] at reads
      rw [← reads, zero_bne_zero] at nonZero
      contradiction

variable {matrix : OutputMatrix} {row : Nat} {entries : Array Entry}

/-- The entries of a row of a matrix are its cells in this row that do not read as zero. -/
theorem mem_rowEntries (readable : matrix.Readable)
    (found : (rowEntries matrix)[row]? = some entries) {entry : Entry} :
    entry ∈ entries ↔
      matrix.get row entry.column = .ok entry.value ∧ (entry.value != 0.0) = true := by
  have formed := wellFormed_rowEntries readable found
  obtain ⟨stored, row_found, rfl⟩ := stored_of_rowEntries found
  obtain ⟨size_eq, rows_formed⟩ := readable.wellFormed_sparseRows
  have row_lt : row < matrix.rows := size_eq ▸ (Array.getElem?_eq_some_iff.mp row_found).1
  have increasing := (rows_formed row stored row_found).increasing
  constructor
  · intro member
    have col_lt := formed.inside _ (List.mem_map_of_mem (Array.mem_toList_iff.mpr member))
    obtain ⟨reads, nonZero⟩ := (mem_nonZeroEntries increasing).mp member
    obtain ⟨value, kept, value_eq, kept_eq, same⟩ := readable.get_sparseRows row_lt col_lt
    simp only [Storage.get, row_found, reads] at kept_eq
    obtain rfl := Except.ok.inj kept_eq
    refine ⟨?_, nonZero⟩
    rw [value_eq, same.eq_of_bne nonZero]
  · rintro ⟨value_eq, nonZero⟩
    have col_lt := (OutputMatrix.within_of_get value_eq).2
    obtain ⟨value, kept, value_eq', kept_eq, same⟩ := readable.get_sparseRows row_lt col_lt
    obtain rfl := Except.ok.inj (value_eq.symm.trans value_eq')
    simp only [Storage.get, row_found] at kept_eq
    rw [mem_nonZeroEntries increasing, Except.ok.inj kept_eq, same.symm.eq_of_bne nonZero]
    exact ⟨rfl, nonZero⟩

/-! ## Compressed rows -/

/-- The columns that compressed rows hold in a row. -/
def columnsOf (csr : Csr) (row : Nat) : List Nat :=
  (csr.columns.extract (csr.rowStarts.getD row 0) (csr.rowStarts.getD (row + 1) 0)).toList

/-- Whether compressed rows hold a value at a cell: in a place between the start of its row and the
start of the next one. -/
def Holds (csr : Csr) (row col : Nat) (value : Float) : Prop :=
  ∃ first last place, csr.rowStarts[row]? = some first ∧ csr.rowStarts[row + 1]? = some last ∧
    first ≤ place ∧ place < last ∧ csr.columns[place]? = some col ∧
      csr.values[place]? = some value

/-- Whether compressed rows are those of a matrix. -/
structure Compresses (csr : Csr) (matrix : OutputMatrix) : Prop where
  rows_eq : csr.rows = matrix.rows
  cols_eq : csr.cols = matrix.cols
  starts_size : csr.rowStarts.size = matrix.rows + 1
  starts_first : csr.rowStarts[0]? = some 0
  starts_ascend : csr.rowStarts.toList.Pairwise (· ≤ ·)
  starts_last : csr.rowStarts[matrix.rows]? = some csr.values.size
  columns_size : csr.columns.size = csr.values.size
  increasing : ∀ row < matrix.rows, (csr.columnsOf row).Pairwise (· < ·)
  inside : ∀ row < matrix.rows, ∀ column ∈ csr.columnsOf row, column < matrix.cols
  holds_iff : ∀ row col value,
    csr.Holds row col value ↔ matrix.get row col = .ok value ∧ (value != 0.0) = true
  counted : csr.values.size = matrix.recount.nonZeros

end Csr

namespace Size.RunningSums

variable {counts : List Nat} {sums : Array Nat}

theorem ascend (totals : RunningSums counts sums) : sums.toList.Pairwise (· ≤ ·) := by
  rw [List.pairwise_iff_getElem]
  intro place later place_lt later_lt order
  obtain ⟨size_eq, total⟩ := totals
  rw [Array.length_toList] at place_lt later_lt
  have here := total place (by omega)
  have there := total later (by omega)
  rw [Array.getElem?_eq_getElem place_lt, Option.some.injEq] at here
  rw [Array.getElem?_eq_getElem later_lt, Option.some.injEq] at there
  rw [Array.getElem_toList, Array.getElem_toList, here, there]
  obtain ⟨more, rfl⟩ := Nat.exists_eq_add_of_le order.le
  rw [List.take_add, List.sum_append]
  exact Nat.le_add_right _ _

end Size.RunningSums

namespace Csr

theorem mem_extract_iff {α : Type} {items : Array α} {first last : Nat} {item : α} :
    item ∈ items.extract first last ↔
      ∃ place, first ≤ place ∧ place < last ∧ items[place]? = some item := by
  rw [Array.mem_extract_iff_getElem]
  constructor
  · rintro ⟨offset, offset_lt, rfl⟩
    exact ⟨first + offset, Nat.le_add_right _ _, by omega, Array.getElem?_eq_getElem _⟩
  · rintro ⟨place, first_le, lt_last, found⟩
    obtain ⟨place_lt, rfl⟩ := Array.getElem?_eq_some_iff.mp found
    refine ⟨place - first, by omega, ?_⟩
    simp only [Nat.add_sub_cancel' first_le]

variable {matrix : OutputMatrix} {starts : Array Nat} {row : Nat}

/-- A row of compressed rows holds its own entries, and no others. -/
theorem holds_iff_mem {entries : Array (Array Entry)}
    (totals : Size.RunningSums (entries.map Array.size).toList starts) {rows cols col : Nat}
    {value : Float} :
    Holds ⟨rows, cols, starts, entries.flatten.map Entry.column, entries.flatten.map Entry.value⟩
        row col value ↔
      ∃ found, entries[row]? = some found ∧ ⟨col, value⟩ ∈ found := by
  have length_eq : (entries.map Array.size).toList.length = entries.size := by simp
  obtain ⟨size_eq, total⟩ := totals
  constructor
  · rintro ⟨first, last, place, start, stop, first_le, lt_last, column_found, value_found⟩
    have row_lt : row < entries.size := by
      obtain ⟨stop_lt, -⟩ := Array.getElem?_eq_some_iff.mp stop
      dsimp only at stop_lt
      omega
    dsimp only at start stop column_found value_found
    rw [total row (by omega), Option.some.injEq] at start
    rw [total (row + 1) (by omega), Option.some.injEq] at stop
    refine ⟨entries[row], Array.getElem?_eq_getElem row_lt, ?_⟩
    rw [← entries_extract entries row_lt, start, stop, mem_extract_iff]
    refine ⟨place, first_le, lt_last, ?_⟩
    rw [Array.getElem?_map, Option.map_eq_some_iff] at column_found value_found
    obtain ⟨entry, entry_found, rfl⟩ := column_found
    obtain ⟨other, other_found, rfl⟩ := value_found
    obtain rfl := Option.some.inj (entry_found.symm.trans other_found)
    exact entry_found
  · rintro ⟨found, row_found, member⟩
    obtain ⟨row_lt, rfl⟩ := Array.getElem?_eq_some_iff.mp row_found
    rw [← entries_extract entries row_lt, mem_extract_iff] at member
    obtain ⟨place, first_le, lt_last, entry_found⟩ := member
    exact ⟨_, _, place, total row (by omega), total (row + 1) (by omega), first_le, lt_last,
      by rw [Array.getElem?_map, entry_found]; rfl, by rw [Array.getElem?_map, entry_found]; rfl⟩

/-- A row of compressed rows has the columns of its own entries. -/
theorem columnsOf_eq {entries : Array (Array Entry)}
    (totals : Size.RunningSums (entries.map Array.size).toList starts) {rows cols : Nat}
    {values : Array Float} (row_lt : row < entries.size) :
    columnsOf ⟨rows, cols, starts, entries.flatten.map Entry.column, values⟩ row =
      StoredRow.columns ⟨entries[row]⟩ := by
  have length_eq : (entries.map Array.size).toList.length = entries.size := by simp
  rw [columnsOf, Array.getD_eq_getD_getElem?, Array.getD_eq_getD_getElem?,
    totals.total row (by omega), totals.total (row + 1) (by omega)]
  exact columns_extract entries row_lt

/-- Compressing a matrix that can be read finds its cells that are not zero, row after row. -/
theorem compresses_of_ofMatrix {csr : Csr} (readable : matrix.Readable)
    (compressed : ofMatrix matrix = .ok csr) : csr.Compresses matrix := by
  have sizes := size_of_ofMatrix compressed
  obtain ⟨starts, totals, rfl⟩ := eq_of_ofMatrix compressed
  have size_eq := size_rowEntries readable
  have length_eq : ((rowEntries matrix).map Array.size).toList.length = matrix.rows := by
    rw [Array.length_toList, Array.size_map, size_eq]
  have row_formed : ∀ row < matrix.rows,
      ∃ entries, (columnsOf ⟨matrix.rows, matrix.cols, starts,
          (rowEntries matrix).flatten.map Entry.column,
          (rowEntries matrix).flatten.map Entry.value⟩ row) = StoredRow.columns ⟨entries⟩ ∧
        StoredRow.WellFormed matrix.cols ⟨entries⟩ := by
    intro row row_lt
    have row_lt : row < (rowEntries matrix).size := size_eq ▸ row_lt
    exact ⟨_, columnsOf_eq totals row_lt,
      wellFormed_rowEntries readable (Array.getElem?_eq_getElem row_lt)⟩
  exact {
    rows_eq := rfl
    cols_eq := rfl
    starts_size := by rw [totals.size_eq, length_eq]
    starts_first := totals.total 0 (Nat.zero_le _)
    starts_ascend := totals.ascend
    starts_last := by
      dsimp only at sizes ⊢
      rw [sizes.2, ← sum_size_rowEntries, totals.total _ length_eq.ge, List.take_of_length_le]
      exact length_eq.le
    columns_size := sizes.1.trans sizes.2.symm
    increasing := by
      intro row row_lt
      obtain ⟨entries, columns_eq, formed⟩ := row_formed row row_lt
      exact columns_eq ▸ formed.increasing
    inside := by
      intro row row_lt
      obtain ⟨entries, columns_eq, formed⟩ := row_formed row row_lt
      exact columns_eq ▸ formed.inside
    holds_iff := by
      intro row col value
      rw [holds_iff_mem totals]
      constructor
      · rintro ⟨entries, found, member⟩
        exact (mem_rowEntries readable found).mp member
      · intro nonZero
        have row_lt : row < (rowEntries matrix).size :=
          size_eq ▸ (OutputMatrix.within_of_get nonZero.1).1
        have found := Array.getElem?_eq_getElem row_lt
        exact ⟨_, found, (mem_rowEntries readable found).mpr nonZero⟩
    counted := sizes.2 }

end Csr

/-! ## Grids -/

/-- Whether a grid shows a matrix: it has its shape, and every cell reads as in the matrix. -/
structure Grid.Shows (grid : Grid) (matrix : OutputMatrix) : Prop where
  rows_eq : grid.rows = matrix.rows
  cols_eq : grid.cols = matrix.cols
  get_eq : ∀ row < matrix.rows, ∀ col < matrix.cols, grid.get row col = matrix.get row col

namespace OutputMatrix

variable {matrix : OutputMatrix}

theorem Readable.shows_toGrid (readable : matrix.Readable) {grid : Grid}
    (made : matrix.toGrid = .ok grid) : grid.Shows matrix := by
  obtain ⟨rows, cols, sparse, nonZeros, nonZerosPerRow, storage⟩ := matrix
  cases storage with
  | unallocated =>
      obtain ⟨rows_eq, cols_eq⟩ := filled_eq made
      refine ⟨rows_eq, cols_eq, fun row row_lt col col_lt => ?_⟩
      have zero : (Storage.blank false rows cols).get row col = .ok 0.0 :=
        Storage.get_blank row_lt col_lt
      rw [← Storage.dense_filled made] at zero
      rw [get, if_pos ⟨row_lt, col_lt⟩]
      exact zero
  | dense stored =>
      obtain rfl : stored = grid := Except.ok.inj made
      refine ⟨readable.1, readable.2, fun row row_lt col col_lt => ?_⟩
      rw [get, if_pos ⟨row_lt, col_lt⟩]
      rfl
  | sparse table =>
      obtain ⟨-, rows_eq, cols_eq⟩ := (Storage.hasShape_blank false rows cols).putList
        (Storage.putList_gridOfRows readable.1 made)
      refine ⟨rows_eq, cols_eq, fun row row_lt col col_lt => ?_⟩
      rw [get, if_pos ⟨row_lt, col_lt⟩]
      exact Storage.get_gridOfRows readable made row_lt col_lt

/-- A matrix that can be read is made a grid if it stores one already, and otherwise exactly if a
grid of its shape can be addressed. -/
theorem Readable.toGrid_ok_iff (readable : matrix.Readable) :
    (∃ grid, matrix.toGrid = .ok grid) ↔
      (∃ grid, matrix.storage = .dense grid) ∨ Grid.fits matrix.rows matrix.cols = true := by
  obtain ⟨rows, cols, sparse, nonZeros, nonZerosPerRow, storage⟩ := matrix
  cases storage with
  | unallocated => simpa [toGrid] using Grid.filled_ok_iff rows cols 0.0
  | dense grid => exact ⟨fun _ => .inl ⟨grid, rfl⟩, fun _ => ⟨grid, rfl⟩⟩
  | sparse table => simpa [toGrid] using Storage.gridOfRows_ok_iff readable

/-! ## All views -/

/-- The views of a matrix that can be read agree. Every cell can be read. A grid of the matrix shows
it; there is one if the matrix stores a grid or a grid of its shape can be addressed. Compressed
rows of the matrix hold its cells that are not zero and as many as counting finds; there are such if
there is room for the starts of the rows, and for these cells. -/
theorem views_agree (readable : matrix.Readable) :
    (∀ row < matrix.rows, ∀ col < matrix.cols, ∃ value, matrix.get row col = .ok value) ∧
      (∀ grid, matrix.toGrid = .ok grid → grid.Shows matrix) ∧
      ((∃ grid, matrix.toGrid = .ok grid) ↔
        (∃ grid, matrix.storage = .dense grid) ∨ Grid.fits matrix.rows matrix.cols = true) ∧
      (∀ csr, Csr.ofMatrix matrix = .ok csr → csr.Compresses matrix) ∧
      ((∃ csr, Csr.ofMatrix matrix = .ok csr) ↔
        (matrix.rows + 1) * 8 ≤ Size.allocationLimit ∧
          matrix.recount.nonZeros * 8 ≤ Size.appendLimit) := by
  refine ⟨fun row row_lt col col_lt => ?_, fun grid made => readable.shows_toGrid made,
    readable.toGrid_ok_iff, fun csr compressed => Csr.compresses_of_ofMatrix readable compressed,
    Csr.ofMatrix_ok_iff readable⟩
  obtain ⟨value, -, reads, -⟩ := readable.get_sparseRows row_lt col_lt
  exact ⟨value, reads⟩

/-- Sparse rows with explicit zeros of both signs and a value that is not-a-number. -/
def mixedRows : OutputMatrix :=
  ⟨2, 3, true, 0, 0, .sparse #[⟨#[⟨0, 0.0⟩, ⟨2, 1.5⟩]⟩, ⟨#[⟨1, -0.0⟩, ⟨2, 0.0 / 0.0⟩]⟩]⟩

theorem readable_mixedRows : mixedRows.Readable := by
  refine ⟨rfl, fun row stored found => ?_⟩
  rcases row with _ | _ | row
  · obtain rfl := Option.some.inj found
    constructor <;> simp [StoredRow.columns, mixedRows]
  · obtain rfl := Option.some.inj found
    constructor <;> simp [StoredRow.columns, mixedRows]
  · contradiction

theorem views_agree_mixedRows :
    mixedRows.Readable ∧ (∃ grid, mixedRows.toGrid = .ok grid ∧ grid.Shows mixedRows) ∧
      ∃ csr, Csr.ofMatrix mixedRows = .ok csr ∧ csr.Compresses mixedRows := by
  obtain ⟨-, shows, grid_iff, compresses, csr_iff⟩ := views_agree readable_mixedRows
  obtain ⟨grid, made⟩ := grid_iff.mpr (.inr (by decide))
  obtain ⟨csr, compressed⟩ := csr_iff.mpr ⟨by decide, by decide +kernel⟩
  exact ⟨readable_mixedRows, ⟨grid, made, shows grid made⟩, csr, compressed,
    compresses csr compressed⟩

/-- Every cell of a column of `2 ^ 60` cells that are not allocated reads as zero. But neither all
of these cells nor a table of the rows can be addressed. -/
theorem column_too_large_to_view :
    (unallocated 0x1000_0000_0000_0000 1 false).Readable ∧
      (∀ row < 0x1000_0000_0000_0000,
        (unallocated 0x1000_0000_0000_0000 1 false).get row 0 = .ok 0.0) ∧
      (unallocated 0x1000_0000_0000_0000 1 false).toGrid = .error .storageTooLarge ∧
      Csr.ofMatrix (unallocated 0x1000_0000_0000_0000 1 false) = .error .storageTooLarge := by
  refine ⟨trivial, fun row row_lt => ?_, ?_, ?_⟩
  · rw [get, if_pos ⟨row_lt, Nat.one_pos⟩]
    rfl
  · rw [toGrid, unallocated, Grid.filled, if_neg (by decide)]
  · rw [Csr.ofMatrix, unallocated, Size.reserve, if_neg (by decide), error_bind]

end OutputMatrix

end SeededMatrix
