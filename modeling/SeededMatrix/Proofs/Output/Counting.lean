import SeededMatrix.Proofs.Output.Shapes
import Mathlib.Data.List.Nodup

/-!
# Counting cells that are not zero

A grid counts its cells, sparse rows count their entries; either way the number is that of the cells
that read as something else than zero. So a change of layout keeps the number, and after writes from
left to right into a new matrix it is the number of written values that are not zero.
-/

namespace SeededMatrix

/-! ## Cells of a shape -/

/-- The cells of a shape, row after row. -/
def cellsWithin (rows cols : Nat) : List (Nat × Nat) :=
  (List.range rows).product (List.range cols)

theorem mem_cellsWithin {rows cols row col : Nat} :
    (row, col) ∈ cellsWithin rows cols ↔ row < rows ∧ col < cols := by
  rw [cellsWithin, List.pair_mem_product, List.mem_range, List.mem_range]

theorem nodup_cellsWithin (rows cols : Nat) : (cellsWithin rows cols).Nodup :=
  List.nodup_range.product List.nodup_range

theorem length_cellsWithin (rows cols : Nat) : (cellsWithin rows cols).length = rows * cols := by
  simp [cellsWithin, List.product]

theorem countP_cellsWithin (rows cols : Nat) (counts : Nat → Nat → Bool) :
    (cellsWithin rows cols).countP (fun cell => counts cell.1 cell.2) =
      ((List.range rows).map fun row => (List.range cols).countP (counts row)).sum := by
  rw [cellsWithin, List.product, List.countP_flatMap]
  simp only [Function.comp_def, List.countP_map]

/-- If exactly those of some cells are not zero that writes made so, each cell being written at most
once, the writes tell how many these are. -/
theorem countP_written {cells : List (Nat × Nat)} (nodup : cells.Nodup)
    {nonZeroAt : Nat → Nat → Bool} {writes : List Write}
    (held : ∀ write ∈ writes, (write.row, write.col) ∈ cells) (ordered : LeftToRight writes)
    (reads : ∀ row col, (row, col) ∈ cells → (nonZeroAt row col = true ↔
      ∃ write ∈ writes, (row = write.row ∧ col = write.col) ∧ write.nonZero = true)) :
    cells.countP (fun cell => nonZeroAt cell.1 cell.2) = writes.countP Write.nonZero := by
  have written_once :
      ((writes.filter Write.nonZero).map fun write => (write.row, write.col)).Nodup := by
    rw [List.Nodup, List.pairwise_map]
    apply (ordered.filter Write.nonZero).imp
    intro first second cols_lt same
    obtain ⟨rows_eq, cols_eq⟩ := Prod.mk.inj same
    exact (cols_lt rows_eq).ne cols_eq
  have same_cells : (cells.filter fun cell => nonZeroAt cell.1 cell.2).Perm
      ((writes.filter Write.nonZero).map fun write => (write.row, write.col)) := by
    rw [List.perm_ext_iff_of_nodup (nodup.filter _) written_once]
    rintro ⟨row, col⟩
    simp only [List.mem_filter, List.mem_map]
    constructor
    · rintro ⟨member, nonZero⟩
      obtain ⟨write, write_mem, ⟨rfl, rfl⟩, write_nonZero⟩ := (reads row col member).mp nonZero
      exact ⟨write, ⟨write_mem, write_nonZero⟩, rfl⟩
    · rintro ⟨write, ⟨write_mem, write_nonZero⟩, same⟩
      obtain ⟨rfl, rfl⟩ := Prod.mk.inj same
      have member := held write write_mem
      exact ⟨member, (reads _ _ member).mpr ⟨write, write_mem, ⟨rfl, rfl⟩, write_nonZero⟩⟩
  rw [List.countP_eq_length_filter, List.countP_eq_length_filter, same_cells.length_eq,
    List.length_map]

/-! ## Counting as the storage does -/

theorem foldl_count {α : Type} (counts : α → Bool) (items : List α) (start : Nat) :
    items.foldl (fun count item => if counts item then count + 1 else count) start =
      start + items.countP counts := by
  induction items generalizing start with
  | nil => rfl
  | cons item items induction =>
      rw [List.foldl_cons, induction, List.countP_cons]
      split <;> omega

theorem countP_places {α : Type} (counts : α → Bool) (items : List α) :
    items.countP counts = (List.range items.length).countP fun place =>
      items[place]?.any counts := by
  have places : items.map some = (List.range items.length).map fun place => items[place]? := by
    apply List.ext_getElem (by simp)
    intro place here there
    simp
  calc
    items.countP counts = (items.map some).countP (Option.any counts) := by
      rw [List.countP_map]
      rfl
    _ = _ := by
      rw [places, List.countP_map]
      rfl

theorem countP_rows {α : Type} (counts : α → Bool) {rows cols : Nat} {items : List α}
    (length_eq : items.length = rows * cols) :
    items.countP counts = ((List.range rows).map fun row =>
      (List.range cols).countP fun col => items[row * cols + col]?.any counts).sum := by
  induction rows generalizing items with
  | zero =>
      rw [Nat.zero_mul, List.length_eq_zero_iff] at length_eq
      simp [length_eq]
  | succ rows induction =>
      -- The last row is what is left behind the others.
      rw [Nat.add_mul, Nat.one_mul] at length_eq
      have front_length : (items.take (rows * cols)).length = rows * cols := by
        rw [List.length_take]
        omega
      have last_length : (items.drop (rows * cols)).length = cols := by
        rw [List.length_drop]
        omega
      have front : ((List.range rows).map fun row => (List.range cols).countP fun col =>
            (items.take (rows * cols))[row * cols + col]?.any counts) =
          (List.range rows).map fun row => (List.range cols).countP fun col =>
            items[row * cols + col]?.any counts := by
        apply List.map_congr_left
        intro row row_mem
        apply List.countP_congr
        intro col col_mem
        rw [List.getElem?_take_of_lt
          (Grid.cellNumber_lt (List.mem_range.mp row_mem) (List.mem_range.mp col_mem))]
      rw [List.range_succ, List.map_append, List.sum_append, ← front, ← induction front_length,
        List.map_singleton, List.sum_singleton]
      conv_lhs => rw [← List.take_append_drop (rows * cols) items, List.countP_append]
      rw [countP_places counts (items.drop (rows * cols)), last_length]
      simp only [List.getElem?_drop]

namespace StoredRow

theorem nonZeroCount_eq (row : StoredRow) :
    row.nonZeroCount = row.entries.toList.countP fun entry => entry.value != 0.0 := by
  rw [nonZeroCount, ← Array.foldl_toList, foldl_count, Nat.zero_add]

theorem WellFormed.nonZeroCount_eq {cols : Nat} {row : StoredRow} (formed : row.WellFormed cols) :
    row.nonZeroCount = (List.range cols).countP fun col => row.get col != 0.0 := by
  have stored_once : ((row.entries.toList.filter fun entry => entry.value != 0.0).map
      Entry.column).Nodup :=
    (formed.increasing.imp fun cols_lt => cols_lt.ne).sublist (List.filter_sublist.map _)
  have same_columns : ((row.entries.toList.filter fun entry => entry.value != 0.0).map
      Entry.column).Perm ((List.range cols).filter fun col => row.get col != 0.0) := by
    rw [List.perm_ext_iff_of_nodup stored_once (List.nodup_range.filter _)]
    intro column
    simp only [List.mem_map, List.mem_filter, List.mem_range]
    constructor
    · rintro ⟨entry, ⟨member, nonZero⟩, rfl⟩
      rw [get_of_mem formed.increasing (Array.mem_toList_iff.mp member)]
      exact ⟨formed.inside _ (List.mem_map_of_mem member), nonZero⟩
    · rintro ⟨-, nonZero⟩
      by_cases stored : column ∈ row.columns
      · obtain ⟨entry, member, rfl⟩ := List.mem_map.mp stored
        rw [get_of_mem formed.increasing (Array.mem_toList_iff.mp member)] at nonZero
        exact ⟨entry, ⟨member, nonZero⟩, rfl⟩
      · rw [get_of_not_mem stored, zero_bne_zero] at nonZero
        contradiction
  rw [StoredRow.nonZeroCount_eq, List.countP_eq_length_filter, List.countP_eq_length_filter,
    ← same_columns.length_eq, List.length_map]

end StoredRow

namespace Storage

variable {storage after : Storage} {isSparse : Bool} {rows cols : Nat}

/-- A storage counts the cells that do not read as zero. -/
theorem nonZeroCount_eq (shape : storage.HasShape isSparse rows cols)
    (formed : storage.WellFormed rows cols) :
    storage.nonZeroCount =
      (cellsWithin rows cols).countP fun cell => storage.nonZeroAt cell.1 cell.2 := by
  rw [countP_cellsWithin]
  cases storage with
  | unallocated => exact shape.elim
  | dense grid =>
      obtain ⟨-, rfl, rfl⟩ := shape
      have length_eq : grid.cells.toList.length = grid.rows * grid.cols := grid.size_cells
      rw [nonZeroCount, Grid.nonZeroCount, ← Array.foldl_toList, foldl_count, Nat.zero_add,
        countP_rows _ length_eq]
      apply congrArg
      apply List.map_congr_left
      intro row row_mem
      apply List.countP_congr
      intro col col_mem
      have row_lt := List.mem_range.mp row_mem
      have col_lt := List.mem_range.mp col_mem
      have number_lt : row * grid.cols + col < grid.cells.size := by
        rw [grid.size_cells]
        exact Grid.cellNumber_lt row_lt col_lt
      rw [nonZeroAt, get, Grid.get_eq grid row_lt col_lt]
      simp [number_lt, Array.getD_eq_getD_getElem?]
  | sparse table =>
      obtain ⟨-, rfl⟩ := shape
      have row_counts : table.toList.map StoredRow.nonZeroCount =
          (List.range table.size).map fun row =>
            (List.range cols).countP ((sparse table).nonZeroAt row) := by
        apply List.ext_getElem (by simp)
        intro row here there
        have row_lt : row < table.size := by simpa using here
        have found := Array.getElem?_eq_getElem row_lt
        have counted := (formed.2 row _ found).nonZeroCount_eq
        have reads : (fun col => table[row].get col != 0.0) = (sparse table).nonZeroAt row := by
          funext col
          simp only [nonZeroAt, get, found]
        rw [reads] at counted
        simpa using counted
      rw [nonZeroCount, ← row_counts, List.sum_eq_foldl, List.foldl_map, Array.foldl_toList]

theorem nonZeroCount_congr {otherSparse : Bool} (shape : storage.HasShape isSparse rows cols)
    (formed : storage.WellFormed rows cols) (shape' : after.HasShape otherSparse rows cols)
    (formed' : after.WellFormed rows cols)
    (same : ∀ row < rows, ∀ col < cols, after.nonZeroAt row col = storage.nonZeroAt row col) :
    after.nonZeroCount = storage.nonZeroCount := by
  rw [nonZeroCount_eq shape formed, nonZeroCount_eq shape' formed']
  apply List.countP_congr
  rintro ⟨row, col⟩ member
  obtain ⟨row_lt, col_lt⟩ := mem_cellsWithin.mp member
  rw [same row row_lt col col_lt]

theorem nonZeroCount_convert (shape : storage.HasShape isSparse rows cols)
    (formed : storage.WellFormed rows cols) (converted : storage.convert cols = .ok after) :
    after.nonZeroCount = storage.nonZeroCount :=
  nonZeroCount_congr shape formed (shape.convert converted) (shape.wellFormed_convert converted)
    fun _ row_lt _ col_lt => nonZeroAt_convert shape formed converted row_lt col_lt

theorem nonZeroCount_rowsOfGrid (grid : Grid) :
    (sparse (rowsOfGrid grid)).nonZeroCount = (dense grid).nonZeroCount := by
  have shape : (dense grid).HasShape false grid.rows grid.cols := ⟨rfl, rfl, rfl⟩
  have shape' : (sparse (rowsOfGrid grid)).HasShape true grid.rows grid.cols :=
    ⟨rfl, by simp [rowsOfGrid]⟩
  exact nonZeroCount_congr shape (wellFormed_of_dense shape) shape' (wellFormed_rowsOfGrid grid)
    fun _ row_lt _ col_lt => nonZeroAt_rowsOfGrid grid row_lt col_lt

/-- Number of cells of a row that are not zero. -/
def nonZerosInRow (storage : Storage) (cols row : Nat) : Nat :=
  (List.range cols).countP (storage.nonZeroAt row)

theorem size_of_rowsOfGrid {grid : Grid} {row : Nat} {stored : StoredRow}
    (found : (rowsOfGrid grid)[row]? = some stored) :
    stored.size = (dense grid).nonZerosInRow grid.cols row := by
  obtain ⟨row_lt, entries_eq⟩ := entries_rowsOfGrid found
  have all_nonZero : ∀ entry ∈ stored.entries.toList, (entry.value != 0.0) = true := by
    intro entry member
    rw [entries_eq, mem_nonZeroEntries] at member
    exact member.2
  have reads : ∀ col, (stored.get col != 0.0) = (sparse (rowsOfGrid grid)).nonZeroAt row col := by
    intro col
    simp only [nonZeroAt, get, found]
  calc
    stored.size = stored.nonZeroCount := by
      rw [StoredRow.nonZeroCount_eq, List.countP_eq_length.mpr all_nonZero]
      rfl
    _ = (List.range grid.cols).countP fun col => stored.get col != 0.0 :=
      ((wellFormed_rowsOfGrid grid).2 row stored found).nonZeroCount_eq
    _ = (dense grid).nonZerosInRow grid.cols row := by
      apply List.countP_congr
      intro col member
      rw [reads, nonZeroAt_rowsOfGrid grid row_lt (List.mem_range.mp member)]

/-- After writes from left to right into a new matrix, as many cells are not zero as written values
are. -/
theorem Accepts.nonZeroCount_eq {room : Nat} {writes : List Write}
    (accepts : (blank isSparse rows cols).Accepts isSparse rows cols writes)
    (put : (blank isSparse rows cols).putList room writes = .ok after) :
    after.nonZeroCount = writes.countP Write.nonZero := by
  rw [Storage.nonZeroCount_eq (accepts.shape.putList put) (accepts.wellFormed put)]
  apply countP_written (nodup_cellsWithin rows cols) _ accepts.ordered
  · intro row col member
    obtain ⟨row_lt, col_lt⟩ := mem_cellsWithin.mp member
    exact accepts.nonZeroAt_iff put row_lt col_lt
  · exact fun write member => mem_cellsWithin.mpr (accepts.within write member)

end Storage

namespace OutputMatrix

variable {matrix settled : OutputMatrix} {conversion : Option Conversion}

theorem nonZeros_settleLayout (settles : matrix.settleLayout = .ok (settled, conversion)) :
    settled.nonZeros = matrix.nonZeros := by
  rw [eq_of_settleLayout settles]

theorem nonZeroCount_settleLayout (settles : matrix.settleLayout = .ok (settled, conversion))
    (shaped : matrix.WellShaped) (formed : matrix.storage.WellFormed matrix.rows matrix.cols) :
    settled.storage.nonZeroCount = matrix.storage.nonZeroCount := by
  obtain ⟨-, -, ⟨-, kept⟩ | ⟨-, converted⟩⟩ := settleLayout_cases settles
  · rw [kept]
  · exact Storage.nonZeroCount_convert shaped formed converted

end OutputMatrix

end SeededMatrix
