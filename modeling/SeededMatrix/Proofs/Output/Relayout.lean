import SeededMatrix.Proofs.Output.Reading

/-!
# Cells after a change of layout

Dense cells become the entries of sparse rows unless they are zero, and sparse rows are scattered
into a grid of zeros by putting their entries one after the other. Either way every cell keeps its
value, except that a negative zero may become a positive one; so the same cells are not zero
afterwards.
-/

namespace SeededMatrix

theorem zero_bne_zero : ((0.0 : Float) != 0.0) = false := by
  decide +kernel

/-! ## Values up to the sign of zero -/

/-- Whether two values are the same, or both of them are zero. -/
def SameValue (left right : Float) : Prop :=
  left = right ∨ (left != 0.0) = false ∧ (right != 0.0) = false

namespace SameValue

variable {left middle right : Float}

theorem refl (value : Float) : SameValue value value :=
  .inl rfl

theorem zero (zero : (left != 0.0) = false) : SameValue left 0.0 :=
  .inr ⟨zero, zero_bne_zero⟩

theorem symm (same : SameValue left right) : SameValue right left := by
  rcases same with rfl | ⟨left_zero, right_zero⟩
  · exact .refl left
  · exact .inr ⟨right_zero, left_zero⟩

theorem trans (same : SameValue left middle) (same' : SameValue middle right) :
    SameValue left right := by
  rcases same with rfl | ⟨left_zero, middle_zero⟩
  · exact same'
  · rcases same' with rfl | ⟨-, right_zero⟩
    · exact .inr ⟨left_zero, middle_zero⟩
    · exact .inr ⟨left_zero, right_zero⟩

theorem bne_zero_eq (same : SameValue left right) : (left != 0.0) = (right != 0.0) := by
  rcases same with rfl | ⟨left_zero, right_zero⟩
  · rfl
  · rw [left_zero, right_zero]

theorem eq_of_bne (same : SameValue left right) (nonZero : (right != 0.0) = true) :
    left = right := by
  rcases same with rfl | ⟨-, right_zero⟩
  · rfl
  · rw [nonZero] at right_zero
    contradiction

end SameValue

/-- Whether a write stores a value that is not zero. -/
def Write.nonZero (write : Write) : Bool :=
  write.value != 0.0

namespace Storage

/-- Whether a cell can be read and is not zero. -/
def nonZeroAt (storage : Storage) (row col : Nat) : Bool :=
  match storage.get row col with
  | .ok value => value != 0.0
  | .error _ => false

variable {storage after : Storage} {isSparse : Bool} {rows cols : Nat}

/-! ## From a grid to rows -/

theorem mem_nonZeroEntries {values : List Float} {entry : Entry} :
    entry ∈ nonZeroEntries 0 values ↔
      values[entry.column]? = some entry.value ∧ (entry.value != 0.0) = true := by
  obtain ⟨column, value⟩ := entry
  simp only [nonZeroEntries, List.mem_map, List.mem_filter, List.mem_zipIdx_iff_getElem?]
  constructor
  · rintro ⟨⟨cell, place⟩, ⟨found, nonZero⟩, same⟩
    obtain ⟨rfl, rfl⟩ := Entry.mk.inj same
    exact ⟨found, nonZero⟩
  · rintro ⟨found, nonZero⟩
    exact ⟨(value, column), ⟨found, nonZero⟩, rfl⟩

theorem get_grid_eq {grid : Grid} {row col : Nat} (row_lt : row < grid.rows)
    (col_lt : col < grid.cols) :
    ∃ value, (grid.row row).toList[col]? = some value ∧ grid.get row col = .ok value := by
  have number_lt : row * grid.cols + col < grid.cells.size := by
    rw [grid.size_cells]
    exact Grid.cellNumber_lt row_lt col_lt
  have found := Array.getElem?_eq_getElem number_lt
  refine ⟨grid.cells[row * grid.cols + col], ?_, ?_⟩
  · have before : row * grid.cols + col < min ((row + 1) * grid.cols) grid.cells.size := by
      rw [Nat.add_mul]
      omega
    rw [Array.getElem?_toList, Grid.row, Array.getElem?_extract, if_pos (by omega), found]
  · rw [Grid.get, if_pos ⟨row_lt, col_lt⟩, found]

/-- The rows of a grid have the values of the grid; what is zero in the grid, whatever its sign, is
the positive zero in the rows. -/
theorem get_rowsOfGrid_eq {grid : Grid} {row col : Nat} (row_lt : row < grid.rows)
    (col_lt : col < grid.cols) {value : Float} (reads : grid.get row col = .ok value) :
    (sparse (rowsOfGrid grid)).get row col = .ok (if value != 0.0 then value else 0.0) := by
  obtain ⟨stored, row_found⟩ : ∃ stored, (rowsOfGrid grid)[row]? = some stored :=
    ⟨_, Array.getElem?_eq_getElem (by simpa [rowsOfGrid] using row_lt)⟩
  obtain ⟨other, value_found, get_eq⟩ := get_grid_eq row_lt col_lt
  obtain rfl := Except.ok.inj (reads.symm.trans get_eq)
  obtain ⟨-, entries_eq⟩ := entries_rowsOfGrid row_found
  have increasing := ((wellFormed_rowsOfGrid grid).2 row _ row_found).increasing
  simp only [get, row_found]
  split
  next nonZero =>
    have member : (⟨col, value⟩ : Entry) ∈ stored.entries := by
      rw [← Array.mem_toList_iff, entries_eq, mem_nonZeroEntries]
      exact ⟨value_found, nonZero⟩
    rw [StoredRow.get_of_mem increasing member]
  next zero =>
    have missing : col ∉ stored.columns := by
      intro column_mem
      obtain ⟨entry, member, rfl⟩ := List.mem_map.mp column_mem
      rw [entries_eq, mem_nonZeroEntries, value_found] at member
      obtain ⟨same, entry_nonZero⟩ := member
      rw [Option.some.inj same] at zero
      exact zero entry_nonZero
    rw [StoredRow.get_of_not_mem missing]

/-- So the rows of a grid have the values of the grid, up to the sign of zero. -/
theorem get_rowsOfGrid (grid : Grid) {row col : Nat} (row_lt : row < grid.rows)
    (col_lt : col < grid.cols) :
    ∃ value kept, (dense grid).get row col = .ok value ∧
      (sparse (rowsOfGrid grid)).get row col = .ok kept ∧ SameValue value kept := by
  obtain ⟨value, -, get_eq⟩ := get_grid_eq row_lt col_lt
  refine ⟨value, _, get_eq, get_rowsOfGrid_eq row_lt col_lt get_eq, ?_⟩
  split
  next => exact .refl value
  next zero => exact .zero (Bool.eq_false_of_not_eq_true zero)

theorem nonZeroAt_eq {row col : Nat} {value kept : Float}
    (get_eq : storage.get row col = .ok value) (kept_eq : after.get row col = .ok kept)
    (same : SameValue value kept) : after.nonZeroAt row col = storage.nonZeroAt row col := by
  rw [nonZeroAt, nonZeroAt, get_eq, kept_eq]
  exact same.bne_zero_eq.symm

theorem nonZeroAt_rowsOfGrid (grid : Grid) {row col : Nat} (row_lt : row < grid.rows)
    (col_lt : col < grid.cols) :
    (sparse (rowsOfGrid grid)).nonZeroAt row col = (dense grid).nonZeroAt row col := by
  obtain ⟨value, kept, get_eq, kept_eq, same⟩ := get_rowsOfGrid grid row_lt col_lt
  exact nonZeroAt_eq get_eq kept_eq same

theorem eq_of_convert_dense {grid : Grid} (converted : (dense grid).convert cols = .ok after) :
    after = sparse (rowsOfGrid grid) := by
  obtain ⟨table, made, converted⟩ := bind_eq_ok.mp converted
  obtain ⟨_, -, made⟩ := bind_eq_ok.mp made
  obtain ⟨_, -, made⟩ := bind_eq_ok.mp made
  rw [← Except.ok.inj converted, ← Except.ok.inj made]

/-! ## From rows to a grid -/

theorem get_blank {row col : Nat} (row_lt : row < rows) (col_lt : col < cols) :
    (blank isSparse rows cols).get row col = .ok 0.0 := by
  cases isSparse with
  | false =>
      rw [blank, get, Grid.get_eq _ row_lt col_lt]
      simp [Array.getD_eq_getD_getElem?, Grid.cellNumber_lt row_lt col_lt]
  | true =>
      have found : (Array.replicate rows StoredRow.empty)[row]? = some .empty := by
        rw [Array.getElem?_replicate, if_pos row_lt]
      simp only [blank, get, found]
      rw [StoredRow.get_of_not_mem (by simp)]

/-- The writes that put the entries of a row. -/
def rowWrites (row : Nat) (stored : StoredRow) : List Write :=
  stored.entries.toList.map fun entry => ⟨row, entry.column, entry.value⟩

/-- The writes that put the entries of consecutive rows. -/
def tableWrites (table : List StoredRow) (row : Nat) : List Write :=
  (table.zipIdx row).flatMap fun numbered => rowWrites numbered.2 numbered.1

theorem putList_rowWrites (grid : Grid) (row : Nat) (stored : StoredRow) :
    (dense grid).putList 0 (rowWrites row stored) = dense <$> scatterRow grid row stored := by
  rw [scatterRow, ← Array.foldlM_toList, rowWrites]
  induction stored.entries.toList generalizing grid with
  | nil => rfl
  | cons entry entries induction =>
      rw [List.map_cons, putList_cons, List.foldlM_cons]
      cases set : grid.set row entry.column entry.value with
      | ok after => simpa [putWrite, put, set] using induction after
      | error fault => simp [putWrite, put, set]

/-- Scattering rows puts the entries of all of them. -/
theorem putList_tableWrites (grid : Grid) (table : List StoredRow) (row : Nat) :
    (dense grid).putList 0 (tableWrites table row) = dense <$> scatter table row grid := by
  induction table generalizing grid row with
  | nil => rfl
  | cons stored table induction =>
      rw [tableWrites, List.zipIdx_cons, List.flatMap_cons, putList_append, putList_rowWrites,
        scatter]
      cases scatterRow grid row stored with
      | ok after => exact induction after (row + 1)
      | error fault => rfl

theorem mem_tableWrites {table : List StoredRow} {write : Write} :
    write ∈ tableWrites table 0 ↔
      ∃ stored, table[write.row]? = some stored ∧ ⟨write.col, write.value⟩ ∈ stored.entries := by
  simp only [tableWrites, rowWrites, List.mem_flatMap, List.mem_map, List.mem_zipIdx_iff_getElem?]
  constructor
  · rintro ⟨⟨stored, row⟩, found, entry, member, rfl⟩
    exact ⟨stored, found, Array.mem_toList_iff.mp member⟩
  · rintro ⟨stored, found, member⟩
    exact ⟨(stored, write.row), found, _, Array.mem_toList_iff.mpr member, rfl⟩

theorem accepts_tableWrites {table : Array StoredRow}
    (formed : (sparse table).WellFormed rows cols) :
    (blank false rows cols).Accepts false rows cols (tableWrites table.toList 0) := by
  obtain ⟨size_eq, formed⟩ := formed
  have shape := hasShape_blank false rows cols
  refine ⟨shape, wellFormed_of_dense shape, fun write member => ?_, ?_,
    fun write _ => leftOf_of_dense shape write⟩
  · obtain ⟨stored, found, entry_mem⟩ := mem_tableWrites.mp member
    rw [Array.getElem?_toList] at found
    obtain ⟨row_lt, -⟩ := Array.getElem?_eq_some_iff.mp found
    refine ⟨size_eq ▸ row_lt, (formed write.row stored found).inside write.col ?_⟩
    exact List.mem_map_of_mem (Array.mem_toList_iff.mpr entry_mem)
  · have rows_ordered : (table.toList.zipIdx 0).Pairwise fun first second =>
        first.2 < second.2 := by
      rw [← List.pairwise_map (f := Prod.snd), List.zipIdx_map_snd]
      exact List.pairwise_lt_range' 1
    rw [LeftToRight, tableWrites, List.pairwise_flatMap]
    refine ⟨fun ⟨stored, row⟩ member => ?_, rows_ordered.imp fun order => ?_⟩
    · rw [List.mem_zipIdx_iff_getElem?, Array.getElem?_toList] at member
      rw [rowWrites, List.pairwise_map]
      have increasing := List.pairwise_map.mp (formed row stored member).increasing
      apply increasing.imp
      intro first second order _
      exact order
    · intro write member later later_mem rows_eq
      obtain ⟨_, -, rfl⟩ := List.mem_map.mp member
      obtain ⟨_, -, rfl⟩ := List.mem_map.mp later_mem
      exact absurd rows_eq order.ne

theorem dense_filled {grid : Grid} (filled : Grid.filled rows cols 0.0 = .ok grid) :
    dense grid = blank false rows cols := by
  rw [Grid.filled] at filled
  split at filled
  · rw [← Except.ok.inj filled]
    rfl
  · contradiction

theorem putList_gridOfRows {table : Array StoredRow} (size_eq : table.size = rows) {grid : Grid}
    (made : gridOfRows table cols = .ok grid) :
    (blank false rows cols).putList 0 (tableWrites table.toList 0) = .ok (dense grid) := by
  obtain ⟨zeros, filled, scattered⟩ := bind_eq_ok.mp made
  rw [size_eq] at filled
  rw [← dense_filled filled, putList_tableWrites, scattered]
  rfl

theorem get_gridOfRows {table : Array StoredRow} (formed : (sparse table).WellFormed rows cols)
    {grid : Grid} (made : gridOfRows table cols = .ok grid) {row col : Nat} (row_lt : row < rows)
    (col_lt : col < cols) : (dense grid).get row col = (sparse table).get row col := by
  have size_eq := formed.1
  have put := putList_gridOfRows size_eq made
  have accepts := accepts_tableWrites formed
  have row_found : table[row]? = some table[row] := Array.getElem?_eq_getElem (size_eq ▸ row_lt)
  have increasing := (formed.2 row _ row_found).increasing
  simp only [get, row_found]
  by_cases stored : col ∈ table[row].columns
  · obtain ⟨entry, member, rfl⟩ := List.mem_map.mp stored
    have entry_mem := Array.mem_toList_iff.mp member
    have write_mem : ⟨row, entry.column, entry.value⟩ ∈ tableWrites table.toList 0 :=
      mem_tableWrites.mpr ⟨table[row], by rw [Array.getElem?_toList, row_found], entry_mem⟩
    rw [StoredRow.get_of_mem increasing entry_mem]
    exact accepts.get_of_mem put write_mem
  · have missing : ∀ write ∈ tableWrites table.toList 0, ¬(row = write.row ∧ col = write.col) := by
      rintro write member ⟨rfl, rfl⟩
      obtain ⟨other, found, entry_mem⟩ := mem_tableWrites.mp member
      rw [Array.getElem?_toList, row_found] at found
      rw [← Option.some.inj found] at entry_mem
      exact stored (List.mem_map_of_mem (Array.mem_toList_iff.mpr entry_mem))
    rw [StoredRow.get_of_not_mem stored]
    exact (accepts.get_of_not_mem put missing).trans (get_blank row_lt col_lt)

theorem HasShape.convert (shape : storage.HasShape isSparse rows cols)
    (converted : storage.convert cols = .ok after) :
    after.HasShape (!isSparse) rows cols := by
  cases storage with
  | unallocated => exact shape.elim
  | dense grid =>
      obtain ⟨rfl, rfl, rfl⟩ := shape
      rw [eq_of_convert_dense converted]
      exact ⟨rfl, by simp [rowsOfGrid]⟩
  | sparse table =>
      obtain ⟨rfl, rfl⟩ := shape
      obtain ⟨grid, made, converted⟩ := bind_eq_ok.mp converted
      rw [← Except.ok.inj converted]
      exact (hasShape_blank false _ cols).putList (putList_gridOfRows rfl made)

theorem HasShape.wellFormed_convert (shape : storage.HasShape isSparse rows cols)
    (converted : storage.convert cols = .ok after) : after.WellFormed rows cols := by
  cases storage with
  | unallocated => exact shape.elim
  | dense grid =>
      obtain ⟨-, rfl, rfl⟩ := shape
      rw [eq_of_convert_dense converted]
      exact wellFormed_rowsOfGrid grid
  | sparse table =>
      obtain ⟨grid, -, converted⟩ := bind_eq_ok.mp converted
      rw [← Except.ok.inj converted]
      trivial

theorem HasShape.get_ok (shape : storage.HasShape isSparse rows cols) {row col : Nat}
    (row_lt : row < rows) (col_lt : col < cols) : ∃ value, storage.get row col = .ok value := by
  cases storage with
  | unallocated => exact shape.elim
  | dense grid =>
      obtain ⟨-, rfl, rfl⟩ := shape
      exact ⟨_, grid.get_eq row_lt col_lt⟩
  | sparse table =>
      obtain ⟨-, rfl⟩ := shape
      obtain ⟨stored, found⟩ : ∃ stored, table[row]? = some stored :=
        ⟨_, Array.getElem?_eq_getElem row_lt⟩
      exact ⟨stored.get col, by simp only [get, found]⟩

theorem get_convert (shape : storage.HasShape isSparse rows cols)
    (formed : storage.WellFormed rows cols) (converted : storage.convert cols = .ok after)
    {row col : Nat} (row_lt : row < rows) (col_lt : col < cols) :
    ∃ value kept, storage.get row col = .ok value ∧ after.get row col = .ok kept ∧
      SameValue value kept := by
  cases storage with
  | unallocated => exact shape.elim
  | dense grid =>
      obtain ⟨-, rfl, rfl⟩ := shape
      rw [eq_of_convert_dense converted]
      exact get_rowsOfGrid grid row_lt col_lt
  | sparse table =>
      obtain ⟨value, get_eq⟩ := shape.get_ok row_lt col_lt
      obtain ⟨grid, made, converted⟩ := bind_eq_ok.mp converted
      rw [← Except.ok.inj converted, get_gridOfRows formed made row_lt col_lt]
      exact ⟨value, value, get_eq, get_eq, .refl value⟩

theorem nonZeroAt_convert (shape : storage.HasShape isSparse rows cols)
    (formed : storage.WellFormed rows cols) (converted : storage.convert cols = .ok after)
    {row col : Nat} (row_lt : row < rows) (col_lt : col < cols) :
    after.nonZeroAt row col = storage.nonZeroAt row col := by
  obtain ⟨value, kept, get_eq, kept_eq, same⟩ := get_convert shape formed converted row_lt col_lt
  exact nonZeroAt_eq get_eq kept_eq same

/-! ## After writes -/

/-- After writes into a new matrix, those cells are not zero that a value other than zero was
written to. -/
theorem Accepts.nonZeroAt_iff {room : Nat} {writes : List Write}
    (accepts : (blank isSparse rows cols).Accepts isSparse rows cols writes)
    (put : (blank isSparse rows cols).putList room writes = .ok after) {row col : Nat}
    (row_lt : row < rows) (col_lt : col < cols) :
    after.nonZeroAt row col = true ↔
      ∃ write ∈ writes, (row = write.row ∧ col = write.col) ∧ write.nonZero = true := by
  constructor
  · intro nonZero
    by_cases written : ∃ write ∈ writes, row = write.row ∧ col = write.col
    · obtain ⟨write, member, rfl, rfl⟩ := written
      rw [nonZeroAt, accepts.get_of_mem put member] at nonZero
      exact ⟨write, member, ⟨rfl, rfl⟩, nonZero⟩
    · have zero := accepts.get_of_not_mem put fun write member same =>
        written ⟨write, member, same⟩
      rw [get_blank row_lt col_lt] at zero
      rw [nonZeroAt, zero] at nonZero
      exact absurd (zero_bne_zero.symm.trans nonZero) (by decide)
  · rintro ⟨write, member, ⟨rfl, rfl⟩, nonZero⟩
    rw [nonZeroAt, accepts.get_of_mem put member]
    exact nonZero

end Storage

end SeededMatrix
