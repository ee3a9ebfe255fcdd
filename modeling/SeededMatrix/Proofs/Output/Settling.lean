import SeededMatrix.Proofs.Output.Views
import Mathlib.Data.List.Sort

/-!
# Settling the layout

Settling carries the cells of a matrix over to the other layout if its kept number of non-zero
cells, which may be out of date, calls for it. The matrix then reads as before, except that a zero
may have become the positive zero; it counts and compresses as before; and settling it again changes
nothing. It can only fail because there is no room for the other layout.
-/

namespace SeededMatrix

/-- Whether a value is kept: it stays what it is, except that a zero may become the positive zero.
-/
def KeepsValue (value kept : Float) : Prop :=
  kept = value ∨ (value == 0.0) = true ∧ kept = 0.0

theorem KeepsValue.sameValue {value kept : Float} (keeps : KeepsValue value kept) :
    SameValue value kept := by
  rcases keeps with rfl | ⟨zero, rfl⟩
  · exact .refl kept
  · exact .zero (by rw [bne, zero]; rfl)

/-! ## Matrices that read alike -/

/-- Whether an entry stands in an earlier column than another one. -/
def Entry.Before (first second : Entry) : Prop :=
  first.column < second.column

instance : Std.Irrefl Entry.Before :=
  ⟨fun entry => Nat.lt_irrefl entry.column⟩

instance : Std.Antisymm Entry.Before :=
  ⟨fun _ _ before after => absurd before (Nat.lt_asymm after)⟩

namespace OutputMatrix

variable {matrix other : OutputMatrix}

/-- Whether a matrix has the shape of another one and its values, up to the sign of zero. -/
structure ReadsAs (other matrix : OutputMatrix) : Prop where
  rows_eq : other.rows = matrix.rows
  cols_eq : other.cols = matrix.cols
  same : ∀ row < matrix.rows, ∀ col < matrix.cols, ∃ value kept,
    matrix.get row col = .ok value ∧ other.get row col = .ok kept ∧ SameValue value kept

theorem ReadsAs.get_eq_iff (alike : other.ReadsAs matrix) {row col : Nat} {value : Float}
    (nonZero : (value != 0.0) = true) :
    other.get row col = .ok value ↔ matrix.get row col = .ok value := by
  obtain ⟨rows_eq, cols_eq, same⟩ := alike
  constructor
  · intro reads
    obtain ⟨row_lt, col_lt⟩ := within_of_get reads
    obtain ⟨found, kept, found_eq, kept_eq, same⟩ :=
      same row (rows_eq ▸ row_lt) col (cols_eq ▸ col_lt)
    obtain rfl := Except.ok.inj (reads.symm.trans kept_eq)
    rw [found_eq, same.eq_of_bne nonZero]
  · intro reads
    obtain ⟨row_lt, col_lt⟩ := within_of_get reads
    obtain ⟨found, kept, found_eq, kept_eq, same⟩ := same row row_lt col col_lt
    obtain rfl := Except.ok.inj (reads.symm.trans found_eq)
    rw [kept_eq, same.symm.eq_of_bne nonZero]

theorem ReadsAs.rowEntries_eq (alike : other.ReadsAs matrix) (readable : matrix.Readable)
    (readable' : other.Readable) : Csr.rowEntries other = Csr.rowEntries matrix := by
  have size_eq := Csr.size_rowEntries readable
  have size_eq' := Csr.size_rowEntries readable'
  apply Array.ext (by rw [size_eq, size_eq', alike.rows_eq])
  intro row row_lt' row_lt
  have found := Array.getElem?_eq_getElem row_lt
  have found' := Array.getElem?_eq_getElem row_lt'
  have ordered := List.pairwise_map.mp (Csr.wellFormed_rowEntries readable found).increasing
  have ordered' := List.pairwise_map.mp (Csr.wellFormed_rowEntries readable' found').increasing
  apply Array.toList_inj.mp
  apply List.Pairwise.eq_of_mem_iff (r := Entry.Before) ordered' ordered
  intro entry
  rw [Array.mem_toList_iff, Array.mem_toList_iff, Csr.mem_rowEntries readable' found',
    Csr.mem_rowEntries readable found]
  exact and_congr_left fun nonZero => alike.get_eq_iff nonZero

theorem ReadsAs.ofMatrix_eq (alike : other.ReadsAs matrix) (readable : matrix.Readable)
    (readable' : other.Readable) : Csr.ofMatrix other = Csr.ofMatrix matrix := by
  rw [Csr.ofMatrix, Csr.ofMatrix, alike.rowEntries_eq readable readable', alike.rows_eq,
    alike.cols_eq]

theorem ReadsAs.nonZeroCount_eq (alike : other.ReadsAs matrix) (readable : matrix.Readable)
    (readable' : other.Readable) : other.storage.nonZeroCount = matrix.storage.nonZeroCount := by
  rw [← Csr.sum_size_rowEntries, alike.rowEntries_eq readable readable', Csr.sum_size_rowEntries]

end OutputMatrix

/-! ## The other layout -/

namespace Storage

/-- Whether there is room for storage of a shape in the other layout: for a grid, or for a table of
rows and the cells of each row that are not zero. -/
def FitsOther (storage : Storage) (rows cols : Nat) : Prop :=
  match storage with
  | unallocated => True
  | dense grid =>
      rows * 48 ≤ Size.allocationLimit ∧
        ∀ row < rows, (dense grid).nonZerosInRow cols row * 8 ≤ Size.appendLimit
  | sparse _ => Grid.fits rows cols = true

/-- A grid is carried over to rows exactly if there is room for them. -/
theorem sparseOfGrid_ok_iff (grid : Grid) :
    (∃ table, sparseOfGrid grid = .ok table) ↔ (dense grid).FitsOther grid.rows grid.cols := by
  have rows_iff : (rowsOfGrid grid).toList.forM (fun row => Size.append row.size 8) = .ok () ↔
      ∀ row < grid.rows, (dense grid).nonZerosInRow grid.cols row * 8 ≤ Size.appendLimit := by
    rw [forM_eq_ok]
    constructor
    · intro appended row row_lt
      obtain ⟨stored, found⟩ : ∃ stored, (rowsOfGrid grid)[row]? = some stored :=
        ⟨_, Array.getElem?_eq_getElem (by simpa [rowsOfGrid] using row_lt)⟩
      rw [← size_of_rowsOfGrid found, ← Size.append_eq_ok]
      exact appended _ (Array.mem_toList_iff.mpr (Array.mem_of_getElem? found))
    · intro few stored member
      obtain ⟨row, found⟩ := Array.mem_iff_getElem?.mp (Array.mem_toList_iff.mp member)
      rw [Size.append_eq_ok, size_of_rowsOfGrid found]
      exact few row (entries_rowsOfGrid found).1
  rw [FitsOther, ← rows_iff, ← Size.reserve_eq_ok]
  constructor
  · rintro ⟨table, made⟩
    obtain ⟨_, reserved, made⟩ := bind_eq_ok.mp made
    obtain ⟨_, appended, -⟩ := bind_eq_ok.mp made
    exact ⟨reserved, appended⟩
  · rintro ⟨reserved, appended⟩
    rw [sparseOfGrid, reserved, ok_bind]
    dsimp only
    rw [appended]
    exact ⟨_, rfl⟩

end Storage

namespace OutputMatrix

variable {matrix other : OutputMatrix}

/-- What a matrix that can be read stores is carried over exactly if there is room for it. -/
theorem Readable.convert_ok_iff (readable : matrix.Readable) :
    (∃ storage, matrix.storage.convert matrix.cols = .ok storage) ↔
      matrix.storage.FitsOther matrix.rows matrix.cols := by
  obtain ⟨rows, cols, sparse, nonZeros, nonZerosPerRow, stored⟩ := matrix
  cases stored with
  | unallocated => exact ⟨fun _ => trivial, fun _ => ⟨_, rfl⟩⟩
  | dense grid =>
      obtain ⟨rfl, rfl⟩ := readable
      rw [← Storage.sparseOfGrid_ok_iff, Storage.convert]
      cases Storage.sparseOfGrid grid with
      | ok table => simp
      | error fault => simp
  | sparse table =>
      rw [Storage.FitsOther, ← Storage.gridOfRows_ok_iff readable, Storage.convert]
      cases Storage.gridOfRows table cols with
      | ok grid => simp
      | error fault => simp

variable {after : OutputMatrix} {conversion : Option Conversion}

/-- Storage that is carried over to the other layout keeps every value. -/
theorem Readable.get_convert (readable : matrix.Readable) {storage : Storage}
    (converted : matrix.storage.convert matrix.cols = .ok storage) {row col : Nat}
    (row_lt : row < matrix.rows) (col_lt : col < matrix.cols) :
    ∃ value kept, matrix.storage.get row col = .ok value ∧ storage.get row col = .ok kept ∧
      KeepsValue value kept := by
  obtain ⟨rows, cols, sparse, nonZeros, nonZerosPerRow, stored⟩ := matrix
  cases stored with
  | unallocated =>
      obtain rfl := Except.ok.inj converted
      exact ⟨0.0, 0.0, rfl, rfl, .inl rfl⟩
  | dense grid =>
      obtain ⟨rfl, rfl⟩ := readable
      obtain rfl := Storage.eq_of_convert_dense converted
      obtain ⟨value, -, reads⟩ := Storage.get_grid_eq row_lt col_lt
      refine ⟨value, _, reads, Storage.get_rowsOfGrid_eq row_lt col_lt reads, ?_⟩
      split
      next => exact .inl rfl
      next zero => exact .inr ⟨by simpa [bne] using zero, rfl⟩
  | sparse table =>
      obtain ⟨grid, made, converted⟩ := bind_eq_ok.mp converted
      obtain rfl := Except.ok.inj converted
      have shape : (Storage.sparse table).HasShape true rows cols := ⟨rfl, readable.1⟩
      obtain ⟨value, reads⟩ := shape.get_ok row_lt col_lt
      refine ⟨value, value, reads, ?_, .inl rfl⟩
      rw [Storage.get_gridOfRows readable made row_lt col_lt, reads]

/-- What settling the layout keeps of a matrix. -/
structure Settles (matrix after : OutputMatrix) : Prop where
  rows_eq : after.rows = matrix.rows
  cols_eq : after.cols = matrix.cols
  nonZeros_eq : after.nonZeros = matrix.nonZeros
  nonZerosPerRow_eq : after.nonZerosPerRow = matrix.nonZerosPerRow
  kept : ∀ row < matrix.rows, ∀ col < matrix.cols, ∃ value kept,
    matrix.get row col = .ok value ∧ after.get row col = .ok kept ∧ KeepsValue value kept
  recounted : after.recount.nonZeros = matrix.recount.nonZeros
  compressed : Csr.ofMatrix after = Csr.ofMatrix matrix
  shaped : after.hasStorage = true → after.WellShaped
  formed : after.storage.WellFormed after.rows after.cols
  settled : after.settleLayout = .ok (after, none)

theorem keepsValue_settleLayout (settles : matrix.settleLayout = .ok (after, conversion))
    (readable : matrix.Readable) :
    ∀ row < matrix.rows, ∀ col < matrix.cols, ∃ value kept, matrix.get row col = .ok value ∧
      after.get row col = .ok kept ∧ KeepsValue value kept := by
  intro row row_lt col col_lt
  obtain ⟨rows_eq, cols_eq, change⟩ := settleLayout_cases settles
  rw [get, if_pos ⟨row_lt, col_lt⟩, get, if_pos ⟨rows_eq ▸ row_lt, cols_eq ▸ col_lt⟩]
  rcases change with ⟨-, kept⟩ | ⟨-, converted⟩
  · obtain ⟨value, -, reads, -⟩ := readable.get_sparseRows row_lt col_lt
    rw [get, if_pos ⟨row_lt, col_lt⟩] at reads
    exact ⟨value, value, reads, by rw [kept, reads], .inl rfl⟩
  · exact readable.get_convert converted row_lt col_lt

/-- Settling the layout keeps storage well formed, and in the layout that the matrix tells. -/
theorem formed_settleLayout (settles : matrix.settleLayout = .ok (after, conversion))
    (shaped : matrix.hasStorage = true → matrix.WellShaped)
    (formed : matrix.storage.WellFormed matrix.rows matrix.cols) :
    (after.hasStorage = true → after.WellShaped) ∧
      after.storage.WellFormed after.rows after.cols := by
  cases stored : matrix.hasStorage with
  | true =>
      have shaped := shaped stored
      exact ⟨fun _ => wellShaped_settleLayout settles shaped,
        wellFormed_settleLayout settles shaped formed⟩
  | false =>
      rw [← hasStorage_settleLayout settles] at stored
      refine ⟨fun something => absurd (stored.symm.trans something) Bool.false_ne_true, ?_⟩
      rw [hasStorage_eq_false.mp stored]
      trivial

theorem settles_of_settleLayout (settles : matrix.settleLayout = .ok (after, conversion))
    (shaped : matrix.hasStorage = true → matrix.WellShaped)
    (formed : matrix.storage.WellFormed matrix.rows matrix.cols) : matrix.Settles after := by
  obtain ⟨rows_eq, cols_eq, -⟩ := settleLayout_cases settles
  obtain ⟨shaped', formed'⟩ := formed_settleLayout settles shaped formed
  have readable := readable_of_wellFormed shaped formed
  have readable' := readable_of_wellFormed shaped' formed'
  have kept := keepsValue_settleLayout settles readable
  have alike : after.ReadsAs matrix := by
    refine ⟨rows_eq, cols_eq, fun row row_lt col col_lt => ?_⟩
    obtain ⟨value, kept, reads, reads', keeps⟩ := kept row row_lt col col_lt
    exact ⟨value, kept, reads, reads', keeps.sameValue⟩
  exact {
    rows_eq
    cols_eq
    nonZeros_eq := nonZeros_settleLayout settles
    nonZerosPerRow_eq := by rw [eq_of_settleLayout settles]
    kept
    recounted := alike.nonZeroCount_eq readable readable'
    compressed := alike.ofMatrix_eq readable readable'
    shaped := shaped'
    formed := formed'
    settled := if_pos (sparse_settleLayout settles).symm }

/-- The layout of a matrix can be settled exactly if it stays or there is room for the other one. -/
theorem settleLayout_ok_iff (readable : matrix.Readable) :
    (∃ after conversion, matrix.settleLayout = .ok (after, conversion)) ↔
      (Layout.prefersSparse matrix.rows matrix.cols matrix.nonZeros ≠ matrix.sparse →
        matrix.storage.FitsOther matrix.rows matrix.cols) := by
  rw [← readable.convert_ok_iff, settleLayout]
  split
  next same => exact ⟨fun _ other => absurd same other, fun _ => ⟨_, _, rfl⟩⟩
  next other =>
    constructor
    · rintro ⟨after, conversion, settles⟩ -
      obtain ⟨storage, converted, -⟩ := bind_eq_ok.mp settles
      exact ⟨storage, converted⟩
    · intro converts
      obtain ⟨storage, converted⟩ := converts other
      rw [converted]
      exact ⟨_, _, rfl⟩

/-- Settling the layout keeps the content of a matrix, however old the kept number of non-zero cells
is. It succeeds exactly if the layout stays or there is room for the other one, and cannot fail in
another way. -/
theorem settling_keeps_content (shaped : matrix.hasStorage = true → matrix.WellShaped)
    (formed : matrix.storage.WellFormed matrix.rows matrix.cols) :
    ((∃ after conversion, matrix.settleLayout = .ok (after, conversion)) ↔
        (Layout.prefersSparse matrix.rows matrix.cols matrix.nonZeros ≠ matrix.sparse →
          matrix.storage.FitsOther matrix.rows matrix.cols)) ∧
      (∀ fault, matrix.settleLayout = .error fault → fault = .storageTooLarge) ∧
      ∀ after conversion, matrix.settleLayout = .ok (after, conversion) → matrix.Settles after :=
  ⟨settleLayout_ok_iff (readable_of_wellFormed shaped formed), settleLayout_onlyTooLarge formed,
    fun _ _ settles => settles_of_settleLayout settles shaped formed⟩

/-- A grid with zeros of both signs and a value that is not-a-number. None of its cells has been
counted, so it is settled as sparse rows. -/
def mixedGrid : OutputMatrix :=
  ⟨2, 2, false, 0, 3, .dense ⟨2, 2, #[-0.0, 1.5, 0.0 / 0.0, 0.0], rfl⟩⟩

theorem settling_keeps_mixedGrid :
    ((mixedGrid.hasStorage = true → mixedGrid.WellShaped) ∧
        mixedGrid.storage.WellFormed mixedGrid.rows mixedGrid.cols) ∧
      ∃ after conversion, mixedGrid.settleLayout = .ok (after, conversion) ∧
        after.sparse = true ∧ mixedGrid.Settles after := by
  have shaped : mixedGrid.WellShaped := ⟨rfl, rfl, rfl⟩
  have formed : mixedGrid.storage.WellFormed mixedGrid.rows mixedGrid.cols := trivial
  obtain ⟨ok_iff, -, settles⟩ := settling_keeps_content (fun _ => shaped) formed
  have room : mixedGrid.storage.FitsOther 2 2 := ⟨by decide, by decide +kernel⟩
  obtain ⟨after, conversion, settled⟩ := ok_iff.mpr fun _ => room
  have content := settles after conversion settled
  refine ⟨⟨fun _ => shaped, formed⟩, after, conversion, settled, ?_, content⟩
  rw [sparse_settleLayout settled, content.rows_eq, content.cols_eq, content.nonZeros_eq]
  decide +kernel

/-- The sparse rows of a shape with `2 ^ 63` columns, but no rows. -/
def columnsOnly : OutputMatrix :=
  ⟨0, 0x8000_0000_0000_0000, true, 0, 0, .sparse #[]⟩

/-- Such rows can be allocated and are well formed. Being empty, they are to become a grid, and the
columns of it cannot be addressed. -/
theorem columnsOnly_not_settled :
    (unallocated 0 0x8000_0000_0000_0000 true).allocateSparse = .ok columnsOnly ∧
      (columnsOnly.hasStorage = true → columnsOnly.WellShaped) ∧
      columnsOnly.storage.WellFormed columnsOnly.rows columnsOnly.cols ∧
      columnsOnly.settleLayout = .error .storageTooLarge := by
  refine ⟨rfl, fun _ => ⟨rfl, rfl⟩, ⟨rfl, nofun⟩, ?_⟩
  rw [settleLayout, if_neg (by decide), columnsOnly, Storage.convert, Storage.gridOfRows,
    Grid.filled, if_neg (by decide)]
  rfl

end OutputMatrix

end SeededMatrix
