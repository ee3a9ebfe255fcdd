import SeededMatrix.Proofs.Output.Compressed
import SeededMatrix.Proofs.Output.Counting

/-!
# Consistent matrices

The number of non-zero cells that a matrix keeps is right if counting again finds it. Compressing a
matrix stores as many entries as counting finds, whatever the layout, so the kept number then is the
number of compressed entries as well. Counting, settling the layout and refilling leave it right.
-/

namespace SeededMatrix

/-! ## The number of compressed entries -/

theorem Size.foldlM_addCount_ok_iff (counts : List Nat) {total : Nat} (sums : Array Nat)
    (fits : total < limit) :
    (∃ after, counts.foldlM addCount (total, sums) = .ok after) ↔ total + counts.sum < limit := by
  induction counts generalizing total sums with
  | nil => exact ⟨fun _ => fits, fun _ => ⟨_, rfl⟩⟩
  | cons count counts induction =>
      rw [List.foldlM_cons, addCount, List.sum_cons, ← Nat.add_assoc]
      by_cases small : total + count < limit
      · simp only [add_eq_ok.mpr ⟨small, rfl⟩, ok_bind, pure_eq_ok]
        exact induction _ small
      · rw [add, if_neg small, error_bind, error_bind]
        simp only [reduceCtorEq, exists_false, false_iff]
        omega

theorem Size.runningSums_ok_iff (counts : Array Nat) :
    (∃ sums, runningSums counts = .ok sums) ↔
      (counts.size + 1) * 8 ≤ allocationLimit ∧ counts.toList.sum < limit := by
  have added := foldlM_addCount_ok_iff counts.toList #[0] (show 0 < limit by decide)
  rw [Nat.zero_add] at added
  rw [← added, ← reserve_eq_ok, runningSums, ← Array.foldlM_toList]
  cases reserve (counts.size + 1) 8 with
  | error fault => simp
  | ok room =>
      cases counts.toList.foldlM addCount (0, #[0]) with
      | ok after => exact ⟨fun _ => ⟨rfl, after, rfl⟩, fun _ => ⟨after.2, rfl⟩⟩
      | error fault => simp

namespace Csr

theorem size_nonZeroEntries (row : StoredRow) :
    (nonZeroEntries row).size = row.nonZeroCount := by
  rw [StoredRow.nonZeroCount_eq, nonZeroEntries, ← Array.length_toList, Array.toList_filter,
    List.countP_eq_length_filter]

theorem sum_size_nonZeroEntries (table : Array StoredRow) :
    ((table.map nonZeroEntries).map Array.size).toList.sum =
      (Storage.sparse table).nonZeroCount := by
  have sizes : Array.size ∘ nonZeroEntries = StoredRow.nonZeroCount :=
    funext size_nonZeroEntries
  rw [Array.map_map, sizes, Array.toList_map, Storage.nonZeroCount, List.sum_eq_foldl,
    List.foldl_map, Array.foldl_toList]

/-- Whatever the layout, a matrix has as many entries to be compressed as it counts. -/
theorem sum_size_rowEntries (matrix : OutputMatrix) :
    ((rowEntries matrix).map Array.size).toList.sum = matrix.storage.nonZeroCount := by
  rw [rowEntries]
  cases matrix.storage with
  | unallocated => simp [Storage.nonZeroCount]
  | dense grid =>
      rw [← Storage.nonZeroCount_rowsOfGrid]
      exact sum_size_nonZeroEntries _
  | sparse table => exact sum_size_nonZeroEntries table

/-- Compressed rows are the entries of the rows, joined, with the running sums of their numbers. -/
theorem eq_of_ofMatrix {matrix : OutputMatrix} {csr : Csr}
    (compressed : ofMatrix matrix = .ok csr) :
    ∃ starts, Size.RunningSums ((rowEntries matrix).map Array.size).toList starts ∧
      csr = ⟨matrix.rows, matrix.cols, starts, (rowEntries matrix).flatten.map Entry.column,
        (rowEntries matrix).flatten.map Entry.value⟩ := by
  obtain ⟨_, -, compressed⟩ := bind_eq_ok.mp compressed
  obtain ⟨_, -, compressed⟩ := bind_eq_ok.mp compressed
  obtain ⟨starts, summed, compressed⟩ := bind_eq_ok.mp compressed
  refine ⟨starts, Size.runningSums_of_ok summed, ?_⟩
  dsimp only at compressed
  split at compressed
  · exact (Except.ok.inj compressed).symm
  · contradiction

theorem size_of_ofMatrix {matrix : OutputMatrix} {csr : Csr}
    (compressed : ofMatrix matrix = .ok csr) :
    csr.columns.size = matrix.storage.nonZeroCount ∧
      csr.values.size = matrix.storage.nonZeroCount := by
  obtain ⟨starts, -, rfl⟩ := eq_of_ofMatrix compressed
  rw [Array.size_map, Array.size_map, Array.size_flatten, ← sum_size_rowEntries, Array.sum_toList]
  exact ⟨rfl, rfl⟩

/-- A matrix that can be read is compressed exactly if there is room for the starts of its rows, and
for its entries. -/
theorem ofMatrix_ok_iff {matrix : OutputMatrix} (readable : matrix.Readable) :
    (∃ csr, ofMatrix matrix = .ok csr) ↔
      (matrix.rows + 1) * 8 ≤ Size.allocationLimit ∧
        matrix.storage.nonZeroCount * 8 ≤ Size.appendLimit := by
  have not_malformed := ofMatrix_ne_malformed_of_readable readable
  have sums_iff := Size.runningSums_ok_iff ((rowEntries matrix).map Array.size)
  rw [Array.size_map, size_rowEntries readable, sum_size_rowEntries] at sums_iff
  have stored_size : (rowEntries matrix).flatten.size = matrix.storage.nonZeroCount := by
    rw [Array.size_flatten, ← sum_size_rowEntries, Array.sum_toList]
  rw [← stored_size, ← Size.append_eq_ok]
  constructor
  · rintro ⟨csr, compressed⟩
    obtain ⟨_, -, compressed⟩ := bind_eq_ok.mp compressed
    obtain ⟨_, appended, compressed⟩ := bind_eq_ok.mp compressed
    obtain ⟨starts, summed, -⟩ := bind_eq_ok.mp compressed
    exact ⟨(sums_iff.mp ⟨starts, summed⟩).1, appended⟩
  · rintro ⟨room, appended⟩
    have reserved : Size.reserve matrix.rows 8 = .ok () := Size.reserve_eq_ok.mpr (by omega)
    -- Entries for which there is room are few enough to be counted.
    have counted : matrix.storage.nonZeroCount < Size.limit := by
      rw [Size.append_eq_ok, stored_size] at appended
      simp only [Size.appendLimit, Size.limit] at *
      omega
    obtain ⟨starts, summed⟩ := sums_iff.mpr ⟨room, counted⟩
    rw [ofMatrix, reserved, ok_bind, ofEntries, appended, ok_bind, summed, ok_bind]
      at not_malformed ⊢
    dsimp only at not_malformed ⊢
    split at not_malformed
    next wellFormed => exact ⟨_, if_pos wellFormed⟩
    next => contradiction

end Csr

/-! ## Consistency -/

namespace OutputMatrix

/-- A matrix whose storage is well formed and whose kept number of non-zero cells is right. -/
structure Consistent (matrix : OutputMatrix) : Prop where
  shaped : matrix.hasStorage = true → matrix.WellShaped
  formed : matrix.storage.WellFormed matrix.rows matrix.cols
  counted : matrix.nonZeros = matrix.storage.nonZeroCount

variable {matrix after : OutputMatrix}

theorem consistent_of_unallocated (unallocated : matrix.storage = .unallocated)
    (uncounted : matrix.nonZeros = 0) : matrix.Consistent where
  shaped := by
    intro stored
    rw [hasStorage, unallocated] at stored
    contradiction
  formed := by
    rw [unallocated]
    trivial
  counted := by
    rw [uncounted, unallocated]
    rfl

theorem consistent_recount (shaped : matrix.hasStorage = true → matrix.WellShaped)
    (formed : matrix.storage.WellFormed matrix.rows matrix.cols) : matrix.recount.Consistent :=
  ⟨shaped, formed, rfl⟩

theorem Consistent.settleLayout (consistent : matrix.Consistent) (shaped : matrix.WellShaped)
    {conversion : Option Conversion} (settles : matrix.settleLayout = .ok (after, conversion)) :
    after.Consistent where
  shaped := fun _ => wellShaped_settleLayout settles shaped
  formed := wellFormed_settleLayout settles shaped consistent.formed
  counted := by
    rw [nonZeros_settleLayout settles, nonZeroCount_settleLayout settles shaped consistent.formed]
    exact consistent.counted

theorem nonZeroCount_filled {rows cols : Nat} {value : Float} {grid : Grid}
    (nonZero : (value == 0.0) = false) (filled : Grid.filled rows cols value = .ok grid) :
    grid.nonZeroCount = rows * cols := by
  rw [Grid.filled] at filled
  split at filled
  · obtain rfl := Except.ok.inj filled
    rw [Grid.nonZeroCount, ← Array.foldl_toList, foldl_count, Nat.zero_add,
      Array.toList_replicate, List.countP_replicate, if_pos (by simp [bne, nonZero])]
  · contradiction

theorem consistent_refill {rows cols : Nat} {value : Float}
    (refilled : matrix.refill rows cols value = .ok after) :
    after.Consistent ∧ after.rows = rows ∧ after.cols = cols := by
  obtain ⟨rows_eq, cols_eq, -⟩ := refill_cases refilled
  refine ⟨?_, rows_eq, cols_eq⟩
  rw [refill] at refilled
  split at refilled
  · obtain rfl := Except.ok.inj refilled
    exact consistent_of_unallocated rfl rfl
  next nonZero =>
    obtain ⟨grid, filled, refilled⟩ := bind_eq_ok.mp refilled
    obtain ⟨count, counted, refilled⟩ := bind_eq_ok.mp refilled
    obtain ⟨-, rfl⟩ := Size.mul_eq_ok.mp counted
    obtain rfl := Except.ok.inj refilled
    obtain ⟨grid_rows, grid_cols⟩ := filled_eq filled
    refine ⟨fun _ => ⟨rfl, grid_rows, grid_cols⟩,
      Storage.wellFormed_of_dense ⟨rfl, grid_rows, grid_cols⟩, ?_⟩
    exact (nonZeroCount_filled (Bool.eq_false_of_not_eq_true nonZero) filled).symm

theorem hasStorage_of_wellShaped (shaped : matrix.WellShaped) : matrix.hasStorage = true := by
  rw [hasStorage]
  split
  next nothing =>
    rw [WellShaped, nothing] at shaped
    exact shaped.elim
  next => rfl

theorem Consistent.nonZeros_le (consistent : matrix.Consistent) :
    matrix.nonZeros ≤ matrix.rows * matrix.cols := by
  obtain ⟨shaped, formed, counted⟩ := consistent
  cases stored : matrix.hasStorage with
  | true =>
      rw [counted, Storage.nonZeroCount_eq (shaped stored) formed]
      calc
        _ ≤ (cellsWithin matrix.rows matrix.cols).length := List.countP_le_length
        _ = matrix.rows * matrix.cols := length_cellsWithin _ _
  | false =>
      rw [counted, hasStorage_eq_false.mp stored]
      exact Nat.zero_le _

theorem sparse_settleLayout {conversion : Option Conversion}
    (settles : matrix.settleLayout = .ok (after, conversion)) :
    after.sparse = Layout.prefersSparse after.rows after.cols after.nonZeros := by
  rw [settleLayout] at settles
  split at settles
  next same =>
    obtain ⟨rfl, -⟩ := Prod.mk.inj (Except.ok.inj settles)
    exact same.symm
  next =>
    obtain ⟨storage, -, settles⟩ := bind_eq_ok.mp settles
    obtain ⟨rfl, -⟩ := Prod.mk.inj (Except.ok.inj settles)
    rfl

/-- Whether a matrix is finished in a shape: counting again changes nothing, and compressing it
stores as many entries as it keeps the number of. It can be compressed exactly if there is room for
the starts of its rows, and for its entries. -/
structure Finished (matrix : OutputMatrix) (rows cols : Nat) : Prop where
  rows_eq : matrix.rows = rows
  cols_eq : matrix.cols = cols
  recounted : matrix.recount = matrix
  compressed : ∀ csr, Csr.ofMatrix matrix = .ok csr →
    csr.columns.size = matrix.nonZeros ∧ csr.values.size = matrix.nonZeros
  compressible : (∃ csr, Csr.ofMatrix matrix = .ok csr) ↔
    (rows + 1) * 8 ≤ Size.allocationLimit ∧ matrix.nonZeros * 8 ≤ Size.appendLimit

theorem Consistent.finished (consistent : matrix.Consistent) {rows cols : Nat}
    (rows_eq : matrix.rows = rows) (cols_eq : matrix.cols = cols) :
    matrix.Finished rows cols where
  rows_eq := rows_eq
  cols_eq := cols_eq
  recounted := by
    rw [recount, ← consistent.counted]
  compressed := by
    intro csr compressed
    rw [consistent.counted]
    exact Csr.size_of_ofMatrix compressed
  compressible := by
    rw [consistent.counted, ← rows_eq]
    exact Csr.ofMatrix_ok_iff (readable_of_wellFormed consistent.shaped consistent.formed)

end OutputMatrix

end SeededMatrix
