import SeededMatrix.Output.Csr
import SeededMatrix.Proofs.Output.Rows
import Mathlib.Algebra.BigOperators.Group.List.Lemmas

/-!
# Compressing well-formed rows

Row starts are the running sums of the row lengths, so they cut each row out of the joined entries
again. Rows whose columns strictly increase within the shape are therefore never refused. Such rows
are what every matrix is compressed from: its own, those of its grid, or empty ones.
-/

namespace SeededMatrix

/-- Counts that are added one after the other leave the sums up to each of them behind, unless a sum
leaves the range. -/
theorem Size.foldlM_addCount_cases (counts taken : List Nat) (total : Nat) {sums : Array Nat}
    (sums_eq : sums.toList = taken ++ [total]) :
    counts.foldlM addCount (total, sums) = .error .overflow ∨
      ∃ after, counts.foldlM addCount (total, sums) = .ok after ∧
        after.2.toList = taken ++ counts.scanl (· + ·) total := by
  induction counts generalizing taken total sums with
  | nil => exact .inr ⟨_, rfl, by simpa using sums_eq⟩
  | cons count counts induction =>
      rw [List.foldlM_cons, addCount]
      by_cases fits : total + count < limit
      · simp only [add_eq_ok.mpr ⟨fits, rfl⟩, ok_bind, pure_eq_ok]
        have pushed :
            (sums.push (total + count)).toList = (taken ++ [total]) ++ [total + count] := by
          simp [sums_eq]
        rcases induction (taken ++ [total]) (total + count) pushed with
          failed | ⟨after, folded, after_eq⟩
        · exact .inl failed
        · exact .inr ⟨after, folded, by simpa using after_eq⟩
      · simp [add, fits]

/-- Whether a table holds the total of the counts before each place, and of all of them at its end.
-/
structure Size.RunningSums (counts : List Nat) (sums : Array Nat) : Prop where
  size_eq : sums.size = counts.length + 1
  total : ∀ place ≤ counts.length, sums[place]? = some (counts.take place).sum

/-- A table of counts has its running sums, unless there is no room for them or a total leaves the
range. -/
theorem Size.runningSums_cases (counts : Array Nat) :
    (∃ fault, runningSums counts = .error fault ∧ fault ≠ .malformedCsr) ∨
      ∃ sums, runningSums counts = .ok sums ∧ RunningSums counts.toList sums := by
  have start : (#[0] : Array Nat).toList = [] ++ [0] := rfl
  rw [runningSums, ← Array.foldlM_toList, reserve]
  split
  swap
  · exact .inl ⟨_, rfl, by decide⟩
  rw [ok_bind]
  rcases foldlM_addCount_cases counts.toList [] 0 start with failed | ⟨after, folded, sums_eq⟩
  · rw [failed]
    exact .inl ⟨_, rfl, by decide⟩
  · rw [folded]
    refine .inr ⟨after.2, rfl, ?_, fun place place_le => ?_⟩
    · rw [← Array.length_toList, sums_eq, List.nil_append, List.length_scanl]
    · rw [← Array.getElem?_toList, sums_eq, List.nil_append, List.getElem?_scanl, if_pos place_le,
        List.sum_eq_foldl]

theorem Size.runningSums_of_ok {counts sums : Array Nat} (summed : runningSums counts = .ok sums) :
    RunningSums counts.toList sums := by
  rcases runningSums_cases counts with ⟨fault, failed, -⟩ | ⟨others, summed', totals⟩
  · rw [summed] at failed
    contradiction
  · rwa [Except.ok.inj (summed.symm.trans summed')]

namespace Csr

theorem increasing_of_pairwise {cols : Nat} {columns : List Nat}
    (ordered : columns.Pairwise (· < ·)) (inside : ∀ column ∈ columns, column < cols) :
    increasing cols columns = true := by
  induction columns with
  | nil => rfl
  | cons column columns induction =>
      obtain ⟨first_lt, ordered⟩ := List.pairwise_cons.mp ordered
      rw [List.forall_mem_cons] at inside
      cases columns with
      | nil => simpa [increasing] using inside.1
      | cons next columns =>
          simp [increasing, first_lt next (by simp), induction ordered inside.2]

/-- Between its start and the next one, a row finds its own entries. -/
theorem entries_extract (entries : Array (Array Entry)) {row : Nat} (row_lt : row < entries.size) :
    entries.flatten.extract ((entries.map Array.size).toList.take row).sum
        ((entries.map Array.size).toList.take (row + 1)).sum = entries[row] := by
  have cut := List.drop_take_succ_flatten_eq_getElem (entries.toList.map Array.toList) row
    (by simpa using row_lt)
  have lengths : List.length ∘ Array.toList = (Array.size : Array Entry → Nat) :=
    funext fun _ => Array.length_toList
  rw [List.map_map, lengths, List.drop_take] at cut
  apply Array.toList_inj.mp
  simpa [List.extract_eq_take_drop] using cut

/-- So it finds its own columns among the columns. -/
theorem columns_extract (entries : Array (Array Entry)) {row : Nat} (row_lt : row < entries.size) :
    ((entries.flatten.map Entry.column).extract
        ((entries.map Array.size).toList.take row).sum
        ((entries.map Array.size).toList.take (row + 1)).sum).toList =
      StoredRow.columns ⟨entries[row]⟩ := by
  rw [← Array.map_extract, entries_extract entries row_lt, Array.toList_map]
  rfl

theorem ofEntries_ne_malformed {cols : Nat} {entries : Array (Array Entry)}
    (formed : ∀ row ∈ entries, StoredRow.WellFormed cols ⟨row⟩) :
    ofEntries entries.size cols entries ≠ .error .malformedCsr := by
  rw [ofEntries, Size.append]
  split
  swap
  · simp
  rw [ok_bind]
  rcases Size.runningSums_cases (entries.map Array.size) with
    ⟨fault, failed, other⟩ | ⟨sums, summed, totals⟩
  · rw [failed]
    simpa using other
  · rw [summed, ok_bind, if_pos]
    · simp
    · simp only [wellFormed, List.all_eq_true, List.mem_range]
      intro row row_lt
      rw [Array.getD_eq_getD_getElem?, totals.total row (by simp; omega),
        Array.getD_eq_getD_getElem?, totals.total (row + 1) (by simp; omega), Option.getD_some,
        Option.getD_some, columns_extract entries row_lt]
      have row_formed := formed entries[row] (Array.getElem_mem row_lt)
      exact increasing_of_pairwise row_formed.increasing row_formed.inside

theorem wellFormed_nonZeroEntries {cols : Nat} {row : StoredRow} (formed : row.WellFormed cols) :
    StoredRow.WellFormed cols ⟨nonZeroEntries row⟩ := by
  have sublist : (StoredRow.columns ⟨nonZeroEntries row⟩).Sublist row.columns := by
    rw [StoredRow.columns, nonZeroEntries, Array.toList_filter]
    exact List.filter_sublist.map Entry.column
  exact ⟨formed.increasing.sublist sublist,
    fun column member => formed.inside column (sublist.subset member)⟩

end Csr

/-! ## The rows of a matrix -/

namespace OutputMatrix

variable {matrix : OutputMatrix}

/-- Whether a matrix can be read, whatever layout it tells: nothing is stored, or a grid of its
shape, or well-formed rows. -/
def Readable (matrix : OutputMatrix) : Prop :=
  match matrix.storage with
  | .unallocated => True
  | .dense grid => grid.rows = matrix.rows ∧ grid.cols = matrix.cols
  | .sparse table => (Storage.sparse table).WellFormed matrix.rows matrix.cols

theorem readable_of_wellFormed (shaped : matrix.hasStorage = true → matrix.WellShaped)
    (formed : matrix.storage.WellFormed matrix.rows matrix.cols) : matrix.Readable := by
  obtain ⟨rows, cols, sparse, nonZeros, nonZerosPerRow, storage⟩ := matrix
  cases storage with
  | unallocated => trivial
  | dense grid => exact (shaped rfl).2
  | sparse table => exact formed

/-- The sparse rows of a matrix. -/
def sparseRows (matrix : OutputMatrix) : Array StoredRow :=
  match matrix.storage with
  | .unallocated => Array.replicate matrix.rows .empty
  | .dense grid => Storage.rowsOfGrid grid
  | .sparse table => table

theorem rowEntries_eq (matrix : OutputMatrix) :
    Csr.rowEntries matrix = matrix.sparseRows.map Csr.nonZeroEntries := by
  obtain ⟨rows, cols, sparse, nonZeros, nonZerosPerRow, storage⟩ := matrix
  cases storage with
  | unallocated =>
      rw [sparseRows, Array.map_replicate]
      rfl
  | dense grid => rfl
  | sparse table => rfl

theorem Readable.wellFormed_sparseRows (readable : matrix.Readable) :
    (Storage.sparse matrix.sparseRows).WellFormed matrix.rows matrix.cols := by
  obtain ⟨rows, cols, sparse, nonZeros, nonZerosPerRow, storage⟩ := matrix
  cases storage with
  | unallocated => exact Storage.wellFormed_blank true rows cols
  | dense grid =>
      obtain ⟨rfl, rfl⟩ := readable
      exact Storage.wellFormed_rowsOfGrid grid
  | sparse table => exact readable

end OutputMatrix

namespace Csr

variable {matrix : OutputMatrix}

theorem size_rowEntries (readable : matrix.Readable) : (rowEntries matrix).size = matrix.rows := by
  rw [OutputMatrix.rowEntries_eq, Array.size_map, readable.wellFormed_sparseRows.1]

theorem stored_of_rowEntries {row : Nat} {entries : Array Entry}
    (found : (rowEntries matrix)[row]? = some entries) :
    ∃ stored, matrix.sparseRows[row]? = some stored ∧ nonZeroEntries stored = entries := by
  rwa [OutputMatrix.rowEntries_eq, Array.getElem?_map, Option.map_eq_some_iff] at found

theorem wellFormed_rowEntries (readable : matrix.Readable) {row : Nat} {entries : Array Entry}
    (found : (rowEntries matrix)[row]? = some entries) :
    StoredRow.WellFormed matrix.cols ⟨entries⟩ := by
  obtain ⟨stored, row_found, rfl⟩ := stored_of_rowEntries found
  exact wellFormed_nonZeroEntries (readable.wellFormed_sparseRows.2 row stored row_found)

theorem ofMatrix_ne_malformed_of_readable (readable : matrix.Readable) :
    ofMatrix matrix ≠ .error .malformedCsr := by
  have formed : ∀ entries ∈ rowEntries matrix, StoredRow.WellFormed matrix.cols ⟨entries⟩ := by
    intro entries member
    obtain ⟨row, found⟩ := Array.mem_iff_getElem?.mp member
    exact wellFormed_rowEntries readable found
  have counted := ofEntries_ne_malformed formed
  rw [size_rowEntries readable] at counted
  rw [ofMatrix, Size.reserve]
  split
  · exact counted
  · simp

theorem ofMatrix_ne_malformed (shaped : matrix.hasStorage = true → matrix.WellShaped)
    (formed : matrix.storage.WellFormed matrix.rows matrix.cols) :
    ofMatrix matrix ≠ .error .malformedCsr :=
  ofMatrix_ne_malformed_of_readable (OutputMatrix.readable_of_wellFormed shaped formed)

end Csr

end SeededMatrix
