import SeededMatrix.Proofs.Output.Rows

/-!
# Reading cells back

A well-formed sparse row is searched by halving: what is stored at a column is found, and any other
column reads as zero. So the cells of a storage read as what was last written to them, and a change
of layout keeps every value that is not zero.
-/

namespace SeededMatrix

namespace StoredRow

/-- Halving finds the place of a stored column, as long as the place is among those that remain. -/
theorem seek_eq {entries : Array Entry} {place : Nat} {entry : Entry}
    (found : entries[place]? = some entry)
    (increasing : (entries.toList.map Entry.column).Pairwise (· < ·)) (remaining first : Nat)
    (first_le : first ≤ place) (place_lt : place < first + remaining)
    (inside : first + remaining ≤ entries.size) :
    seek entries entry.column remaining first = place := by
  have columns_lt : ∀ (left right : Nat) (leftEntry rightEntry : Entry),
      entries[left]? = some leftEntry → entries[right]? = some rightEntry → left < right →
        leftEntry.column < rightEntry.column := by
    intro left right leftEntry rightEntry left_found right_found order
    obtain ⟨left_lt, rfl⟩ := Array.getElem?_eq_some_iff.mp left_found
    obtain ⟨right_lt, rfl⟩ := Array.getElem?_eq_some_iff.mp right_found
    have ordered := List.pairwise_iff_getElem.mp increasing left right (by simpa using left_lt)
      (by simpa using right_lt) order
    simpa using ordered
  fun_induction seek entries entry.column remaining first with
  | case1 remaining first more half right induction =>
      have middle_lt : first + half < entries.size := by omega
      have middle_found := Array.getElem?_eq_getElem middle_lt
      have right_iff : right = true ↔ entry.column < entries[first + half].column := by
        simp [right, middle_found]
      by_cases left_of : place < first + half
      · have is_right := right_iff.mpr (columns_lt _ _ _ _ found middle_found left_of)
        rw [dif_pos is_right] at induction
        rw [if_pos is_right]
        exact induction first_le (by omega) (by omega)
      · have not_right : ¬right = true := by
          rw [right_iff, Nat.not_lt]
          rcases Nat.eq_or_lt_of_le (Nat.not_lt.mp left_of) with rfl | order
          · rw [middle_found] at found
            exact (congrArg Entry.column (Option.some.inj found)).le
          · exact (columns_lt _ _ _ _ middle_found found order).le
        rw [dif_neg not_right] at induction
        rw [if_neg not_right]
        exact induction (Nat.not_lt.mp left_of) (by omega) (by omega)
  | case2 remaining first less => omega

theorem get_of_mem {row : StoredRow} (increasing : row.columns.Pairwise (· < ·)) {entry : Entry}
    (member : entry ∈ row.entries) : row.get entry.column = entry.value := by
  obtain ⟨place, found⟩ := Array.mem_iff_getElem?.mp member
  obtain ⟨place_lt, -⟩ := Array.getElem?_eq_some_iff.mp found
  rw [get, seek_eq found increasing _ _ (Nat.zero_le _) (by omega) (by omega), found]
  simp

theorem get_of_not_mem {row : StoredRow} {column : Nat} (missing : column ∉ row.columns) :
    row.get column = 0.0 := by
  rw [get]
  split
  next entry found =>
    apply if_neg
    intro column_eq
    apply missing
    rw [← column_eq]
    exact List.mem_map_of_mem (Array.mem_toList_iff.mpr (Array.mem_of_getElem? found))
  next => rfl

/-- A cell stored right of all others is found, and hides no other one. -/
theorem get_push {cols : Nat} {row : StoredRow} (formed : row.WellFormed cols) {column : Nat}
    (right : ∀ stored ∈ row.columns, stored < column) (column_lt : column < cols) (value : Float)
    (sought : Nat) :
    (row.push column value).get sought = if sought = column then value else row.get sought := by
  have pushed := (formed.push right column_lt value).increasing
  split
  next same =>
    subst same
    have member : ⟨sought, value⟩ ∈ (row.push sought value).entries := by simp [push]
    exact get_of_mem pushed member
  next other =>
    by_cases stored : sought ∈ row.columns
    · obtain ⟨entry, member, rfl⟩ := List.mem_map.mp stored
      have member' := Array.mem_toList_iff.mp member
      rw [get_of_mem formed.increasing member', get_of_mem pushed (by simp [push, member'])]
    · rw [get_of_not_mem stored, get_of_not_mem (by simp [stored, other])]

end StoredRow

namespace Storage

variable {storage after : Storage} {isSparse : Bool} {rows cols room : Nat} {write : Write}
  {writes : List Write}

/-- Whether every cell of a sparse row is found where it is stored. -/
def FindsStored (storage : Storage) : Prop :=
  match storage with
  | sparse table => ∀ (row : Nat) (stored : StoredRow), table[row]? = some stored →
      ∀ entry ∈ stored.entries, storage.get row entry.column = .ok entry.value
  | _ => True

theorem WellFormed.findsStored (formed : storage.WellFormed rows cols) : storage.FindsStored := by
  cases storage with
  | unallocated => trivial
  | dense grid => trivial
  | sparse table =>
      intro row stored found entry member
      simp only [get, found]
      rw [StoredRow.get_of_mem (formed.2 row stored found).increasing member]

/-! ## After writes -/

/-- The cell of a write reads as its value, every other cell as before. -/
theorem get_putWrite (shape : storage.HasShape isSparse rows cols)
    (formed : storage.WellFormed rows cols) (within : write.Within rows cols)
    (right : storage.LeftOf write) (put : storage.putWrite room write = .ok after)
    (row col : Nat) :
    after.get row col =
      if row = write.row ∧ col = write.col then .ok write.value else storage.get row col := by
  rw [eq_write_of_putWrite shape within put]
  cases storage with
  | unallocated => exact shape.elim
  | dense grid =>
      obtain ⟨-, rfl, rfl⟩ := shape
      exact grid.get_setCell within.1 within.2 _ _ _
  | sparse table =>
      obtain ⟨-, rfl⟩ := shape
      simp only [Storage.write, get, Array.getElem?_modify]
      by_cases same : write.row = row
      · subst same
        have found := Array.getElem?_eq_getElem within.1
        simp only [found, if_true, Option.map_some]
        rw [StoredRow.get_push (formed.2 _ _ found) (right _ found) within.2]
        by_cases cols_eq : col = write.col <;> simp [cols_eq]
      · have other : ¬(row = write.row ∧ col = write.col) := fun both => same both.1.symm
        simp [same, other]

/-- What lists of writes need that are put from left to right. -/
structure Accepts (isSparse : Bool) (rows cols : Nat) (storage : Storage) (writes : List Write) :
    Prop where
  shape : storage.HasShape isSparse rows cols
  formed : storage.WellFormed rows cols
  within : ∀ write ∈ writes, write.Within rows cols
  ordered : LeftToRight writes
  right : ∀ write ∈ writes, storage.LeftOf write

theorem Accepts.tail (accepts : storage.Accepts isSparse rows cols (write :: writes))
    (put : storage.putWrite room write = .ok after) : after.Accepts isSparse rows cols writes := by
  obtain ⟨shape, formed, within, ordered, right⟩ := accepts
  rw [List.forall_mem_cons] at within right
  obtain ⟨first_ordered, rest_ordered⟩ := List.pairwise_cons.mp ordered
  exact ⟨shape.putWrite put, formed.putWrite shape within.1 right.1 put, within.2,
    rest_ordered, fun later member =>
      (right.2 later member).putWrite shape within.1 (first_ordered later member) put⟩

theorem Accepts.wellFormed (accepts : storage.Accepts isSparse rows cols writes)
    (put : storage.putList room writes = .ok after) : after.WellFormed rows cols := by
  induction writes generalizing storage with
  | nil =>
      obtain rfl := Except.ok.inj put
      exact accepts.formed
  | cons write writes induction =>
      obtain ⟨middle, first, rest⟩ := bind_eq_ok.mp put
      exact induction (accepts.tail first) rest

theorem Accepts.get_of_not_mem (accepts : storage.Accepts isSparse rows cols writes)
    (put : storage.putList room writes = .ok after) {row col : Nat}
    (missing : ∀ write ∈ writes, ¬(row = write.row ∧ col = write.col)) :
    after.get row col = storage.get row col := by
  induction writes generalizing storage with
  | nil =>
      obtain rfl := Except.ok.inj put
      rfl
  | cons write writes induction =>
      obtain ⟨middle, first, rest⟩ := bind_eq_ok.mp put
      rw [List.forall_mem_cons] at missing
      rw [induction (accepts.tail first) rest missing.2,
        get_putWrite accepts.shape accepts.formed (accepts.within write (by simp))
          (accepts.right write (by simp)) first, if_neg missing.1]

/-- The cell of each write of a list reads as its value. -/
theorem Accepts.get_of_mem (accepts : storage.Accepts isSparse rows cols writes)
    (put : storage.putList room writes = .ok after) (member : write ∈ writes) :
    after.get write.row write.col = .ok write.value := by
  induction writes generalizing storage with
  | nil => simp at member
  | cons first writes induction =>
      obtain ⟨middle, put_first, rest⟩ := bind_eq_ok.mp put
      rw [List.mem_cons] at member
      rcases member with rfl | later
      · have apart : ∀ other ∈ writes, ¬(write.row = other.row ∧ write.col = other.col) := by
          rintro other other_mem ⟨rows_eq, cols_eq⟩
          have cols_lt := (List.pairwise_cons.mp accepts.ordered).1 other other_mem rows_eq
          omega
        rw [(accepts.tail put_first).get_of_not_mem rest apart,
          get_putWrite accepts.shape accepts.formed (accepts.within write (by simp))
            (accepts.right write (by simp)) put_first, if_pos ⟨rfl, rfl⟩]
      · exact induction (accepts.tail put_first) rest later

end Storage

end SeededMatrix
