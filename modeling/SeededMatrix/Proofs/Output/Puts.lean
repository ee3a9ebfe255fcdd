import SeededMatrix.Output.Matrix
import SeededMatrix.Proofs.Output.Cells

/-!
# Lists of writes

Writes put into a storage one after the other. Two writes are independent if they concern different
cells, or, in sparse rows, different rows. Independent neighbours can change places, also when a row
has no room and the storage faults; so two lists have the same effect on every storage of a shape as
soon as one arises from the other by such changes.
-/

namespace SeededMatrix

/-- Whether a write concerns a cell of this shape. -/
def Write.Within (write : Write) (rows cols : Nat) : Prop :=
  write.row < rows ∧ write.col < cols

/-- Whether two writes can change places: they concern different cells, or different rows if the
rows are sparse. -/
def Write.Independent (isSparse : Bool) (first second : Write) : Prop :=
  first.row ≠ second.row ∨ isSparse = false ∧ first.col ≠ second.col

theorem Write.Independent.symm {isSparse : Bool} {first second : Write}
    (independent : first.Independent isSparse second) : second.Independent isSparse first := by
  rcases independent with rows_ne | ⟨dense, cols_ne⟩
  · exact .inl rows_ne.symm
  · exact .inr ⟨dense, cols_ne.symm⟩

namespace Storage

/-- Puts one write into a storage. -/
def putWrite (room : Nat) (storage : Storage) (write : Write) : Except Fault Storage :=
  storage.put write.row write.col write.value room

/-- Puts the writes of a list into a storage, one after the other. -/
def putList (room : Nat) (storage : Storage) (writes : List Write) : Except Fault Storage :=
  writes.foldlM (putWrite room) storage

@[simp] theorem putList_nil (room : Nat) (storage : Storage) :
    storage.putList room [] = .ok storage := rfl

@[simp] theorem putList_cons (room : Nat) (storage : Storage) (write : Write)
    (writes : List Write) :
    storage.putList room (write :: writes) =
      storage.putWrite room write >>= fun after => after.putList room writes := rfl

@[simp] theorem putList_append (room : Nat) (storage : Storage) (left right : List Write) :
    storage.putList room (left ++ right) =
      storage.putList room left >>= fun after => after.putList room right := by
  simp [putList]

variable {storage : Storage} {isSparse : Bool} {rows cols room : Nat}

theorem putWrite_eq (shape : storage.HasShape isSparse rows cols) {write : Write}
    (within : write.Within rows cols) :
    storage.putWrite room write =
      if storage.hasRoom write.row room then
        .ok (storage.write write.row write.col write.value)
      else .error .storageTooLarge :=
  put_eq shape within.1 within.2 _ _

theorem HasShape.putWrite (shape : storage.HasShape isSparse rows cols) {write : Write}
    {after : Storage} (put : storage.putWrite room write = .ok after) :
    after.HasShape isSparse rows cols :=
  shape.put put

theorem HasShape.putList (shape : storage.HasShape isSparse rows cols) {writes : List Write}
    {after : Storage} (put : storage.putList room writes = .ok after) :
    after.HasShape isSparse rows cols := by
  induction writes generalizing storage with
  | nil =>
      obtain rfl := Except.ok.inj put
      exact shape
  | cons write writes induction =>
      obtain ⟨middle, first, rest⟩ := bind_eq_ok.mp put
      exact induction (shape.putWrite first) rest

/-- Writes within the shape all succeed if every row can make room for what it is to make room for.
-/
theorem putList_ok (shape : storage.HasShape isSparse rows cols)
    (roomy : isSparse = true → max room 1 * 8 ≤ Size.allocationLimit) {writes : List Write}
    (within : ∀ write ∈ writes, write.Within rows cols) :
    ∃ after, storage.putList room writes = .ok after := by
  induction writes generalizing storage with
  | nil => exact ⟨storage, rfl⟩
  | cons write writes induction =>
      rw [putList_cons, putWrite_eq shape (within write (by simp)),
        if_pos (hasRoom_of_roomy shape roomy write.row), ok_bind]
      exact induction (shape.write _ _ _) fun later member => within later (by simp [member])

/-! ## Changing places -/

/-- The room of a row does not depend on what another row stores, nor on the cells of a grid. -/
theorem hasRoom_write {first second : Write} (shape : storage.HasShape isSparse rows cols)
    (independent : first.Independent isSparse second) :
    (storage.write first.row first.col first.value).hasRoom second.row room =
      storage.hasRoom second.row room := by
  cases storage with
  | unallocated => rfl
  | dense grid => rfl
  | sparse table =>
      obtain ⟨rfl, -⟩ := shape
      have rows_ne : first.row ≠ second.row := by simpa [Write.Independent] using independent
      simp [Storage.write, hasRoom, Array.getElem?_modify, rows_ne]

theorem write_comm {first second : Write} (shape : storage.HasShape isSparse rows cols)
    (within : first.Within rows cols) (within' : second.Within rows cols)
    (independent : first.Independent isSparse second) :
    (storage.write first.row first.col first.value).write second.row second.col second.value =
      (storage.write second.row second.col second.value).write first.row first.col
        first.value := by
  cases storage with
  | unallocated => rfl
  | dense grid =>
      obtain ⟨rfl, rfl, rfl⟩ := shape
      have apart : ¬(second.row = first.row ∧ second.col = first.col) := by
        rintro ⟨rows_eq, cols_eq⟩
        simp [Write.Independent, rows_eq, cols_eq] at independent
      exact congrArg dense
        (Grid.setCell_comm within.1 within.2 within'.1 within'.2 apart _ _)
  | sparse table =>
      obtain ⟨rfl, -⟩ := shape
      have rows_ne : first.row ≠ second.row := by simpa [Write.Independent] using independent
      apply congrArg sparse
      apply Array.ext_getElem?
      intro row
      simp only [Array.getElem?_modify]
      by_cases in_first : first.row = row
      · subst in_first
        simp [rows_ne.symm]
      · simp [in_first]

/-- Independent writes can change places, whether or not their rows have room. -/
theorem putWrite_comm (room : Nat) {first second : Write}
    (shape : storage.HasShape isSparse rows cols)
    (within : first.Within rows cols) (within' : second.Within rows cols)
    (independent : first.Independent isSparse second) :
    (storage.putWrite room first >>= fun after => after.putWrite room second) =
      storage.putWrite room second >>= fun after => after.putWrite room first := by
  rw [putWrite_eq shape within, putWrite_eq shape within']
  by_cases fits : storage.hasRoom first.row room <;>
    by_cases fits' : storage.hasRoom second.row room <;>
    simp [fits, fits', putWrite_eq (shape.write _ _ _) within,
      putWrite_eq (shape.write _ _ _) within', hasRoom_write shape independent,
      hasRoom_write shape independent.symm, write_comm shape within within' independent]

end Storage

/-- Whether two lists of writes do the same to every storage of a layout and shape. -/
def SameEffect (isSparse : Bool) (rows cols room : Nat) (left right : List Write) : Prop :=
  ∀ storage : Storage, storage.HasShape isSparse rows cols →
    storage.putList room left = storage.putList room right

namespace SameEffect

variable {isSparse : Bool} {rows cols room : Nat} {left middle right : List Write}

theorem refl (writes : List Write) : SameEffect isSparse rows cols room writes writes :=
  fun _ _ => rfl

theorem symm (same : SameEffect isSparse rows cols room left right) :
    SameEffect isSparse rows cols room right left :=
  fun storage shape => (same storage shape).symm

theorem trans (same : SameEffect isSparse rows cols room left middle)
    (same' : SameEffect isSparse rows cols room middle right) :
    SameEffect isSparse rows cols room left right :=
  fun storage shape => (same storage shape).trans (same' storage shape)

theorem append_left (front : List Write)
    (same : SameEffect isSparse rows cols room left right) :
    SameEffect isSparse rows cols room (front ++ left) (front ++ right) := by
  intro storage shape
  rw [Storage.putList_append, Storage.putList_append]
  cases put : storage.putList room front with
  | ok after => exact same after (shape.putList put)
  | error fault => rfl

theorem append_right (back : List Write)
    (same : SameEffect isSparse rows cols room left right) :
    SameEffect isSparse rows cols room (left ++ back) (right ++ back) := by
  intro storage shape
  rw [Storage.putList_append, Storage.putList_append, same storage shape]

theorem move_front (room : Nat) {write : Write} {front : List Write}
    (within : write.Within rows cols) (front_within : ∀ earlier ∈ front, earlier.Within rows cols)
    (independent : ∀ earlier ∈ front, earlier.Independent isSparse write) (back : List Write) :
    SameEffect isSparse rows cols room (front ++ write :: back) (write :: (front ++ back)) := by
  induction front with
  | nil => exact refl _
  | cons earlier front induction =>
      have moved : SameEffect isSparse rows cols room (earlier :: (front ++ write :: back))
          (earlier :: write :: (front ++ back)) :=
        append_left [earlier]
          (induction (fun other member => front_within other (by simp [member]))
            fun other member => independent other (by simp [member]))
      apply moved.trans
      intro storage shape
      have swapped := Storage.putWrite_comm room shape
        (front_within earlier (by simp)) within (independent earlier (by simp))
      simp only [Storage.putList_cons, List.cons_append, ← bind_assoc, swapped]

theorem swap_append (left_within : ∀ write ∈ left, write.Within rows cols)
    (right_within : ∀ write ∈ right, write.Within rows cols)
    (independent : ∀ first ∈ left, ∀ second ∈ right, first.Independent isSparse second) :
    SameEffect isSparse rows cols room (left ++ right) (right ++ left) := by
  induction right with
  | nil => simpa using refl left
  | cons write right induction =>
      have moved : SameEffect isSparse rows cols room (left ++ write :: right)
          (write :: (left ++ right)) :=
        move_front room (right_within write (by simp)) left_within
          (fun earlier member => independent earlier member write (by simp)) right
      apply moved.trans
      apply append_left [write]
      exact induction (fun other member => right_within other (by simp [member]))
        fun first member second member' => independent first member second (by simp [member'])

/-- Lists of writes that are independent of each other can be put in any order. -/
theorem flatMap_perm {α : Type} {items others : List α} {writes : α → List Write}
    (perm : items.Perm others)
    (within : ∀ item ∈ items, ∀ write ∈ writes item, write.Within rows cols)
    (apart : items.Pairwise fun first second =>
      ∀ write ∈ writes first, ∀ other ∈ writes second, write.Independent isSparse other) :
    SameEffect isSparse rows cols room (items.flatMap writes) (others.flatMap writes) := by
  induction perm with
  | nil => exact refl _
  | cons item _ induction =>
      rw [List.flatMap_cons, List.flatMap_cons]
      apply append_left
      apply induction
      · exact fun other member => within other (by simp [member])
      · exact (List.pairwise_cons.mp apart).2
  | swap first second back =>
      have swapped : SameEffect isSparse rows cols room (writes second ++ writes first)
          (writes first ++ writes second) :=
        swap_append (within second (by simp)) (within first (by simp))
          ((List.pairwise_cons.mp apart).1 first (by simp))
      simpa using append_right (back.flatMap writes) swapped
  | trans first_perm _ induction induction' =>
      apply (induction within apart).trans
      apply induction'
      · exact fun item member => within item (first_perm.mem_iff.mpr member)
      · apply (first_perm.pairwise_iff _).mp apart
        intro first second independent write member other other_member
        exact (independent other other_member write member).symm

/-- Mutually independent writes can be put in any order. -/
theorem of_perm (perm : left.Perm right) (within : ∀ write ∈ left, write.Within rows cols)
    (apart : left.Pairwise (Write.Independent isSparse)) :
    SameEffect isSparse rows cols room left right := by
  have same : SameEffect isSparse rows cols room (left.flatMap fun write => [write])
      (right.flatMap fun write => [write]) :=
    flatMap_perm perm (by simpa using within) (by simpa using apart)
  simpa using same

end SameEffect

end SeededMatrix
