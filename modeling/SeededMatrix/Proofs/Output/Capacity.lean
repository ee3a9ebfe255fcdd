import SeededMatrix.Proofs.Output.Shapes

/-!
# The capacity of storage

Allocating a matrix, putting writes of its cells and settling its layout can fail in one way only:
that what is to be stored is larger than the address space can hold. An index never leaves its
table.
-/

namespace SeededMatrix

/-- Whether a computation fails, if it fails, by storage that is too large. -/
def OnlyTooLarge {α : Type} (outcome : Except Fault α) : Prop :=
  ∀ fault, outcome = .error fault → fault = .storageTooLarge

namespace OnlyTooLarge

variable {α β : Type}

theorem ok (value : α) : OnlyTooLarge (.ok value) :=
  fun _ => nofun

theorem tooLarge : OnlyTooLarge (.error .storageTooLarge : Except Fault α) :=
  fun _ same => (Except.error.inj same).symm

theorem bind {first : Except Fault α} {next : α → Except Fault β} (here : OnlyTooLarge first)
    (later : ∀ value, first = .ok value → OnlyTooLarge (next value)) :
    OnlyTooLarge (first >>= next) := by
  cases first with
  | ok value => exact later value rfl
  | error fault =>
      obtain rfl := here fault rfl
      exact .tooLarge

theorem forM {check : α → Except Fault Unit} (checks : ∀ item, OnlyTooLarge (check item))
    (items : List α) : OnlyTooLarge (items.forM check) := by
  induction items with
  | nil => exact .ok _
  | cons item items induction => exact .bind (checks item) fun _ _ => induction

theorem of_map {change : α → β} {outcome : Except Fault α}
    (mapped : OnlyTooLarge (change <$> outcome)) : OnlyTooLarge outcome := by
  rintro fault rfl
  exact mapped fault rfl

end OnlyTooLarge

theorem Size.reserve_onlyTooLarge (count bytes : Nat) : OnlyTooLarge (reserve count bytes) := by
  rw [reserve]
  split
  · exact .ok _
  · exact .tooLarge

theorem Size.append_onlyTooLarge (count bytes : Nat) : OnlyTooLarge (append count bytes) := by
  rw [append]
  split
  · exact .ok _
  · exact .tooLarge

theorem Grid.filled_onlyTooLarge (rows cols : Nat) (value : Float) :
    OnlyTooLarge (filled rows cols value) := by
  rw [filled]
  split
  · exact .ok _
  · exact .tooLarge

theorem Grid.filled_ok_iff (rows cols : Nat) (value : Float) :
    (∃ grid, filled rows cols value = .ok grid) ↔ fits rows cols = true := by
  rw [filled]
  split
  next fits => exact ⟨fun _ => fits, fun _ => ⟨_, rfl⟩⟩
  next large =>
    simp only [reduceCtorEq, exists_false, false_iff]
    exact large

namespace Storage

variable {storage : Storage} {isSparse : Bool} {rows cols : Nat}

/-- A write of a cell of the shape can only fail by a row that cannot make room. -/
theorem HasShape.putWrite_onlyTooLarge (shape : storage.HasShape isSparse rows cols) (room : Nat)
    {write : Write} (within : write.Within rows cols) :
    OnlyTooLarge (storage.putWrite room write) := by
  rw [putWrite_eq shape within]
  split
  · exact .ok _
  · exact .tooLarge

theorem HasShape.putList_onlyTooLarge (shape : storage.HasShape isSparse rows cols) (room : Nat)
    {writes : List Write} (within : ∀ write ∈ writes, write.Within rows cols) :
    OnlyTooLarge (storage.putList room writes) := by
  induction writes generalizing storage with
  | nil => exact .ok _
  | cons write writes induction =>
      obtain ⟨here, later⟩ := List.forall_mem_cons.mp within
      rw [putList_cons]
      apply OnlyTooLarge.bind (shape.putWrite_onlyTooLarge room here)
      intro after put
      exact induction (shape.putWrite put) later

theorem gridOfRows_onlyTooLarge {table : Array StoredRow}
    (formed : (sparse table).WellFormed rows cols) : OnlyTooLarge (gridOfRows table cols) := by
  apply OnlyTooLarge.bind (Grid.filled_onlyTooLarge _ _ _)
  intro zeros filled
  rw [formed.1] at filled
  have accepts := accepts_tableWrites formed
  have puts := accepts.shape.putList_onlyTooLarge 0 accepts.within
  rw [← dense_filled filled, putList_tableWrites] at puts
  exact puts.of_map

theorem gridOfRows_ok_iff {table : Array StoredRow}
    (formed : (sparse table).WellFormed rows cols) :
    (∃ grid, gridOfRows table cols = .ok grid) ↔ Grid.fits rows cols = true := by
  rw [← Grid.filled_ok_iff rows cols 0.0]
  constructor
  · rintro ⟨grid, made⟩
    obtain ⟨zeros, filled, -⟩ := bind_eq_ok.mp made
    exact ⟨zeros, formed.1 ▸ filled⟩
  · rintro ⟨zeros, filled⟩
    have accepts := accepts_tableWrites formed
    obtain ⟨after, put⟩ :
        ∃ after, (blank false rows cols).putList 0 (tableWrites table.toList 0) = .ok after :=
      putList_ok accepts.shape nofun accepts.within
    rw [← dense_filled filled, putList_tableWrites] at put
    rw [gridOfRows, formed.1, filled, ok_bind]
    cases scattered : scatter table.toList 0 zeros with
    | ok grid => exact ⟨grid, rfl⟩
    | error fault =>
        rw [scattered] at put
        contradiction

theorem sparseOfGrid_onlyTooLarge (grid : Grid) : OnlyTooLarge (sparseOfGrid grid) := by
  have checks : ∀ row : StoredRow, OnlyTooLarge (Size.append row.size 8) :=
    fun row => Size.append_onlyTooLarge row.size 8
  apply OnlyTooLarge.bind (Size.reserve_onlyTooLarge _ _)
  intro _ _
  apply OnlyTooLarge.bind (.forM checks (rowsOfGrid grid).toList)
  exact fun _ _ => .ok _

theorem WellFormed.convert_onlyTooLarge (formed : storage.WellFormed rows cols) :
    OnlyTooLarge (storage.convert cols) := by
  cases storage with
  | unallocated => exact .ok _
  | dense grid =>
      apply OnlyTooLarge.bind (sparseOfGrid_onlyTooLarge grid)
      exact fun _ _ => .ok _
  | sparse table =>
      apply OnlyTooLarge.bind (gridOfRows_onlyTooLarge formed)
      intro grid _
      exact .ok _

end Storage

namespace OutputMatrix

variable (matrix : OutputMatrix)

theorem allocate_onlyTooLarge (rows cols : Nat) (sparse : Bool) (expected : Nat) :
    OnlyTooLarge (matrix.allocate rows cols sparse expected) := by
  rw [allocate]
  split
  · apply OnlyTooLarge.bind
    · apply OnlyTooLarge.bind (Size.reserve_onlyTooLarge _ _)
      exact fun _ _ => .ok _
    · exact fun _ _ => .ok _
  · apply OnlyTooLarge.bind (Grid.filled_onlyTooLarge _ _ _)
    exact fun _ _ => .ok _

theorem refill_onlyTooLarge {rows cols : Nat} (cells_lt : rows * cols < Size.limit)
    (value : Float) : OnlyTooLarge (matrix.refill rows cols value) := by
  rw [refill]
  split
  · exact .ok _
  · apply OnlyTooLarge.bind (Grid.filled_onlyTooLarge _ _ _)
    intro grid _
    rw [Size.mul_eq_ok.mpr ⟨cells_lt, rfl⟩]
    exact .ok _

variable {matrix}

theorem settleLayout_onlyTooLarge (formed : matrix.storage.WellFormed matrix.rows matrix.cols) :
    OnlyTooLarge matrix.settleLayout := by
  rw [settleLayout]
  split
  · exact .ok _
  · apply OnlyTooLarge.bind formed.convert_onlyTooLarge
    exact fun _ _ => .ok _

end OutputMatrix

end SeededMatrix
