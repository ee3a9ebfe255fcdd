import SeededMatrix.Fill.Block
import SeededMatrix.Proofs.Output.Puts

/-!
# Drawing a sequence of writes

A sequence is told by the writes that it yields and by the failure that may end it. Each operation
on sequences comes with what it does to the two, and putting a sequence through a region is putting
its list of writes into the storage, as long as the region lies where its labels say.
-/

namespace SeededMatrix

namespace Writes

/-! ## Sequences -/

/-- The writes that a computation finds, or its failure. -/
def ofExcept : Except Failure Writes → Writes
  | .ok writes => writes
  | .error failure => failed failure

/-- Writes followed by others; what follows is only looked at once the first ones are drawn. -/
def andThen (writes : Writes) (others : Unit → Writes) : Writes :=
  match writes with
  | done => others ()
  | failed failure => failed failure
  | next write rest => next write fun _ => (rest ()).andThen others

/-- Each write changed as it is drawn; a write that cannot be changed ends the sequence. -/
def map (change : Write → Except Fault Write) : Writes → Writes
  | done => done
  | failed failure => failed failure
  | next write rest =>
      match change write with
      | .ok write => next write fun _ => (rest ()).map change
      | .error fault => failed (.fault fault)

/-- The writes that are drawn before the sequence ends. -/
def toList : Writes → List Write
  | done => []
  | failed _ => []
  | next write rest => write :: (rest ()).toList

/-- The failure that ends the sequence, if one does. -/
def failure? : Writes → Option Failure
  | done => none
  | failed failure => some failure
  | next _ rest => (rest ()).failure?

@[simp] theorem toList_done : done.toList = [] := rfl

@[simp] theorem toList_failed (failure : Failure) : (failed failure).toList = [] := rfl

@[simp] theorem toList_next (write : Write) (rest : Unit → Writes) :
    (next write rest).toList = write :: (rest ()).toList := rfl

@[simp] theorem failure?_done : done.failure? = none := rfl

@[simp] theorem failure?_failed (failure : Failure) : (failed failure).failure? = some failure :=
  rfl

@[simp] theorem failure?_next (write : Write) (rest : Unit → Writes) :
    (next write rest).failure? = (rest ()).failure? := rfl

@[simp] theorem failure?_ofList (writes : List Write) : (ofList writes).failure? = none := by
  induction writes with
  | nil => rfl
  | cons write writes induction => simp [ofList, induction]

@[simp] theorem toList_ofExcept_ok (writes : Writes) :
    (ofExcept (.ok writes)).toList = writes.toList := rfl

@[simp] theorem toList_ofExcept_error (failure : Failure) :
    (ofExcept (.error failure)).toList = [] := rfl

theorem toList_andThen (writes : Writes) (others : Unit → Writes) :
    (writes.andThen others).toList =
      writes.toList ++ if writes.failure?.isNone then (others ()).toList else [] := by
  induction writes with
  | done => simp [andThen]
  | failed failure => simp [andThen]
  | next write rest induction => simp [andThen, induction]

theorem failure?_andThen (writes : Writes) (others : Unit → Writes) :
    (writes.andThen others).failure? = writes.failure?.or (others ()).failure? := by
  induction writes with
  | done => rfl
  | failed failure => rfl
  | next write rest induction => simpa [andThen] using induction ()

/-- A change that succeeds on every drawn write changes each of them, and fails nowhere new. -/
theorem map_eq {change : Write → Except Fault Write} {changed : Write → Write} {writes : Writes}
    (changes : ∀ write ∈ writes.toList, change write = .ok (changed write)) :
    (writes.map change).toList = writes.toList.map changed ∧
      (writes.map change).failure? = writes.failure? := by
  induction writes with
  | done => exact ⟨rfl, rfl⟩
  | failed failure => exact ⟨rfl, rfl⟩
  | next write rest induction =>
      have here : change write = .ok (changed write) := changes write (by simp)
      obtain ⟨lists, failures⟩ := induction () fun later member => changes later (by simp [member])
      simp [map, here, lists, failures]

end Writes

/-! ## Through a region -/

namespace Region

/-- Whether the cells of the region lie in the storage where its labels say. -/
def Aligned (region : Region) : Prop :=
  region.rowBase = region.firstRow ∧ region.colBase = region.firstCol

/-- Whether the region covers the cell of a write. -/
def Covers (region : Region) (write : Write) : Prop :=
  region.contains write.row write.col = true

theorem contains_iff {region : Region} {row col : Nat} :
    region.contains row col = true ↔
      (region.firstRow ≤ row ∧ row < region.firstRow + region.rows) ∧
        region.firstCol ≤ col ∧ col < region.firstCol + region.cols := by
  simp [contains, and_assoc]

theorem Aligned.put_eq {region : Region} (aligned : region.Aligned) {write : Write}
    (covered : region.Covers write) (storage : Storage) :
    region.put storage write.row write.col write.value =
      storage.putWrite region.room write := by
  obtain ⟨⟨row_ge, -⟩, col_ge, -⟩ := contains_iff.mp covered
  obtain ⟨rowBase_eq, colBase_eq⟩ := aligned
  have row_eq : region.rowBase + (write.row - region.firstRow) = write.row := by omega
  have col_eq : region.colBase + (write.col - region.firstCol) = write.col := by omega
  rw [put, if_pos (show region.contains write.row write.col = true from covered), row_eq, col_eq]
  rfl

end Region

namespace Writes

/-- How the putting of writes ends: with the storage, or with the failure of the drawing. -/
def ending (writes : Writes) (storage : Storage) : Except Failure Storage :=
  match writes.failure? with
  | none => .ok storage
  | some failure => .error failure

/-- Putting a sequence is putting its list; a failure of the drawing comes to light at the end. -/
theorem putThrough_eq {region : Region} (aligned : region.Aligned) {writes : Writes}
    (covered : ∀ write ∈ writes.toList, region.Covers write) (storage : Storage) :
    writes.putThrough region storage =
      (liftM (storage.putList region.room writes.toList) : Except Failure Storage) >>=
        writes.ending := by
  induction writes generalizing storage with
  | done => rfl
  | failed failure => rfl
  | next write rest induction =>
      have put_eq := aligned.put_eq (covered write (by simp)) storage
      simp only [putThrough, put_eq, toList_next, Storage.putList_cons]
      cases storage.putWrite region.room write with
      | ok after => exact induction () (fun later member => covered later (by simp [member])) after
      | error fault => rfl

end Writes

end SeededMatrix
