import SeededMatrix.Output.Summary

/-!
# Sessions

A session is an output matrix with the events so far. Its actions may end in a failure, and the
matrix that they leave behind then is part of the outcome, so that one can tell what a failed action
has changed.
-/

namespace SeededMatrix

/-- A matrix and what was told about it. -/
structure Session where
  matrix : OutputMatrix
  events : Array Event

/-- An action on a session. A failure keeps the session as it is at that moment. -/
abbrev Action := EStateM Failure Session

/-- A computation that looks at no session ends an action with its failure. -/
instance : MonadLift (Except Failure) Action where
  monadLift computation session :=
    match computation with
    | .ok value => .ok value session
    | .error failure => .error failure session

namespace Action

/-- Tells an event. -/
def tell (event : Event) : Action Unit := fun session =>
  match session with
  | ⟨matrix, events⟩ => .ok () ⟨matrix, events.push event⟩

/-- Replaces the matrix by what a computation makes of it; a failure leaves the matrix as it was. -/
def update (change : OutputMatrix → Except Failure OutputMatrix) : Action Unit := fun session =>
  match session with
  | ⟨matrix, events⟩ =>
      match change matrix with
      | .ok changed => .ok () ⟨changed, events⟩
      | .error failure => .error failure ⟨matrix, events⟩

/-- The value that a computation finds in the matrix. -/
def inspect {α : Type} (look : OutputMatrix → Except Failure α) : Action α := fun session =>
  match look session.matrix with
  | .ok value => .ok value session
  | .error failure => .error failure session

/-- Counts the non-zero cells. -/
def recount : Action Nat := do
  update fun matrix => .ok matrix.recount
  inspect fun matrix => .ok matrix.nonZeros

/-- Changes the layout if the number of non-zero cells calls for it, and tells so. -/
def settleLayout : Action Unit := fun session =>
  match session with
  | ⟨matrix, events⟩ =>
      match matrix.settleLayout with
      | .ok (settled, none) => .ok () ⟨settled, events⟩
      | .ok (settled, some conversion) => .ok () ⟨settled, events.push (.converted conversion)⟩
      | .error fault => .error (.fault fault) ⟨matrix, events⟩

/-- Empties the matrix, gives it a new shape and layout, and allocates its storage. -/
def allocate (rows cols : Nat) (sparse : Bool) (expectedNonZeros : Nat) : Action Unit :=
  update fun matrix => do matrix.allocate rows cols sparse expectedNonZeros

end Action

end SeededMatrix
