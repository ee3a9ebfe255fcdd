import SeededMatrix.Session

/-!
# Taking outcomes apart

A computation is a chain of steps, each of which may end it with a failure. These lemmas read the
success of a chain as the success of its steps: for plain computations, for faults that are lifted
into failures, and for actions on a session.
-/

namespace SeededMatrix

/-! ## Computations -/

@[simp] theorem ok_bind {ε α β : Type} (value : α) (next : α → Except ε β) :
    (Except.ok value >>= next) = next value := rfl

@[simp] theorem error_bind {ε α β : Type} (failure : ε) (next : α → Except ε β) :
    ((Except.error failure : Except ε α) >>= next) = .error failure := rfl

@[simp] theorem pure_eq_ok {ε α : Type} (value : α) :
    (pure value : Except ε α) = .ok value := rfl

theorem bind_eq_ok {ε α β : Type} {first : Except ε α} {next : α → Except ε β} {result : β} :
    first >>= next = .ok result ↔ ∃ value, first = .ok value ∧ next value = .ok result := by
  cases first with
  | ok value => simp
  | error failure => simp

@[simp] theorem lift_ok {α : Type} (value : α) :
    (liftM (Except.ok value : Except Fault α) : Except Failure α) = .ok value := rfl

@[simp] theorem lift_error {α : Type} (fault : Fault) :
    (liftM (Except.error fault : Except Fault α) : Except Failure α) = .error (.fault fault) := rfl

theorem bind_eq_error {ε α β : Type} {first : Except ε α} {next : α → Except ε β} {failure : ε} :
    first >>= next = .error failure ↔
      first = .error failure ∨ ∃ value, first = .ok value ∧ next value = .error failure := by
  cases first with
  | ok value => simp
  | error failure' => simp

theorem map_eq_ok {ε α β : Type} {change : α → β} {outcome : Except ε α} {result : β} :
    outcome.map change = .ok result ↔ ∃ value, outcome = .ok value ∧ change value = result := by
  cases outcome with
  | ok value => simp [Except.map]
  | error failure => simp [Except.map]

theorem mapM_eq_ok {ε α β : Type} {step : α → Except ε β} {found : α → β} {items : List α}
    (succeeds : ∀ item ∈ items, step item = .ok (found item)) :
    items.mapM step = .ok (items.map found) := by
  induction items with
  | nil => rfl
  | cons item items induction =>
      obtain ⟨here, later⟩ := List.forall_mem_cons.mp succeeds
      rw [List.mapM_cons, here, ok_bind, induction later]
      rfl

theorem forM_eq_ok {ε α : Type} {check : α → Except ε Unit} {items : List α} :
    items.forM check = .ok () ↔ ∀ item ∈ items, check item = .ok () := by
  induction items with
  | nil => simp
  | cons item items induction =>
      rw [List.forM, List.forall_mem_cons, ← induction, bind_eq_ok]
      exact ⟨fun ⟨_, here, later⟩ => ⟨here, later⟩, fun ⟨here, later⟩ => ⟨(), here, later⟩⟩

@[simp] theorem lift_eq_ok {α : Type} {computation : Except Fault α} {result : α} :
    (liftM computation : Except Failure α) = .ok result ↔ computation = .ok result := by
  cases computation with
  | ok value => simp
  | error fault => simp

theorem lift_eq_error {α : Type} {computation : Except Fault α} {failure : Failure} :
    (liftM computation : Except Failure α) = .error failure ↔
      ∃ fault, computation = .error fault ∧ failure = .fault fault := by
  cases computation with
  | ok value => simp
  | error fault => simp [eq_comm]

@[simp] theorem lift_refusal_ok {α : Type} (value : α) :
    (liftM (Except.ok value : Except Refusal α) : Except Failure α) = .ok value := rfl

@[simp] theorem lift_refusal_eq_ok {α : Type} {computation : Except Refusal α} {result : α} :
    (liftM computation : Except Failure α) = .ok result ↔ computation = .ok result := by
  cases computation with
  | ok value => simp
  | error refusal => exact ⟨nofun, nofun⟩

@[simp] theorem refuseShape_ne_ok {α : Type} {cause : ShapeCause} {result : α} :
    refuseShape cause ≠ .ok result := nofun

end SeededMatrix
