import SeededMatrix.Proofs.Generation.Finished
import SeededMatrix.Proofs.Generation.Refusals

/-!
# Histories of a matrix

A matrix begins without storage and then changes by its operations, in any number and any order,
the requests for random matrices, progressions and samples among them. An operation that is refused
changes nothing, and one that faults ends the history. At every moment of a history the storage has
the layout and the shape that the matrix tells, and sparse rows store columns of the matrix only.
-/

namespace SeededMatrix

/-! ## Operations -/

/-- A change of the matrix alone. -/
inductive Change
  | reshape (rows cols : Nat) (sparse : Bool) (expectedNonZeros : Nat)
  | refill (rows cols : Nat) (value : Float)
  | allocateDense
  | allocateSparse
  /-- Cuts the matrix, then puts each write through the region of its number. -/
  | putApart (axis : Axis) (spans : List Span) (puts : List (Nat × Write))
  /-- Puts writes through the region of all cells. -/
  | putWhole (puts : List Write)

/-- What can be asked of a session: to change its matrix, to count or to settle it, or to make a
matrix of one of the three kinds. -/
inductive Operation
  | alter (change : Change)
  | recount
  | settleLayout
  | random (blueprint : Blueprint) (budgets : BudgetSource) (seeds : SeedOrigin) (tasks : Nat)
  | progression (first last step : Float)
  | sample (population : Int) (size : Nat) (replace : Bool) (seed : UInt64)

/-- Puts writes one after the other, each through the region of its number. -/
def Region.putEach (regions : List Region) :
    List (Nat × Write) → Storage → Except Fault Storage
  | [], storage => .ok storage
  | (number, write) :: puts, storage =>
      match regions[number]? with
      | some region => do
          putEach regions puts (← region.put storage write.row write.col write.value)
      | none => .error .outOfBounds

/-- The changed matrix. -/
def Change.apply (matrix : OutputMatrix) : Change → Except Failure OutputMatrix
  | reshape rows cols sparse expectedNonZeros =>
      .ok (matrix.reshape rows cols sparse expectedNonZeros)
  | refill rows cols value => matrix.refill rows cols value
  | allocateDense => matrix.allocateDense
  | allocateSparse => matrix.allocateSparse
  | putApart axis spans puts => do
      let regions ← matrix.regions axis spans
      let storage ← Region.putEach regions puts matrix.storage
      return { matrix with storage }
  | putWhole puts => do matrix.putAll (← matrix.wholeRegion) (.ofList puts)

namespace Operation

/-- The action of an operation. -/
def run : Operation → Action Unit
  | alter change => Action.update change.apply
  | recount => discard Action.recount
  | settleLayout => Action.settleLayout
  | random blueprint budgets seeds tasks => blueprint.generate budgets seeds tasks
  | progression first last step => Progression.generate first last step
  | sample population size replace seed => Sample.generate population size replace seed

/-- The session after a history. A refused operation does not end it; a fault does. -/
def runAll : List Operation → Session → Except Fault Session
  | [], session => .ok session
  | operation :: operations, session =>
      match operation.run session with
      | .ok _ after => runAll operations after
      | .error (.refusal _) after => runAll operations after
      | .error (.fault fault) _ => .error fault

end Operation

/-! ## What a matrix tells of its storage -/

/-- Whether the storage is what the matrix tells of it. A dense grid has the shape of the matrix and
goes with the dense layout; a table of sparse rows has one row for each row of the matrix, stores
columns of the matrix only, and goes with the sparse layout. Only a grid can be shared out by
columns. -/
structure OutputMatrix.Represented (matrix : OutputMatrix) : Prop where
  dense : ∀ grid, matrix.storage = .dense grid →
    matrix.sparse = false ∧ grid.rows = matrix.rows ∧ grid.cols = matrix.cols ∧
      grid.cells.size = matrix.rows * matrix.cols
  sparse : ∀ table, matrix.storage = .sparse table →
    matrix.sparse = true ∧ table.size = matrix.rows ∧
      ∀ stored ∈ table, stored.columns.length = stored.values.length ∧
        ∀ column ∈ stored.columns, column < matrix.cols
  shared : matrix.canShare .cols = true ↔ ∃ grid, matrix.storage = .dense grid

/-- Whether sparse rows store columns below `cols` only. -/
def Storage.ColumnsBelow (storage : Storage) (cols : Nat) : Prop :=
  match storage with
  | sparse table => ∀ stored ∈ table, ∀ column ∈ stored.columns, column < cols
  | _ => True

namespace Storage

variable {storage after : Storage} {isSparse : Bool} {rows cols : Nat}

theorem WellFormed.columnsBelow (formed : storage.WellFormed rows cols) :
    storage.ColumnsBelow cols := by
  cases storage with
  | unallocated => trivial
  | dense grid => trivial
  | sparse table =>
      intro stored member
      obtain ⟨row, found⟩ := Array.mem_iff_getElem?.mp member
      exact (formed.2 row stored found).inside

theorem ColumnsBelow.write (below : storage.ColumnsBelow cols) (row : Nat) {col : Nat}
    (col_lt : col < cols) (value : Float) : (storage.write row col value).ColumnsBelow cols := by
  cases storage with
  | unallocated => trivial
  | dense grid => trivial
  | sparse table =>
      intro stored member
      obtain ⟨place, found⟩ := Array.mem_iff_getElem?.mp member
      rw [Array.getElem?_modify] at found
      split at found
      · obtain ⟨old, old_found, rfl⟩ := Option.map_eq_some_iff.mp found
        rw [StoredRow.columns_push, List.forall_mem_append]
        exact ⟨below old (Array.mem_of_getElem? old_found), by simpa using col_lt⟩
      · exact below stored (Array.mem_of_getElem? found)

end Storage

namespace OutputMatrix

variable {matrix after : OutputMatrix}

theorem represented_of_shaped (shaped : matrix.hasStorage = true → matrix.WellShaped)
    (below : matrix.storage.ColumnsBelow matrix.cols) : matrix.Represented := by
  obtain ⟨rows, cols, sparse, nonZeros, nonZerosPerRow, storage⟩ := matrix
  cases storage with
  | unallocated => exact ⟨nofun, nofun, by simp [canShare]⟩
  | dense grid =>
      obtain ⟨rfl, rfl, rfl⟩ := shaped rfl
      refine ⟨?_, nofun, by simp [canShare]⟩
      rintro _ ⟨rfl⟩
      exact ⟨rfl, rfl, rfl, grid.size_cells⟩
  | sparse table =>
      obtain ⟨rfl, rfl⟩ := shaped rfl
      refine ⟨nofun, ?_, by simp [canShare]⟩
      rintro _ ⟨rfl⟩
      refine ⟨rfl, rfl, fun stored member => ⟨?_, below stored member⟩⟩
      rw [StoredRow.columns, StoredRow.values, List.length_map, List.length_map]

theorem represented_of_unallocated (nothing : matrix.storage = .unallocated) :
    matrix.Represented := by
  apply represented_of_shaped
  · intro stored
    rw [hasStorage, nothing] at stored
    contradiction
  · rw [nothing]
    trivial

theorem Represented.shaped (represented : matrix.Represented) (stored : matrix.hasStorage = true) :
    matrix.WellShaped := by
  rw [WellShaped]
  cases storage_eq : matrix.storage with
  | unallocated =>
      rw [hasStorage, storage_eq] at stored
      contradiction
  | dense grid =>
      obtain ⟨layout, rows_eq, cols_eq, -⟩ := represented.dense grid storage_eq
      exact ⟨layout, rows_eq, cols_eq⟩
  | sparse table =>
      obtain ⟨layout, rows_eq, -⟩ := represented.sparse table storage_eq
      exact ⟨layout, rows_eq⟩

theorem Represented.columnsBelow (represented : matrix.Represented) :
    matrix.storage.ColumnsBelow matrix.cols := by
  cases storage_eq : matrix.storage with
  | unallocated => trivial
  | dense grid => trivial
  | sparse table =>
      obtain ⟨-, -, rows_right⟩ := represented.sparse table storage_eq
      exact fun stored member => (rows_right stored member).2

theorem Consistent.represented (consistent : matrix.Consistent) : matrix.Represented :=
  represented_of_shaped consistent.shaped consistent.formed.columnsBelow

/-! ## Putting -/

theorem cols_le_of_regions (shaped : matrix.WellShaped) {axis : Axis} {spans : List Span}
    {regions : List Region} (cut : matrix.regions axis spans = .ok regions) {region : Region}
    (member : region ∈ regions) : region.colBase + region.cols ≤ matrix.cols := by
  rw [regions_eq shaped] at cut
  obtain ⟨_, -, cut⟩ := bind_eq_ok.mp cut
  split at cut
  · exact absurd cut refuseShape_ne_ok
  rw [lift_eq_ok, Region.cut_eq _ _ (by rintro rfl; exact Nat.zero_le _)] at cut
  split at cut
  next fits =>
    obtain rfl := Except.ok.inj cut
    obtain ⟨placed, placed_mem, rfl⟩ := List.mem_map.mp member
    have bounds := Span.placement_bounds placed_mem
    cases axis with
    | rows => exact (Nat.zero_add _).le
    | cols => exact bounds.2.trans fits
  next => contradiction

end OutputMatrix

/-- Putting through a region that does not reach further right than the matrix keeps the shape, and
the stored columns in the matrix. -/
theorem Region.keeps_put {region : Region} {storage after : Storage} {isSparse : Bool}
    {rows cols : Nat} (fits : region.colBase + region.cols ≤ cols)
    (shape : storage.HasShape isSparse rows cols) (below : storage.ColumnsBelow cols)
    {row col : Nat} {value : Float} (put : region.put storage row col value = .ok after) :
    after.HasShape isSparse rows cols ∧ after.ColumnsBelow cols := by
  rw [Region.put] at put
  split at put
  next covered =>
    refine ⟨shape.put put, ?_⟩
    obtain ⟨-, col_ge, col_lt⟩ := contains_iff.mp covered
    have stored_lt : region.colBase + (col - region.firstCol) < cols := by omega
    cases storage with
    | unallocated => contradiction
    | dense grid =>
        obtain ⟨grid', -, put⟩ := bind_eq_ok.mp put
        obtain rfl := Except.ok.inj put
        trivial
    | sparse table =>
        by_cases row_lt : region.rowBase + (row - region.firstRow) < table.size
        · have as_wide : (Storage.sparse table).HasShape true table.size cols := ⟨rfl, rfl⟩
          rw [Storage.put_eq as_wide row_lt stored_lt] at put
          split at put
          · obtain rfl := Except.ok.inj put
            exact below.write _ stored_lt _
          · contradiction
        · rw [Storage.put, if_neg row_lt] at put
          contradiction
  next => contradiction

/-- So does putting writes through several regions in turn. -/
theorem Region.keeps_putEach {regions : List Region} {storage after : Storage} {isSparse : Bool}
    {rows cols : Nat} (fit : ∀ region ∈ regions, region.colBase + region.cols ≤ cols)
    (shape : storage.HasShape isSparse rows cols) (below : storage.ColumnsBelow cols)
    {puts : List (Nat × Write)} (put : putEach regions puts storage = .ok after) :
    after.HasShape isSparse rows cols ∧ after.ColumnsBelow cols := by
  induction puts generalizing storage with
  | nil =>
      obtain rfl := Except.ok.inj put
      exact ⟨shape, below⟩
  | cons numbered puts induction =>
      rw [putEach] at put
      split at put
      next region found =>
        obtain ⟨middle, first, rest⟩ := bind_eq_ok.mp put
        obtain ⟨shape', below'⟩ := keeps_put (fit region (List.mem_of_getElem? found)) shape below
          first
        exact induction shape' below' rest
      next => contradiction

/-- And putting a sequence of writes through one region. -/
theorem Writes.keeps_putThrough {region : Region} {writes : Writes} {storage after : Storage}
    {isSparse : Bool} {rows cols : Nat} (fits : region.colBase + region.cols ≤ cols)
    (shape : storage.HasShape isSparse rows cols) (below : storage.ColumnsBelow cols)
    (put : writes.putThrough region storage = .ok after) :
    after.HasShape isSparse rows cols ∧ after.ColumnsBelow cols := by
  induction writes generalizing storage with
  | done =>
      obtain rfl := Except.ok.inj put
      exact ⟨shape, below⟩
  | failed failure => contradiction
  | next write rest induction =>
      rw [putThrough] at put
      split at put
      next middle first =>
        obtain ⟨shape', below'⟩ := Region.keeps_put fits shape below first
        exact induction () shape' below' put
      next => contradiction

namespace OutputMatrix

variable {matrix after : OutputMatrix}

theorem hasStorage_of_regions {axis : Axis} {spans : List Span} {regions : List Region}
    (cut : matrix.regions axis spans = .ok regions) : matrix.hasStorage = true := by
  cases storage_eq : matrix.storage with
  | unallocated =>
      rw [OutputMatrix.regions, storage_eq] at cut
      obtain ⟨_, -, cut⟩ := bind_eq_ok.mp cut
      cases axis <;> exact absurd cut refuseShape_ne_ok
  | dense grid => rw [hasStorage, storage_eq]
  | sparse table => rw [hasStorage, storage_eq]

theorem Represented.putApart (represented : matrix.Represented) {axis : Axis} {spans : List Span}
    {regions : List Region} (cut : matrix.regions axis spans = .ok regions)
    {puts : List (Nat × Write)} {storage : Storage}
    (put : Region.putEach regions puts matrix.storage = .ok storage) :
    OutputMatrix.Represented { matrix with storage } := by
  have shaped := represented.shaped (hasStorage_of_regions cut)
  obtain ⟨shape, below⟩ := Region.keeps_putEach
    (fun region member => cols_le_of_regions shaped cut member) shaped represented.columnsBelow put
  exact represented_of_shaped (fun _ => shape) below

theorem Represented.putWhole (represented : matrix.Represented) {writes : Writes}
    (put : (do matrix.putAll (← matrix.wholeRegion) writes) = .ok after) : after.Represented := by
  obtain ⟨region, whole, put⟩ := bind_eq_ok.mp put
  obtain ⟨regions, cut, found⟩ := bind_eq_ok.mp whole
  split at found
  next last last_eq =>
    obtain rfl : last = region := Except.ok.inj found
    have shaped := represented.shaped (hasStorage_of_regions cut)
    have fits := cols_le_of_regions shaped cut (List.mem_of_getLast? last_eq)
    rw [putAll_eq] at put
    cases through : writes.putThrough last matrix.storage with
    | error failure =>
        rw [through] at put
        contradiction
    | ok storage =>
        rw [through] at put
        obtain rfl := Except.ok.inj put
        obtain ⟨shape, below⟩ :=
          Writes.keeps_putThrough fits shaped represented.columnsBelow through
        exact represented_of_shaped (fun _ => shape) below
  next => exact absurd found refuseShape_ne_ok

/-! ## Changes of the whole matrix -/

theorem represented_refill {rows cols : Nat} {value : Float}
    (refilled : matrix.refill rows cols value = .ok after) : after.Represented :=
  (consistent_refill refilled).1.represented

theorem represented_allocateDense (allocated : matrix.allocateDense = .ok after) :
    after.Represented := by
  have shaped := wellShaped_allocateDense allocated
  obtain ⟨grid, -, allocated⟩ := bind_eq_ok.mp allocated
  obtain rfl := Except.ok.inj allocated
  exact represented_of_shaped (fun _ => shaped) trivial

theorem represented_allocateSparse (allocated : matrix.allocateSparse = .ok after) :
    after.Represented := by
  have shaped := wellShaped_allocateSparse allocated
  obtain ⟨storage, emptied, allocated⟩ := bind_eq_ok.mp allocated
  obtain ⟨_, -, emptied⟩ := bind_eq_ok.mp emptied
  obtain rfl := Except.ok.inj allocated
  obtain rfl := Except.ok.inj emptied
  apply represented_of_shaped fun _ => shaped
  exact (Storage.wellFormed_blank true matrix.rows matrix.cols).columnsBelow

theorem Represented.recount (represented : matrix.Represented) : matrix.recount.Represented :=
  ⟨represented.dense, represented.sparse, represented.shared⟩

theorem Represented.settleLayout (represented : matrix.Represented)
    {conversion : Option Conversion} (settles : matrix.settleLayout = .ok (after, conversion)) :
    after.Represented := by
  obtain ⟨rows_eq, cols_eq, change⟩ := settleLayout_cases settles
  cases stored : matrix.hasStorage with
  | true =>
      have shaped := represented.shaped stored
      apply represented_of_shaped fun _ => wellShaped_settleLayout settles shaped
      rcases change with ⟨-, kept⟩ | ⟨-, converted⟩
      · rw [kept, cols_eq]
        exact represented.columnsBelow
      · rw [cols_eq]
        exact (shaped.wellFormed_convert converted).columnsBelow
  | false =>
      apply represented_of_unallocated
      rwa [← hasStorage_eq_false, hasStorage_settleLayout settles]

end OutputMatrix

/-! ## One operation -/

theorem Change.represented_apply {change : Change} {matrix after : OutputMatrix}
    (represented : matrix.Represented) (applied : change.apply matrix = .ok after) :
    after.Represented := by
  cases change with
  | reshape rows cols sparse expectedNonZeros =>
      obtain rfl := Except.ok.inj applied
      exact OutputMatrix.represented_of_unallocated rfl
  | refill rows cols value => exact OutputMatrix.represented_refill (lift_eq_ok.mp applied)
  | allocateDense => exact OutputMatrix.represented_allocateDense (lift_eq_ok.mp applied)
  | allocateSparse => exact OutputMatrix.represented_allocateSparse (lift_eq_ok.mp applied)
  | putApart axis spans puts =>
      obtain ⟨regions, cut, applied⟩ := bind_eq_ok.mp applied
      obtain ⟨storage, put, after_eq⟩ := bind_eq_ok.mp applied
      obtain rfl := Except.ok.inj after_eq
      exact represented.putApart cut (lift_eq_ok.mp put)
  | putWhole puts => exact represented.putWhole applied

namespace Operation

theorem represented_run {operation : Operation} {session after : Session}
    (represented : session.matrix.Represented) (ran : operation.run session = .ok () after) :
    after.matrix.Represented := by
  cases operation with
  | alter change =>
      rw [run] at ran
      obtain ⟨changed, applied, rfl⟩ := Action.update_ok.mp ran
      exact Change.represented_apply represented applied
  | recount =>
      obtain ⟨-, rfl⟩ := EStateM.Result.ok.inj ran
      exact represented.recount
  | settleLayout =>
      obtain ⟨conversion, settles⟩ := Action.settleLayout_ok ran
      exact represented.settleLayout settles
  | random blueprint budgets seeds tasks =>
      exact (Blueprint.consistent_of_generate ran).1.represented
  | progression first last step =>
      obtain ⟨rows, -, consistent, -⟩ := Progression.consistent_of_generate ran
      exact consistent.represented
  | sample population size replace seed =>
      exact (Sample.consistent_of_generate ran).1.represented

/-- An operation that is refused leaves the session as it was. -/
theorem keeps_run (operation : Operation) : operation.run.KeepsIfRefused := by
  cases operation with
  | alter change =>
      intro session refusal after refused
      rw [run] at refused
      exact (Action.update_error.mp refused).2.symm
  | recount => exact fun _ _ _ => nofun
  | settleLayout =>
      intro session refusal after refused
      obtain ⟨fault, -, contra⟩ := Action.settleLayout_error refused
      contradiction
  | random blueprint budgets seeds tasks => exact blueprint.keeps_generate budgets seeds tasks
  | progression first last step => exact Progression.keeps_generate first last step
  | sample population size replace seed => exact Sample.keeps_generate population size replace seed

/-! ## Histories -/

/-- A history that begins at a matrix that tells its storage ends at one. -/
theorem represented_runAll {operations : List Operation} {session after : Session}
    (represented : session.matrix.Represented) (ran : runAll operations session = .ok after) :
    after.matrix.Represented := by
  induction operations generalizing session with
  | nil =>
      obtain rfl := Except.ok.inj ran
      exact represented
  | cons operation operations induction =>
      rw [runAll] at ran
      split at ran
      next middle here => exact induction (represented_run represented here) ran
      next refusal middle here =>
        obtain rfl := keeps_run operation _ refusal _ here
        exact induction represented ran
      next => contradiction

/-- Whatever operations a new matrix went through, successful or refused, as long as none of them
faulted, its storage is what it tells of it. -/
theorem history_represented (rows cols : Nat) (sparse : Bool) (events : Array Event)
    (operations : List Operation) (after : Session)
    (ran : runAll operations ⟨.unallocated rows cols sparse, events⟩ = .ok after) :
    after.matrix.Represented :=
  represented_runAll (OutputMatrix.represented_of_unallocated rfl) ran

/-- Sparse rows that are refused to be cut by columns, written by rows and settled as a grid, which
is then written by columns; a sample that is too large for its population is refused at the end. -/
def settledHistory : List Operation :=
  [.alter .allocateSparse,
    .alter (.putApart .cols [.upTo 3] []),
    .alter (.putApart .rows [⟨0, 1⟩, ⟨1, 2⟩] [(1, ⟨1, 2, 5.0⟩), (0, ⟨0, 1, 0.0⟩)]),
    .recount,
    .settleLayout,
    .alter (.putApart .cols [⟨0, 2⟩, ⟨2, 3⟩] [(1, ⟨0, 2, 2.0⟩)]),
    .sample 3 5 false 7]

/-- The history ends with a grid that may be shared out by columns. -/
theorem settled_history_represented :
    ∃ after, runAll settledHistory ⟨.unallocated 2 3 true, #[]⟩ = .ok after ∧
      after.matrix.canShare .cols = true ∧ after.matrix.Represented := by
  have ends : (match runAll settledHistory ⟨.unallocated 2 3 true, #[]⟩ with
    | .ok after => after.matrix.canShare .cols
    | .error _ => false) = true := by decide +kernel
  split at ends
  next after ran => exact ⟨after, ran, ends, history_represented 2 3 true #[] _ after ran⟩
  next => exact absurd ends Bool.false_ne_true

end Operation

end SeededMatrix
