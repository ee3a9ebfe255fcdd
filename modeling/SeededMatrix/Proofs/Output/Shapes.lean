import SeededMatrix.Proofs.Output.Relayout

/-!
# Shapes of matrices

A matrix begins without storage and changes by reshaping, refilling, allocating, writing through a
region, counting and settling its layout. Whatever it stores then has the layout and the shape that
it tells.
-/

namespace SeededMatrix

namespace OutputMatrix

variable {matrix after : OutputMatrix} {rows cols : Nat}

/-- The matrices that arise from a new one. -/
inductive Built : OutputMatrix → Prop
  | new (rows cols : Nat) (sparse : Bool) : Built (unallocated rows cols sparse)
  | reshape {matrix : OutputMatrix} (built : Built matrix) (rows cols : Nat) (sparse : Bool)
      (expected : Nat) : Built (matrix.reshape rows cols sparse expected)
  | refill {matrix after : OutputMatrix} {rows cols : Nat} {value : Float} (built : Built matrix)
      (refilled : matrix.refill rows cols value = .ok after) : Built after
  | allocateDense {matrix after : OutputMatrix} (built : Built matrix)
      (allocated : matrix.allocateDense = .ok after) : Built after
  | allocateSparse {matrix after : OutputMatrix} (built : Built matrix)
      (allocated : matrix.allocateSparse = .ok after) : Built after
  | put {matrix : OutputMatrix} {region : Region} {row col : Nat} {value : Float}
      {storage : Storage} (built : Built matrix)
      (put : region.put matrix.storage row col value = .ok storage) :
      Built { matrix with storage }
  | recount {matrix : OutputMatrix} (built : Built matrix) : Built matrix.recount
  | settleLayout {matrix after : OutputMatrix} {conversion : Option Conversion}
      (built : Built matrix) (settles : matrix.settleLayout = .ok (after, conversion)) :
      Built after

theorem filled_eq {grid : Grid} {value : Float} (filled : Grid.filled rows cols value = .ok grid) :
    grid.rows = rows ∧ grid.cols = cols := by
  rw [Grid.filled] at filled
  split at filled
  · obtain rfl := Except.ok.inj filled
    exact ⟨rfl, rfl⟩
  · contradiction

/-- A refilled matrix has the shape that is asked for; zeros are not allocated. -/
theorem refill_cases {value : Float} (refilled : matrix.refill rows cols value = .ok after) :
    after.rows = rows ∧ after.cols = cols ∧
      (after.storage = .unallocated ∨
        after.storage.HasShape false rows cols ∧ after.WellShaped) := by
  rw [refill] at refilled
  split at refilled
  · obtain rfl := Except.ok.inj refilled
    exact ⟨rfl, rfl, .inl rfl⟩
  · obtain ⟨grid, filled, refilled⟩ := bind_eq_ok.mp refilled
    obtain ⟨count, -, refilled⟩ := bind_eq_ok.mp refilled
    obtain rfl := Except.ok.inj refilled
    obtain ⟨rows_eq, cols_eq⟩ := filled_eq filled
    exact ⟨rfl, rfl, .inr ⟨⟨rfl, rows_eq, cols_eq⟩, rfl, rows_eq, cols_eq⟩⟩

theorem wellShaped_allocateDense (allocated : matrix.allocateDense = .ok after) :
    after.WellShaped := by
  obtain ⟨grid, filled, allocated⟩ := bind_eq_ok.mp allocated
  obtain rfl := Except.ok.inj allocated
  exact ⟨rfl, filled_eq filled⟩

theorem wellShaped_allocateSparse (allocated : matrix.allocateSparse = .ok after) :
    after.WellShaped := by
  obtain ⟨storage, emptied, allocated⟩ := bind_eq_ok.mp allocated
  obtain ⟨_, -, emptied⟩ := bind_eq_ok.mp emptied
  obtain rfl := Except.ok.inj allocated
  obtain rfl := Except.ok.inj emptied
  exact ⟨rfl, Array.size_replicate⟩

/-- Settling the layout keeps the shape. It keeps the storage as well, or carries it over to the
other layout. -/
theorem settleLayout_cases {conversion : Option Conversion}
    (settles : matrix.settleLayout = .ok (after, conversion)) :
    after.rows = matrix.rows ∧ after.cols = matrix.cols ∧
      (after.sparse = matrix.sparse ∧ after.storage = matrix.storage ∨
        after.sparse = !matrix.sparse ∧
          matrix.storage.convert matrix.cols = .ok after.storage) := by
  rw [settleLayout] at settles
  split at settles
  · obtain ⟨rfl, -⟩ := Prod.mk.inj (Except.ok.inj settles)
    exact ⟨rfl, rfl, .inl ⟨rfl, rfl⟩⟩
  next other =>
    obtain ⟨storage, converted, settles⟩ := bind_eq_ok.mp settles
    obtain ⟨rfl, -⟩ := Prod.mk.inj (Except.ok.inj settles)
    exact ⟨rfl, rfl, .inr ⟨Bool.eq_not_of_ne other, converted⟩⟩

theorem eq_of_settleLayout {conversion : Option Conversion}
    (settles : matrix.settleLayout = .ok (after, conversion)) :
    after = { matrix with sparse := after.sparse, storage := after.storage } := by
  rw [settleLayout] at settles
  split at settles
  · obtain ⟨rfl, -⟩ := Prod.mk.inj (Except.ok.inj settles)
    rfl
  · obtain ⟨storage, -, settles⟩ := bind_eq_ok.mp settles
    obtain ⟨rfl, -⟩ := Prod.mk.inj (Except.ok.inj settles)
    rfl

theorem hasStorage_eq_false : matrix.hasStorage = false ↔ matrix.storage = .unallocated := by
  rw [hasStorage]
  split
  next nothing => exact ⟨fun _ => nothing, fun _ => rfl⟩
  next something => exact ⟨nofun, fun nothing => (something nothing).elim⟩

theorem hasStorage_settleLayout {conversion : Option Conversion}
    (settles : matrix.settleLayout = .ok (after, conversion)) :
    after.hasStorage = matrix.hasStorage := by
  obtain ⟨-, -, ⟨-, kept⟩ | ⟨-, converted⟩⟩ := settleLayout_cases settles
  · rw [hasStorage, hasStorage, kept]
  · rw [hasStorage, hasStorage]
    cases stored : matrix.storage with
    | unallocated =>
        rw [stored] at converted
        rw [← Except.ok.inj converted]
    | dense grid =>
        rw [stored] at converted
        rw [Storage.eq_of_convert_dense converted]
    | sparse table =>
        rw [stored] at converted
        obtain ⟨grid, -, converted⟩ := bind_eq_ok.mp converted
        rw [← Except.ok.inj converted]

theorem wellShaped_settleLayout {conversion : Option Conversion}
    (settles : matrix.settleLayout = .ok (after, conversion)) (shaped : matrix.WellShaped) :
    after.WellShaped := by
  obtain ⟨rows_eq, cols_eq, ⟨sparse_eq, kept⟩ | ⟨sparse_eq, converted⟩⟩ :=
    settleLayout_cases settles
  · rw [WellShaped, sparse_eq, kept, rows_eq, cols_eq]
    exact shaped
  · rw [WellShaped, sparse_eq, rows_eq, cols_eq]
    exact shaped.convert converted

theorem wellFormed_settleLayout {conversion : Option Conversion}
    (settles : matrix.settleLayout = .ok (after, conversion)) (shaped : matrix.WellShaped)
    (formed : matrix.storage.WellFormed matrix.rows matrix.cols) :
    after.storage.WellFormed after.rows after.cols := by
  obtain ⟨rows_eq, cols_eq, ⟨-, kept⟩ | ⟨-, converted⟩⟩ := settleLayout_cases settles
  · rw [kept, rows_eq, cols_eq]
    exact formed
  · rw [rows_eq, cols_eq]
    exact shaped.wellFormed_convert converted

theorem get_settleLayout {conversion : Option Conversion}
    (settles : matrix.settleLayout = .ok (after, conversion)) (shaped : matrix.WellShaped)
    (formed : matrix.storage.WellFormed matrix.rows matrix.cols) {row col : Nat}
    (row_lt : row < matrix.rows) (col_lt : col < matrix.cols) :
    ∃ value kept, matrix.storage.get row col = .ok value ∧ after.get row col = .ok kept ∧
      SameValue value kept := by
  obtain ⟨rows_eq, cols_eq, kept⟩ := settleLayout_cases settles
  rw [get, if_pos ⟨rows_eq ▸ row_lt, cols_eq ▸ col_lt⟩]
  rcases kept with ⟨-, kept⟩ | ⟨-, converted⟩
  · obtain ⟨value, get_eq⟩ := Storage.HasShape.get_ok shaped row_lt col_lt
    rw [kept]
    exact ⟨value, value, get_eq, get_eq, .refl value⟩
  · exact Storage.get_convert shaped formed converted row_lt col_lt

theorem Built.wellShaped (built : matrix.Built) (stored : matrix.hasStorage = true) :
    matrix.WellShaped := by
  induction built with
  | new rows cols sparse => contradiction
  | reshape built rows cols sparse expected induction => contradiction
  | refill built refilled induction =>
      obtain ⟨-, -, nothing | ⟨-, shaped⟩⟩ := refill_cases refilled
      · rw [hasStorage, nothing] at stored
        contradiction
      · exact shaped
  | allocateDense built allocated induction => exact wellShaped_allocateDense allocated
  | allocateSparse built allocated induction => exact wellShaped_allocateSparse allocated
  | @put matrix region row col value storage built put induction =>
      rw [Region.put] at put
      split at put
      · have stored_before : matrix.hasStorage = true := by
          rw [hasStorage]
          split
          next nothing =>
            rw [nothing] at put
            contradiction
          next => rfl
        have shape : matrix.storage.HasShape matrix.sparse matrix.rows matrix.cols :=
          induction stored_before
        exact shape.put put
      · contradiction
  | recount built induction => exact induction stored
  | @settleLayout matrix after conversion built settles induction =>
      apply wellShaped_settleLayout settles
      apply induction
      rwa [← hasStorage_settleLayout settles]

end OutputMatrix

end SeededMatrix
