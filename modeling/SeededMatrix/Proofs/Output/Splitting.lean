import SeededMatrix.Proofs.Fill.Drawing
import SeededMatrix.Proofs.Output.Shapes

/-!
# Splitting a matrix

A split is faithful if it is refused, or hands out one region for each span such that the regions
lie in the matrix, cover no common cell, and write exactly the cells that they cover. Spans are cut
off the storage by their lengths but labelled by their starts, and only the joints, the first span
and the last end are checked: a later span that goes backwards moves all places behind it away from
their labels.
-/

namespace SeededMatrix

/-! ## Faithful splits -/

/-- Whether one storage arises from another by writing exactly one cell: a dense cell is set, or one
more cell is stored behind a sparse row. -/
def Storage.Written (before : Storage) (row col : Nat) (value : Float) (after : Storage) : Prop :=
  match before, after with
  | .dense grid, .dense grid' =>
      grid'.rows = grid.rows ∧ grid'.cols = grid.cols ∧ ∀ r c,
        grid'.get r c = if r = row ∧ c = col then .ok value else grid.get r c
  | .sparse table, .sparse table' => ∀ r : Nat,
      table'[r]? = if r = row then table[r]?.map (·.push col value) else table[r]?
  | _, _ => False

namespace Region

/-- Whether the cells of a region are cells of a matrix of this shape. -/
def Inside (region : Region) (rows cols : Nat) : Prop :=
  region.firstRow + region.rows ≤ rows ∧ region.firstCol + region.cols ≤ cols

/-- Whether two regions cover no common cell. -/
def Disjoint (left right : Region) : Prop :=
  ∀ row col, left.contains row col = true → right.contains row col = false

/-- Whether a write to any cell that the region covers changes exactly this cell, whatever the
storage of this layout and shape holds. -/
def Exact (region : Region) (isSparse : Bool) (rows cols : Nat) : Prop :=
  ∀ storage : Storage, storage.HasShape isSparse rows cols →
    ∀ row col value, region.contains row col = true →
      ∃ after, region.put storage row col value = .ok after ∧
        storage.Written row col value after

end Region

namespace OutputMatrix

/-- One region for each span; they lie in the matrix, cover no common cell, and write exactly the
cells that they cover. -/
structure Faithful (matrix : OutputMatrix) (spans : List Span) (regions : List Region) : Prop where
  count : regions.length = spans.length
  inside : ∀ region ∈ regions, region.Inside matrix.rows matrix.cols
  disjoint : regions.Pairwise Region.Disjoint
  exactly : ∀ region ∈ regions, region.Exact matrix.sparse matrix.rows matrix.cols

/-- Whether a split is refused or faithful; it is neither if it faults. -/
def SplitsFaithfully (matrix : OutputMatrix) (axis : Axis) (spans : List Span) : Prop :=
  match matrix.regions axis spans with
  | .ok regions => matrix.Faithful spans regions
  | .error (.refusal _) => True
  | .error (.fault _) => False

/-- Number of cells across an axis. -/
def breadth (matrix : OutputMatrix) : Axis → Nat
  | .rows => matrix.cols
  | .cols => matrix.rows

/-- Whether an empty sparse row of the matrix can make the room that it is to make. -/
def Roomy (matrix : OutputMatrix) : Prop :=
  matrix.sparse = true → max matrix.room 1 * 8 ≤ Size.allocationLimit

end OutputMatrix

/-! ## One region -/

namespace Storage

variable {storage : Storage} {isSparse : Bool} {rows cols : Nat}

theorem written_write (shape : storage.HasShape isSparse rows cols) {row col : Nat}
    (row_lt : row < rows) (col_lt : col < cols) (value : Float) :
    storage.Written row col value (storage.write row col value) := by
  cases storage with
  | unallocated => exact shape.elim
  | dense grid =>
      obtain ⟨-, rfl, rfl⟩ := shape
      exact ⟨rfl, rfl, grid.get_setCell row_lt col_lt value⟩
  | sparse table =>
      intro r
      simp only [Array.getElem?_modify, eq_comm]

theorem eq_of_written_blank {row col row' col' : Nat} (row_lt : row' < rows) (col_lt : col' < cols)
    (written : (blank isSparse rows cols).Written row col 1.0
      ((blank isSparse rows cols).write row' col' 1.0)) : row' = row ∧ col' = col := by
  cases isSparse with
  | false =>
      obtain ⟨-, -, cells⟩ := written
      have cell := cells row' col'
      rw [Grid.get_setCell _ row_lt col_lt, if_pos ⟨rfl, rfl⟩] at cell
      by_contra apart
      have zero : (blank false rows cols).get row' col' = .ok 0.0 := get_blank row_lt col_lt
      rw [if_neg apart] at cell
      have one_eq_zero : (1.0 : Float) = 0.0 := Except.ok.inj (cell.trans zero)
      have one_ne_zero : ((1.0 : Float) != 0.0) = true := by decide +kernel
      rw [one_eq_zero, zero_bne_zero] at one_ne_zero
      contradiction
  | true =>
      have stored := written row'
      have found : (Array.replicate rows StoredRow.empty)[row']? = some .empty := by
        rw [Array.getElem?_replicate, if_pos row_lt]
      simp only [Array.getElem?_modify, found, if_true, Option.map_some] at stored
      split at stored
      next rows_eq =>
        have columns := congrArg StoredRow.columns (Option.some.inj stored)
        exact ⟨rows_eq, by simpa using columns⟩
      next =>
        have columns := congrArg StoredRow.columns (Option.some.inj stored)
        simp at columns

end Storage

namespace Region

variable {region : Region} {isSparse : Bool} {rows cols : Nat}

theorem exact_of_empty (empty : region.rows = 0 ∨ region.cols = 0) :
    region.Exact isSparse rows cols := by
  intro storage shape row col value covered
  obtain ⟨row_range, col_range⟩ := contains_iff.mp covered
  omega

/-- A region that lies in the storage where its labels say writes exactly the cells that it covers,
if rows have room. -/
theorem Aligned.exact (aligned : region.Aligned) (inside : region.Inside rows cols)
    (roomy : isSparse = true → max region.room 1 * 8 ≤ Size.allocationLimit) :
    region.Exact isSparse rows cols := by
  intro storage shape row col value covered
  obtain ⟨row_range, col_range⟩ := contains_iff.mp covered
  obtain ⟨rows_le, cols_le⟩ := inside
  have row_lt : row < rows := by omega
  have col_lt : col < cols := by omega
  have write_covered : region.Covers ⟨row, col, value⟩ := covered
  have put_eq := aligned.put_eq write_covered storage
  rw [Storage.putWrite_eq shape ⟨row_lt, col_lt⟩,
    if_pos (Storage.hasRoom_of_roomy shape roomy row)] at put_eq
  exact ⟨_, put_eq, Storage.written_write shape row_lt col_lt value⟩

/-- A region that covers cells and writes exactly these lies in the storage where its labels say,
and rows have room. -/
theorem Exact.aligned (exactly : region.Exact isSparse rows cols) (rows_pos : 0 < region.rows)
    (cols_pos : 0 < region.cols) (row_fits : region.rowBase + region.rows ≤ rows)
    (col_fits : region.colBase + region.cols ≤ cols) :
    region.Aligned ∧ (isSparse = true → max region.room 1 * 8 ≤ Size.allocationLimit) := by
  have covered : region.contains region.firstRow region.firstCol = true := by
    rw [contains_iff]
    omega
  have row_lt : region.rowBase < rows := by omega
  have col_lt : region.colBase < cols := by omega
  have shape := Storage.hasShape_blank isSparse rows cols
  obtain ⟨after, put, written⟩ := exactly _ shape region.firstRow region.firstCol 1.0 covered
  rw [Region.put, if_pos covered, Nat.sub_self, Nat.sub_self, Nat.add_zero, Nat.add_zero,
    Storage.put_eq shape row_lt col_lt] at put
  split at put
  next fits =>
    obtain rfl := Except.ok.inj put
    refine ⟨Storage.eq_of_written_blank row_lt col_lt written, ?_⟩
    rintro rfl
    simpa [Storage.blank, Storage.hasRoom, Array.getElem?_replicate, row_lt, StoredRow.hasRoom,
      StoredRow.empty, StoredRow.size] using fits
  next => contradiction

end Region

/-! ## All regions -/

namespace OutputMatrix

variable {matrix : OutputMatrix} {axis : Axis} {span : Span} {base : Nat}

theorem aligned_regionAt (matrix : OutputMatrix) (axis : Axis) (span : Span) :
    (matrix.regionAt axis span span.start).Aligned := by
  cases axis <;> exact ⟨rfl, rfl⟩

theorem room_regionAt : (matrix.regionAt axis span base).room = matrix.room := by
  cases axis <;> rfl

theorem inside_regionAt (ends : span.start + span.length ≤ matrix.extent axis) :
    (matrix.regionAt axis span base).Inside matrix.rows matrix.cols := by
  cases axis with
  | rows => exact ⟨ends, (Nat.zero_add _).le⟩
  | cols => exact ⟨(Nat.zero_add _).le, ends⟩

theorem empty_regionAt (empty : span.length = 0 ∨ matrix.breadth axis = 0) :
    (matrix.regionAt axis span base).rows = 0 ∨ (matrix.regionAt axis span base).cols = 0 := by
  cases axis with
  | rows => exact empty
  | cols => exact empty.symm

theorem disjoint_regionAt {left right : Span} {base' : Nat}
    (apart : left.start + left.length ≤ right.start ∨
      (left.length = 0 ∨ matrix.breadth axis = 0) ∨ right.length = 0 ∨ matrix.breadth axis = 0) :
    (matrix.regionAt axis left base).Disjoint (matrix.regionAt axis right base') := by
  intro row col covered
  rw [Region.contains_iff] at covered
  rw [← Bool.not_eq_true, Region.contains_iff]
  cases axis <;> simp only [regionAt, breadth] at * <;> omega

/-- Straight spans that fit are split faithfully, if rows have room. -/
theorem faithful_of_straight (first : Span) (spans : List Span)
    (joined : Span.Joined (first :: spans))
    (fits : first.start + Span.total (first :: spans) ≤ matrix.extent axis)
    (addressed : matrix.breadth axis = 0 ∨ Span.total (first :: spans) = 0 ∨
      Span.Straight (first :: spans) ∧ matrix.Roomy) :
    matrix.Faithful (first :: spans) ((Span.placements first.start (first :: spans)).map
      fun placed => matrix.regionAt axis placed.1 placed.2) := by
  have ends : ∀ placed ∈ Span.placements first.start (first :: spans),
      placed.1.start + placed.1.length ≤ matrix.extent axis := by
    intro placed member
    have drift := Span.placement_drift joined member
    have bounds := Span.placement_bounds member
    omega
  have settled : ∀ placed ∈ Span.placements first.start (first :: spans),
      (placed.1.length = 0 ∨ matrix.breadth axis = 0) ∨
        placed.1.start = placed.2 ∧ matrix.Roomy := by
    intro placed member
    rcases addressed with narrow | short | ⟨straight, roomy⟩
    · exact .inl (.inr narrow)
    · have bounds := Span.placement_bounds member
      exact .inl (.inl (by omega))
    · obtain ⟨-, placed_right | empty⟩ :=
        Span.placement_aligned joined straight le_rfl (.inl rfl) member
      · exact .inr ⟨placed_right, roomy⟩
      · exact .inl (.inl empty)
  refine ⟨by simp, ?_, ?_, ?_⟩
  · simp only [List.forall_mem_map]
    exact fun placed member => inside_regionAt (ends placed member)
  · rw [List.pairwise_map]
    apply (Span.placements_ordered first.start (first :: spans)).imp_of_mem
    intro left right left_mem right_mem ordered
    apply disjoint_regionAt
    rcases settled _ left_mem with empty | ⟨left_eq, -⟩
    · exact .inr (.inl empty)
    · rcases settled _ right_mem with empty | ⟨right_eq, -⟩
      · exact .inr (.inr empty)
      · rw [left_eq, right_eq]
        exact .inl ordered
  · simp only [List.forall_mem_map]
    intro placed member
    rcases settled placed member with empty | ⟨placed_right, roomy⟩
    · exact Region.exact_of_empty (empty_regionAt empty)
    · rw [← placed_right]
      exact (matrix.aligned_regionAt axis placed.1).exact (inside_regionAt (ends placed member))
        (room_regionAt ▸ roomy)

/-- Faithful regions of a matrix with cells come from straight spans, and rows have room. -/
theorem straight_of_faithful (first : Span) (spans : List Span)
    (joined : Span.Joined (first :: spans))
    (fits : first.start + Span.total (first :: spans) ≤ matrix.extent axis)
    (faithful : matrix.Faithful (first :: spans)
      ((Span.placements first.start (first :: spans)).map
        fun placed => matrix.regionAt axis placed.1 placed.2))
    (breadth_pos : 0 < matrix.breadth axis) :
    Span.Straight (first :: spans) ∧
      (0 < Span.total (first :: spans) → matrix.Roomy) := by
  have settled : ∀ placed ∈ Span.placements first.start (first :: spans),
      0 < placed.1.length → placed.1.start = placed.2 ∧ matrix.Roomy := by
    intro placed member length_pos
    have bounds := Span.placement_bounds member
    have exactly := faithful.exactly _ (List.mem_map_of_mem member)
    cases axis with
    | rows =>
        simp only [breadth, extent] at breadth_pos fits
        obtain ⟨⟨aligned, -⟩, roomy⟩ := exactly.aligned length_pos breadth_pos
          (by simp only [regionAt]; omega) (by simp only [regionAt]; omega)
        exact ⟨aligned.symm, roomy⟩
    | cols =>
        simp only [breadth, extent] at breadth_pos fits
        obtain ⟨⟨-, aligned⟩, roomy⟩ := exactly.aligned breadth_pos length_pos
          (by simp only [regionAt]; omega) (by simp only [regionAt]; omega)
        exact ⟨aligned.symm, roomy⟩
  constructor
  · rw [Span.Straight, ← Span.map_fst_placements first.start (first :: spans), List.pairwise_map]
    apply (Span.placement_ahead_of_backwards joined le_rfl).imp_of_mem
    intro left right _ right_mem ahead backwards
    by_contra holds
    have moved := ahead backwards
    have aligned := (settled _ right_mem (by simp only [Span.length]; omega)).1
    omega
  · intro total_pos
    obtain ⟨span, member, long⟩ := Span.exists_of_total_pos total_pos
    rw [← Span.map_fst_placements first.start (first :: spans), List.mem_map] at member
    obtain ⟨placed, placed_mem, rfl⟩ := member
    exact (settled placed placed_mem long).2

/-- A split is faithful exactly if it is refused, or its spans fit into the matrix and, should they
hold cells, no span with an index comes after one that goes backwards, and rows have room. -/
theorem Built.splits_faithfully_iff (built : matrix.Built) (stored : matrix.hasStorage = true)
    (axis : Axis) (spans : List Span) :
    matrix.SplitsFaithfully axis spans ↔
      ¬matrix.Admits axis spans ∨ (matrix.sparse = true ∧ axis = .cols) ∨
        ((spans.head?.map Span.start).getD 0 + Span.total spans ≤ matrix.extent axis ∧
          (matrix.breadth axis = 0 ∨ Span.total spans = 0 ∨
            Span.Straight spans ∧ matrix.Roomy)) := by
  have shaped := built.wellShaped stored
  rw [SplitsFaithfully, regions_eq shaped]
  rcases matrix.checkSpans_cases axis spans with ⟨admits, passes⟩ | ⟨refused, refusal, refuses⟩
  · rw [passes, ok_bind]
    by_cases sparse_cols : matrix.sparse = true ∧ axis = .cols
    · rw [if_pos sparse_cols]
      exact ⟨fun _ => .inr (.inl sparse_cols), fun _ => trivial⟩
    · have base_le : spans = [] →
          (spans.head?.map Span.start).getD 0 ≤ matrix.extent axis := by
        rintro rfl
        exact Nat.zero_le _
      rw [if_neg sparse_cols, Region.cut_eq _ _ base_le]
      by_cases fits :
          (spans.head?.map Span.start).getD 0 + Span.total spans ≤ matrix.extent axis
      · rw [if_pos fits, lift_ok]
        simp only [admits, sparse_cols, fits, not_true_eq_false, false_or, true_and]
        cases spans with
        | nil => exact ⟨fun _ => .inr (.inl rfl), fun _ => ⟨rfl, by simp [Span.placements],
            .nil, by simp [Span.placements]⟩⟩
        | cons first spans =>
            refine ⟨fun faithful => ?_, matrix.faithful_of_straight first spans admits.joined fits⟩
            rcases Nat.eq_zero_or_pos (matrix.breadth axis) with none | some
            · exact .inl none
            · obtain ⟨straight, roomy⟩ :=
                matrix.straight_of_faithful first spans admits.joined fits faithful some
              rcases Nat.eq_zero_or_pos (Span.total (first :: spans)) with none | some
              · exact .inr (.inl none)
              · exact .inr (.inr ⟨straight, roomy some⟩)
      · rw [if_neg fits]
        simp [admits, sparse_cols, fits]
  · rw [refuses]
    exact ⟨fun _ => .inl refused, fun _ => trivial⟩

/-- A dense matrix of one column. -/
def tenRows : OutputMatrix :=
  ⟨10, 1, false, 0, 0, .blank false 10 1⟩

theorem built_tenRows : tenRows.Built :=
  .allocateDense (.new 10 1 false) rfl

/-- Two spans that follow each other are split faithfully. -/
theorem ten_rows_split_in_two : tenRows.SplitsFaithfully .rows [⟨0, 4⟩, ⟨4, 10⟩] := by
  have straight : Span.Straight [⟨0, 4⟩, ⟨4, 10⟩] := by simp [Span.Straight]
  rw [Built.splits_faithfully_iff built_tenRows rfl]
  exact .inr (.inr ⟨by decide, .inr (.inr ⟨straight, nofun⟩)⟩)

/-- Behind a span that goes backwards, the region of rows two and three writes rows five and six,
and spans within the matrix run out of its storage. -/
theorem backwards_span_splits_unfaithfully :
    tenRows.Built ∧ tenRows.hasStorage = true ∧
      ¬tenRows.SplitsFaithfully .rows [⟨0, 5⟩, ⟨5, 2⟩, ⟨2, 4⟩] ∧
      tenRows.regions .rows [⟨0, 5⟩, ⟨5, 2⟩, ⟨2, 9⟩] = .error (.fault .outOfBounds) := by
  refine ⟨built_tenRows, rfl, fun faithful => ?_, rfl⟩
  have cut : tenRows.regions .rows [⟨0, 5⟩, ⟨5, 2⟩, ⟨2, 4⟩] =
      .ok [⟨0, 0, 5, 1, 0, 0, false, 0⟩, ⟨5, 0, 0, 1, 5, 0, false, 0⟩,
        ⟨2, 0, 2, 1, 5, 0, false, 0⟩] := rfl
  rw [SplitsFaithfully, cut] at faithful
  have exactly := faithful.exactly ⟨2, 0, 2, 1, 5, 0, false, 0⟩ (by simp)
  obtain ⟨⟨moved, -⟩, -⟩ := exactly.aligned (by decide) (by decide) (by decide) (by decide)
  contradiction

end OutputMatrix

end SeededMatrix
