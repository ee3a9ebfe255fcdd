import SeededMatrix.Proofs.Output.Puts
import SeededMatrix.Proofs.Spans

/-!
# Regions of an allocated matrix

A matrix is well shaped if its storage has the layout and the shape that it tells. The regions of
such a matrix do not depend on the layout: each is the rectangle of its span, labelled with the
start of the span and placed where the spans before it end. Spans are refused or cut; a cut faults
if the spans together are longer than what is stored.
-/

namespace SeededMatrix

namespace Region

/-- Regions are cut off without a fault exactly if the spans together fit behind the base. -/
theorem cut_eq {stored base : Nat} (regionAt : Span → Nat → Region) (spans : List Span)
    (base_le : spans = [] → base ≤ stored) :
    cut stored regionAt base spans =
      if base + Span.total spans ≤ stored then
        .ok ((Span.placements base spans).map fun placed => regionAt placed.1 placed.2)
      else .error .outOfBounds := by
  induction spans generalizing base with
  | nil => simp [cut, Span.placements, base_le rfl]
  | cons span spans induction =>
      by_cases fits : base + span.length ≤ stored
      · rw [cut, if_pos fits, induction fun _ => fits]
        by_cases all_fit : base + span.length + Span.total spans ≤ stored <;>
          simp [Span.placements, ← Nat.add_assoc, all_fit]
      · have too_long : ¬base + Span.total (span :: spans) ≤ stored := by
          rw [Span.total_cons]
          omega
        rw [cut, if_neg fits, if_neg too_long]

end Region

/-- What a new matrix of a layout and shape stores: empty rows, or zeros. -/
def Storage.blank (isSparse : Bool) (rows cols : Nat) : Storage :=
  match isSparse with
  | true => .sparse (Array.replicate rows .empty)
  | false => .dense ⟨rows, cols, Array.replicate (rows * cols) 0.0, Array.size_replicate⟩

theorem Storage.hasShape_blank (isSparse : Bool) (rows cols : Nat) :
    (blank isSparse rows cols).HasShape isSparse rows cols := by
  cases isSparse with
  | true => exact ⟨rfl, Array.size_replicate⟩
  | false => exact ⟨rfl, rfl, rfl⟩

namespace OutputMatrix

/-- Whether the storage has the layout and shape that the matrix tells. -/
def WellShaped (matrix : OutputMatrix) : Prop :=
  matrix.storage.HasShape matrix.sparse matrix.rows matrix.cols

/-- Cells that an empty row of the matrix makes room for; dense storage needs none. -/
def room (matrix : OutputMatrix) : Nat :=
  if matrix.sparse then matrix.nonZerosPerRow else 0

theorem allocate_eq {old matrix : OutputMatrix} {rows cols expected : Nat} {sparse : Bool}
    (allocated : old.allocate rows cols sparse expected = .ok matrix) :
    matrix = ⟨rows, cols, sparse, 0, perRow rows expected, .blank sparse rows cols⟩ := by
  cases sparse with
  | true =>
      obtain ⟨storage, emptied, made⟩ := bind_eq_ok.mp allocated
      obtain ⟨_, -, blank⟩ := bind_eq_ok.mp emptied
      obtain rfl := Except.ok.inj made
      obtain rfl := Except.ok.inj blank
      rfl
  | false =>
      obtain ⟨grid, filled, made⟩ := bind_eq_ok.mp allocated
      obtain rfl := Except.ok.inj made
      rw [Grid.filled] at filled
      split at filled
      · obtain rfl := Except.ok.inj filled
        rfl
      · contradiction

theorem wellShaped_allocate {old matrix : OutputMatrix} {rows cols expected : Nat} {sparse : Bool}
    (allocated : old.allocate rows cols sparse expected = .ok matrix) : matrix.WellShaped := by
  obtain rfl := allocate_eq allocated
  exact Storage.hasShape_blank sparse rows cols

/-! ## The checks on spans -/

theorem firstGap?_eq_none {spans : List Span} : firstGap? spans = none ↔ Span.Joined spans := by
  induction spans with
  | nil => exact ⟨fun _ => .nil, fun _ => rfl⟩
  | cons span spans induction =>
      cases spans with
      | nil => exact ⟨fun _ => .singleton _, fun _ => rfl⟩
      | cons second spans =>
          rw [firstGap?, Span.Joined, List.isChain_cons_cons]
          split
          next meets => exact induction.trans (and_iff_right meets).symm
          next apart => simp [apart]

/-- The spans that are cut: they join, the first of them does not begin backwards, and the last of
them does not end past the axis. -/
structure Admits (matrix : OutputMatrix) (axis : Axis) (spans : List Span) : Prop where
  joined : Span.Joined spans
  forward : ∀ first ∈ spans.head?, first.start ≤ first.stop
  ends : ∀ last ∈ spans.getLast?, last.stop ≤ matrix.extent axis

/-- Spans pass the checks if they are admitted, and are refused otherwise. -/
theorem checkSpans_cases (matrix : OutputMatrix) (axis : Axis) (spans : List Span) :
    (matrix.Admits axis spans ∧ matrix.checkSpans axis spans = .ok ()) ∨
      ¬matrix.Admits axis spans ∧
        ∃ refusal, matrix.checkSpans axis spans = .error (.refusal refusal) := by
  rw [checkSpans]
  cases gap : firstGap? spans with
  | some pair =>
      refine .inr ⟨fun admits => ?_, _, rfl⟩
      rw [firstGap?_eq_none.mpr admits.joined] at gap
      contradiction
  | none =>
      have joined := firstGap?_eq_none.mp gap
      cases spans with
      | nil => exact .inl ⟨⟨joined, by simp, by simp⟩, rfl⟩
      | cons first spans =>
          have last_eq : (first :: spans).getLast? = some ((first :: spans).getLast (by simp)) :=
            List.getLast?_eq_some_getLast _
          rw [List.head?_cons, last_eq]
          by_cases wrong : first.stop < first.start ∨
              matrix.extent axis < ((first :: spans).getLast (by simp)).stop
          · refine .inr ⟨fun admits => ?_, ?_⟩
            · have forward := admits.forward first rfl
              have ends := admits.ends _ last_eq
              omega
            · simp [wrong, refuseShape]
          · refine .inl ⟨⟨joined, ?_, ?_⟩, by simp [wrong]⟩
            · rintro _ ⟨rfl⟩
              omega
            · rw [last_eq]
              rintro _ ⟨rfl⟩
              omega

/-! ## The regions of spans -/

/-- The region of a span along an axis that is placed at `base`. -/
def regionAt (matrix : OutputMatrix) : Axis → Span → (base : Nat) → Region
  | .rows, span, base =>
      ⟨span.start, 0, span.length, matrix.cols, base, 0, matrix.sparse, matrix.room⟩
  | .cols, span, base =>
      ⟨0, span.start, matrix.rows, span.length, 0, base, matrix.sparse, matrix.room⟩

variable {matrix : OutputMatrix}

theorem regions_eq (shaped : matrix.WellShaped) (axis : Axis) (spans : List Span) :
    matrix.regions axis spans = matrix.checkSpans axis spans >>= fun _ =>
      if matrix.sparse = true ∧ axis = .cols then refuseShape .sparseColumns
      else liftM (Region.cut (matrix.extent axis) (matrix.regionAt axis)
        ((spans.head?.map Span.start).getD 0) spans) := by
  obtain ⟨rows, cols, sparse, nonZeros, nonZerosPerRow, storage⟩ := matrix
  cases storage with
  | unallocated => exact shaped.elim
  | dense grid =>
      obtain ⟨rfl, rfl, rfl⟩ := shaped
      cases axis <;> rfl
  | sparse table =>
      obtain ⟨rfl, rfl⟩ := shaped
      cases axis <;> rfl

/-- Spans that tile an axis get their regions, each placed at the start of its span. -/
theorem regions_tile (shaped : matrix.WellShaped) {axis : Axis} {spans : List Span}
    (tile : Span.Tile 0 spans (matrix.extent axis))
    (cuttable : matrix.sparse = true → axis = .rows) :
    matrix.regions axis spans =
      .ok (spans.map fun span => matrix.regionAt axis span span.start) := by
  have admits : matrix.Admits axis spans := by
    refine ⟨tile.joined, fun first head => ?_, fun last tail => ?_⟩
    · exact (tile.bounds (List.mem_of_mem_head? head)).2.1.le
    · exact (tile.bounds (List.mem_of_mem_getLast? tail)).2.2
  rcases matrix.checkSpans_cases axis spans with ⟨-, passes⟩ | ⟨refused, -⟩
  · have base_eq : (spans.head?.map Span.start).getD 0 = 0 := by
      cases spans with
      | nil => rfl
      | cons first spans => exact tile.1
    have not_cols : ¬(matrix.sparse = true ∧ axis = .cols) := by
      rintro ⟨isSparse, rfl⟩
      exact absurd (cuttable isSparse) (by simp)
    have total_eq := tile.total_eq
    rw [regions_eq shaped, passes, ok_bind, if_neg not_cols, base_eq,
      Region.cut_eq _ _ fun _ => Nat.zero_le _, if_pos (by omega), tile.placements_eq]
    simp
  · exact absurd admits refused

theorem wholeRegion_eq (shaped : matrix.WellShaped) :
    matrix.wholeRegion = .ok (matrix.regionAt .rows (.upTo matrix.rows) 0) := by
  have admits : matrix.Admits .rows [.upTo matrix.rows] :=
    ⟨.singleton _, by simp [Span.upTo], by simp [Span.upTo, extent]⟩
  have cut : Region.cut (matrix.extent .rows) (matrix.regionAt .rows) 0 [.upTo matrix.rows] =
      .ok [matrix.regionAt .rows (.upTo matrix.rows) 0] := by
    rw [Region.cut_eq _ _ fun _ => Nat.zero_le _, if_pos (by simp [Span.length, Span.upTo, extent])]
    rfl
  rcases matrix.checkSpans_cases .rows [.upTo matrix.rows] with ⟨-, passes⟩ | ⟨refused, -⟩
  · rw [wholeRegion, regions_eq shaped, passes, ok_bind, if_neg (by simp)]
    change (liftM (Region.cut _ _ 0 _) >>= _) = _
    rw [cut, lift_ok, ok_bind]
    rfl
  · exact absurd admits refused

end OutputMatrix

end SeededMatrix
