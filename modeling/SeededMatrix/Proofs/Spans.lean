import SeededMatrix.Size
import Mathlib.Data.List.Chain

/-!
# Lists of spans

Spans of an axis that are laid out one after the other. A placement is a span together with the
place where it then begins. For spans that join, the place runs ahead of the start of the span by
what the spans before it go backwards. Spans that tile an interval lie where they start, and
balanced spans tile the indices that they cut, in lengths that differ by at most one.
-/

namespace SeededMatrix

namespace Span

theorem mem_indices {span : Span} {index : Nat} :
    index ∈ span.indices ↔ span.start ≤ index ∧ index < span.stop := by
  rw [indices, List.mem_range'_1, length]
  omega

/-- Whether each span begins where the one before it stops. -/
def Joined (spans : List Span) : Prop :=
  spans.IsChain fun left right => left.stop = right.start

/-- Number of indices in all spans together. -/
def total : List Span → Nat
  | [] => 0
  | span :: spans => span.length + total spans

@[simp] theorem total_nil : total [] = 0 := rfl

@[simp] theorem total_cons (span : Span) (spans : List Span) :
    total (span :: spans) = span.length + total spans := rfl

theorem exists_of_total_pos {spans : List Span} (total_pos : 0 < total spans) :
    ∃ span ∈ spans, 0 < span.length := by
  induction spans with
  | nil => contradiction
  | cons span spans induction =>
      by_cases long : 0 < span.length
      · exact ⟨span, by simp, long⟩
      · rw [total_cons] at total_pos
        obtain ⟨other, member, long⟩ := induction (by omega)
        exact ⟨other, by simp [member], long⟩

/-- Each span with the place where it begins if the spans are laid out one after the other. -/
def placements : (base : Nat) → List Span → List (Span × Nat)
  | _, [] => []
  | base, span :: spans => (span, base) :: placements (base + span.length) spans

@[simp] theorem length_placements (base : Nat) (spans : List Span) :
    (placements base spans).length = spans.length := by
  induction spans generalizing base with
  | nil => rfl
  | cons span spans induction => simp [placements, induction]

theorem map_fst_placements (base : Nat) (spans : List Span) :
    (placements base spans).map Prod.fst = spans := by
  induction spans generalizing base with
  | nil => rfl
  | cons span spans induction => simp [placements, induction]

theorem placement_bounds {base : Nat} {spans : List Span} {placed : Span × Nat}
    (member : placed ∈ placements base spans) :
    base ≤ placed.2 ∧ placed.2 + placed.1.length ≤ base + total spans := by
  induction spans generalizing base with
  | nil => simp [placements] at member
  | cons span spans induction =>
      rw [placements, List.mem_cons] at member
      rw [total_cons]
      rcases member with rfl | later
      · exact ⟨le_rfl, by simp⟩
      · have bounds := induction later
        omega

theorem placements_ordered (base : Nat) (spans : List Span) :
    (placements base spans).Pairwise fun left right => left.2 + left.1.length ≤ right.2 := by
  induction spans generalizing base with
  | nil => exact .nil
  | cons span spans induction =>
      exact .cons (fun right later => (placement_bounds later).1) (induction _)

/-- The place of a joined span runs at least as far ahead of its label as that of the first span. -/
theorem placement_drift {base : Nat} {first : Span} {spans : List Span}
    (joined : Joined (first :: spans)) {placed : Span × Nat}
    (member : placed ∈ placements base (first :: spans)) :
    base + placed.1.start ≤ placed.2 + first.start := by
  induction spans generalizing base first with
  | nil =>
      obtain rfl : placed = (first, base) := by simpa [placements] using member
      exact le_rfl
  | cons second spans induction =>
      rw [placements, List.mem_cons] at member
      rcases member with rfl | later
      · exact le_rfl
      · obtain ⟨meets, joined'⟩ := List.isChain_cons_cons.mp joined
        have drift := induction joined' later
        rw [← meets] at drift
        simp only [length] at drift
        omega

/-- After a span that goes backwards, every place lies strictly ahead of its label. -/
theorem placement_ahead_of_backwards {base : Nat} {first : Span} {spans : List Span}
    (joined : Joined (first :: spans)) (ahead : first.start ≤ base) :
    (placements base (first :: spans)).Pairwise fun left right =>
      left.1.stop < left.1.start → right.1.start < right.2 := by
  induction spans generalizing base first with
  | nil => exact .cons (fun _ member => by simp [placements] at member) .nil
  | cons second spans induction =>
      obtain ⟨meets, joined'⟩ := List.isChain_cons_cons.mp joined
      have still_ahead : second.start ≤ base + first.length := by
        simp only [length]
        omega
      apply List.Pairwise.cons _ (induction joined' still_ahead)
      intro right later backwards
      have drift := placement_drift joined' later
      rw [← meets] at drift
      simp only [length] at drift backwards
      omega

/-- Whether no span that holds an index comes after a span that goes backwards. -/
def Straight (spans : List Span) : Prop :=
  spans.Pairwise fun earlier later => earlier.stop < earlier.start → later.stop ≤ later.start

/-- The place of a straight joined span is its label, unless the span holds no index; the label
never lies behind the place. -/
theorem placement_aligned {base : Nat} {first : Span} {spans : List Span}
    (joined : Joined (first :: spans)) (straight : Straight (first :: spans))
    (ahead : first.start ≤ base)
    (aligned : first.start = base ∨ ∀ span ∈ first :: spans, span.length = 0)
    {placed : Span × Nat} (member : placed ∈ placements base (first :: spans)) :
    placed.1.start ≤ placed.2 ∧ (placed.1.start = placed.2 ∨ placed.1.length = 0) := by
  induction spans generalizing base first with
  | nil =>
      obtain rfl : placed = (first, base) := by simpa [placements] using member
      exact ⟨ahead, aligned.imp_right fun empty => empty first (by simp)⟩
  | cons second spans induction =>
      rw [placements, List.mem_cons] at member
      rcases member with rfl | later
      · exact ⟨ahead, aligned.imp_right fun empty => empty first (by simp)⟩
      · obtain ⟨meets, joined'⟩ := List.isChain_cons_cons.mp joined
        obtain ⟨first_straight, straight'⟩ := List.pairwise_cons.mp straight
        apply induction joined' straight' (by simp only [length]; omega) _ later
        rcases aligned with rfl | empty
        · by_cases backwards : first.stop < first.start
          · right
            intro span member'
            have holds_none := first_straight span member' backwards
            simp only [length]
            omega
          · left
            simp only [length]
            omega
        · exact .inr fun span member' => empty span (by simp [member'])

/-! ## Tilings -/

/-- Whether spans that are not empty lie end to end from `start` to `stop`. -/
def Tile : (start : Nat) → List Span → (stop : Nat) → Prop
  | start, [], stop => start = stop
  | start, span :: spans, stop =>
      span.start = start ∧ span.start < span.stop ∧ Tile span.stop spans stop

namespace Tile

variable {start stop : Nat} {spans : List Span}

theorem le (tile : Tile start spans stop) : start ≤ stop := by
  induction spans generalizing start with
  | nil => exact tile.le
  | cons span spans induction =>
      obtain ⟨rfl, forward, tile⟩ := tile
      exact forward.le.trans (induction tile)

theorem bounds (tile : Tile start spans stop) {span : Span} (member : span ∈ spans) :
    start ≤ span.start ∧ span.start < span.stop ∧ span.stop ≤ stop := by
  induction spans generalizing start with
  | nil => simp at member
  | cons first spans induction =>
      obtain ⟨rfl, forward, tile⟩ := tile
      rw [List.mem_cons] at member
      rcases member with rfl | later
      · exact ⟨le_rfl, forward, tile.le⟩
      · have inside := induction tile later
        omega

theorem ordered (tile : Tile start spans stop) :
    spans.Pairwise fun left right => left.stop ≤ right.start := by
  induction spans generalizing start with
  | nil => exact .nil
  | cons span spans induction =>
      obtain ⟨rfl, forward, tile⟩ := tile
      exact .cons (fun later member => (bounds tile member).1) (induction tile)

theorem flatMap_indices (tile : Tile start spans stop) :
    spans.flatMap indices = (Span.mk start stop).indices := by
  induction spans generalizing start with
  | nil =>
      obtain rfl := tile
      simp [indices, length]
  | cons span spans induction =>
      obtain ⟨rfl, forward, tile⟩ := tile
      have span_end : span.start + 1 * (span.stop - span.start) = span.stop := by omega
      have lengths : span.stop - span.start + (stop - span.stop) = stop - span.start := by
        have stop_le := tile.le
        omega
      rw [List.flatMap_cons, induction tile]
      simp only [indices, length]
      rw [← lengths, ← List.range'_append, span_end]

theorem total_eq (tile : Tile start spans stop) : total spans = stop - start := by
  induction spans generalizing start with
  | nil =>
      obtain rfl := tile
      simp
  | cons span spans induction =>
      obtain ⟨rfl, forward, tile⟩ := tile
      have stop_le := tile.le
      rw [total_cons, induction tile, length]
      omega

theorem joined (tile : Tile start spans stop) : Joined spans := by
  induction spans generalizing start with
  | nil => exact .nil
  | cons span spans induction =>
      obtain ⟨-, -, tile⟩ := tile
      cases spans with
      | nil => exact .singleton _
      | cons second spans => exact .cons_cons tile.1.symm (induction tile)

theorem start_of_head (tile : Tile start spans stop) {span : Span}
    (first : span ∈ spans.head?) : span.start = start := by
  cases spans with
  | nil => contradiction
  | cons head spans =>
      obtain rfl : head = span := Option.some.inj first
      exact tile.1

theorem stop_of_last (tile : Tile start spans stop) {span : Span}
    (last : span ∈ spans.getLast?) : span.stop = stop := by
  induction spans generalizing start with
  | nil => contradiction
  | cons head spans induction =>
      obtain ⟨-, -, tile⟩ := tile
      cases spans with
      | nil =>
          obtain rfl : head = span := Option.some.inj last
          exact tile
      | cons second spans => exact induction tile last

theorem placements_eq (tile : Tile start spans stop) :
    placements start spans = spans.map fun span => (span, span.start) := by
  induction spans generalizing start with
  | nil => rfl
  | cons span spans induction =>
      obtain ⟨rfl, forward, tile⟩ := tile
      have span_end : span.start + span.length = span.stop := by
        rw [length]
        omega
      rw [placements, span_end, induction tile, List.map_cons]

end Tile

/-! ## Balanced spans -/

theorem bound_zero (count parts : Nat) : bound count parts 0 = 0 := by
  simp [bound]

theorem bound_last (count : Nat) {parts : Nat} (parts_pos : 0 < parts) :
    bound count parts parts = count := by
  have smaller := Nat.mod_lt count parts_pos
  rw [bound, Nat.min_eq_right smaller.le, Nat.mul_comm, Nat.div_add_mod']

/-- A part has the base length, and one index more if it is one of the first parts. -/
theorem bound_succ (count parts part : Nat) :
    bound count parts (part + 1) =
      bound count parts part + (count / parts + if part < count % parts then 1 else 0) := by
  rw [bound, bound, Nat.add_mul]
  split <;> omega

theorem bound_lt_succ {count parts : Nat} (parts_pos : 0 < parts) (parts_le : parts ≤ count)
    (part : Nat) : bound count parts part < bound count parts (part + 1) := by
  have base_pos : 0 < count / parts := Nat.div_pos parts_le parts_pos
  rw [bound_succ]
  omega

theorem bound_le {count parts part : Nat} (parts_pos : 0 < parts) (part_le : part ≤ parts) :
    bound count parts part ≤ count := by
  have product : part * (count / parts) ≤ parts * (count / parts) :=
    Nat.mul_le_mul_right _ part_le
  calc
    bound count parts part ≤ bound count parts parts := by
      simp only [bound]
      omega
    _ = count := bound_last count parts_pos

/-- Parts that follow each other tile what lies between their bounds. -/
theorem tile_bounds {count parts : Nat} (parts_pos : 0 < parts) (parts_le : parts ≤ count)
    (number first : Nat) :
    Tile (bound count parts first)
      ((List.range' first number).map fun part =>
        ⟨bound count parts part, bound count parts (part + 1)⟩)
      (bound count parts (first + number)) := by
  induction number generalizing first with
  | zero => exact rfl
  | succ number induction =>
      rw [List.range'_succ, List.map_cons]
      have rest := induction (first + 1)
      rw [Nat.add_right_comm, Nat.add_assoc] at rest
      exact ⟨rfl, bound_lt_succ parts_pos parts_le first, rest⟩

theorem tile_balanced (count : Nat) {parts : Nat} (parts_pos : 0 < parts) :
    Tile 0 (balanced count parts) count := by
  rcases Nat.eq_zero_or_pos count with rfl | count_pos
  · simp [balanced, Tile]
  · have fewer_pos : 0 < min parts count := by omega
    have tile := tile_bounds fewer_pos (Nat.min_le_right parts count) (min parts count) 0
    rwa [bound_zero, Nat.zero_add, bound_last count fewer_pos, ← List.range_eq_range'] at tile

@[simp] theorem length_balanced (count parts : Nat) :
    (balanced count parts).length = min parts count := by
  simp [balanced]

/-- No balanced span is longer than one before it, or shorter by more than one index. -/
theorem pairwise_balanced (count parts : Nat) :
    (balanced count parts).Pairwise fun earlier later =>
      later.length ≤ earlier.length ∧ earlier.length ≤ later.length + 1 := by
  rw [balanced, List.pairwise_map]
  refine List.pairwise_lt_range.imp fun {earlier later} before => ?_
  simp only [length, bound_succ, Nat.add_sub_cancel_left]
  split <;> split <;> omega

end Span

end SeededMatrix
