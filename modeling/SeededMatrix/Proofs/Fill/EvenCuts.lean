import SeededMatrix.Fill.Share
import SeededMatrix.Proofs.Sizes
import SeededMatrix.Proofs.Spans

/-!
# Even cuts

Balanced spans are told by their bounds. The same spans come about if they are cut off in turn, each
where the one before it stops, with the indices left over by the division handed out one by one.
None of the sums on this way leaves the sizes, and the last span stops at the last index, because
the place that is reached after some parts is the bound of the next part.
-/

namespace SeededMatrix

namespace Span

/-- Cuts off `number` spans, the first of which is part number `part` and begins at `start`. A part
has `base` indices, and one more if its number is below `longer`; every sum is checked. -/
def cutFrom (base longer : Nat) : (number part start : Nat) → Except Fault (List Span)
  | 0, _, _ => .ok []
  | number + 1, part, start => do
      let length ← Size.add base (if part < longer then 1 else 0)
      let stop ← Size.add start length
      let spans ← cutFrom base longer number (part + 1) stop
      return ⟨start, stop⟩ :: spans

/-- Cuts `count` indices into `parts` spans in turn, or into single ones if they are fewer. -/
def cutInTurn (count parts : Nat) : Except Fault (List Span) :=
  let parts := min parts count
  if parts = 0 then .ok [] else cutFrom (count / parts) (count % parts) parts 0 0

section Turns

variable {count parts part number : Nat}

/-- From the bound of a part on, the part is cut off without a fault, and the bound of the next part
is reached. -/
theorem cutFrom_succ (count_lt : count < Size.limit) (part_lt : part < parts) :
    cutFrom (count / parts) (count % parts) (number + 1) part (bound count parts part) =
      cutFrom (count / parts) (count % parts) number (part + 1) (bound count parts (part + 1)) >>=
        fun spans => .ok (⟨bound count parts part, bound count parts (part + 1)⟩ :: spans) := by
  have stop_eq := bound_succ count parts part
  have stop_le : bound count parts (part + 1) ≤ count := bound_le (by omega) part_lt
  have length_ok : Size.add (count / parts) (if part < count % parts then 1 else 0) =
      .ok (count / parts + if part < count % parts then 1 else 0) :=
    Size.add_eq_ok.mpr ⟨by omega, rfl⟩
  have stop_ok : Size.add (bound count parts part)
      (count / parts + if part < count % parts then 1 else 0) =
        .ok (bound count parts (part + 1)) :=
    Size.add_eq_ok.mpr ⟨by omega, stop_eq.symm⟩
  rw [cutFrom, length_ok, ok_bind, stop_ok, ok_bind]
  rfl

theorem cutFrom_eq (count_lt : count < Size.limit) (inside : part + number ≤ parts) :
    cutFrom (count / parts) (count % parts) number part (bound count parts part) =
      .ok ((List.range' part number).map fun part =>
        ⟨bound count parts part, bound count parts (part + 1)⟩) := by
  -- By induction on the parts to come: the place that is reached is the bound of the next part,
  -- which accounts for the longer parts among those already cut off.
  induction number generalizing part with
  | zero => rfl
  | succ number induction =>
      rw [cutFrom_succ count_lt (by omega), induction (by omega), ok_bind, List.range'_succ,
        List.map_cons]

theorem cutInTurn_eq (count_lt : count < Size.limit) (parts : Nat) :
    cutInTurn count parts = .ok (balanced count parts) := by
  rw [cutInTurn, balanced]
  split
  next no_parts => rw [no_parts, List.range_zero, List.map_nil]
  next parted =>
    have all := cutFrom_eq count_lt (Nat.zero_add (min parts count)).le
    rwa [bound_zero, ← List.range_eq_range'] at all

example : cutInTurn 10 4 = .ok [⟨0, 3⟩, ⟨3, 6⟩, ⟨6, 8⟩, ⟨8, 10⟩] := rfl

end Turns

/-- Whether spans are an even cut of `count` indices into `parts` spans, or into single ones if the
indices are fewer: they lie end to end from zero to `count`, none is empty, and none is longer than
one before it, or shorter by more than one index. -/
structure CutsEvenly (count parts : Nat) (spans : List Span) : Prop where
  number : spans.length = min parts count
  from_zero : ∀ span ∈ spans.head?, span.start = 0
  joined : Joined spans
  to_count : ∀ span ∈ spans.getLast?, span.stop = count
  nonempty : ∀ span ∈ spans, span.start < span.stop
  even : spans.Pairwise fun earlier later =>
    later.length ≤ earlier.length ∧ earlier.length ≤ later.length + 1
  covers : 0 < parts → spans.flatMap indices = (upTo count).indices

theorem cutsEvenly_balanced (count parts : Nat) :
    CutsEvenly count parts (balanced count parts) := by
  rcases Nat.eq_zero_or_pos parts with rfl | parts_pos
  · -- Without parts there are no spans, also if there are indices.
    have none : balanced count 0 = [] := by simp [balanced]
    rw [none]
    exact {
      number := by simp
      from_zero := by simp
      joined := .nil
      to_count := by simp
      nonempty := by simp
      even := .nil
      covers := by simp }
  · have tile := tile_balanced count parts_pos
    exact {
      number := length_balanced count parts
      from_zero := fun _ first => tile.start_of_head first
      joined := tile.joined
      to_count := fun _ last => tile.stop_of_last last
      nonempty := fun _ member => (tile.bounds member).2.1
      even := pairwise_balanced count parts
      covers := fun _ => tile.flatMap_indices }

end Span

namespace Share

theorem spansOf_eq (blocks tasks : Nat) :
    spansOf blocks tasks =
      if min tasks blocks * 16 ≤ Size.allocationLimit then .ok (Span.balanced blocks tasks)
      else .error .storageTooLarge := by
  rw [spansOf, Size.reserve]
  split <;> rfl

/-- However many blocks are shared out among however many tasks, cutting them in turn comes to its
end without a fault and cuts them evenly. The tasks get exactly these spans, unless the spans are
too many to be stored. -/
theorem blocks_cut_evenly (tasks : Nat) {blocks : Nat} (blocks_lt : blocks < Size.limit) :
    ∃ spans, Span.cutInTurn blocks tasks = .ok spans ∧ Span.CutsEvenly blocks tasks spans ∧
      spansOf blocks tasks =
        if min tasks blocks * 16 ≤ Size.allocationLimit then .ok spans
        else .error .storageTooLarge :=
  ⟨Span.balanced blocks tasks, Span.cutInTurn_eq blocks_lt tasks,
    Span.cutsEvenly_balanced blocks tasks, spansOf_eq blocks tasks⟩

/-- The largest number of blocks that is a size, cut into four: three spans of `2 ^ 62` blocks, and
a last one that has one block less. -/
theorem largest_count_cut_in_four :
    0xffff_ffff_ffff_ffff < Size.limit ∧
      spansOf 0xffff_ffff_ffff_ffff 4 =
        .ok [⟨0, 0x4000_0000_0000_0000⟩, ⟨0x4000_0000_0000_0000, 0x8000_0000_0000_0000⟩,
          ⟨0x8000_0000_0000_0000, 0xc000_0000_0000_0000⟩,
          ⟨0xc000_0000_0000_0000, 0xffff_ffff_ffff_ffff⟩] ∧
      Span.CutsEvenly 0xffff_ffff_ffff_ffff 4
        [⟨0, 0x4000_0000_0000_0000⟩, ⟨0x4000_0000_0000_0000, 0x8000_0000_0000_0000⟩,
          ⟨0x8000_0000_0000_0000, 0xc000_0000_0000_0000⟩,
          ⟨0xc000_0000_0000_0000, 0xffff_ffff_ffff_ffff⟩] := by
  have small : 0xffff_ffff_ffff_ffff < Size.limit := by decide
  obtain ⟨spans, cut, even, shared⟩ := blocks_cut_evenly 4 small
  obtain rfl := Except.ok.inj cut
  rw [if_pos (by decide)] at shared
  exact ⟨small, shared, even⟩

/-- As many tasks as blocks, `2 ^ 59` of them. With one block for each task, the spans fill more
bytes than can be addressed. -/
theorem single_blocks_not_stored :
    0x0800_0000_0000_0000 < Size.limit ∧
      spansOf 0x0800_0000_0000_0000 0x0800_0000_0000_0000 = .error .storageTooLarge := by
  refine ⟨by decide, ?_⟩
  rw [spansOf, Size.reserve, if_neg (by decide)]
  rfl

end Share

end SeededMatrix
