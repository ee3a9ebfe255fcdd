import SeededMatrix.Budget
import SeededMatrix.Proofs.Sizes

/-!
# Estimated budgets

The estimator of a blueprint gives each block one budget, in the order of the blocks, and never
fails. Where coins decide, no block gets more than one cell.
-/

namespace SeededMatrix

theorem BlockGrid.has_of_number {down across number : Nat} (number_lt : number < down * across) :
    Has down across ⟨number / across, number % across⟩ := by
  have across_pos : 0 < across := Nat.pos_of_lt_mul_left number_lt
  exact ⟨(Nat.div_lt_iff_lt_mul across_pos).mpr number_lt, Nat.mod_lt _ across_pos⟩

namespace BudgetStream

variable {stream : BudgetStream} {down across : Nat}

/-- Whether a stream gives budgets to the blocks of a grid that can be counted. -/
structure Covers (stream : BudgetStream) (down across : Nat) : Prop where
  counts : stream.grid.Counts down across
  across_eq : stream.blocksAcross = across
  blocks_eq : stream.blocks = down * across

/-- Coins grant a block one cell at most, and coins decide the next budget as well. -/
theorem estimate_spec (stream : BudgetStream) (area : Float) (position : Nat) :
    (stream.isScarce = true → (stream.estimate area).1 ≤ 1) ∧
      isScarce { stream with position, rule := (stream.estimate area).2 } = stream.isScarce := by
  rw [isScarce, estimate]
  split
  next =>
    refine ⟨fun _ => ?_, rfl⟩
    dsimp only
    split <;> decide
  next => exact ⟨nofun, rfl⟩

theorem Covers.blockArea_eq (covers : stream.Covers down across) {number : Nat}
    (number_lt : number < stream.blocks) :
    stream.blockArea number = .ok
      (Size.toFloat (stream.grid.rowSpan ⟨number / across, number % across⟩).length *
        Size.toFloat (stream.grid.colSpan ⟨number / across, number % across⟩).length) := by
  obtain ⟨counts, rfl, blocks_eq⟩ := covers
  have has := BlockGrid.has_of_number (blocks_eq ▸ number_lt)
  have across_ne : stream.blocksAcross ≠ 0 := (Nat.zero_lt_of_lt has.2).ne'
  rw [blockArea, if_neg across_ne, counts.heightAt_eq has, counts.widthAt_eq has]
  rfl

theorem next?_of_blockArea (more : stream.position < stream.blocks) {area : Float}
    (area_eq : stream.blockArea stream.position = .ok area) :
    stream.next? = .ok (some ((stream.estimate area).1,
      { stream with position := stream.position + 1, rule := (stream.estimate area).2 })) := by
  rw [next?, if_neg (Nat.not_le.mpr more), area_eq]
  rfl

/-- As long as there are blocks, the next one gets a budget. -/
theorem Covers.next?_eq (covers : stream.Covers down across)
    (more : stream.position < stream.blocks) :
    ∃ budget later, stream.next? = .ok (some (budget, later)) ∧ later.Covers down across ∧
      later.blocks = stream.blocks ∧ later.position = stream.position + 1 ∧
      later.isScarce = stream.isScarce ∧ (stream.isScarce = true → budget ≤ 1) := by
  have area_eq := covers.blockArea_eq more
  obtain ⟨one_at_most, scarce_eq⟩ := stream.estimate_spec _ (stream.position + 1)
  exact ⟨_, _, next?_of_blockArea more area_eq,
    ⟨covers.counts, covers.across_eq, covers.blocks_eq⟩, rfl, rfl, scarce_eq, one_at_most⟩

theorem Covers.takeOnto_eq (covers : stream.Covers down across) (count : Nat)
    (enough : stream.position + count ≤ stream.blocks) (taken : Array Nat) :
    ∃ budgets later, takeOnto count taken stream = .ok (budgets, later) ∧
      budgets.size = taken.size + count ∧
      (stream.isScarce = true → (∀ budget ∈ taken, budget ≤ 1) →
        ∀ budget ∈ budgets, budget ≤ 1) := by
  induction count generalizing stream taken with
  | zero => exact ⟨taken, stream, rfl, rfl, fun _ few => few⟩
  | succ count induction =>
      obtain ⟨budget, next, next_eq, covers', blocks_eq, position_eq, scarce_eq, few⟩ :=
        covers.next?_eq (by omega)
      obtain ⟨budgets, later, taken_eq, size_eq, all_few⟩ :=
        induction covers' (by omega) (taken.push budget)
      refine ⟨budgets, later, ?_, ?_, fun scarce taken_few => ?_⟩
      · rw [takeOnto, next_eq]
        exact taken_eq
      · rw [size_eq, Array.size_push]
        omega
      · apply all_few (scarce_eq.trans scarce)
        intro other member
        rcases Array.mem_push.mp member with before | rfl
        · exact taken_few other before
        · exact few scarce

/-- A stream starts at the first block of its grid, and coins decide if the matrix is scarce. -/
theorem covers_ofGrid {grid : BlockGrid} {density : Float} {seed : UInt64}
    (started : ofGrid grid density seed = .ok stream) :
    ∃ down across, stream.Covers down across ∧ stream.grid = grid ∧ stream.density = density ∧
      stream.position = 0 ∧ stream.blocks ≤ BlockGrid.maxBlocks ∧
      stream.isScarce = grid.isScarce stream.blocks density := by
  rw [ofGrid] at started
  split at started
  · obtain ⟨_, refused, -⟩ := bind_eq_ok.mp started
    exact absurd refused refuseShape_ne_ok
  · obtain ⟨across', across_eq, started⟩ := bind_eq_ok.mp started
    obtain ⟨blocks, admitted, started⟩ := bind_eq_ok.mp started
    obtain rfl := Except.ok.inj started
    obtain ⟨down, across, counts⟩ := BlockGrid.counts_of_admittedBlocks admitted
    obtain ⟨rfl, blocks_le⟩ := counts.admittedBlocks_eq_ok.mp admitted
    obtain rfl := Except.ok.inj (counts.blocksAcross_eq.symm.trans (lift_eq_ok.mp across_eq))
    refine ⟨down, across, ⟨counts, rfl, rfl⟩, rfl, rfl, rfl, blocks_le, ?_⟩
    rw [isScarce]
    cases grid.isScarce (down * across) density <;> rfl

theorem covers_ofBlueprint {blueprint : Blueprint} {seed : UInt64}
    (started : ofBlueprint blueprint seed = .ok stream) :
    ∃ down across, stream.Covers down across ∧ stream.grid = blueprint.grid ∧
      stream.position = 0 ∧ blueprint.isScarce = .ok stream.isScarce := by
  obtain ⟨down, across, covers, grid_eq, -, position_eq, blocks_le, scarce_eq⟩ :=
    covers_ofGrid started
  have counts := grid_eq ▸ covers.counts
  have max_lt : BlockGrid.maxBlocks < Size.limit := by decide
  rw [covers.blocks_eq] at blocks_le scarce_eq
  have product := Size.mul_eq_ok.mpr ⟨blocks_le.trans_lt max_lt, rfl⟩
  refine ⟨down, across, covers, grid_eq, position_eq, ?_⟩
  rw [Blueprint.isScarce, BlockGrid.blockCount, counts.blocksDown_eq, ok_bind,
    counts.blocksAcross_eq, ok_bind, product, ok_bind, scarce_eq]
  rfl

/-- The estimator of a blueprint has a table with one budget for each block. Where coins decide, no
budget is larger than one. -/
theorem toTable_ofBlueprint {blueprint : Blueprint} {seed : UInt64}
    (started : ofBlueprint blueprint seed = .ok stream) :
    ∃ down across budgets, blueprint.grid.Counts down across ∧
      stream.toTable = .ok budgets ∧ budgets.size = down * across ∧
      (blueprint.isScarce = .ok true → ∀ budget ∈ budgets, budget ≤ 1) := by
  obtain ⟨down, across, covers, grid_eq, position_eq, scarce_eq⟩ := covers_ofBlueprint started
  have blocks_eq := covers.blocks_eq
  obtain ⟨budgets, later, taken_eq, size_eq, few⟩ :=
    covers.takeOnto_eq stream.remaining (by rw [remaining]; omega) #[]
  refine ⟨down, across, budgets, grid_eq ▸ covers.counts, ?_, ?_, fun scarce => ?_⟩
  · rw [toTable, take, taken_eq]
    rfl
  · rw [size_eq, remaining, position_eq, blocks_eq, Array.size_empty]
    omega
  · exact few (Except.ok.inj (scarce_eq.symm.trans scarce)) (by simp)

end BudgetStream

end SeededMatrix
