import SeededMatrix.Proofs.Fill.WindowWrites
import SeededMatrix.Proofs.Fill.Schedules

/-!
# Blocks and seeds of the tasks

Three computations must agree on where the seed of a block stands: the cut of the table of seeds for
a task, the count of the visits in a window, and the number of a block in the whole grid. They do:
the windows of all tasks partition the grid, and whichever task visits a block fills it from the
seed that the table of all blocks has at its number.
-/

namespace SeededMatrix

/-! ## Filling without a count of the visits -/

namespace FillRule

/-- The writes of blocks of which each is filled from its own seed, whenever it is visited. -/
def writesBySeed (rule : FillRule) (blocksAcross : Nat) (budgets : Array Nat)
    (seedOf : BlockIndex → UInt64) : List BlockIndex → Writes
  | [] => .done
  | block :: blocks =>
      let writes : Except Failure Writes := do
        let budget ← budgetOf budgets blocksAcross block
        rule.blockWrites block (seedOf block) budget
      (Writes.ofExcept writes).andThen fun _ =>
        writesBySeed rule blocksAcross budgets seedOf blocks

variable {rule : FillRule} {down across visit : Nat} {budgets : Array Nat} {seeds : WindowSeeds}
  {own : Array UInt64} {seedOf : BlockIndex → UInt64} {block : BlockIndex}
  {blocks : List BlockIndex}

theorem get_table {seed : UInt64} (found : own[visit]? = some seed) (block : BlockIndex) :
    (WindowSeeds.table own).get visit block = .ok seed := by
  rw [WindowSeeds.get, found]

/-- A block that is visited in its turn takes its own seed if the seeds stand in the order of the
visits. -/
theorem writesFrom_eq_writesBySeed (paired : ∀ index block, blocks[index]? = some block →
      own[visit + index]? = some (seedOf block)) :
    rule.writesFrom across budgets (.table own) blocks visit =
      rule.writesBySeed across budgets seedOf blocks := by
  induction blocks generalizing visit with
  | nil => rfl
  | cons block blocks induction =>
      have here : own[visit]? = some (seedOf block) := paired 0 block rfl
      have later := induction fun index other found => by
        rw [Nat.add_right_comm, Nat.add_assoc]
        exact paired (index + 1) other found
      rw [writesFrom, writesBySeed, visitWrites_eq, get_table here, later]
      rfl

theorem refusal_of_budgetOf {refusal : Refusal}
    (refused : budgetOf budgets across block = .error (.refusal refusal)) :
    ∃ number, refusal = .shape (.missingBudget budgets.size number) := by
  rcases bind_eq_error.mp refused with faulty | ⟨start, -, refused⟩
  · obtain ⟨fault, -, contradictory⟩ := lift_eq_error.mp faulty
    contradiction
  · rcases bind_eq_error.mp refused with faulty | ⟨number, -, refused⟩
    · obtain ⟨fault, -, contradictory⟩ := lift_eq_error.mp faulty
      contradiction
    · split at refused
      · contradiction
      · obtain rfl := Failure.refusal.inj (Except.error.inj refused)
        exact ⟨number, rfl⟩

theorem refusal_of_visitWrites {seed : UInt64} (seed_eq : seeds.get visit block = .ok seed)
    {refusal : Refusal}
    (refused : rule.visitWrites across budgets seeds block visit = .error (.refusal refusal)) :
    ∃ number, refusal = .shape (.missingBudget budgets.size number) := by
  rw [visitWrites_eq, seed_eq, ok_bind] at refused
  rcases bind_eq_error.mp refused with no_budget | ⟨budget, -, drawn⟩
  · exact refusal_of_budgetOf no_budget
  · obtain ⟨fault, -, contradictory⟩ := lift_eq_error.mp drawn
    contradiction

/-- If each of the blocks has a seed in its turn, they are only refused for a missing budget. -/
theorem refusal_of_writesFrom (counts : rule.blueprint.grid.Counts down across)
    (has : ∀ block ∈ blocks, BlockGrid.Has down across block)
    (paired : ∀ index block, blocks[index]? = some block →
      own[visit + index]? = some (seedOf block)) {refusal : Refusal}
    (failed : (rule.writesFrom across budgets (.table own) blocks visit).failure? =
      some (.refusal refusal)) :
    ∃ number, refusal = .shape (.missingBudget budgets.size number) := by
  obtain ⟨index, block, found, refused⟩ := failure_of_writesFrom counts has failed
  exact refusal_of_visitWrites (get_table (paired index block found) block) refused

end FillRule

/-! ## The seeds of a share -/

namespace Share

variable {axis : Axis} {down across : Nat} {seeds : Array UInt64} {parts : List (Region × Span)}
  {shares : List Share} {share : Share}

/-- Whether a share has one seed for each visit of a block, the one that the table of all blocks has
at the number of the block, and fills its blocks from these seeds. -/
structure MeetsSeeds (down across : Nat) (seeds : Array UInt64) (share : Share) : Prop where
  size_eq : share.seeds.size = share.window.blocks.length
  seed_of_visit : ∀ (visit : Nat) (block : BlockIndex), share.window.blocks[visit]? = some block →
    block.number across < seeds.size ∧ share.seeds[visit]? = seeds[block.number across]?
  filled_by_seed : ∀ rule : FillRule, rule.blueprint.grid.Counts down across → ∀ budgets,
    rule.windowWrites share.window budgets (.table share.seeds) = .ok (rule.writesBySeed across
      budgets (fun block => seeds.getD (block.number across) 0) share.window.blocks)
  never_unseeded : ∀ rule : FillRule, rule.blueprint.grid.Counts down across →
    ∀ budgets writes refusal,
      rule.windowWrites share.window budgets (.table share.seeds) = .ok writes →
        writes.failure? = some (.refusal refusal) →
          ∃ number, refusal = .shape (.missingBudget budgets.size number)

theorem Joins.meetsSeeds {part : Region × Span} (joins : Joins axis down across seeds part share)
    (size_eq : seeds.size = down * across) (stop_le : part.2.stop ≤ blocksOn axis down across) :
    share.MeetsSeeds down across seeds := by
  have has : ∀ block ∈ share.window.blocks, BlockGrid.Has down across block := by
    rw [joins.window_eq]
    exact fun block member => has_of_mem_windowOf stop_le member
  have seed_of_visit : ∀ (visit : Nat) (block : BlockIndex),
      share.window.blocks[visit]? = some block →
        block.number across < seeds.size ∧ share.seeds[visit]? = seeds[block.number across]? :=
    fun visit block found =>
      ⟨size_eq ▸ FillRule.number_lt (has block (List.mem_of_getElem? found)),
        SeedTable.seed_of_visit joins.seeds_eq found⟩
  have paired : ∀ (visit : Nat) (block : BlockIndex), share.window.blocks[visit]? = some block →
      share.seeds[0 + visit]? = some (seeds.getD (block.number across) 0) := by
    intro visit block found
    obtain ⟨inside, seed_eq⟩ := seed_of_visit visit block found
    simp [seed_eq, inside, Array.getD_eq_getD_getElem?]
  refine ⟨?_, seed_of_visit, fun rule counts budgets => ?_,
    fun rule counts budgets writes refusal drawn failed => ?_⟩
  · simpa using congrArg List.length joins.seeds_eq
  · rw [FillRule.windowWrites_eq_writesFrom, counts.blocksAcross_eq,
      ← FillRule.writesFrom_eq_writesBySeed paired]
    rfl
  · rw [FillRule.windowWrites_eq_writesFrom, counts.blocksAcross_eq] at drawn
    obtain rfl := Except.ok.inj drawn
    exact FillRule.refusal_of_writesFrom counts has paired failed

theorem windows_eq (joins : List.Forall₂ (Joins axis down across seeds) parts shares) :
    shares.map window = (parts.map Prod.snd).map (windowOf axis down across) := by
  rw [map_related joins Joins.window_eq, List.map_map]
  rfl

theorem seeds_eq (joins : List.Forall₂ (Joins axis down across seeds) parts shares) :
    (shares.flatMap fun share => share.seeds.toList).map some =
      (shares.flatMap fun share => share.window.blocks).map fun block =>
        seeds[block.number across]? := by
  rw [List.map_flatMap, List.map_flatMap]
  apply List.flatMap_congr
  intro share member
  obtain ⟨_, -, share_joins⟩ := exists_related joins member
  exact share_joins.seeds_eq

/-- The blocks of a grid belong to the tasks, and so do their seeds, of which memory can hold a
table. Each task gets a rectangle of blocks; together, the rectangles have every block of the grid
exactly once, and the tasks have every seed of the table. Whichever task visits a block fills it
from the seed that the table has at the number of the block, so that no block is ever without a
seed. -/
theorem tasks_own_blocks_and_seeds (axis : Axis) {down across tasks : Nat} (tasks_pos : 0 < tasks)
    {seeds : Array UInt64} (size_eq : seeds.size = down * across)
    (stored : Size.reserve seeds.size 8 = .ok ()) :
    blockSpans axis down across tasks =
      (if min tasks (blocksOn axis down across) * 16 ≤ Size.allocationLimit
        then .ok (Span.balanced (blocksOn axis down across) tasks)
        else .error .storageTooLarge) ∧
    ∀ regions : List Region,
      regions.length = (Span.balanced (blocksOn axis down across) tasks).length →
      ∃ shares, assemble axis down across seeds 0 regions
          (Span.balanced (blocksOn axis down across) tasks) = .ok shares ∧
        shares.map window =
          (Span.balanced (blocksOn axis down across) tasks).map (windowOf axis down across) ∧
        (shares.flatMap fun share => share.window.blocks).Nodup ∧
        (∀ block, (block ∈ shares.flatMap fun share => share.window.blocks) ↔
          BlockGrid.Has down across block) ∧
        (shares.flatMap fun share => share.seeds.toList).Perm seeds.toList ∧
        ∀ share ∈ shares, share.MeetsSeeds down across seeds := by
  constructor
  · rw [blockSpans_eq, Size.reserve]
    split <;> rfl
  intro regions same_length
  have tile := Span.tile_balanced (blocksOn axis down across) tasks_pos
  obtain ⟨shares, shares_ok, joins⟩ := assemble_joins size_eq stored
    (fun span member => (tile.bounds member).2) same_length 0
  have windows := windows_eq joins
  rw [List.map_snd_zip same_length.ge] at windows
  have all_blocks : (shares.flatMap fun share => share.window.blocks).Perm
      (BlockWindow.blocks ⟨.upTo down, .upTo across⟩) := by
    have perm := blocks_perm tile
    rwa [← List.flatMap_map, ← windows, List.flatMap_map] at perm
  refine ⟨shares, shares_ok, windows, ?_, fun block => ?_, ?_, fun share member => ?_⟩
  · exact all_blocks.nodup_iff.mpr (BlockWindow.nodup_blocks _)
  · exact all_blocks.mem_iff.trans ⟨BlockWindow.has_of_mem_all, BlockWindow.mem_all⟩
  · -- The table of all seeds stands in the order in which the whole grid is visited.
    apply (List.map_perm_map_iff (Option.some_injective _)).mp
    rw [seeds_eq joins, SeedTable.all_eq size_eq]
    exact all_blocks.map _
  · obtain ⟨part, part_mem, share_joins⟩ := exists_related joins member
    have span_mem := (List.of_mem_zip part_mem).2
    exact share_joins.meetsSeeds size_eq (tile.bounds span_mem).2.2

/-- The seeds of two rows of three blocks. -/
def sixSeeds : Array UInt64 :=
  #[10, 11, 12, 20, 21, 22]

/-- Of three columns of blocks, one task gets two and another one the last, each with the seeds of
both rows. -/
theorem two_tasks_own_six_seeds :
    Span.balanced (blocksOn .cols 2 3) 2 = [⟨0, 2⟩, ⟨2, 3⟩] ∧
    ∃ first second,
      assemble .cols 2 3 sixSeeds 0 [⟨0, 0, 4, 4, 0, 0, false, 0⟩, ⟨0, 4, 4, 2, 0, 4, false, 0⟩]
        [⟨0, 2⟩, ⟨2, 3⟩] = .ok [first, second] ∧
      first.seeds = #[10, 11, 20, 21] ∧ second.seeds = #[12, 22] ∧
      first.MeetsSeeds 2 3 sixSeeds ∧ second.MeetsSeeds 2 3 sixSeeds := by
  have spans_eq : Span.balanced (blocksOn .cols 2 3) 2 = [⟨0, 2⟩, ⟨2, 3⟩] := by decide
  obtain ⟨-, owned⟩ := tasks_own_blocks_and_seeds .cols Nat.two_pos
    (show sixSeeds.size = 2 * 3 from rfl) rfl
  rw [spans_eq] at owned
  obtain ⟨shares, shares_eq, -, -, -, -, meets⟩ :=
    owned [⟨0, 0, 4, 4, 0, 0, false, 0⟩, ⟨0, 4, 4, 2, 0, 4, false, 0⟩] rfl
  obtain rfl := Except.ok.inj shares_eq
  exact ⟨spans_eq, _, _, rfl, rfl, rfl, meets _ (by simp), meets _ (by simp)⟩

end Share

end SeededMatrix
