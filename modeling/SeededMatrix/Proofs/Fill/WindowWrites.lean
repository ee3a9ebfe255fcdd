import SeededMatrix.Proofs.Fill.BlockWrites
import SeededMatrix.Proofs.Fill.Windows
import SeededMatrix.Proofs.Output.Rows

/-!
# The writes of a window

The blocks of a window are filled one after the other, so its writes are those of its blocks. Within
every row of the matrix they stand in increasing columns, also when the filling ends early. With a
seed and a budget for each block, the filling only ends early because the cells of a block cannot be
counted, and then the matrix has as many cells as there are sizes.
-/

namespace SeededMatrix

theorem leftToRight_of_before {writes : List Write} (ordered : writes.Pairwise Write.Before) :
    LeftToRight writes := by
  apply ordered.imp
  intro first second before rows_eq
  rcases before with rows_lt | ⟨-, cols_lt⟩
  · exact absurd rows_eq rows_lt.ne
  · exact cols_lt

namespace BlockGrid.Holds

variable {grid : BlockGrid} {first second : BlockIndex} {write later : Write}

theorem within (holds : grid.Holds first write) : write.Within grid.rows grid.cols :=
  ⟨lt_of_lt_of_le holds.1.2 (Nat.min_le_right _ _), lt_of_lt_of_le holds.2.2 (Nat.min_le_right _ _)⟩

/-- In one row of the matrix, the cells of a block that is visited later lie to the right. -/
theorem col_lt (holds : grid.Holds first write) (holds' : grid.Holds second later)
    (before : first.Before second) (rows_eq : write.row = later.row) : write.col < later.col := by
  obtain ⟨⟨-, row_lt⟩, -, col_lt⟩ := holds
  obtain ⟨⟨row_ge, -⟩, col_ge, -⟩ := holds'
  rcases before with rows_lt | ⟨-, cols_lt⟩
  · have below : write.row < (first.row + 1) * grid.blockHeight :=
      lt_of_lt_of_le row_lt (Nat.min_le_left _ _)
    have above : (first.row + 1) * grid.blockHeight ≤ later.row :=
      (Nat.mul_le_mul_right _ rows_lt).trans row_ge
    omega
  · have below : write.col < (first.col + 1) * grid.blockWidth :=
      lt_of_lt_of_le col_lt (Nat.min_le_left _ _)
    have above : (first.col + 1) * grid.blockWidth ≤ later.col :=
      (Nat.mul_le_mul_right _ cols_lt).trans col_ge
    omega

end BlockGrid.Holds

/-- Every blueprint has a sampler: its mean was checked when it was made. -/
theorem Blueprint.sampler_ok (blueprint : Blueprint) : ∃ sampler,
    Random.Sampler.ofDistribution blueprint.distribution blueprint.mean = .ok sampler := by
  cases distribution : blueprint.distribution with
  | uniform => exact ⟨_, rfl⟩
  | normal => exact ⟨_, rfl⟩
  | poisson =>
      obtain ⟨finite, positive⟩ := blueprint.mean_usable distribution
      simp [Random.Sampler.ofDistribution, Random.Poisson.ofMean, finite, positive, Except.map]

namespace FillRule

theorem blueprint_ofBlueprint {blueprint : Blueprint} {rule : FillRule}
    (made : ofBlueprint blueprint = .ok rule) : rule.blueprint = blueprint := by
  obtain ⟨sampler, -, made⟩ := bind_eq_ok.mp made
  obtain ⟨scarce, -, made⟩ := bind_eq_ok.mp made
  obtain rfl := Except.ok.inj made
  rfl

theorem spec_ofBlueprint {blueprint : Blueprint} {rule : FillRule}
    (made : ofBlueprint blueprint = .ok rule) :
    Random.Sampler.ofDistribution blueprint.distribution blueprint.mean = .ok rule.sampler ∧
      rule.least = blueprint.bounds.1 ∧
      rule.range = blueprint.bounds.2 - blueprint.bounds.1 ∧
      blueprint.isScarce = .ok rule.scarce := by
  obtain ⟨sampler, sampled, made⟩ := bind_eq_ok.mp made
  obtain ⟨scarce, scarce_eq, made⟩ := bind_eq_ok.mp made
  obtain rfl := Except.ok.inj made
  exact ⟨lift_refusal_eq_ok.mp sampled, rfl, rfl, lift_eq_ok.mp scarce_eq⟩

theorem ofBlueprint_ok {blueprint : Blueprint} {down across blocks : Nat}
    (counts : blueprint.grid.Counts down across) (product : Size.mul down across = .ok blocks) :
    ∃ rule, ofBlueprint blueprint = .ok rule := by
  obtain ⟨sampler, sampled⟩ := blueprint.sampler_ok
  refine ⟨⟨blueprint, sampler, blueprint.bounds.1, blueprint.bounds.2 - blueprint.bounds.1,
    blueprint.grid.isScarce blocks blueprint.density⟩, ?_⟩
  simp [ofBlueprint, sampled, Blueprint.isScarce, BlockGrid.blockCount, counts.blocksDown_eq,
    counts.blocksAcross_eq, product]

variable {rule : FillRule} {down across visit : Nat} {budgets : Array Nat} {seeds : WindowSeeds}
  {block : BlockIndex} {blocks : List BlockIndex}

/-! ## One block after the other -/

theorem visitWrites_fills (counts : rule.blueprint.grid.Counts down across)
    (has : BlockGrid.Has down across block) {writes : Writes}
    (drawn : rule.visitWrites across budgets seeds block visit = .ok writes) :
    writes.Fills rule.blueprint.grid block := by
  rw [visitWrites_eq] at drawn
  obtain ⟨seed, -, drawn⟩ := bind_eq_ok.mp drawn
  obtain ⟨budget, -, drawn⟩ := bind_eq_ok.mp drawn
  exact blockWrites_fills counts has (lift_eq_ok.mp drawn)

/-- The list of a visited block, whether or not its filling begins. -/
theorem visited_fills (counts : rule.blueprint.grid.Counts down across)
    (has : BlockGrid.Has down across block) (budgets : Array Nat) (seeds : WindowSeeds)
    (visit : Nat) :
    (∀ write ∈ (Writes.ofExcept (rule.visitWrites across budgets seeds block visit)).toList,
      rule.blueprint.grid.Holds block write) ∧
      LeftToRight
        (Writes.ofExcept (rule.visitWrites across budgets seeds block visit)).toList := by
  cases drawn : rule.visitWrites across budgets seeds block visit with
  | error failure => exact ⟨by simp, .nil⟩
  | ok writes =>
      have fills := visitWrites_fills counts has drawn
      exact ⟨fills.inside, leftToRight_of_before fills.ordered⟩

theorem writesFrom_held (counts : rule.blueprint.grid.Counts down across)
    (has : ∀ block ∈ blocks, BlockGrid.Has down across block) {write : Write}
    (member : write ∈ (rule.writesFrom across budgets seeds blocks visit).toList) :
    ∃ block ∈ blocks, rule.blueprint.grid.Holds block write := by
  induction blocks generalizing visit with
  | nil => simp [writesFrom] at member
  | cons block blocks induction =>
      rw [writesFrom, Writes.toList_andThen, List.mem_append] at member
      rcases member with here | later
      · exact ⟨block, by simp, (visited_fills counts (has block (by simp)) _ _ _).1 write here⟩
      · split at later
        · obtain ⟨other, other_mem, holds⟩ :=
            induction (fun other other_mem => has other (by simp [other_mem])) later
          exact ⟨other, by simp [other_mem], holds⟩
        · simp at later

/-- The writes of blocks that are visited in order stand from left to right in each row. -/
theorem writesFrom_leftToRight (counts : rule.blueprint.grid.Counts down across)
    (has : ∀ block ∈ blocks, BlockGrid.Has down across block)
    (ordered : blocks.Pairwise BlockIndex.Before) :
    LeftToRight (rule.writesFrom across budgets seeds blocks visit).toList := by
  induction blocks generalizing visit with
  | nil => exact .nil
  | cons block blocks induction =>
      obtain ⟨block_before, ordered'⟩ := List.pairwise_cons.mp ordered
      have has' : ∀ other ∈ blocks, BlockGrid.Has down across other :=
        fun other member => has other (by simp [member])
      obtain ⟨inside, own_order⟩ := visited_fills counts (has block (by simp)) budgets seeds visit
      rw [writesFrom, Writes.toList_andThen, LeftToRight, List.pairwise_append]
      refine ⟨own_order, ?_, fun write here later member rows_eq => ?_⟩
      · split
        · exact induction has' ordered'
        · exact .nil
      · split at member
        · obtain ⟨other, other_mem, holds⟩ := writesFrom_held counts has' member
          exact (inside write here).col_lt holds (block_before other other_mem) rows_eq
        · simp at member

/-- Each write of a window belongs to one of its blocks, and in each row they stand from left to
right, also if the filling ends early. -/
theorem windowWrites_spec (counts : rule.blueprint.grid.Counts down across) {window : BlockWindow}
    (has : ∀ block ∈ window.blocks, BlockGrid.Has down across block) {writes : Writes}
    (drawn : rule.windowWrites window budgets seeds = .ok writes) :
    (∀ write ∈ writes.toList, ∃ block ∈ window.blocks, rule.blueprint.grid.Holds block write) ∧
      LeftToRight writes.toList := by
  rw [windowWrites_eq_writesFrom, counts.blocksAcross_eq] at drawn
  obtain rfl := Except.ok.inj drawn
  exact ⟨fun write member => writesFrom_held counts has member,
    writesFrom_leftToRight counts has window.blocks_ordered⟩

/-- If every visit succeeds, the writes of a window are those of its blocks. -/
theorem writesFrom_eq {yield : BlockIndex → List Write}
    (visits : ∀ index block, blocks[index]? = some block →
      ∃ writes, rule.visitWrites across budgets seeds block (visit + index) = .ok writes ∧
        writes.failure? = none ∧ writes.toList = yield block) :
    (rule.writesFrom across budgets seeds blocks visit).failure? = none ∧
      (rule.writesFrom across budgets seeds blocks visit).toList = blocks.flatMap yield := by
  induction blocks generalizing visit with
  | nil => exact ⟨rfl, rfl⟩
  | cons block blocks induction =>
      obtain ⟨writes, drawn, complete, yields⟩ := visits 0 block rfl
      have visits' : ∀ index other, blocks[index]? = some other →
          ∃ writes, rule.visitWrites across budgets seeds other (visit + 1 + index) = .ok writes ∧
            writes.failure? = none ∧ writes.toList = yield other := fun index other found => by
        rw [Nat.add_right_comm, Nat.add_assoc]
        exact visits (index + 1) other found
      obtain ⟨complete', yields'⟩ := induction visits'
      rw [Nat.add_zero] at drawn
      simp [writesFrom, drawn, Writes.ofExcept, Writes.toList_andThen, Writes.failure?_andThen,
        complete, complete', yields, yields']

/-! ## Seeds and budgets for all blocks -/

/-- The writes of a block with its own seed and budget from the tables of all blocks. -/
def tableList (rule : FillRule) (across : Nat) (budgets : Array Nat) (seeds : Array UInt64)
    (block : BlockIndex) : List Write :=
  match rule.blockWrites block (seeds.getD (block.number across) 0)
    (budgets.getD (block.number across) 0) with
  | .ok writes => writes.toList
  | .error _ => []

theorem number_lt (has : BlockGrid.Has down across block) :
    block.number across < down * across :=
  Grid.cellNumber_lt has.1 has.2

theorem budgetOf_eq (has : BlockGrid.Has down across block) (counted : down * across < Size.limit)
    (enough : down * across ≤ budgets.size) :
    budgetOf budgets across block = .ok (budgets.getD (block.number across) 0) := by
  have number_lt := number_lt has
  have found : block.row * across + block.col < budgets.size := by
    simp only [BlockIndex.number] at number_lt
    omega
  simp only [BlockIndex.number] at number_lt
  rw [budgetOf, Size.mul_eq_ok.mpr ⟨by omega, rfl⟩, lift_ok, ok_bind,
    Size.add_eq_ok.mpr ⟨by omega, rfl⟩, lift_ok, ok_bind]
  simp [found, BlockIndex.number, Array.getD_eq_getD_getElem?]

variable {window : BlockWindow} {table own : Array UInt64}

/-- With tables for all blocks, the writes of a window are those of its blocks. -/
theorem windowWrites_eq (counts : rule.blueprint.grid.Counts down across)
    (has : ∀ block ∈ window.blocks, BlockGrid.Has down across block)
    (counted : down * across < Size.limit)
    (small : rule.blueprint.grid.rows * rule.blueprint.grid.cols < Size.limit)
    (budgets_enough : down * across ≤ budgets.size) (seeds_enough : down * across ≤ table.size)
    (own_eq : own.toList.map some =
      window.blocks.map fun block => table[block.number across]?) :
    ∃ writes, rule.windowWrites window budgets (.table own) = .ok writes ∧
      writes.failure? = none ∧
      writes.toList = window.blocks.flatMap (rule.tableList across budgets table) := by
  refine ⟨rule.writesFrom across budgets (.table own) window.blocks 0, ?_, writesFrom_eq ?_⟩
  · rw [windowWrites_eq_writesFrom, counts.blocksAcross_eq]
    rfl
  · intro index block found
    have block_has := has block (List.mem_of_getElem? found)
    have number_lt := number_lt block_has
    have seed_found : own[index]? = some (table.getD (block.number across) 0) := by
      have inside : block.number across < table.size := by omega
      simp [SeedTable.seed_of_visit own_eq found, inside, Array.getD_eq_getD_getElem?]
    obtain ⟨writes, drawn⟩ := blockWrites_ok counts block_has small
      (table.getD (block.number across) 0) (budgets.getD (block.number across) 0)
    refine ⟨writes, ?_, (blockWrites_fills counts block_has drawn).complete, ?_⟩
    · rw [visitWrites_eq, Nat.zero_add, WindowSeeds.get]
      simp only [seed_found, budgetOf_eq block_has counted budgets_enough, drawn, ok_bind, lift_ok]
    · rw [tableList, drawn]

theorem tableList_fills (counts : rule.blueprint.grid.Counts down across)
    (has : BlockGrid.Has down across block) :
    (∀ write ∈ rule.tableList across budgets table block,
      rule.blueprint.grid.Holds block write) ∧
      (rule.tableList across budgets table block).Pairwise Write.Before := by
  rw [tableList]
  split
  next drawn =>
    have fills := blockWrites_fills counts has drawn
    exact ⟨fills.inside, fills.ordered⟩
  next => exact ⟨by simp, .nil⟩

theorem leftToRight_tableLists (counts : rule.blueprint.grid.Counts down across)
    (has : ∀ block ∈ blocks, BlockGrid.Has down across block)
    (ordered : blocks.Pairwise BlockIndex.Before) :
    LeftToRight (blocks.flatMap (rule.tableList across budgets table)) := by
  rw [LeftToRight, List.pairwise_flatMap]
  refine ⟨fun block member => ?_, ordered.imp_of_mem fun first_mem second_mem before => ?_⟩
  · exact leftToRight_of_before (tableList_fills counts (has block member)).2
  · intro write member later later_mem rows_eq
    have holds := (tableList_fills counts (has _ first_mem)).1 write member
    have later_holds := (tableList_fills counts (has _ second_mem)).1 later later_mem
    exact holds.col_lt later_holds before rows_eq

/-! ## How the drawing can fail -/

theorem localWrites_error {height width : Nat} {seed : UInt64} {budget : Nat} {fault : Fault}
    (failed : rule.localWrites height width seed budget = .error fault) : fault = .overflow := by
  rw [localWrites_eq] at failed
  split at failed
  · rcases bind_eq_error.mp failed with counted | ⟨size, -, failed⟩
    · exact (Size.mul_eq_error.mp counted).2
    · rcases bind_eq_error.mp failed with less | ⟨last, -, failed⟩
      · rw [Size.sub] at less
        split at less
        · contradiction
        · exact (Except.error.inj less).symm
      · contradiction
  · split at failed
    · split at failed
      · contradiction
      · exact (Except.error.inj failed).symm
    · split at failed
      · contradiction
      · exact (Except.error.inj failed).symm
    · contradiction

/-- A visited block that has a seed and a budget only fails in a matrix whose cells cannot be
counted. -/
theorem visitWrites_error (counts : rule.blueprint.grid.Counts down across)
    (has : BlockGrid.Has down across block) (counted : down * across < Size.limit)
    (budgets_enough : down * across ≤ budgets.size) {seed : UInt64}
    (seed_eq : seeds.get visit block = .ok seed) {failure : Failure}
    (failed : rule.visitWrites across budgets seeds block visit = .error failure) :
    failure = .fault .overflow ∧
      Size.limit ≤ rule.blueprint.grid.rows * rule.blueprint.grid.cols := by
  rw [visitWrites_eq, seed_eq, ok_bind, budgetOf_eq has counted budgets_enough, ok_bind] at failed
  obtain ⟨fault, block_failed, rfl⟩ := lift_eq_error.mp failed
  constructor
  · rw [blockWrites_eq counts has] at block_failed
    split at block_failed
    · contradiction
    · rcases bind_eq_error.mp block_failed with own_failed | ⟨own, -, moved⟩
      · rw [localWrites_error own_failed]
      · contradiction
  · by_contra small
    obtain ⟨writes, drawn⟩ := blockWrites_ok counts has (Nat.not_le.mp small) seed
      (budgets.getD (block.number across) 0)
    rw [drawn] at block_failed
    contradiction

/-- A window fails as one of its blocks does. -/
theorem failure_of_writesFrom (counts : rule.blueprint.grid.Counts down across)
    (has : ∀ block ∈ blocks, BlockGrid.Has down across block) {failure : Failure}
    (failed : (rule.writesFrom across budgets seeds blocks visit).failure? = some failure) :
    ∃ index block, blocks[index]? = some block ∧
      rule.visitWrites across budgets seeds block (visit + index) = .error failure := by
  induction blocks generalizing visit with
  | nil => contradiction
  | cons first blocks induction =>
      obtain ⟨here, later⟩ := List.forall_mem_cons.mp has
      rw [writesFrom, Writes.failure?_andThen] at failed
      cases drawn : rule.visitWrites across budgets seeds first visit with
      | error failure' =>
          rw [drawn] at failed
          obtain rfl := Option.some.inj failed
          exact ⟨0, first, rfl, drawn⟩
      | ok writes =>
          rw [drawn, Writes.ofExcept, (visitWrites_fills counts here drawn).complete] at failed
          obtain ⟨index, block, found, failed⟩ := induction later failed
          refine ⟨index + 1, block, found, ?_⟩
          rwa [Nat.add_right_comm, Nat.add_assoc] at failed

end FillRule

end SeededMatrix
