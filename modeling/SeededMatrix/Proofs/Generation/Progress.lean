import SeededMatrix.Proofs.Fill.WindowWrites
import SeededMatrix.Proofs.Generation.Budgets
import SeededMatrix.Proofs.Output.Capacity

/-!
# How a generation can fail

Once a generation that draws is planned, it fails by storage that is too large, or by a matrix whose
cells cannot be counted. Otherwise it comes to its end.
-/

namespace SeededMatrix

namespace Action

variable {α β : Type} {session after : Session} {failure : Failure}

theorem bind_error {first : Action α} {next : α → Action β} :
    (first >>= next) session = .error failure after ↔
      first session = .error failure after ∨
        ∃ value middle, first session = .ok value middle ∧
          next value middle = .error failure after := by
  change EStateM.bind first next session = _ ↔ _
  rw [EStateM.bind]
  cases first session with
  | ok value middle => simp
  | error failure' middle => simp

theorem lift_error {computation : Except Failure α} :
    (liftM computation : Action α) session = .error failure after ↔
      computation = .error failure ∧ session = after := by
  cases computation with
  | ok value =>
      constructor
      · intro failed
        contradiction
      · rintro ⟨failed, -⟩
        contradiction
  | error failure' =>
      constructor
      · rintro ⟨rfl, rfl⟩
        exact ⟨rfl, rfl⟩
      · rintro ⟨⟨rfl⟩, rfl⟩
        rfl

theorem lift_fault_error {computation : Except Fault α} :
    (liftM computation : Action α) session = .error failure after ↔
      (∃ fault, computation = .error fault ∧ failure = .fault fault) ∧ session = after := by
  change (liftM (liftM computation : Except Failure α) : Action α) session = _ ↔ _
  rw [lift_error, lift_eq_error]

theorem update_error {change : OutputMatrix → Except Failure OutputMatrix} :
    update change session = .error failure after ↔
      change session.matrix = .error failure ∧ session = after := by
  obtain ⟨matrix, events⟩ := session
  rw [update]
  cases change matrix with
  | ok changed => simp
  | error failure' => simp

theorem settleLayout_error (failed : settleLayout session = .error failure after) :
    ∃ fault, session.matrix.settleLayout = .error fault ∧ failure = .fault fault := by
  obtain ⟨matrix, events⟩ := session
  rw [settleLayout] at failed
  cases settled : matrix.settleLayout with
  | error fault =>
      rw [settled] at failed
      obtain ⟨rfl, -⟩ := EStateM.Result.error.inj failed
      exact ⟨fault, rfl, rfl⟩
  | ok result =>
      rw [settled] at failed
      obtain ⟨changed, conversion⟩ := result
      cases conversion <;> contradiction

end Action

/-- A generation can be planned if its blocks are not too many and the table has a budget for each
of them. -/
theorem Plan.ofBlueprint_ok {blueprint : Blueprint} {down across : Nat}
    (counts : blueprint.grid.Counts down across) (blocks_le : down * across ≤ BlockGrid.maxBlocks)
    {source : BudgetSource} {budgets : Array Nat} (table_eq : source.toTable = .ok budgets)
    (enough : down * across ≤ budgets.size) (origin : SeedOrigin) :
    ∃ plan, Plan.ofBlueprint blueprint source origin = .ok plan := by
  have blocks_pos : 0 < down * across :=
    Nat.mul_pos (counts.down_pos blueprint.rows_pos) (counts.across_pos blueprint.cols_pos)
  have admitted := counts.admittedBlocks_eq_ok.mpr ⟨rfl, blocks_le⟩
  obtain ⟨expected, expected_eq⟩ : ∃ expected,
      Plan.expected blueprint budgets origin = .ok expected := by
    cases origin with
    | drawn generator => exact ⟨_, rfl⟩
    | shared seed => exact ⟨budgets[0], by simp [Plan.expected, show 0 < budgets.size by omega]⟩
  refine ⟨⟨blueprint, down, across, budgets, expected,
    Layout.prefersSparse blueprint.grid.rows blueprint.grid.cols expected⟩, ?_⟩
  simp [ofBlueprint, counts.blocksDown_eq, counts.blocksAcross_eq, admitted, table_eq,
    Nat.not_lt.mpr enough, expected_eq]

theorem SeedOrigin.get_windowSeeds {origin : SeedOrigin} {down across : Nat} {visits : WindowSeeds}
    (visits_eq : origin.windowSeeds down across = .ok visits) {block : BlockIndex}
    (has : BlockGrid.Has down across block) :
    ∃ seed, visits.get (block.number across) block = .ok seed := by
  cases origin with
  | shared seed =>
      obtain rfl := Except.ok.inj visits_eq
      exact ⟨seed, rfl⟩
  | drawn generator =>
      obtain ⟨table, drawn, visits_eq⟩ := bind_eq_ok.mp visits_eq
      obtain rfl := Except.ok.inj visits_eq
      have number_lt : block.number across < table.size := by
        rw [(SeedTable.draw_spec drawn).1]
        exact FillRule.number_lt has
      exact ⟨table[block.number across], by simp [WindowSeeds.get, number_lt]⟩

/-- Putting writes of cells fails by storage that is too large, or as the drawing does. -/
theorem OutputMatrix.putAll_error {matrix : OutputMatrix} {region : Region} {failure : Failure}
    (aligned : region.Aligned) {writes : Writes}
    (covered : ∀ write ∈ writes.toList, region.Covers write) (shaped : matrix.WellShaped)
    (within : ∀ write ∈ writes.toList, write.Within matrix.rows matrix.cols)
    (failed : matrix.putAll region writes = .error failure) :
    failure = .fault .storageTooLarge ∨ writes.failure? = some failure := by
  rw [putAll_eq, Writes.putThrough_eq aligned covered] at failed
  cases put : matrix.storage.putList region.room writes.toList with
  | error fault =>
      rw [put] at failed
      obtain rfl := Storage.HasShape.putList_onlyTooLarge shaped region.room within fault put
      exact .inl (Except.error.inj failed).symm
  | ok storage =>
      rw [put, lift_ok, ok_bind, Writes.ending] at failed
      cases complete : writes.failure? with
      | none =>
          rw [complete] at failed
          contradiction
      | some failure' =>
          rw [complete] at failed
          exact .inr (congrArg some (Except.error.inj failed))

theorem Share.blockSpans_onlyTooLarge (axis : Axis) (down across tasks : Nat) :
    OnlyTooLarge (blockSpans axis down across tasks) := by
  rw [blockSpans_eq]
  apply OnlyTooLarge.bind (Size.reserve_onlyTooLarge _ _)
  exact fun _ _ => .ok _

namespace Plan

variable {plan : Plan} {blueprint : Blueprint} {source : BudgetSource} {origin : SeedOrigin}
  {tasks : Nat} {session after : Session} {failure : Failure} {old matrix : OutputMatrix}
  {expected : Nat} {visits : WindowSeeds}

/-- Filling in order fails by storage that is too large, or as one of the blocks does. -/
theorem Made.failure_of_fillInOrder (made : plan.Made blueprint source)
    (allocated : old.allocate blueprint.grid.rows blueprint.grid.cols plan.sparse expected =
      .ok matrix)
    (failed : plan.fillInOrder visits matrix = .error failure) :
    failure = .fault .storageTooLarge ∨
      ∃ rule block, FillRule.ofBlueprint blueprint = .ok rule ∧
        BlockGrid.Has plan.blocksDown plan.blocksAcross block ∧
        rule.visitWrites plan.blocksAcross plan.budgets visits block
          (block.number plan.blocksAcross) = .error failure := by
  obtain ⟨rule, rule_made⟩ := FillRule.ofBlueprint_ok made.counts
    (Size.mul_eq_ok.mpr ⟨made.blocks_counted, rfl⟩)
  have counts := made.counts_of_rule rule_made
  obtain ⟨writes, drawn⟩ : ∃ writes,
      rule.windowWrites plan.window plan.budgets visits = .ok writes := by
    rw [FillRule.windowWrites_eq_writesFrom, counts.blocksAcross_eq]
    exact ⟨_, rfl⟩
  obtain ⟨within, covered, -⟩ := made.window_spec allocated rule_made drawn
  have shaped := OutputMatrix.wellShaped_allocate allocated
  rw [OutputMatrix.allocate_eq allocated] at shaped covered failed
  rw [fillInOrder, OutputMatrix.wholeRegion_eq shaped, ok_bind,
    made.blueprint_eq, rule_made, ok_bind, drawn, ok_bind] at failed
  apply (OutputMatrix.putAll_error ⟨rfl, rfl⟩ covered shaped within failed).imp_right
  intro drawing_failed
  rw [FillRule.windowWrites_eq_writesFrom, counts.blocksAcross_eq] at drawn
  obtain rfl := Except.ok.inj drawn
  obtain ⟨visit, block, found, failed⟩ := FillRule.failure_of_writesFrom counts
    (fun _ member => BlockWindow.has_of_mem_all member) drawing_failed
  rw [Nat.zero_add, ← BlockWindow.number_eq_visit found] at failed
  exact ⟨rule, block, rule_made, BlockWindow.has_of_mem_all (List.mem_of_getElem? found), failed⟩

theorem Made.draw_onlyTooLarge (made : plan.Made blueprint source) (generator : Random.Well) :
    OnlyTooLarge (SeedTable.draw generator plan.blocksDown plan.blocksAcross) := by
  rw [SeedTable.draw, Size.mul_eq_ok.mpr ⟨made.blocks_counted, rfl⟩, ok_bind]
  apply OnlyTooLarge.bind (Size.reserve_onlyTooLarge _ _)
  exact fun _ _ => .ok _

/-- Filling from a root generator fails as filling in order does, by storage that is too large, or
by a matrix whose cells cannot be counted. -/
theorem Made.failure_of_fillFromRoot (made : plan.Made blueprint source)
    (allocated : old.allocate blueprint.grid.rows blueprint.grid.cols plan.sparse expected =
      .ok session.matrix)
    {generator : Random.Well}
    (failed : plan.fillFromRoot generator tasks session = .error failure after) :
    failure = .fault .storageTooLarge ∨
      failure = .fault .overflow ∧ Size.limit ≤ blueprint.grid.rows * blueprint.grid.cols ∨
      ∃ table, SeedTable.draw generator plan.blocksDown plan.blocksAcross = .ok table ∧
        plan.fillInOrder (.table table) session.matrix = .error failure := by
  obtain rfl := made.blueprint_eq
  rw [fillFromRoot] at failed
  rcases Action.bind_error.mp failed with stopped | ⟨table, _, draw, failed⟩
  · obtain ⟨⟨fault, draw_failed, rfl⟩, -⟩ := Action.lift_fault_error.mp stopped
    exact .inl (congrArg _ (made.draw_onlyTooLarge generator fault draw_failed))
  obtain ⟨drawn, rfl⟩ := Action.lift_fault_ok.mp draw
  rcases Action.bind_error.mp failed with stopped | ⟨cells, _, count, failed⟩
  · obtain ⟨⟨fault, count_failed, rfl⟩, -⟩ := Action.lift_fault_error.mp stopped
    obtain ⟨too_many, rfl⟩ := Size.mul_eq_error.mp count_failed
    exact .inr (.inl ⟨rfl, too_many⟩)
  obtain ⟨counted, rfl⟩ := Action.lift_fault_ok.mp count
  rcases Action.bind_error.mp failed with stopped | ⟨sharesOut, _, look, failed⟩
  · contradiction
  obtain ⟨looked, rfl⟩ := Action.inspect_ok.mp look
  obtain rfl := Except.ok.inj looked
  split at failed
  next sharesOut =>
    rcases Action.bind_error.mp failed with stopped | ⟨spans, _, cutting, failed⟩
    · obtain ⟨⟨fault, cut_failed, rfl⟩, -⟩ := Action.lift_fault_error.mp stopped
      exact .inl (congrArg _ (Share.blockSpans_onlyTooLarge _ _ _ _ fault cut_failed))
    obtain ⟨cut, rfl⟩ := Action.lift_fault_ok.mp cutting
    rcases Action.bind_error.mp failed with stopped | ⟨_, _, ⟨rfl, rfl⟩, failed⟩
    · contradiction
    obtain ⟨fill_failed, -⟩ := Action.update_error.mp failed
    have same := made.fillShared_eq counted allocated drawn sharesOut cut
    exact .inr (.inr ⟨table, drawn, same ▸ fill_failed⟩)
  next =>
    rcases Action.bind_error.mp failed with stopped | ⟨_, _, ⟨rfl, rfl⟩, failed⟩
    · contradiction
    obtain ⟨fill_failed, -⟩ := Action.update_error.mp failed
    exact .inr (.inr ⟨table, drawn, fill_failed⟩)

/-- A matrix that was filled in order can only be too large for the layout that it settles in. -/
theorem Made.settle_onlyTooLarge (made : plan.Made blueprint source)
    (allocated : old.allocate blueprint.grid.rows blueprint.grid.cols plan.sparse expected =
      .ok matrix)
    {filled : OutputMatrix} (inOrder : plan.fillInOrder visits matrix = .ok filled) :
    OnlyTooLarge filled.recount.settleLayout := by
  obtain ⟨-, formed⟩ := made.wellFormed_of_fillInOrder allocated inOrder
  exact OutputMatrix.settleLayout_onlyTooLarge formed

/-- Execution fails by storage that is too large, as one of the blocks does, or by cells that cannot
be counted to be shared out. -/
theorem Made.failure_of_execute (made : plan.Made blueprint source)
    (failed : plan.execute origin tasks session = .error failure after) :
    failure = .fault .storageTooLarge ∨
      ((∃ generator, origin = .drawn generator) ∧ failure = .fault .overflow ∧
        Size.limit ≤ blueprint.grid.rows * blueprint.grid.cols) ∨
      ∃ rule visits block, FillRule.ofBlueprint blueprint = .ok rule ∧
        origin.windowSeeds plan.blocksDown plan.blocksAcross = .ok visits ∧
        BlockGrid.Has plan.blocksDown plan.blocksAcross block ∧
        rule.visitWrites plan.blocksAcross plan.budgets visits block
          (block.number plan.blocksAcross) = .error failure := by
  obtain rfl := made.blueprint_eq
  rw [execute] at failed
  rcases Action.bind_error.mp failed with stopped | ⟨_, allocation, allocate, failed⟩
  · obtain ⟨fault, allocate_failed, rfl⟩ := lift_eq_error.mp (Action.update_error.mp stopped).1
    exact .inl (congrArg _ (OutputMatrix.allocate_onlyTooLarge _ _ _ _ _ fault allocate_failed))
  obtain ⟨matrix, allocated, rfl⟩ := Action.update_ok.mp allocate
  rw [lift_eq_ok] at allocated
  have finish : ∀ {middle : Session} {visits : WindowSeeds},
      plan.fillInOrder visits matrix = .ok middle.matrix →
        (discard Action.recount >>= fun _ => Action.settleLayout : Action Unit) middle =
          .error failure after → failure = .fault .storageTooLarge := by
    intro middle visits inOrder failed
    rcases Action.bind_error.mp failed with stopped | ⟨_, _, ⟨-, rfl⟩, failed⟩
    · contradiction
    obtain ⟨fault, settle_failed, rfl⟩ := Action.settleLayout_error failed
    exact congrArg _ (made.settle_onlyTooLarge allocated inOrder fault settle_failed)
  cases origin with
  | shared seed =>
      rcases Action.bind_error.mp failed with stopped | ⟨_, middle, fill, failed⟩
      · have fill_failed := (Action.update_error.mp stopped).1
        apply (made.failure_of_fillInOrder allocated fill_failed).imp_right
        rintro ⟨rule, block, rule_made, has, visit_failed⟩
        exact .inr ⟨rule, _, block, rule_made, rfl, has, visit_failed⟩
      · obtain ⟨filled, inOrder, rfl⟩ := Action.update_ok.mp fill
        exact .inl (finish inOrder failed)
  | drawn generator =>
      rcases Action.bind_error.mp failed with stopped | ⟨_, middle, fill, failed⟩
      · rcases made.failure_of_fillFromRoot allocated stopped with
          tooLarge | uncounted | ⟨table, drawn, fill_failed⟩
        · exact .inl tooLarge
        · exact .inr (.inl ⟨⟨generator, rfl⟩, uncounted⟩)
        · apply (made.failure_of_fillInOrder allocated fill_failed).imp_right
          rintro ⟨rule, block, rule_made, has, visit_failed⟩
          have visits_eq : SeedOrigin.windowSeeds plan.blocksDown plan.blocksAcross
              (.drawn generator) = .ok (.table table) := by
            rw [SeedOrigin.windowSeeds, drawn]
            rfl
          exact .inr ⟨rule, _, block, rule_made, visits_eq, has, visit_failed⟩
      · obtain ⟨visits, -, inOrder⟩ :=
          (filled_of_fillFromRoot fill).fillInOrder_eq made allocated
        exact .inl (finish inOrder failed)

end Plan

/-- Whether a failure tells that memory or the range of sizes is exhausted: what is to be stored is
too large, or the cells of a matrix cannot be counted. -/
def Failure.Exhausts (failure : Failure) (grid : BlockGrid) : Prop :=
  failure = .fault .storageTooLarge ∨
    failure = .fault .overflow ∧ Size.limit ≤ grid.rows * grid.cols

theorem Failure.Exhausts.ne_refusal {failure : Failure} {grid : BlockGrid}
    (exhausts : failure.Exhausts grid) (refusal : Refusal) : failure ≠ .refusal refusal := by
  rcases exhausts with rfl | ⟨rfl, -⟩ <;> exact nofun

namespace Plan.Made

variable {plan : Plan} {blueprint : Blueprint} {source : BudgetSource} {failure : Failure}

/-- A visited block that has a seed only fails in a matrix whose cells cannot be counted: it has a
budget as well. -/
theorem uncounted_of_visit (made : plan.Made blueprint source) {rule : FillRule}
    (rule_made : FillRule.ofBlueprint blueprint = .ok rule) {block : BlockIndex}
    (has : BlockGrid.Has plan.blocksDown plan.blocksAcross block) {visits : WindowSeeds}
    {visit : Nat} {seed : UInt64} (seed_eq : visits.get visit block = .ok seed)
    (failed : rule.visitWrites plan.blocksAcross plan.budgets visits block visit =
      .error failure) :
    failure = .fault .overflow ∧ Size.limit ≤ blueprint.grid.rows * blueprint.grid.cols := by
  have uncounted := FillRule.visitWrites_error (made.counts_of_rule rule_made) has
    made.blocks_counted made.budgets_enough seed_eq failed
  rwa [FillRule.blueprint_ofBlueprint rule_made] at uncounted

/-- Blocks that each have a seed only fail in a matrix whose cells cannot be counted. -/
theorem uncounted_of_blocks (made : plan.Made blueprint source) {rule : FillRule}
    (rule_made : FillRule.ofBlueprint blueprint = .ok rule) {blocks : List BlockIndex}
    (has : ∀ block ∈ blocks, BlockGrid.Has plan.blocksDown plan.blocksAcross block)
    {visits : WindowSeeds}
    (seeded : ∀ visit block, blocks[visit]? = some block →
      ∃ seed, visits.get visit block = .ok seed)
    (failed : (rule.writesFrom plan.blocksAcross plan.budgets visits blocks 0).failure? =
      some failure) :
    failure = .fault .overflow ∧ Size.limit ≤ blueprint.grid.rows * blueprint.grid.cols := by
  obtain ⟨visit, block, found, failed⟩ :=
    FillRule.failure_of_writesFrom (made.counts_of_rule rule_made) has failed
  rw [Nat.zero_add] at failed
  obtain ⟨seed, seed_eq⟩ := seeded visit block found
  exact made.uncounted_of_visit rule_made (has block (List.mem_of_getElem? found)) seed_eq failed

/-- Filling in order fails by exhaustion only: every block has a seed. -/
theorem exhausts_of_fillInOrder (made : plan.Made blueprint source) {old matrix : OutputMatrix}
    {expected : Nat}
    (allocated : old.allocate blueprint.grid.rows blueprint.grid.cols plan.sparse expected =
      .ok matrix)
    {origin : SeedOrigin} {visits : WindowSeeds}
    (visits_eq : origin.windowSeeds plan.blocksDown plan.blocksAcross = .ok visits)
    (failed : plan.fillInOrder visits matrix = .error failure) :
    failure.Exhausts blueprint.grid := by
  rcases made.failure_of_fillInOrder allocated failed with
    tooLarge | ⟨rule, block, rule_made, has, visit_failed⟩
  · exact .inl tooLarge
  · obtain ⟨seed, seed_eq⟩ := SeedOrigin.get_windowSeeds visits_eq has
    exact .inr (made.uncounted_of_visit rule_made has seed_eq visit_failed)

theorem exhausts_of_execute (made : plan.Made blueprint source) {origin : SeedOrigin} {tasks : Nat}
    {session after : Session}
    (failed : plan.execute origin tasks session = .error failure after) :
    failure.Exhausts blueprint.grid := by
  rcases made.failure_of_execute failed with
    tooLarge | ⟨-, uncounted⟩ | ⟨rule, visits, block, rule_made, visits_eq, has, visit_failed⟩
  · exact .inl tooLarge
  · exact .inr uncounted
  · obtain ⟨seed, seed_eq⟩ := SeedOrigin.get_windowSeeds visits_eq has
    exact .inr (made.uncounted_of_visit rule_made has seed_eq visit_failed)

end Plan.Made

/-- A generation without draws fails only if the matrix cannot be refilled. -/
theorem Blueprint.error_of_generateConstant {blueprint : Blueprint} {session after : Session}
    {failure : Failure} (failed : blueprint.generateConstant session = .error failure after) :
    ∃ fault, session.matrix.refill blueprint.grid.rows blueprint.grid.cols blueprint.least =
      .error fault ∧ failure = .fault fault := by
  rw [generateConstant] at failed
  split at failed
  · rcases Action.bind_error.mp failed with stopped | ⟨_, _, -, failed⟩
    · contradiction
    · have no_failure := (Action.update_error.mp failed).1
      contradiction
  · rcases Action.bind_error.mp failed with stopped | ⟨_, _, ⟨-, rfl⟩, failed⟩
    · contradiction
    · exact lift_eq_error.mp (Action.update_error.mp failed).1

/-- A generation that draws fails because it cannot be planned, and then changes nothing, or it
fails by exhaustion. -/
theorem Blueprint.error_of_generate {blueprint : Blueprint} {source : BudgetSource}
    {origin : SeedOrigin} {tasks : Nat} {session after : Session} {failure : Failure}
    (draws : blueprint.needsNoDraws = false)
    (failed : blueprint.generate source origin tasks session = .error failure after) :
    Plan.ofBlueprint blueprint source origin = .error failure ∧ session = after ∨
      failure.Exhausts blueprint.grid := by
  rw [generate, if_neg (by simp [draws])] at failed
  rcases Action.bind_error.mp failed with stopped | ⟨plan, _, planning, failed⟩
  · exact .inl (Action.lift_error.mp stopped)
  obtain ⟨planned, rfl⟩ := Action.lift_ok.mp planning
  exact .inr ((Plan.made_ofBlueprint planned).exhausts_of_execute failed)

/-- A generation that draws fails because it cannot be planned, by storage that is too large, or by
a matrix whose cells cannot be counted. -/
theorem Blueprint.failure_of_generate {blueprint : Blueprint} {source : BudgetSource}
    {origin : SeedOrigin} {tasks : Nat} {session after : Session} {failure : Failure}
    (draws : blueprint.needsNoDraws = false)
    (failed : blueprint.generate source origin tasks session = .error failure after) :
    Plan.ofBlueprint blueprint source origin = .error failure ∨
      failure = .fault .storageTooLarge ∨
      failure = .fault .overflow ∧ Size.limit ≤ blueprint.grid.rows * blueprint.grid.cols :=
  (error_of_generate draws failed).imp_left And.left

end SeededMatrix
