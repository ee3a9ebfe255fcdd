import SeededMatrix.Progression
import SeededMatrix.Proofs.Generation.Progress
import SeededMatrix.Proofs.Output.Splitting
import SeededMatrix.Sample

/-!
# Refusals change nothing

A request is refused before the output is touched. What is asked of the output once it is allocated
is never refused: the region of all cells, the rule of the blocks, the regions and the seeds of the
shares are always found, and the fillings can only exhaust memory or the range of sizes.
-/

namespace SeededMatrix

/-- Whether an action leaves the session as it was if it is refused. -/
def Action.KeepsIfRefused (action : Action Unit) : Prop :=
  ∀ session refusal after, action session = .error (.refusal refusal) after → after = session

/-! ## Shares -/

/-- Every block of a share is visited with a seed. -/
theorem Share.Serves.get_seeds {matrix : OutputMatrix} {grid : BlockGrid} {axis : Axis}
    {down across : Nat} {seeds : Array UInt64} {blocks : Span} {share : Share}
    (serves : share.Serves matrix grid axis down across seeds blocks) {visit : Nat}
    {block : BlockIndex} (found : share.window.blocks[visit]? = some block) :
    ∃ seed, WindowSeeds.get (.table share.seeds) visit block = .ok seed := by
  have entries := congrArg (fun list => list[visit]?) serves.seeds_eq
  simp only [List.getElem?_map, found, Option.map_some, Array.getElem?_toList,
    Option.map_eq_some_iff] at entries
  obtain ⟨seed, seed_eq, -⟩ := entries
  exact ⟨seed, by rw [WindowSeeds.get, seed_eq]⟩

namespace Plan

variable {plan : Plan} {blueprint : Blueprint} {source : BudgetSource} {matrix : OutputMatrix}
  {failure : Failure}

/-- The work of one task fails by exhaustion only, whatever other tasks have stored before. -/
theorem Made.exhausts_of_fill (made : plan.Made blueprint source) (suits : plan.Suits matrix)
    {axis : Axis} {seeds : Array UInt64} {blocks : Span} {share : Share}
    (serves : share.Serves matrix blueprint.grid axis plan.blocksDown plan.blocksAcross seeds
      blocks)
    (stop_le : blocks.stop ≤ Share.blocksOn axis plan.blocksDown plan.blocksAcross)
    {current : OutputMatrix} (suits' : plan.Suits current)
    (failed : share.fill blueprint plan.budgets current = .error failure) :
    failure.Exhausts blueprint.grid := by
  obtain rfl := made.blueprint_eq
  obtain ⟨rule, rule_made⟩ := FillRule.ofBlueprint_ok made.counts
    (Size.mul_eq_ok.mpr ⟨made.blocks_counted, rfl⟩)
  have counts := made.counts_of_rule rule_made
  have has : ∀ block ∈ share.window.blocks,
      BlockGrid.Has plan.blocksDown plan.blocksAcross block := by
    rw [serves.window_eq]
    exact fun block member => Share.has_of_mem_windowOf stop_le member
  have held : ∀ write ∈ (rule.writesFrom plan.blocksAcross plan.budgets (.table share.seeds)
      share.window.blocks 0).toList,
      share.region.Covers write ∧ write.Within current.rows current.cols := by
    intro write member
    obtain ⟨block, block_mem, holds⟩ := FillRule.writesFrom_held counts has member
    rw [FillRule.blueprint_ofBlueprint rule_made] at holds
    rw [suits'.rows_eq, suits'.cols_eq]
    exact ⟨suits.covers serves block_mem holds, holds.within⟩
  have aligned : share.region.Aligned := by
    rw [serves.region_eq]
    exact matrix.aligned_regionAt _ _
  rw [Share.fill, Share.writes, rule_made, ok_bind, FillRule.windowWrites_eq_writesFrom, counts.blocksAcross_eq,
    lift_ok, ok_bind, pure_eq_ok, ok_bind] at failed
  apply (OutputMatrix.putAll_error aligned (fun write member => (held write member).1)
    suits'.shaped (fun write member => (held write member).2) failed).imp_right
  exact made.uncounted_of_blocks rule_made has fun _ _ found => serves.get_seeds found

/-- What the filling of an allocated matrix asks for is not refused. The region of all cells and the
rule of the blocks are found, and so are the regions of the tasks and their shares. Filling in
order, by one seed or by a table of them, and the work of each task fail by exhaustion only. -/
structure Unrefused (plan : Plan) (matrix : OutputMatrix) : Prop where
  region : ∃ region, matrix.wholeRegion = .ok region
  rule : ∃ rule, FillRule.ofBlueprint plan.blueprint = .ok rule
  inOrder : ∀ (origin : SeedOrigin) (visits : WindowSeeds) (failure : Failure),
    origin.windowSeeds plan.blocksDown plan.blocksAcross = .ok visits →
      plan.fillInOrder visits matrix = .error failure → failure.Exhausts plan.blueprint.grid
  shares : ∀ (generator : Random.Well) (table : Array UInt64) (tasks : Nat) (spans : List Span),
    SeedTable.draw generator plan.blocksDown plan.blocksAcross = .ok table → 0 < tasks →
      Share.blockSpans (plan.sharedAxis tasks) plan.blocksDown plan.blocksAcross tasks =
        .ok spans →
      ∃ cells regions shares,
        Share.cellSpans plan.blueprint.grid (plan.sharedAxis tasks) spans = .ok cells ∧
        matrix.regions (plan.sharedAxis tasks) cells = .ok regions ∧
        Share.ofSpans matrix plan.blueprint.grid (plan.sharedAxis tasks) plan.blocksDown
          plan.blocksAcross table spans = .ok shares ∧
        ∀ share ∈ shares, ∀ (current : OutputMatrix) (failure : Failure), plan.Suits current →
          share.fill plan.blueprint plan.budgets current = .error failure →
            failure.Exhausts plan.blueprint.grid

theorem Made.unrefused (made : plan.Made blueprint source) {old : OutputMatrix} {expected : Nat}
    (allocated : old.allocate blueprint.grid.rows blueprint.grid.cols plan.sparse expected =
      .ok matrix) : plan.Unrefused matrix := by
  obtain rfl := made.blueprint_eq
  have suits := suits_allocate allocated
  refine ⟨⟨_, OutputMatrix.wholeRegion_eq suits.shaped⟩,
    FillRule.ofBlueprint_ok made.counts (Size.mul_eq_ok.mpr ⟨made.blocks_counted, rfl⟩),
    fun origin visits failure visits_eq failed =>
      made.exhausts_of_fillInOrder allocated visits_eq failed, ?_⟩
  intro generator table tasks spans drawn tasks_pos cut
  obtain ⟨shares, tile, shares_ok, serves⟩ := made.exists_shares allocated drawn tasks_pos cut
  have cells_ok := Share.cellSpans_eq made.counts tile
  have regions_ok := shares_ok
  rw [Share.ofSpans, cells_ok, lift_ok, ok_bind] at regions_ok
  obtain ⟨regions, regions_ok, -⟩ := bind_eq_ok.mp regions_ok
  refine ⟨_, regions, shares, cells_ok, regions_ok, shares_ok,
    fun share member current failure suits' failed => ?_⟩
  obtain ⟨blocks, blocks_mem, share_serves⟩ := Share.exists_related serves member
  exact made.exhausts_of_fill suits share_serves (tile.bounds blocks_mem).2.2 suits' failed

end Plan

/-! ## Columns -/

theorem Writes.putThrough_error {region : Region} {writes : Writes} {storage : Storage}
    {failure : Failure} (failed : writes.putThrough region storage = .error failure) :
    (∃ fault, failure = .fault fault) ∨ writes.failure? = some failure := by
  induction writes generalizing storage with
  | done => contradiction
  | failed failure' => exact .inr (congrArg some (Except.error.inj failed))
  | next write rest induction =>
      rw [putThrough] at failed
      split at failed
      · exact induction () failed
      · exact .inl ⟨_, (Except.error.inj failed).symm⟩

/-- Writing to the whole of an allocated matrix is not refused if all writes can be drawn. -/
theorem OutputMatrix.fault_of_putWhole {matrix : OutputMatrix} (shaped : matrix.WellShaped)
    {writes : Writes} (complete : writes.failure? = none) {failure : Failure}
    (failed : (do matrix.putAll (← matrix.wholeRegion) writes) = .error failure) :
    ∃ fault, failure = .fault fault := by
  rw [wholeRegion_eq shaped, ok_bind, putAll_eq] at failed
  cases put : writes.putThrough (matrix.regionAt .rows (.upTo matrix.rows) 0) matrix.storage with
  | ok storage =>
      rw [put] at failed
      contradiction
  | error failure' =>
      rw [put] at failed
      obtain rfl := Except.error.inj failed
      apply (Writes.putThrough_error put).resolve_right
      simp [complete]

/-- From the allocation of a column on, only what follows its writing can be refused. -/
theorem Action.error_of_column {rows expected : Nat} {writes : Writes} {rest : Action Unit}
    (complete : writes.failure? = none) {session after : Session} {failure : Failure}
    (failed : (do
      Action.allocate rows 1 false expected
      Action.update fun matrix => do matrix.putAll (← matrix.wholeRegion) writes
      rest) session = .error failure after) :
    (∃ fault, failure = .fault fault) ∨ ∃ middle, rest middle = .error failure after := by
  rcases Action.bind_error.mp failed with stopped | ⟨_, _, allocate, failed⟩
  · obtain ⟨fault, -, rfl⟩ := lift_eq_error.mp (Action.update_error.mp stopped).1
    exact .inl ⟨fault, rfl⟩
  obtain ⟨matrix, allocated, rfl⟩ := Action.update_ok.mp allocate
  have shaped := OutputMatrix.wellShaped_allocate (lift_eq_ok.mp allocated)
  rcases Action.bind_error.mp failed with stopped | ⟨_, middle, -, failed⟩
  · exact .inl (OutputMatrix.fault_of_putWhole shaped complete (Action.update_error.mp stopped).1)
  · exact .inr ⟨middle, failed⟩

theorem Progression.failure?_writesFrom (step : Float) (remaining row : Nat) (term : Float) :
    (writesFrom step remaining row term).failure? = none := by
  induction remaining generalizing row term with
  | zero => rfl
  | succ remaining induction => exact induction (row + 1) (term + step)

theorem Progression.keeps_generate (first last step : Float) :
    (generate first last step).KeepsIfRefused := by
  intro session refusal after failed
  rw [generate] at failed
  rcases Action.bind_error.mp failed with stopped | ⟨rows, _, counting, failed⟩
  · exact (Action.lift_error.mp stopped).2.symm
  obtain ⟨-, rfl⟩ := Action.lift_ok.mp counting
  rcases Action.error_of_column (failure?_writesFrom step rows 0 first) failed with
    ⟨fault, contra⟩ | ⟨middle, failed⟩
  · contradiction
  · contradiction

theorem Sample.keeps_generate (population : Int) (size : Nat) (replace : Bool) (seed : UInt64) :
    (generate population size replace seed).KeepsIfRefused := by
  intro session refusal after failed
  rw [generate] at failed
  rcases Action.bind_error.mp failed with stopped | ⟨values, _, drawing, failed⟩
  · exact (Action.lift_error.mp stopped).2.symm
  obtain ⟨-, rfl⟩ := Action.lift_ok.mp drawing
  rcases Action.error_of_column (Writes.failure?_ofList _) failed with
    ⟨fault, contra⟩ | ⟨middle, failed⟩
  · contradiction
  rcases Action.bind_error.mp failed with stopped | ⟨_, _, -, failed⟩
  · contradiction
  obtain ⟨fault, -, contra⟩ := Action.settleLayout_error failed
  contradiction

/-! ## Every request -/

theorem Blueprint.keeps_generate (blueprint : Blueprint) (source : BudgetSource)
    (origin : SeedOrigin) (tasks : Nat) :
    (blueprint.generate source origin tasks).KeepsIfRefused := by
  intro session refusal after failed
  cases draws : blueprint.needsNoDraws with
  | true =>
      rw [generate, if_pos draws] at failed
      obtain ⟨fault, -, contra⟩ := error_of_generateConstant failed
      contradiction
  | false =>
      rcases error_of_generate draws failed with ⟨-, kept⟩ | exhausts
      · exact kept.symm
      · exact absurd rfl (exhausts.ne_refusal refusal)

/-- A refused request changes nothing: not the matrix, its shape, its layout, its count, its
estimate or its storage. For a random matrix, enough budgets for blocks that are admitted make a
plan, and from then on nothing is refused: what the filling asks of the allocated matrix is found,
and the execution of the plan can only exhaust memory or the range of sizes. The region that a
column is written through is found as well. -/
theorem refusals_change_nothing :
    (∀ (blueprint : Blueprint) (source : BudgetSource) (origin : SeedOrigin) (tasks : Nat),
      (blueprint.generate source origin tasks).KeepsIfRefused) ∧
    (∀ first last step : Float, (Progression.generate first last step).KeepsIfRefused) ∧
    (∀ (population : Int) (size : Nat) (replace : Bool) (seed : UInt64),
      (Sample.generate population size replace seed).KeepsIfRefused) ∧
    (∀ (blueprint : Blueprint) (source : BudgetSource) (origin : SeedOrigin) (blocks : Nat)
        (budgets : Array Nat),
      blueprint.grid.admittedBlocks = .ok blocks → source.toTable = .ok budgets →
        blocks ≤ budgets.size →
      ∃ plan, Plan.ofBlueprint blueprint source origin = .ok plan ∧ plan.blueprint = blueprint ∧
        (∀ old matrix : OutputMatrix,
          old.allocate blueprint.grid.rows blueprint.grid.cols plan.sparse plan.expectedNonZeros =
            .ok matrix → plan.Unrefused matrix) ∧
        ∀ (tasks : Nat) (session after : Session) (failure : Failure),
          plan.execute origin tasks session = .error failure after →
            failure.Exhausts blueprint.grid) ∧
    ∀ (old matrix : OutputMatrix) (rows expected : Nat),
      old.allocate rows 1 false expected = .ok matrix →
        ∃ region, matrix.wholeRegion = .ok region := by
  refine ⟨Blueprint.keeps_generate, Progression.keeps_generate, Sample.keeps_generate, ?_, ?_⟩
  · intro blueprint source origin blocks budgets admitted table_eq enough
    obtain ⟨down, across, counts⟩ := BlockGrid.counts_of_admittedBlocks admitted
    obtain ⟨rfl, blocks_le⟩ := counts.admittedBlocks_eq_ok.mp admitted
    obtain ⟨plan, planned⟩ := Plan.ofBlueprint_ok counts blocks_le table_eq enough origin
    have made := Plan.made_ofBlueprint planned
    exact ⟨plan, planned, made.blueprint_eq, fun old matrix allocated => made.unrefused allocated,
      fun tasks session after failure failed => made.exhausts_of_execute failed⟩
  · intro old matrix rows expected allocated
    exact ⟨_, OutputMatrix.wholeRegion_eq (OutputMatrix.wellShaped_allocate allocated)⟩

/-- A sparse matrix with a five in its only cell. -/
def OutputMatrix.fiveStored : OutputMatrix :=
  ⟨1, 1, true, 1, 1, .sparse #[⟨#[⟨0, 5.0⟩]⟩]⟩

/-- Without a budget, a matrix of one cell is refused and the five stays; with one, it is planned
and nothing more is refused. -/
theorem five_stays_if_refused :
    (∃ refusal, Plan.oneCell.generate (.table #[]) (.shared 7) 1 ⟨.fiveStored, #[]⟩ =
      .error (.refusal refusal) ⟨.fiveStored, #[]⟩) ∧
    ∃ plan matrix, Plan.ofBlueprint Plan.oneCell (.table #[1]) (.shared 7) = .ok plan ∧
      OutputMatrix.fiveStored.allocate 1 1 plan.sparse plan.expectedNonZeros = .ok matrix ∧
      plan.Unrefused matrix := by
  obtain ⟨keeps, -, -, plans, -⟩ := refusals_change_nothing
  constructor
  · obtain ⟨refusal, unplanned⟩ : ∃ refusal,
        Plan.ofBlueprint Plan.oneCell (.table #[]) (.shared 7) = .error (.refusal refusal) :=
      ⟨_, rfl⟩
    have draws : Plan.oneCell.needsNoDraws = false := by decide +kernel
    obtain ⟨after, refused⟩ : ∃ after, Plan.oneCell.generate (.table #[]) (.shared 7) 1
        ⟨.fiveStored, #[]⟩ = .error (.refusal refusal) after := by
      rw [Blueprint.generate, if_neg (by simp [draws])]
      exact ⟨_, Action.bind_error.mpr (.inl (Action.lift_error.mpr ⟨unplanned, rfl⟩))⟩
    obtain rfl := keeps _ _ _ _ _ refusal after refused
    exact ⟨refusal, refused⟩
  · obtain ⟨plan, planned, -, unrefused, -⟩ :=
      plans Plan.oneCell (.table #[1]) (.shared 7) 1 #[1] rfl rfl le_rfl
    have allocates : ∀ sparse expected, ∃ matrix,
        OutputMatrix.fiveStored.allocate 1 1 sparse expected = .ok matrix := by
      intro sparse expected
      cases sparse <;> exact ⟨_, rfl⟩
    obtain ⟨matrix, allocated⟩ := allocates plan.sparse plan.expectedNonZeros
    exact ⟨plan, matrix, planned, allocated, unrefused _ matrix allocated⟩

end SeededMatrix
