import SeededMatrix.Proofs.BlockCounts
import SeededMatrix.Proofs.Generation.Finished
import SeededMatrix.Proofs.Generation.Refusals

/-!
# Generation stays in bounds

For a matrix whose cells can be counted, nothing that a generation does overflows, looks beyond the
end of a table or writes a cell outside of its region, whatever the seeds and the number of tasks,
and however the puts of the tasks are interleaved. The one exception lies at the edge of the sizes:
an axis whose length and block length together are one more than the largest size overflows while
its blocks are counted.
-/

namespace SeededMatrix

/-! ## Counting the blocks -/

namespace BlockGrid

variable {grid : BlockGrid}

theorem tiles_le (height_pos : 0 < grid.blockHeight) (width_pos : 0 < grid.blockWidth) :
    grid.tiles ≤ grid.rows * grid.cols := by
  have down_le : grid.rows ⌈/⌉ grid.blockHeight ≤ grid.rows :=
    (ceilDiv_le_iff_le_mul height_pos).mpr (Nat.le_mul_of_pos_left _ height_pos)
  have across_le : grid.cols ⌈/⌉ grid.blockWidth ≤ grid.cols :=
    (ceilDiv_le_iff_le_mul width_pos).mpr (Nat.le_mul_of_pos_left _ width_pos)
  exact Nat.mul_le_mul down_le across_le

end BlockGrid

/-- How planning ends for a matrix whose cells can be counted and a table with enough budgets: with
a plan, by a refusal of too many blocks, or by an overflow if an axis and its blocks are too long
together. -/
theorem Plan.ofBlueprint_cases {blueprint : Blueprint}
    (cells_lt : blueprint.grid.rows * blueprint.grid.cols < Size.limit) {table : Array Nat}
    (enough : blueprint.grid.tiles ≤ table.size) (origin : SeedOrigin) :
    (blueprint.grid.CountsFit ∧ ∃ plan, ofBlueprint blueprint (.table table) origin = .ok plan) ∨
      (blueprint.grid.CountsFit ∧ BlockGrid.maxBlocks < blueprint.grid.tiles ∧
        ofBlueprint blueprint (.table table) origin = .error (.refusal (.shape
          (.tooManyBlocks blueprint.grid.rows blueprint.grid.cols blueprint.grid.tiles)))) ∨
      (Size.limit ≤ blueprint.grid.rows + blueprint.grid.blockHeight ∨
          Size.limit ≤ blueprint.grid.cols + blueprint.grid.blockWidth) ∧
        ofBlueprint blueprint (.table table) origin = .error (.fault .overflow) := by
  have height_pos := blueprint.blockHeight_pos
  have width_pos := blueprint.blockWidth_pos
  have tiles_lt := (BlockGrid.tiles_le height_pos width_pos).trans_lt cells_lt
  by_cases fits : blueprint.grid.CountsFit
  · have counts := fits.counts height_pos width_pos
    rcases BlockGrid.admittedBlocks_cases height_pos width_pos with
      ⟨-, few, -⟩ | ⟨-, many, refused⟩ | ⟨large, -⟩
    · exact .inl ⟨fits, ofBlueprint_ok counts few rfl enough origin⟩
    · refine .inr (.inl ⟨fits, many, ?_⟩)
      rw [ofBlueprint, counts.blocksDown_eq, lift_ok, ok_bind, counts.blocksAcross_eq, lift_ok,
        ok_bind, refused, error_bind]
    · exact absurd fits large
  · refine .inr (.inr ?_)
    rw [ofBlueprint, BlockGrid.blocksDown, BlockGrid.blocksAcross, Size.divUp_eq _ height_pos,
      Size.divUp_eq _ width_pos]
    by_cases rows_lt : blueprint.grid.rows + blueprint.grid.blockHeight < Size.limit
    · have cols_ge : ¬blueprint.grid.cols + blueprint.grid.blockWidth < Size.limit :=
        fun cols_lt => fits ⟨rows_lt, cols_lt, tiles_lt⟩
      rw [if_pos rows_lt, if_neg cols_ge]
      exact ⟨.inr (Nat.not_lt.mp cols_ge), rfl⟩
    · rw [if_neg rows_lt]
      exact ⟨.inl (Nat.not_lt.mp rows_lt), rfl⟩

/-! ## The crew -/

/-- Whether the workers of a crew keep to their bounds at this moment of a run: none of them has met
a failure of the drawing, and the next write of each is a cell of its region and of the matrix,
which only a row without room for it can refuse. -/
structure Crew.InBounds (rows cols : Nat) (crew : Crew) : Prop where
  drawn : ∀ worker ∈ crew.workers, ∀ failure, worker.pending ≠ .failed failure
  inside : ∀ worker ∈ crew.workers, ∀ write rest, worker.pending = .next write rest →
    worker.region.contains write.row write.col = true ∧ write.row < rows ∧ write.col < cols
  put : ∀ worker ∈ crew.workers, ∀ write rest, worker.pending = .next write rest →
    OnlyTooLarge (worker.region.put crew.storage write.row write.col write.value)

theorem Crew.Separate.inBounds {isSparse : Bool} {rows cols room : Nat} {crew : Crew}
    (separate : crew.Separate isSparse rows cols room) (complete : crew.Complete) :
    crew.InBounds rows cols where
  drawn := by
    intro worker member failure drawn
    have fails := complete worker member
    rw [drawn] at fails
    contradiction
  inside := by
    intro worker member write rest drawn
    exact separate.covered worker member write (by simp [drawn])
  put := by
    intro worker member write rest drawn
    rw [separate.put_eq member drawn]
    have within := (separate.covered worker member write (by simp [drawn])).2
    exact separate.shape.putWrite_onlyTooLarge room within

namespace Plan.Made

variable {plan : Plan} {blueprint : Blueprint} {source : BudgetSource} {old matrix : OutputMatrix}
  {expected : Nat} {origin : SeedOrigin} {tasks : Nat}

theorem complete_fillCrew (made : plan.Made blueprint source)
    (allocated : old.allocate blueprint.grid.rows blueprint.grid.cols plan.sparse expected =
      .ok matrix)
    (cells_lt : blueprint.grid.rows * blueprint.grid.cols < Size.limit) {crew : Crew}
    (manned : plan.fillCrew origin tasks matrix = .ok crew) : crew.Complete := by
  obtain rfl := made.blueprint_eq
  obtain ⟨visits, visits_eq, solo | ⟨table, spans, shares, -, countable, size_eq, tile, serves,
    rfl⟩⟩ := made.fillCrew_cases allocated manned
  · obtain ⟨region, -, solo⟩ := bind_eq_ok.mp solo
    obtain ⟨rule, rule_made, solo⟩ := bind_eq_ok.mp solo
    obtain ⟨writes, drawn, solo⟩ := bind_eq_ok.mp solo
    obtain rfl := Except.ok.inj solo
    have counts := made.counts_of_rule rule_made
    rw [FillRule.windowWrites_eq_writesFrom, counts.blocksAcross_eq] at drawn
    obtain rfl := Except.ok.inj drawn
    have seeded : ∀ visit block, plan.window.blocks[visit]? = some block →
        ∃ seed, visits.get visit block = .ok seed := by
      intro visit block found
      rw [← BlockWindow.number_eq_visit found]
      exact SeedOrigin.get_windowSeeds visits_eq
        (BlockWindow.has_of_mem_all (List.mem_of_getElem? found))
    intro worker member
    obtain rfl := List.mem_singleton.mp member
    apply Option.eq_none_iff_forall_ne_some.mpr
    intro failure failed
    have uncounted := (made.uncounted_of_blocks rule_made
      (fun _ member => BlockWindow.has_of_mem_all member) seeded failed).2
    omega
  · exact countable.complete_crew size_eq tile serves

end Plan.Made

theorem Blueprint.Begins.inBounds {blueprint : Blueprint} {source : BudgetSource}
    {origin : SeedOrigin} {tasks : Nat} {session : Session} {plan : Plan} {matrix : OutputMatrix}
    {crew reached : Crew} (begins : blueprint.Begins source origin tasks session plan matrix crew)
    (cells_lt : blueprint.grid.rows * blueprint.grid.cols < Size.limit)
    (run : crew.Reaches reached) :
    reached.InBounds blueprint.grid.rows blueprint.grid.cols := by
  have complete := (Plan.made_ofBlueprint begins.planned).complete_fillCrew begins.allocated
    cells_lt begins.manned
  exact (begins.orderly.reaches run).separate.inBounds (complete.reaches run)

/-! ## The shares -/

/-- Whether spans of blocks are cut into shares within bounds: their spans of cells are computed and
tile the axis, each share has the region of its span of cells, and this region holds every cell of
every block of the share. -/
structure Plan.CutsInBounds (plan : Plan) (matrix : OutputMatrix) (axis : Axis)
    (seeds : Array UInt64) (spans cells : List Span) (shares : List Share) : Prop where
  cells_eq : Share.cellSpans plan.blueprint.grid axis spans = .ok cells
  tile : Span.Tile 0 cells (Share.extentOf plan.blueprint.grid axis)
  shares_eq : Share.ofSpans matrix plan.blueprint.grid axis plan.blocksDown plan.blocksAcross seeds
    spans = .ok shares
  regions : List.Forall₂ (fun span share => share.region = matrix.regionAt axis span span.start)
    cells shares
  inside : ∀ share ∈ shares, ∀ block ∈ share.window.blocks,
    ∀ cell ∈ plan.blueprint.grid.cells block, share.region.contains cell.1 cell.2 = true

/-- The blocks of a plan are cut within bounds. -/
theorem Plan.Made.cutsInBounds {plan : Plan} {blueprint : Blueprint} {source : BudgetSource}
    (made : plan.Made blueprint source) {old matrix : OutputMatrix} {expected tasks : Nat}
    (allocated : old.allocate blueprint.grid.rows blueprint.grid.cols plan.sparse expected =
      .ok matrix)
    {generator : Random.Well} {seeds : Array UInt64}
    (drawn : SeedTable.draw generator plan.blocksDown plan.blocksAcross = .ok seeds)
    (tasks_pos : 0 < tasks) {spans : List Span}
    (cut : Share.blockSpans (plan.sharedAxis tasks) plan.blocksDown plan.blocksAcross tasks =
      .ok spans) :
    ∃ cells shares, plan.CutsInBounds matrix (plan.sharedAxis tasks) seeds spans cells shares := by
  obtain rfl := made.blueprint_eq
  obtain ⟨shares, tile, shares_ok, serves⟩ := made.exists_shares allocated drawn tasks_pos cut
  refine ⟨_, shares, Share.cellSpans_eq made.counts tile, Share.tile_cells made.counts tile,
    shares_ok, List.forall₂_map_left_iff.mpr (serves.imp fun _ _ serves => serves.region_eq), ?_⟩
  intro share member block block_mem cell cell_mem
  obtain ⟨blocks, -, share_serves⟩ := Share.exists_related serves member
  exact (suits_allocate allocated).covers share_serves block_mem
    ((BlockGrid.mem_cells 0.0).mp cell_mem)

/-! ## Generation -/

namespace Blueprint

variable {blueprint : Blueprint} {table : Array Nat} {origin : SeedOrigin} {tasks : Nat}
  {session after : Session} {failure : Failure}

/-- How a generation with enough budgets fails if its cells can be counted. -/
theorem error_cases (cells_lt : blueprint.grid.rows * blueprint.grid.cols < Size.limit)
    (enough : blueprint.grid.tiles ≤ table.size)
    (failed : blueprint.generate (.table table) origin tasks session = .error failure after) :
    failure = .fault .storageTooLarge ∨
      (BlockGrid.maxBlocks < blueprint.grid.tiles ∧ failure = .refusal (.shape
        (.tooManyBlocks blueprint.grid.rows blueprint.grid.cols blueprint.grid.tiles))) ∨
      (failure = .fault .overflow ∧ blueprint.needsNoDraws = false ∧
        (Size.limit ≤ blueprint.grid.rows + blueprint.grid.blockHeight ∨
          Size.limit ≤ blueprint.grid.cols + blueprint.grid.blockWidth)) := by
  cases draws : blueprint.needsNoDraws with
  | true =>
      rw [generate, if_pos draws] at failed
      obtain ⟨fault, refill_failed, rfl⟩ := error_of_generateConstant failed
      rw [OutputMatrix.refill_onlyTooLarge _ cells_lt _ fault refill_failed]
      exact .inl rfl
  | false =>
      rcases error_of_generate draws failed with ⟨unplanned, -⟩ | tooLarge | ⟨-, uncounted⟩
      · rcases Plan.ofBlueprint_cases cells_lt enough origin with
          ⟨-, plan, planned⟩ | ⟨-, many, refused⟩ | ⟨edge, overflows⟩
        · rw [planned] at unplanned
          contradiction
        · rw [refused] at unplanned
          exact .inr (.inl ⟨many, (Except.error.inj unplanned).symm⟩)
        · rw [overflows] at unplanned
          exact .inr (.inr ⟨(Except.error.inj unplanned).symm, rfl, edge⟩)
      · exact .inl tooLarge
      · omega

/-- A generation that draws overflows if an axis and its blocks are too long together. -/
theorem generate_overflows (draws : blueprint.needsNoDraws = false)
    (cells_lt : blueprint.grid.rows * blueprint.grid.cols < Size.limit)
    (enough : blueprint.grid.tiles ≤ table.size)
    (edge : Size.limit ≤ blueprint.grid.rows + blueprint.grid.blockHeight ∨
      Size.limit ≤ blueprint.grid.cols + blueprint.grid.blockWidth) :
    blueprint.generate (.table table) origin tasks session =
      .error (.fault .overflow) session := by
  rcases Plan.ofBlueprint_cases cells_lt enough origin with
    ⟨fits, -⟩ | ⟨fits, -⟩ | ⟨-, overflows⟩
  · obtain ⟨rows_lt, cols_lt, -⟩ := fits
    omega
  · obtain ⟨rows_lt, cols_lt, -⟩ := fits
    omega
  · rw [generate, if_neg (by simp [draws])]
    exact Action.bind_error.mpr (.inl (Action.lift_error.mpr ⟨overflows, rfl⟩))

/-- A generation whose cells can be counted stays in bounds, with enough budgets, for all seeds and
any number of tasks. It faults only by storage that is too large, except that it overflows exactly
if it draws and the lengths of an axis and of its blocks add up to the first number that is no size;
too many blocks are refused. The number of non-zero cells that it keeps is at most that of all
cells. Along every run of its crew, each put is one of a cell of its region; the cells of the tasks
tile the axis, and the region of each task holds all cells of its blocks. -/
theorem generation_in_bounds
    (rows_le : blueprint.grid.rows + blueprint.grid.blockHeight ≤ Size.limit)
    (cols_le : blueprint.grid.cols + blueprint.grid.blockWidth ≤ Size.limit)
    (cells_lt : blueprint.grid.rows * blueprint.grid.cols < Size.limit)
    (enough : blueprint.grid.tiles ≤ table.size) (origin : SeedOrigin) (tasks : Nat)
    (session : Session) :
    ((∃ after, blueprint.generate (.table table) origin tasks session =
        .error (.fault .overflow) after) ↔
      blueprint.needsNoDraws = false ∧
        (blueprint.grid.rows + blueprint.grid.blockHeight = Size.limit ∨
          blueprint.grid.cols + blueprint.grid.blockWidth = Size.limit)) ∧
    (∀ fault after, blueprint.generate (.table table) origin tasks session =
        .error (.fault fault) after → fault = .overflow ∨ fault = .storageTooLarge) ∧
    (∀ refusal after, blueprint.generate (.table table) origin tasks session =
        .error (.refusal refusal) after →
      BlockGrid.maxBlocks < blueprint.grid.tiles ∧ refusal = .shape (.tooManyBlocks
        blueprint.grid.rows blueprint.grid.cols blueprint.grid.tiles)) ∧
    (∀ after, blueprint.generate (.table table) origin tasks session = .ok () after →
      after.matrix.nonZeros ≤ blueprint.grid.rows * blueprint.grid.cols) ∧
    (∀ plan matrix crew reached,
      blueprint.Begins (.table table) origin tasks session plan matrix crew →
        crew.Reaches reached → reached.InBounds blueprint.grid.rows blueprint.grid.cols) ∧
    ∀ plan matrix generator seeds spans,
      Plan.ofBlueprint blueprint (.table table) origin = .ok plan →
        session.matrix.allocate blueprint.grid.rows blueprint.grid.cols plan.sparse
          plan.expectedNonZeros = .ok matrix →
        SeedTable.draw generator plan.blocksDown plan.blocksAcross = .ok seeds → 0 < tasks →
        Share.blockSpans (plan.sharedAxis tasks) plan.blocksDown plan.blocksAcross tasks =
          .ok spans →
      ∃ cells shares,
        plan.CutsInBounds matrix (plan.sharedAxis tasks) seeds spans cells shares := by
  refine ⟨⟨?_, ?_⟩, ?_, ?_, ?_, ?_, ?_⟩
  · rintro ⟨after, failed⟩
    rcases error_cases cells_lt enough failed with contra | ⟨-, contra⟩ | ⟨-, draws, edge⟩
    · exact absurd (Failure.fault.inj contra) nofun
    · contradiction
    · exact ⟨draws, edge.imp rows_le.antisymm cols_le.antisymm⟩
  · rintro ⟨draws, edge⟩
    exact ⟨session, generate_overflows draws cells_lt enough (edge.imp Eq.ge Eq.ge)⟩
  · intro fault after failed
    rcases error_cases cells_lt enough failed with same | ⟨-, contra⟩ | ⟨same, -⟩
    · exact .inr (Failure.fault.inj same)
    · contradiction
    · exact .inl (Failure.fault.inj same)
  · intro refusal after failed
    rcases error_cases cells_lt enough failed with contra | ⟨many, same⟩ | ⟨contra, -⟩
    · contradiction
    · exact ⟨many, Failure.refusal.inj same⟩
    · contradiction
  · intro after ran
    obtain ⟨consistent, rows_eq, cols_eq⟩ := consistent_of_generate ran
    rw [← rows_eq, ← cols_eq]
    exact consistent.nonZeros_le
  · intro plan matrix crew reached begins run
    exact begins.inBounds cells_lt run
  · intro plan matrix generator seeds spans planned allocated drawn tasks_pos cut
    exact (Plan.made_ofBlueprint planned).cutsInBounds allocated drawn tasks_pos cut

/-- The row of two blocks is generated within bounds. -/
theorem one_row_in_bounds :
    (∀ fault after, oneRow.generate (.table #[1, 1]) (.shared 7) 1 ⟨.unallocated 0 0 false, #[]⟩ =
      .error (.fault fault) after → fault = .storageTooLarge) ∧
    ∃ after, oneRow.generate (.table #[1, 1]) (.shared 7) 1 ⟨.unallocated 0 0 false, #[]⟩ =
      .ok () after ∧ after.matrix.nonZeros ≤ 20 := by
  have rows_le : 1 + 1 ≤ Size.limit := by decide
  have cols_le : 20 + 10 ≤ Size.limit := by decide
  have cells_lt : 1 * 20 < Size.limit := by decide
  obtain ⟨overflows, faults, -, counted, -⟩ := @generation_in_bounds oneRow #[1, 1] rows_le
    cols_le cells_lt le_rfl (.shared 7) 1 ⟨.unallocated 0 0 false, #[]⟩
  constructor
  · intro fault after failed
    apply (faults fault after failed).resolve_left
    rintro rfl
    obtain ⟨-, edge⟩ := overflows.mp ⟨after, failed⟩
    exact absurd edge (by decide)
  · have succeeds : (oneRow.generate (.table #[1, 1]) (.shared 7) 1).succeeds
        ⟨.unallocated 0 0 false, #[]⟩ = true := by decide +kernel
    obtain ⟨after, ran⟩ := Action.exists_of_succeeds succeeds
    exact ⟨after, ran, counted after ran⟩

/-- A matrix of one cell in one block, which is as high as a size can be. -/
def tallCell : Blueprint :=
  { Plan.oneCell with
    grid := ⟨1, 1, 0xffff_ffff_ffff_ffff, 1⟩
    rows_pos := Nat.one_pos
    cols_pos := Nat.one_pos
    blockHeight_pos := Nat.succ_pos _
    blockWidth_pos := Nat.one_pos }

/-- Though its one cell could be stored, the tall block overflows. -/
theorem tall_cell_overflows :
    tallCell.grid.rows + tallCell.grid.blockHeight ≤ Size.limit ∧
      tallCell.grid.cols + tallCell.grid.blockWidth ≤ Size.limit ∧
      tallCell.grid.rows * tallCell.grid.cols < Size.limit ∧ tallCell.grid.tiles = 1 ∧
      (∀ (old : OutputMatrix) (sparse : Bool), ∃ matrix,
        old.allocate tallCell.grid.rows tallCell.grid.cols sparse 1 = .ok matrix) ∧
      ∃ after, tallCell.generate (.table #[1]) (.shared 7) 1 ⟨.unallocated 0 0 false, #[]⟩ =
        .error (.fault .overflow) after := by
  have draws : tallCell.needsNoDraws = false := by decide +kernel
  refine ⟨le_rfl, by decide, by decide, rfl, fun old sparse => ?_, ?_⟩
  · cases sparse <;> exact ⟨_, rfl⟩
  · exact ⟨_, generate_overflows draws (by decide) le_rfl (.inl le_rfl)⟩

end Blueprint

end SeededMatrix
