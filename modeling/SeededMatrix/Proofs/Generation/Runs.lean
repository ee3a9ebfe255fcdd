import SeededMatrix.Proofs.Fill.Crew
import SeededMatrix.Proofs.Generation.Stages

/-!
# The runs of a filling

Whether a matrix is filled in order or shared out, its filling is a run of a crew: one worker for
the whole matrix, or one for each share. The crew of a generation is orderly from the start, and the
filled matrix is always the one of filling in order.
-/

namespace SeededMatrix

/-- The seeds that blocks are visited with. -/
def SeedOrigin.windowSeeds (down across : Nat) : SeedOrigin → Except Fault WindowSeeds
  | .drawn generator => do return .table (← SeedTable.draw generator down across)
  | .shared seed => .ok (.single seed)

theorem SeedTable.draw_spec {generator : Random.Well} {down across : Nat} {table : Array UInt64}
    (drawn : draw generator down across = .ok table) :
    table.size = down * across ∧ Size.reserve table.size 8 = .ok () := by
  have size_append : ∀ count (taken : Array UInt64) (state : Random.Well),
      (Random.Well.appendWords64 count taken state).1.size = taken.size + count := by
    intro count
    induction count with
    | zero => exact fun _ _ => rfl
    | succ count induction =>
        intro taken state
        rw [Random.Well.appendWords64, induction, Array.size_push]
        omega
  obtain ⟨blocks, counted, drawn⟩ := bind_eq_ok.mp drawn
  obtain ⟨⟨⟩, reserved, drawn⟩ := bind_eq_ok.mp drawn
  obtain ⟨-, rfl⟩ := Size.mul_eq_ok.mp counted
  obtain rfl := Except.ok.inj drawn
  have size_eq := size_append (down * across) #[] generator
  rw [Random.Well.drawWords64, size_eq]
  exact ⟨by simp, by simpa using reserved⟩

namespace Plan

variable {plan : Plan} {matrix filled : OutputMatrix} {tasks : Nat}

theorem Made.countable {blueprint : Blueprint} {source : BudgetSource}
    (made : plan.Made blueprint source) {cells : Nat}
    (counted : Size.mul plan.blueprint.grid.rows plan.blueprint.grid.cols = .ok cells) :
    plan.Countable := by
  obtain ⟨rfl, counts, blocks_le, -, budgets_enough⟩ := made
  have max_lt : BlockGrid.maxBlocks < Size.limit := by decide
  exact ⟨counts, by omega, (Size.mul_eq_ok.mp counted).1, budgets_enough⟩

/-- The writes of all blocks are writes of cells of the matrix, from left to right in each row. -/
theorem Made.window_spec {blueprint : Blueprint} {source : BudgetSource}
    (made : plan.Made blueprint source) {old : OutputMatrix} {expected : Nat}
    (allocated : old.allocate blueprint.grid.rows blueprint.grid.cols plan.sparse expected =
      .ok matrix)
    {rule : FillRule} (rule_made : FillRule.ofBlueprint blueprint = .ok rule)
    {visits : WindowSeeds} {writes : Writes}
    (drawn : rule.windowWrites plan.window plan.budgets visits = .ok writes) :
    (∀ write ∈ writes.toList, write.Within blueprint.grid.rows blueprint.grid.cols) ∧
      (∀ write ∈ writes.toList,
        (matrix.regionAt .rows (.upTo matrix.rows) 0).Covers write) ∧
      LeftToRight writes.toList := by
  have counts := made.counts_of_rule rule_made
  obtain ⟨held, ordered⟩ := FillRule.windowWrites_spec counts
    (fun _ member => BlockWindow.has_of_mem_all member) drawn
  have within : ∀ write ∈ writes.toList,
      write.Within blueprint.grid.rows blueprint.grid.cols := by
    intro write member
    obtain ⟨block, -, holds⟩ := held write member
    rw [← FillRule.blueprint_ofBlueprint rule_made]
    exact holds.within
  refine ⟨within, fun write member => matrix.covers_whole ?_, ordered⟩
  rw [OutputMatrix.allocate_eq allocated]
  exact within write member

theorem tasks_pos_of_sharesOut {axis : Axis} {cells : Nat}
    (sharesOut : plan.sharesOut axis tasks cells matrix = true) : 0 < tasks := by
  simp only [Plan.sharesOut, Bool.and_eq_true, decide_eq_true_eq] at sharesOut
  omega

/-- The spans of blocks that the tasks get tile the blocks of their axis, and each gets its share.
-/
theorem Made.exists_shares {blueprint : Blueprint} {source : BudgetSource}
    (made : plan.Made blueprint source) {old : OutputMatrix} {expected : Nat}
    (allocated : old.allocate plan.blueprint.grid.rows plan.blueprint.grid.cols plan.sparse
      expected = .ok matrix)
    {generator : Random.Well} {table : Array UInt64}
    (drawn : SeedTable.draw generator plan.blocksDown plan.blocksAcross = .ok table)
    (tasks_pos : 0 < tasks) {spans : List Span}
    (cut : Share.blockSpans (plan.sharedAxis tasks) plan.blocksDown plan.blocksAcross tasks =
      .ok spans) :
    ∃ shares, Span.Tile 0 spans
        (Share.blocksOn (plan.sharedAxis tasks) plan.blocksDown plan.blocksAcross) ∧
      Share.ofSpans matrix plan.blueprint.grid (plan.sharedAxis tasks) plan.blocksDown
        plan.blocksAcross table spans = .ok shares ∧
      List.Forall₂ (Share.Serves matrix plan.blueprint.grid (plan.sharedAxis tasks) plan.blocksDown
        plan.blocksAcross table) spans shares := by
  obtain rfl := made.blueprint_eq
  obtain ⟨size_eq, stored⟩ := SeedTable.draw_spec drawn
  obtain ⟨-, tile⟩ := Share.tile_blockSpans tasks_pos cut
  obtain ⟨shares, shares_ok, serves⟩ := ofSpans_ok made.counts allocated size_eq stored tile
  exact ⟨shares, tile, shares_ok, serves⟩

/-- Shared out among tasks, an allocated matrix is filled as it is in order, also if that fails. -/
theorem Made.fillShared_eq {blueprint : Blueprint} {source : BudgetSource}
    (made : plan.Made blueprint source) {cells : Nat}
    (counted : Size.mul plan.blueprint.grid.rows plan.blueprint.grid.cols = .ok cells)
    {old : OutputMatrix} {expected : Nat}
    (allocated : old.allocate plan.blueprint.grid.rows plan.blueprint.grid.cols plan.sparse
      expected = .ok matrix)
    {generator : Random.Well} {table : Array UInt64}
    (drawn : SeedTable.draw generator plan.blocksDown plan.blocksAcross = .ok table)
    (sharesOut : plan.sharesOut (plan.sharedAxis tasks) tasks cells matrix = true)
    {spans : List Span}
    (cut : Share.blockSpans (plan.sharedAxis tasks) plan.blocksDown plan.blocksAcross tasks =
      .ok spans) :
    plan.fillShared table (plan.sharedAxis tasks) spans matrix =
      plan.fillInOrder (.table table) matrix := by
  have tasks_pos := tasks_pos_of_sharesOut sharesOut
  obtain ⟨shares, tile, shares_ok, serves⟩ := made.exists_shares allocated drawn tasks_pos cut
  rw [fillShared, shares_ok, ok_bind]
  exact (made.countable counted).run_eq (suits_allocate allocated) (SeedTable.draw_spec drawn).1
    (sharedAxis_of_sparse allocated tasks) tile serves (.refl _)

/-- However a matrix was filled, filling it in order fills it alike. -/
theorem Filled.fillInOrder_eq {blueprint : Blueprint} {source : BudgetSource} {seeds : SeedOrigin}
    (filling : plan.Filled tasks matrix filled seeds) (made : plan.Made blueprint source)
    {old : OutputMatrix} {expected : Nat}
    (allocated : old.allocate plan.blueprint.grid.rows plan.blueprint.grid.cols plan.sparse
      expected = .ok matrix) :
    ∃ visits, seeds.windowSeeds plan.blocksDown plan.blocksAcross = .ok visits ∧
      plan.fillInOrder visits matrix = .ok filled := by
  cases filling with
  | single inOrder => exact ⟨_, rfl, inOrder⟩
  | inOrder drawn _ _ inOrder =>
      refine ⟨_, ?_, inOrder⟩
      rw [SeedOrigin.windowSeeds, drawn]
      rfl
  | shared drawn counted sharesOut cut shared =>
      refine ⟨_, ?_, made.fillShared_eq counted allocated drawn sharesOut cut ▸ shared⟩
      rw [SeedOrigin.windowSeeds, drawn]
      rfl

theorem eq_withStorage {visits : WindowSeeds}
    (inOrder : plan.fillInOrder visits matrix = .ok filled) :
    filled = matrix.withStorage filled.storage := by
  obtain ⟨region, -, inOrder⟩ := bind_eq_ok.mp inOrder
  obtain ⟨rule, -, inOrder⟩ := bind_eq_ok.mp inOrder
  obtain ⟨writes, -, inOrder⟩ := bind_eq_ok.mp inOrder
  rw [OutputMatrix.putAll_eq] at inOrder
  cases put : writes.putThrough region matrix.storage with
  | error failure =>
      rw [put] at inOrder
      contradiction
  | ok after =>
      rw [put] at inOrder
      obtain rfl := Except.ok.inj inOrder
      rfl

/-! ## The crew of a generation -/

/-- The crew of filling in order: one worker for the whole matrix. -/
def soloCrew (plan : Plan) (visits : WindowSeeds) (matrix : OutputMatrix) :
    Except Failure Crew := do
  let region ← matrix.wholeRegion
  let rule ← FillRule.ofBlueprint plan.blueprint
  let writes ← rule.windowWrites plan.window plan.budgets visits
  return ⟨matrix.storage, [⟨0, region, writes⟩]⟩

/-- The crew that fills an allocated matrix: of shares if the blocks are shared out. -/
def fillCrew (plan : Plan) (seeds : SeedOrigin) (tasks : Nat) (matrix : OutputMatrix) :
    Except Failure Crew :=
  match seeds with
  | .shared seed => plan.soloCrew (.single seed) matrix
  | .drawn generator => do
      let table ← SeedTable.draw generator plan.blocksDown plan.blocksAcross
      let cells ← Size.mul plan.blueprint.grid.rows plan.blueprint.grid.cols
      if plan.sharesOut (plan.sharedAxis tasks) tasks cells matrix then
        let spans ← Share.blockSpans (plan.sharedAxis tasks) plan.blocksDown plan.blocksAcross tasks
        let shares ← Share.ofSpans matrix plan.blueprint.grid (plan.sharedAxis tasks)
          plan.blocksDown plan.blocksAcross table spans
        return plan.crew matrix shares
      else plan.soloCrew (.table table) matrix

/-- The crew of an allocated matrix is one worker for all blocks, or one for each share of them. -/
theorem Made.fillCrew_cases {blueprint : Blueprint} {source : BudgetSource}
    (made : plan.Made blueprint source) {old : OutputMatrix} {expected : Nat}
    (allocated : old.allocate plan.blueprint.grid.rows plan.blueprint.grid.cols plan.sparse
      expected = .ok matrix) {origin : SeedOrigin} {crew : Crew}
    (crew_ok : plan.fillCrew origin tasks matrix = .ok crew) :
    ∃ visits, origin.windowSeeds plan.blocksDown plan.blocksAcross = .ok visits ∧
      (plan.soloCrew visits matrix = .ok crew ∨
        ∃ table spans shares, visits = .table table ∧ plan.Countable ∧
          table.size = plan.blocksDown * plan.blocksAcross ∧
          Span.Tile 0 spans
            (Share.blocksOn (plan.sharedAxis tasks) plan.blocksDown plan.blocksAcross) ∧
          List.Forall₂ (Share.Serves matrix plan.blueprint.grid (plan.sharedAxis tasks)
            plan.blocksDown plan.blocksAcross table) spans shares ∧
          crew = plan.crew matrix shares) := by
  cases origin with
  | shared seed => exact ⟨_, rfl, .inl crew_ok⟩
  | drawn generator =>
      obtain ⟨table, drawn, crew_ok⟩ := bind_eq_ok.mp crew_ok
      obtain ⟨cells, counted, crew_ok⟩ := bind_eq_ok.mp crew_ok
      rw [lift_eq_ok] at drawn counted
      refine ⟨.table table, ?_, ?_⟩
      · rw [SeedOrigin.windowSeeds, drawn]
        rfl
      split at crew_ok
      next sharesOut =>
        obtain ⟨spans, cut, crew_ok⟩ := bind_eq_ok.mp crew_ok
        obtain ⟨shares, shares_ok, crew_ok⟩ := bind_eq_ok.mp crew_ok
        have tasks_pos := tasks_pos_of_sharesOut sharesOut
        obtain ⟨served, tile, served_ok, serves⟩ :=
          made.exists_shares allocated drawn tasks_pos (lift_eq_ok.mp cut)
        obtain rfl := Except.ok.inj (shares_ok.symm.trans served_ok)
        exact .inr ⟨table, spans, shares, rfl, made.countable counted,
          (SeedTable.draw_spec drawn).1, tile, serves, (Except.ok.inj crew_ok).symm⟩
      next => exact .inl crew_ok

/-- Filling in order is a run of its crew. -/
theorem ends_of_fillInOrder {visits : WindowSeeds}
    (inOrder : plan.fillInOrder visits matrix = .ok filled) :
    ∃ crew, plan.soloCrew visits matrix = .ok crew ∧ crew.Ends (.ok filled.storage) := by
  obtain ⟨region, region_ok, inOrder⟩ := bind_eq_ok.mp inOrder
  obtain ⟨rule, made, inOrder⟩ := bind_eq_ok.mp inOrder
  obtain ⟨writes, drawn, inOrder⟩ := bind_eq_ok.mp inOrder
  obtain ⟨last, run, ends⟩ := Crew.putThrough_run [] [] 0 region writes matrix.storage
  refine ⟨⟨matrix.storage, [⟨0, region, writes⟩]⟩, ?_, last, run, ?_⟩
  · rw [soloCrew, region_ok, ok_bind, made, ok_bind, drawn]
    rfl
  · rw [OutputMatrix.putAll_eq] at inOrder
    cases put : writes.putThrough region matrix.storage with
    | error failure =>
        rw [put] at inOrder
        contradiction
    | ok after =>
        rw [put] at inOrder ends
        obtain rfl := Except.ok.inj inOrder
        subst ends
        exact .finished (by simp)

/-- Every filling is a run of its crew. -/
theorem Filled.ends {seeds : SeedOrigin} (filling : plan.Filled tasks matrix filled seeds) :
    ∃ crew, plan.fillCrew seeds tasks matrix = .ok crew ∧ crew.Ends (.ok filled.storage) := by
  cases filling with
  | single inOrder => exact ends_of_fillInOrder inOrder
  | inOrder drawn counted alone inOrder =>
      obtain ⟨crew, crew_ok, ends⟩ := ends_of_fillInOrder inOrder
      refine ⟨crew, ?_, ends⟩
      rw [fillCrew, drawn, lift_ok, ok_bind, counted, lift_ok, ok_bind, if_neg (by simp [alone])]
      exact crew_ok
  | shared drawn counted sharesOut cut shared =>
      obtain ⟨shares, shares_ok, shared⟩ := bind_eq_ok.mp shared
      obtain ⟨outcome, run_eq, ends⟩ :=
        Share.run_ends plan.blueprint plan.budgets shares matrix
      refine ⟨plan.crew matrix shares, ?_, ?_⟩
      · rw [fillCrew, drawn, lift_ok, ok_bind, counted, lift_ok, ok_bind, if_pos sharesOut, cut,
          lift_ok, ok_bind, shares_ok]
        rfl
      · rw [shared] at run_eq
        cases outcome with
        | error failure => contradiction
        | ok storage =>
            obtain rfl := Except.ok.inj run_eq
            exact ends

end Plan

end SeededMatrix
