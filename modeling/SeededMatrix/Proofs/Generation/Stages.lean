import SeededMatrix.Generate
import SeededMatrix.Proofs.Fill.Schedules

/-!
# Stages of a generation

A generation that succeeds and does not take the short way has passed through fixed stages: a plan,
an allocated matrix, a filled matrix, and the settling of its layout. Each stage is read off the
action, with what it was computed from.
-/

namespace SeededMatrix

namespace Action

variable {α β : Type} {session after : Session}

theorem bind_ok {first : Action α} {next : α → Action β} {result : β} :
    (first >>= next) session = .ok result after ↔
      ∃ value middle, first session = .ok value middle ∧ next value middle = .ok result after := by
  change EStateM.bind first next session = _ ↔ _
  rw [EStateM.bind]
  cases first session with
  | ok value middle =>
      constructor
      · exact fun rest => ⟨value, middle, rfl, rest⟩
      · rintro ⟨_, _, ⟨rfl, rfl⟩, rest⟩
        exact rest
  | error failure middle => exact ⟨nofun, nofun⟩

theorem lift_ok {computation : Except Failure α} {result : α} :
    (liftM computation : Action α) session = .ok result after ↔
      computation = .ok result ∧ session = after := by
  cases computation with
  | ok value =>
      constructor
      · rintro ⟨rfl, rfl⟩
        exact ⟨rfl, rfl⟩
      · rintro ⟨⟨rfl⟩, rfl⟩
        rfl
  | error failure => exact ⟨nofun, nofun⟩

theorem lift_fault_ok {computation : Except Fault α} {result : α} :
    (liftM computation : Action α) session = .ok result after ↔
      computation = .ok result ∧ session = after := by
  change (liftM (liftM computation : Except Failure α) : Action α) session = _ ↔ _
  rw [lift_ok, lift_eq_ok]

theorem update_ok {change : OutputMatrix → Except Failure OutputMatrix} :
    update change session = .ok () after ↔
      ∃ changed, change session.matrix = .ok changed ∧ ⟨changed, session.events⟩ = after := by
  obtain ⟨matrix, events⟩ := session
  rw [update]
  cases change matrix with
  | ok changed => simp
  | error failure => simp

theorem inspect_ok {look : OutputMatrix → Except Failure α} {result : α} :
    inspect look session = .ok result after ↔
      look session.matrix = .ok result ∧ session = after := by
  rw [inspect]
  cases look session.matrix with
  | ok value => simp
  | error failure => simp

theorem settleLayout_ok :
    settleLayout session = .ok () after →
      ∃ conversion, session.matrix.settleLayout = .ok (after.matrix, conversion) := by
  obtain ⟨matrix, events⟩ := session
  rw [settleLayout]
  cases settled : matrix.settleLayout with
  | error fault => exact nofun
  | ok result =>
      obtain ⟨changed, conversion⟩ := result
      cases conversion with
      | none =>
          rintro ⟨-, rfl⟩
          exact ⟨none, rfl⟩
      | some conversion =>
          rintro ⟨-, rfl⟩
          exact ⟨some conversion, rfl⟩

/-- Whether an action ends without a failure. -/
def succeeds (action : Action α) (session : Session) : Bool :=
  match action session with
  | .ok _ _ => true
  | .error _ _ => false

theorem exists_of_succeeds {action : Action Unit} (succeeds : action.succeeds session = true) :
    ∃ after, action session = .ok () after := by
  rw [Action.succeeds] at succeeds
  cases ran : action session with
  | ok result after => exact ⟨after, rfl⟩
  | error failure after =>
      rw [ran] at succeeds
      contradiction

end Action

/-! ## The plan -/

/-- What is known of a plan once it is made. -/
structure Plan.Made (plan : Plan) (blueprint : Blueprint) (source : BudgetSource) : Prop where
  blueprint_eq : plan.blueprint = blueprint
  counts : blueprint.grid.Counts plan.blocksDown plan.blocksAcross
  blocks_le : plan.blocksDown * plan.blocksAcross ≤ BlockGrid.maxBlocks
  table_eq : source.toTable = .ok plan.budgets
  budgets_enough : plan.blocksDown * plan.blocksAcross ≤ plan.budgets.size

theorem Plan.Made.blocks_counted {plan : Plan} {blueprint : Blueprint} {source : BudgetSource}
    (made : plan.Made blueprint source) : plan.blocksDown * plan.blocksAcross < Size.limit :=
  made.blocks_le.trans_lt (by decide)

theorem Plan.Made.counts_of_rule {plan : Plan} {blueprint : Blueprint} {source : BudgetSource}
    (made : plan.Made blueprint source) {rule : FillRule}
    (rule_made : FillRule.ofBlueprint blueprint = .ok rule) :
    rule.blueprint.grid.Counts plan.blocksDown plan.blocksAcross :=
  FillRule.blueprint_ofBlueprint rule_made ▸ made.counts

theorem Plan.made_ofBlueprint {plan : Plan} {blueprint : Blueprint} {source : BudgetSource}
    {seeds : SeedOrigin} (planned : Plan.ofBlueprint blueprint source seeds = .ok plan) :
    plan.Made blueprint source := by
  rw [ofBlueprint] at planned
  obtain ⟨down, down_ok, planned⟩ := bind_eq_ok.mp planned
  obtain ⟨across, across_ok, planned⟩ := bind_eq_ok.mp planned
  obtain ⟨blocks, blocks_ok, planned⟩ := bind_eq_ok.mp planned
  obtain ⟨budgets, budgets_ok, planned⟩ := bind_eq_ok.mp planned
  rw [lift_eq_ok] at down_ok across_ok budgets_ok
  have counts : blueprint.grid.Counts down across := ⟨down_ok, across_ok⟩
  obtain ⟨rfl, blocks_le⟩ := counts.admittedBlocks_eq_ok.mp blocks_ok
  split at planned
  · obtain ⟨_, refused, -⟩ := bind_eq_ok.mp planned
    exact absurd refused refuseShape_ne_ok
  next enough =>
    obtain ⟨expectedNonZeros, -, planned⟩ := bind_eq_ok.mp planned
    obtain rfl := Except.ok.inj planned
    exact ⟨rfl, counts, blocks_le, budgets_ok, Nat.not_lt.mp enough⟩

/-! ## The filling and what follows it -/

namespace Plan

variable {plan : Plan} {session after : Session}

/-- How the matrix of a plan is filled: in order from one seed, or from a table of seeds that a
generator draws, in order or shared out. -/
inductive Filled (plan : Plan) (tasks : Nat) (matrix filled : OutputMatrix) : SeedOrigin → Prop
  | single {seed : UInt64} (inOrder : plan.fillInOrder (.single seed) matrix = .ok filled) :
      Filled plan tasks matrix filled (.shared seed)
  | inOrder {generator : Random.Well} {table : Array UInt64} {cells : Nat}
      (drawn : SeedTable.draw generator plan.blocksDown plan.blocksAcross = .ok table)
      (counted : Size.mul plan.blueprint.grid.rows plan.blueprint.grid.cols = .ok cells)
      (alone : plan.sharesOut (plan.sharedAxis tasks) tasks cells matrix = false)
      (inOrder : plan.fillInOrder (.table table) matrix = .ok filled) :
      Filled plan tasks matrix filled (.drawn generator)
  | shared {generator : Random.Well} {table : Array UInt64} {cells : Nat} {spans : List Span}
      (drawn : SeedTable.draw generator plan.blocksDown plan.blocksAcross = .ok table)
      (counted : Size.mul plan.blueprint.grid.rows plan.blueprint.grid.cols = .ok cells)
      (sharesOut : plan.sharesOut (plan.sharedAxis tasks) tasks cells matrix = true)
      (cut : Share.blockSpans (plan.sharedAxis tasks) plan.blocksDown plan.blocksAcross tasks =
        .ok spans)
      (shared : plan.fillShared table (plan.sharedAxis tasks) spans matrix = .ok filled) :
      Filled plan tasks matrix filled (.drawn generator)

theorem filled_of_fillFromRoot {generator : Random.Well} {tasks : Nat}
    (ran : plan.fillFromRoot generator tasks session = .ok () after) :
    plan.Filled tasks session.matrix after.matrix (.drawn generator) := by
  rw [fillFromRoot] at ran
  obtain ⟨table, _, draw, ran⟩ := Action.bind_ok.mp ran
  obtain ⟨drawn, rfl⟩ := Action.lift_fault_ok.mp draw
  obtain ⟨cells, _, count, ran⟩ := Action.bind_ok.mp ran
  obtain ⟨counted, rfl⟩ := Action.lift_fault_ok.mp count
  obtain ⟨sharesOut, _, look, ran⟩ := Action.bind_ok.mp ran
  obtain ⟨looked, rfl⟩ := Action.inspect_ok.mp look
  obtain rfl := Except.ok.inj looked
  split at ran
  next sharesOut =>
    obtain ⟨spans, _, spanning, ran⟩ := Action.bind_ok.mp ran
    obtain ⟨cut, rfl⟩ := Action.lift_fault_ok.mp spanning
    obtain ⟨_, _, ⟨rfl, rfl⟩, ran⟩ := Action.bind_ok.mp ran
    obtain ⟨changed, shared, rfl⟩ := Action.update_ok.mp ran
    exact .shared drawn counted sharesOut cut shared
  next alone =>
    obtain ⟨_, _, ⟨rfl, rfl⟩, ran⟩ := Action.bind_ok.mp ran
    obtain ⟨changed, inOrder, rfl⟩ := Action.update_ok.mp ran
    exact .inOrder drawn counted (Bool.eq_false_of_not_eq_true alone) inOrder

theorem stages_of_execute {seeds : SeedOrigin} {tasks : Nat}
    (ran : plan.execute seeds tasks session = .ok () after) :
    ∃ matrix filled conversion,
      session.matrix.allocate plan.blueprint.grid.rows plan.blueprint.grid.cols plan.sparse
        plan.expectedNonZeros = .ok matrix ∧
      plan.Filled tasks matrix filled seeds ∧
      filled.recount.settleLayout = .ok (after.matrix, conversion) := by
  rw [execute] at ran
  obtain ⟨_, _, allocate, ran⟩ := Action.bind_ok.mp ran
  obtain ⟨matrix, allocated, rfl⟩ := Action.update_ok.mp allocate
  rw [lift_eq_ok] at allocated
  have finish : ∀ {middle : Session},
      (discard Action.recount >>= fun _ => Action.settleLayout : Action Unit) middle =
        .ok () after →
        ∃ conversion, middle.matrix.recount.settleLayout = .ok (after.matrix, conversion) := by
    intro middle ran
    obtain ⟨_, _, ⟨-, rfl⟩, settle⟩ := Action.bind_ok.mp ran
    exact Action.settleLayout_ok settle
  cases seeds with
  | drawn generator =>
      obtain ⟨_, _, fill, ran⟩ := Action.bind_ok.mp ran
      obtain ⟨conversion, settled⟩ := finish ran
      exact ⟨matrix, _, conversion, allocated, filled_of_fillFromRoot fill, settled⟩
  | shared seed =>
      obtain ⟨_, _, fill, ran⟩ := Action.bind_ok.mp ran
      obtain ⟨filled, inOrder, rfl⟩ := Action.update_ok.mp fill
      obtain ⟨conversion, settled⟩ := finish ran
      exact ⟨matrix, filled, conversion, allocated, .single inOrder, settled⟩

end Plan

/-- The stages of a generation that draws: the plan, the allocated matrix, the filled matrix, and
the settled one. -/
theorem Blueprint.stages_of_generate {blueprint : Blueprint} {source : BudgetSource}
    {seeds : SeedOrigin} {tasks : Nat} {session after : Session}
    (draws : blueprint.needsNoDraws = false)
    (ran : blueprint.generate source seeds tasks session = .ok () after) :
    ∃ plan matrix filled conversion, Plan.ofBlueprint blueprint source seeds = .ok plan ∧
      session.matrix.allocate plan.blueprint.grid.rows plan.blueprint.grid.cols plan.sparse
        plan.expectedNonZeros = .ok matrix ∧
      plan.Filled tasks matrix filled seeds ∧
      filled.recount.settleLayout = .ok (after.matrix, conversion) := by
  rw [generate, if_neg (by simp [draws])] at ran
  obtain ⟨plan, _, planning, ran⟩ := Action.bind_ok.mp ran
  obtain ⟨planned, rfl⟩ := Action.lift_ok.mp planning
  obtain ⟨matrix, filled, conversion, stages⟩ := Plan.stages_of_execute ran
  exact ⟨plan, matrix, filled, conversion, planned, stages⟩

end SeededMatrix
