import SeededMatrix.Generate

/-!
# Settings

The parameters of the whole pipeline that do not belong to one matrix: seeds, number of tasks and
the shape of blocks. A matrix is made by estimating its budgets, setting up its seeds and generating
it.
-/

namespace SeededMatrix

open SeededMatrix.Random

/-- The version of the library. -/
def version : String := "0.1.0"

/-- Parameters of the pipeline. -/
structure Settings where
  /-- The root seed; a fresh one is drawn for each matrix if there is none. -/
  seed : Option UInt64
  /-- The seed of the coins of scarce matrices; the root seed if there is none. -/
  budgetSeed : Option UInt64
  /-- The number of tasks; that of the machine if none is set. -/
  tasks : Option Nat
  blockHeight : Nat
  blockWidth : Nat
deriving Repr

namespace Settings

/-- Rows, and columns, of a block unless set otherwise. -/
def standardBlockSide : Nat := 1000

/-- The settings to start from: no seeds, and blocks of the default shape. -/
def initial : Settings :=
  ⟨none, none, none, standardBlockSide, standardBlockSide⟩

/-- Fixes the root seed. -/
def fixSeed (settings : Settings) (seed : UInt64) : Settings :=
  { settings with seed := some seed }

/-- Fixes or frees the seed of the coins. -/
def fixBudgetSeed (settings : Settings) (seed : Option UInt64) : Settings :=
  { settings with budgetSeed := seed }

/-- Fixes the number of tasks. -/
def fixTasks (settings : Settings) (tasks : Nat) : Settings :=
  { settings with tasks := some tasks }

/-- Fixes the shape of blocks. -/
def fixBlockShape (settings : Settings) (blockHeight blockWidth : Nat) : Settings :=
  { settings with blockHeight, blockWidth }

/-- A blueprint with blocks of the set shape. -/
def blueprint (settings : Settings) (name : String) (rows cols : Nat)
    (density least greatest : Float) (parameters : Option String) : Except Refusal Blueprint :=
  Blueprint.ofName name ⟨rows, cols, settings.blockHeight, settings.blockWidth⟩ density least
    greatest parameters

/-- Sets up the source of block seeds from a root seed, and tells so. -/
def rootOrigin (seed : UInt64) : Action SeedOrigin := do
  Action.tell (.rootSeed seed)
  return .drawn (Well.ofRoot seed)

/-- Makes the matrix of a blueprint in the session. `fresh` is the root seed if none is set,
`machineTasks` the number of tasks. -/
def generate (settings : Settings) (blueprint : Blueprint) (fresh : UInt64) (machineTasks : Nat) :
    Action Unit := do
  let seed := settings.seed.getD fresh
  let budgets ← BudgetStream.ofBlueprint blueprint (settings.budgetSeed.getD seed)
  let seeds ← rootOrigin seed
  blueprint.generate (.stream budgets) seeds (settings.tasks.getD machineTasks)

/-- The matrix of a blueprint, the events on the way to it and the outcome. -/
def run (settings : Settings) (blueprint : Blueprint) (fresh : UInt64) (machineTasks : Nat) :
    EStateM.Result Failure Session Unit :=
  (settings.generate blueprint fresh machineTasks).run
    ⟨.unallocated blueprint.grid.rows blueprint.grid.cols false, #[]⟩

end Settings

end SeededMatrix
