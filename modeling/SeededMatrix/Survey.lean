import SeededMatrix.Progression
import SeededMatrix.Sample
import SeededMatrix.Settings

/-!
# A survey of the generators

A fixed tour through the library: four matrices that take different ways of filling, one progression
and one sample, each told in a line of text.
-/

namespace SeededMatrix.Survey

/-- A text moved to the right end of a field. -/
def flushRight (width : Nat) (text : String) : String :=
  String.ofList (text.toList.leftpad width ' ')

/-- A text moved to the left end of a field. -/
def flushLeft (width : Nat) (text : String) : String :=
  String.ofList (text.toList.rightpad width ' ')

/-- One matrix of the tour. -/
structure Case where
  name : String
  rows : Nat
  cols : Nat
  density : Float
  parameters : Option String

/-- The matrices of the tour: dense and sparse uniform values, normal values and Poisson counts. -/
def cases : List Case :=
  [⟨"uniform", 2000, 2000, 0.8, none⟩, ⟨"uniform", 4000, 1000, 0.01, none⟩,
    ⟨"normal", 1500, 1500, 0.3, none⟩, ⟨"poisson", 1000, 3000, 0.5, some "4"⟩]

/-- The settings of the tour. -/
def settings : Settings :=
  (Settings.initial.fixSeed 7).fixBlockShape 500 500

/-- The written form of a seed that may be absent. -/
def seedText : Option UInt64 → String
  | some seed => s!"Some({seed.toNat})"
  | none => "None"

/-- The lines about the settings. -/
def settingsLines (tasks : Nat) : List String :=
  ["Configuration:", s!"  Threads: {tasks}",
    s!"  Block size: {settings.blockHeight}x{settings.blockWidth}",
    "  Seed: " ++ seedText settings.seed]

/-- The matrix that an action makes of an empty one. -/
def made (action : Action Unit) : Except Failure OutputMatrix :=
  match action.run ⟨.unallocated 0 0 false, #[]⟩ with
  | .ok () session => .ok session.matrix
  | .error failure _ => .error failure

/-- The line about one matrix: its shape, the density that was wanted and the one that was met. -/
def caseLine (tasks : Nat) (item : Case) : Except Failure String := do
  let blueprint ← settings.blueprint item.name item.rows item.cols item.density 0.0 1.0
    item.parameters
  let matrix ← made (settings.generate blueprint 0 tasks)
  let density := Size.toFloat matrix.nonZeros /
    (Size.toFloat item.rows * Size.toFloat item.cols)
  return "  " ++ flushRight 8 item.name ++ " " ++ flushRight 5 (toString item.rows) ++ "x" ++
    flushLeft 5 (toString item.cols) ++ " target " ++ Decimal.fixed 3 item.density ++ "  nnz " ++
    flushRight 9 (toString matrix.nonZeros) ++ "  density " ++ Decimal.fixed 4 density ++ "  " ++
    Layout.word matrix.sparse

/-- A number with at least one place behind the point. -/
def numberText (value : Float) : String :=
  let text := Decimal.shortest value
  if text.contains '.' then text else text ++ ".0"

/-- The values of the first column of a matrix, from the top to the bottom. -/
def columnText (matrix : OutputMatrix) : Except Failure String := do
  let values ← (List.range matrix.rows).mapM fun row => do
    return numberText (← matrix.get row 0)
  return "[" ++ ", ".intercalate values ++ "]"

/-- All lines of the tour, with the number of tasks that fill each matrix. -/
def lines (tasks : Nat) : Except Failure (List String) := do
  let matrices ← cases.mapM (caseLine tasks)
  let progression ← made (Progression.generate 10.0 1.0 (Progression.increment 10.0 1.0 1.0))
  let sample ← made (Sample.generate 100 10 false 42)
  return ["datagen " ++ version ++ ": block-parallel random matrix generation", ""] ++
    settingsLines tasks ++ ["", "Random matrices:"] ++ matrices ++
    ["", "Sequence 10 -> 1: " ++ (← columnText progression),
      "Sample of 10 from [1, 100]: " ++ (← columnText sample)]

end SeededMatrix.Survey
