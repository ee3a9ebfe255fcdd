import SeededMatrix.BlockGrid
import SeededMatrix.Decimal

/-!
# Blueprints

A blueprint describes one random matrix: the distribution of its values, its shape, the shape of its
blocks and the wanted share of non-zero cells. It is checked once, when it is made; what was checked
is kept with it. A distribution may be given by its name, which is read in any case and with white
space around it.
-/

namespace SeededMatrix

/-! ## White space -/

namespace Text

/-- Inclusive ranges of the code points with the property `White_Space`. -/
def blankRanges : List (Nat × Nat) :=
  [(0x0009, 0x000d), (0x0020, 0x0020), (0x0085, 0x0085), (0x00a0, 0x00a0), (0x1680, 0x1680),
    (0x2000, 0x200a), (0x2028, 0x2029), (0x202f, 0x202f), (0x205f, 0x205f), (0x3000, 0x3000)]

/-- Whether a character is white space. -/
def isBlank (c : Char) : Bool :=
  blankRanges.any fun (first, last) => first ≤ c.toNat && c.toNat ≤ last

/-- The text without the blank characters at its two ends. -/
def trim (text : String) : String :=
  let withoutFront := text.toList.dropWhile isBlank
  String.ofList (withoutFront.reverse.dropWhile isBlank).reverse

end Text

/-! ## Distributions -/

/-- How the values of a matrix are distributed. -/
inductive Distribution
  /-- Uniform between a least and a greatest value. -/
  | uniform
  /-- Standard normal. -/
  | normal
  /-- Poisson counts of a given mean. -/
  | poisson
deriving DecidableEq, Repr

namespace Distribution

/-- The name of a distribution. -/
def name : Distribution → String
  | uniform => "uniform"
  | normal => "normal"
  | poisson => "poisson"

/-- The distribution of a name, in any case and with blanks around it. -/
def ofName (name : String) : Except Refusal Distribution :=
  match (Text.trim name).toLower with
  | "uniform" => .ok uniform
  | "normal" => .ok normal
  | "poisson" => .ok poisson
  | _ => .error (.unknownDistribution name)

/-- Whether a matrix can be made without drawing: uniform values that are all zero, or one value,
which may be not-a-number, in every cell. -/
def needsNoDraws (distribution : Distribution) (least greatest density : Float) : Bool :=
  let constant := least == greatest || (least.isNaN && greatest.isNaN)
  distribution == uniform &&
    ((least == 0.0 && greatest == 0.0) || (density == 1.0 && constant))

end Distribution

/-! ## Checked descriptions -/

/-- A checked description of a random matrix. -/
structure Blueprint where
  distribution : Distribution
  grid : BlockGrid
  /-- The wanted share of non-zero cells. -/
  density : Float
  /-- Least uniform value. -/
  least : Float
  /-- Greatest uniform value. -/
  greatest : Float
  /-- Mean of Poisson counts; not-a-number for the other distributions. -/
  mean : Float
  rows_pos : 0 < grid.rows
  cols_pos : 0 < grid.cols
  blockHeight_pos : 0 < grid.blockHeight
  blockWidth_pos : 0 < grid.blockWidth
  density_nonneg : 0.0 ≤ density
  density_le_one : density ≤ 1.0
  mean_usable : distribution = .poisson → mean.isFinite = true ∧ 0.0 < mean

namespace Blueprint

/-- An empty shape, or a density outside `[0, 1]`. -/
abbrev IsBadShape (rows cols : Nat) (density : Float) : Prop :=
  rows = 0 ∨ cols = 0 ∨ ¬(0.0 ≤ density ∧ density ≤ 1.0)

/-- Refuses an empty shape and a density outside `[0, 1]`. -/
def checkShape (rows cols : Nat) (density : Float) : Except Refusal Unit :=
  if IsBadShape rows cols density then
    .error (.shape (.shapeOrDensity rows cols density))
  else .ok ()

/-- Checks the shape, the density and the shape of blocks, in this order. -/
def build (distribution : Distribution) (grid : BlockGrid) (density least greatest mean : Float)
    (mean_usable : distribution = .poisson → mean.isFinite = true ∧ 0.0 < mean) :
    Except Refusal Blueprint :=
  if shape : IsBadShape grid.rows grid.cols density then
    .error (.shape (.shapeOrDensity grid.rows grid.cols density))
  else if block : grid.blockHeight = 0 ∨ grid.blockWidth = 0 then
    .error (.shape (.emptyBlockShape grid.blockHeight grid.blockWidth))
  else
    have inside : 0.0 ≤ density ∧ density ≤ 1.0 :=
      Decidable.byContradiction fun outside => shape (.inr (.inr outside))
    .ok {
      distribution, grid, density, least, greatest, mean, mean_usable
      rows_pos := by omega
      cols_pos := by omega
      blockHeight_pos := by omega
      blockWidth_pos := by omega
      density_nonneg := inside.1
      density_le_one := inside.2 }

/-- Uniform values between `least` and `greatest`. -/
def uniform (grid : BlockGrid) (density least greatest : Float) : Except Refusal Blueprint :=
  build .uniform grid density least greatest (0.0 / 0.0) nofun

/-- Standard normal values. -/
def normal (grid : BlockGrid) (density : Float) : Except Refusal Blueprint :=
  build .normal grid density 0.0 1.0 (0.0 / 0.0) nofun

/-- Poisson counts. The mean is checked before the shape; the least and greatest value are kept, but
not used. -/
def poisson (grid : BlockGrid) (density least greatest mean : Float) : Except Refusal Blueprint :=
  if usable : mean.isFinite = true ∧ 0.0 < mean then
    build .poisson grid density least greatest mean fun _ => usable
  else .error (.parameter (.meanNotPositive mean))

/-- A blueprint from the name of a distribution; the mean of Poisson counts is read from a text. -/
def ofName (name : String) (grid : BlockGrid) (density least greatest : Float)
    (parameters : Option String) : Except Refusal Blueprint := do
  match ← Distribution.ofName name with
  | .uniform => uniform grid density least greatest
  | .normal => normal grid density
  | .poisson =>
      let text := parameters.getD ""
      match Decimal.read? (Text.trim text) with
      | some mean => poisson grid density least greatest mean
      | none => .error (.parameter (.meanUnreadable text))

/-- The range that sampled values are rescaled to; samples that are not uniform are left as they
are. -/
def bounds (blueprint : Blueprint) : Float × Float :=
  match blueprint.distribution with
  | .uniform => (blueprint.least, blueprint.greatest)
  | _ => (0.0, 1.0)

/-- Whether the matrix can be made without drawing. -/
def needsNoDraws (blueprint : Blueprint) : Bool :=
  blueprint.distribution.needsNoDraws blueprint.bounds.1 blueprint.bounds.2
    blueprint.density

/-- Whether fewer non-zero cells are expected than there are blocks. -/
def isScarce (blueprint : Blueprint) : Except Fault Bool := do
  return blueprint.grid.isScarce (← blueprint.grid.blockCount) blueprint.density

/-- Whether two blueprints describe the same matrix by equal numbers. A parameter that is
not-a-number, such as an unused mean, is equal to none. -/
instance : BEq Blueprint where
  beq left right :=
    left.distribution == right.distribution && left.grid == right.grid &&
      left.density == right.density && left.least == right.least &&
      left.greatest == right.greatest && left.mean == right.mean

end Blueprint

end SeededMatrix
