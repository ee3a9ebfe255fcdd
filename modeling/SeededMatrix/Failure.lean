import SeededMatrix.Decimal
import SeededMatrix.Size

/-!
# Refusals and failures

A refusal names its kind and its cause, and `message` words it. A failure is either a refusal, which
is answered to the caller, or a fault, which ends the run.
-/

namespace SeededMatrix

open Decimal

/-- Why the parameter of a distribution cannot be used. -/
inductive ParameterCause
  /-- The text of the Poisson mean is no number. -/
  | meanUnreadable (text : String)
  /-- The mean of a description is not finite and positive. -/
  | meanNotPositive (mean : Float)
  /-- The mean of a sampler is not finite. -/
  | meanNotFinite (mean : Float)
  /-- The mean of a sampler is finite, but not positive. -/
  | meanOutsideDistribution (mean : Float)
  /-- A cause in the caller's own words. -/
  | other (text : String)

/-- Why a matrix of the wanted shape cannot be made or cut. -/
inductive ShapeCause
  /-- An empty shape, or a density outside `[0, 1]`. -/
  | shapeOrDensity (rows cols : Nat) (density : Float)
  /-- A description with an empty block shape. -/
  | emptyBlockShape (blockHeight blockWidth : Nat)
  /-- An estimate over an empty shape or an empty block shape. -/
  | emptyGrid (rows cols blockHeight blockWidth : Nat)
  /-- More blocks than a signed 32-bit count can hold. -/
  | tooManyBlocks (rows cols blocks : Nat)
  /-- Fewer budgets than blocks. -/
  | shortBudgetTable (entries blocks : Nat)
  /-- A visited block without a seed. -/
  | missingSeed (entries rowBlock colBlock : Nat)
  /-- A visited block without a budget. -/
  | missingBudget (entries block : Nat)
  /-- Two neighbouring spans that do not meet. -/
  | spansApart (left right : Span)
  /-- Spans that begin backwards or end past the axis. -/
  | spansPastAxis (start stop extent : Nat)
  /-- Sparse rows cannot be cut between columns. -/
  | sparseColumns
  /-- Nothing is allocated that could be cut. -/
  | unallocated (rows cols : Nat)
  /-- No region covers the whole matrix. -/
  | noRegion
  /-- A progression with more terms than a signed 32-bit count can hold. -/
  | tooManyTerms (terms : Float)
  /-- A cause in the caller's own words. -/
  | other (text : String)

/-- Why a progression or a sample cannot be made. -/
inductive ColumnCause
  /-- The increment is zero or leads away from the end. -/
  | wrongIncrement (first last increment : Float)
  /-- A bound or the increment is not finite. -/
  | boundsNotFinite (first last increment : Float)
  /-- There is nothing to draw from. -/
  | emptyPopulation (population : Int)
  /-- There is nothing to draw. -/
  | emptySample
  /-- More draws without replacement than the population holds. -/
  | sampleTooLarge (size population : Nat)
  /-- A cause in the caller's own words. -/
  | other (text : String)

/-- A refusal: the answer to a request that cannot be met. -/
inductive Refusal
  | parameter (cause : ParameterCause)
  /-- No distribution has this name. -/
  | unknownDistribution (name : String)
  | shape (cause : ShapeCause)
  | column (cause : ColumnCause)
  /-- The first refusal among the tasks of one generation. -/
  | inTask (number : Nat) (cause : Refusal)

/-- The wording of a cause. -/
def ParameterCause.text : ParameterCause → String
  | .meanUnreadable text => "Failed to parse Poisson distribution parameter: " ++ text
  | .meanNotPositive mean =>
      "Poisson mean must be a finite positive number, got " ++ shortest mean
  | .meanNotFinite mean => "Poisson mean must be a finite number, got " ++ shortest mean
  | .meanOutsideDistribution mean =>
      "Invalid Poisson mean " ++ shortest mean ++
        ": lambda is not positive in Poisson distribution"
  | .other text => text

/-- The wording of a cause. -/
def ShapeCause.text : ShapeCause → String
  | .shapeOrDensity rows cols density => s!"{rows}x{cols}, " ++ shortest density
  | .emptyBlockShape blockHeight blockWidth =>
      s!"block size must be positive, got {blockHeight}x{blockWidth}"
  | .emptyGrid rows cols blockHeight blockWidth =>
      s!"{rows}x{cols} with {blockHeight}x{blockWidth} blocks"
  | .tooManyBlocks rows cols blocks =>
      s!"A random matrix of size [{rows},{cols}] can not be created. " ++
        s!"Number of blocks ({blocks}) exceeds the maximum integer size. " ++
          "Try to increase the block size."
  | .shortBudgetTable entries blocks =>
      s!"non-zero table has {entries} entries for {blocks} blocks"
  | .missingSeed entries rowBlock colBlock =>
      s!"seed table of length {entries} has no seed for block ({rowBlock}, {colBlock})"
  | .missingBudget entries block =>
      s!"non-zero table of length {entries} has no entry for block {block}"
  | .spansApart left right =>
      "region ranges " ++ left.text ++ " and " ++ right.text ++ " are not contiguous"
  | .spansPastAxis start stop extent => s!"region ranges {start}..{stop} exceed extent {extent}"
  | .sparseColumns => "sparse blocks can only be split by rows"
  | .unallocated rows cols => s!"cannot split unallocated {rows}x{cols} block"
  | .noRegion => "empty block"
  | .tooManyTerms terms =>
      "sequence of " ++ shortest terms ++ " rows exceeds the maximum integer size"
  | .other text => text

/-- The bounds and the increment of a progression, as named values. -/
def progressionText (first last increment : Float) : String :=
  "from=" ++ shortest first ++ ", to=" ++ shortest last ++ ", incr=" ++ shortest increment

/-- The wording of a cause. -/
def ColumnCause.text : ColumnCause → String
  | .wrongIncrement first last increment =>
      "Wrong sequence increment: " ++ progressionText first last increment
  | .boundsNotFinite first last increment =>
      "Sequence bounds must be finite: " ++ progressionText first last increment
  | .emptyPopulation population => s!"Sample range must be positive, got {population}"
  | .emptySample => "Sample size must be positive"
  | .sampleTooLarge size population =>
      s!"Sample (size={size}) larger than population (size={population}) " ++
        "can only be generated with replacement"
  | .other text => text

namespace Refusal

/-- The wording of a refusal. -/
def message : Refusal → String
  | parameter cause => "Configuration error: " ++ cause.text
  | unknownDistribution name =>
      "Unsupported probability distribution \"" ++ name ++
        "\" in rand() -- it must be one of \"uniform\", \"normal\", or \"poisson\""
  | shape cause => "Invalid matrix characteristics: " ++ cause.text
  | column cause => "Invalid argument: " ++ cause.text
  | inTask number cause => s!"Generation task {number} failed: " ++ cause.message

/-- Whether the distribution that was asked for is to blame: its name or its parameter. -/
def blamesDistribution : Refusal → Bool
  | parameter _ => true
  | unknownDistribution _ => true
  | _ => false

/-- The refusal behind the failure of a task. -/
def cause? : Refusal → Option Refusal
  | inTask _ cause => some cause
  | _ => none

end Refusal

/-- How a run can end without a result. -/
inductive Failure
  | refusal (refusal : Refusal)
  | fault (fault : Fault)

/-- A fault ends a computation that may also refuse. -/
instance : MonadLift (Except Fault) (Except Failure) where
  monadLift
    | .ok value => .ok value
    | .error fault => .error (.fault fault)

/-- A refusal ends a computation that may also fault. -/
instance : MonadLift (Except Refusal) (Except Failure) where
  monadLift
    | .ok value => .ok value
    | .error refusal => .error (.refusal refusal)

/-- Ends a computation with a refusal of the shape or its partition. -/
def refuseShape {α : Type} (cause : ShapeCause) : Except Failure α :=
  .error (.refusal (.shape cause))

end SeededMatrix
