import SeededMatrix.Survey

/-!
# Command line

Prints the survey of the generators. A refusal goes to the error stream and sets the exit code.
-/

open SeededMatrix

/-- Prints the survey, all of it filled by one task. -/
def main : IO UInt32 := do
  match Survey.lines 1 with
  | .ok lines =>
      for line in lines do
        IO.println line
      return 0
  | .error (.refusal refusal) =>
      IO.eprintln refusal.message
      return 1
  | .error (.fault fault) =>
      IO.eprintln (fault.message?.getD "the run ended by a fault")
      return 1
