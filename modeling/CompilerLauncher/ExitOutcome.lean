/-!
How a launched child ended.

Death by a signal is an outcome of its own, so a killed child never passes for one that exited with
code 0, and the number that stands for it, -1, is no code a child can choose on a POSIX system.
-/

namespace CompilerLauncher

/-- How a child finished: on its own with a code, or terminated by a signal. -/
inductive ExitOutcome
  | exited (code : Int32)
  | killed
  deriving DecidableEq, Repr

namespace ExitOutcome

/-- The number that stands for death by a signal. -/
def killedStatus : Int32 := -1

/-- The outcome as one number. -/
def statusCode : ExitOutcome → Int32
  | exited code => code
  | killed => killedStatus

/-- Whether the child exited on its own with code 0. -/
def success : ExitOutcome → Bool
  | exited code => code == 0
  | killed => false

/-- The outcome in words. -/
def message : ExitOutcome → String
  | exited code => s!"exit code {code.toInt}"
  | killed => "killed by signal"

/-- Only an exit with code 0 is a success. -/
theorem success_iff {outcome : ExitOutcome} : outcome.success = true ↔ outcome = exited 0 := by
  cases outcome <;> simp [success]

end ExitOutcome

end CompilerLauncher
