import CompilerLauncher.Errno
import CompilerLauncher.ExitOutcome
import CompilerLauncher.LaunchError
import CompilerLauncher.Signal

/-!
What waiting for a child answers.

The kernel packs a child's state into one word. `WaitStatus.decode` reads it: the lowest seven bits
tell an exit (0), a signal's work (1 to 126) or a state that is not the end; the next bits hold a
code or a signal's number. A signal's number above 31 cannot be read and is an error.
-/

namespace CompilerLauncher

/-- The state of a child that was waited for. -/
inductive WaitStatus
  | exited (code : Nat)
  | signaled (signal : Signal)
  | alive
  deriving DecidableEq, Repr

namespace WaitStatus

/-- A signal's number is one of the standard ones. -/
def isStandard (signal : Signal) : Bool :=
  1 ≤ signal && signal ≤ Signal.lastStandard

/-- The signal's number that stands for a traced system call. -/
def tracedCall : Nat := 0x85

/-- Reads a status word. Of the words whose lowest byte is 255 the kernel makes only 0xffff, for a
child that goes on; the others are read as that, too, where a strict reader asserts that there are
none. -/
def decode (word : UInt32) : Except Errno WaitStatus :=
  let low := word.toNat % 128
  let second := word.toNat / 256 % 256
  if low = 0 then .ok (.exited second)
  else if low < 127 then
    if isStandard low then .ok (.signaled low) else .error .invalid
  else if word.toNat % 256 = 127 ∧ second ≠ tracedCall ∧ !isStandard second then .error .invalid
  else .ok .alive

/-- How the child ended, if it has. -/
def outcome? : WaitStatus → Option ExitOutcome
  | exited code => some (.exited (Int32.ofNat code))
  | signaled _ => some .killed
  | alive => none

end WaitStatus

/-- How a process ended: by exiting, of whose code the lowest eight bits are kept, or by a signal.
-/
inductive Ending
  | exited (code : Nat)
  | killed (signal : Signal)
  deriving DecidableEq, Repr

/-- The word in which the kernel reports an end. -/
def Ending.word : Ending → UInt32
  | exited code => UInt32.ofNat (code % 256 * 256)
  | killed signal => UInt32.ofNat (signal % 128)

/-- An answer of the kernel to a wait. -/
abbrev WaitAnswer := Except Errno UInt32

namespace Waiting

/-- Repeats an operation while it is interrupted. The answers are those of its successive calls; the
result comes with the answers that were not needed. -/
def retry {α : Type} : List (Except Errno α) → Option (Except Errno α × List (Except Errno α))
  | [] => none
  | .error .interrupted :: rest => retry rest
  | answer :: rest => some (answer, rest)

theorem length_lt_of_retry {α : Type} {answers rest : List (Except Errno α)}
    {answer : Except Errno α} (h : retry answers = some (answer, rest)) :
    rest.length < answers.length := by
  induction answers with
  | nil => simp [retry] at h
  | cons first later ih =>
    unfold retry at h
    split at h
    · simp_all
    · rename_i interrupted
      cases interrupted
      exact Nat.lt_succ_of_lt (ih h)
    · rename_i same
      cases same
      simp at h
      simp [h.2]

/-- The kernel's answer as the state of the child. -/
def read (answer : WaitAnswer) : Except Errno WaitStatus :=
  answer.bind WaitStatus.decode

/-- Waits until the child has ended or waiting fails, and answers with the rest of the kernel's
answers; without a decisive one among them there is no result. -/
def untilEnd (answers : List WaitAnswer) :
    Option (Except LaunchError ExitOutcome × List WaitAnswer) :=
  match _ : retry answers with
  | none => none
  | some (answer, rest) =>
    match read answer with
    | .error cause => some (.error (.wait cause.text), rest)
    | .ok status =>
      match status.outcome? with
      | some outcome => some (.ok outcome, rest)
      | none => untilEnd rest
termination_by answers.length
decreasing_by exact length_lt_of_retry ‹_›

end Waiting

end CompilerLauncher
