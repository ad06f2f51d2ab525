import CompilerLauncher.Proofs.LaunchStatus

/-!
# Children that a signal has ended

A word whose lowest seven bits lie between 1 and 126 tells that a signal has ended the child, and
these bits are the signal's number. It is read only if the number is one of the standard ones; for a
real-time signal the wait fails, although the child is gone (`decision?_of_signaled`).

Before it a launch may meet interruptions and words about a child that is stopped or goes on. They
are passed over as long as they can be read, and the first that cannot makes the wait fail as well
(`untilEnd_fst_of_unread`). So a child that a signal has ended is reported as killed exactly if every
word up to its last one can be read.
-/

namespace CompilerLauncher

namespace WaitStatus

variable {word : UInt32}

/-- The word tells that a signal has ended the child. -/
def Signaled (word : UInt32) : Prop :=
  0 < word.toNat % 128 ∧ word.toNat % 128 < 127

theorem isStandard_iff {number : Nat} : isStandard number = true ↔ 1 ≤ number ∧ number ≤ 31 := by
  rw [isStandard, Bool.and_eq_true, decide_eq_true_iff, decide_eq_true_iff]
  rfl

/-- A signal's number is read if it is a standard one. -/
theorem decode_eq_of_signaled (signaled : Signaled word) :
    decode word =
      if word.toNat % 128 ≤ 31 then .ok (.signaled (word.toNat % 128)) else .error .invalid := by
  obtain ⟨above, below⟩ := signaled
  have nonzero : ¬word.toNat % 128 = 0 := by omega
  have standard : isStandard (word.toNat % 128) = true ↔ word.toNat % 128 ≤ 31 :=
    isStandard_iff.trans (and_iff_right above)
  rw [decode, if_neg nonzero, if_pos below]
  simp only [standard]

end WaitStatus

namespace Waiting

open WaitStatus (Signaled)

/-- What waiting for a child answers that a signal has ended and whose word cannot be read. -/
def unread : Except LaunchError ExitOutcome :=
  .error (.wait Errno.invalid.text)

/-- The answer tells of no end: the wait was interrupted, or the child is stopped or goes on. -/
inductive Unended : WaitAnswer → Prop
  | interrupted : Unended (.error .interrupted)
  | full {word : UInt32} (full : word.toNat % 128 = 127) : Unended (.ok word)

theorem decision?_of_signaled {word : UInt32} (signaled : Signaled word) :
    decision? (.ok word) = some (if word.toNat % 128 ≤ 31 then .ok .killed else unread) := by
  rw [decision?_ok, WaitStatus.decode_eq_of_signaled signaled]
  by_cases standard : word.toNat % 128 ≤ 31
  · simp [standard, WaitStatus.outcome?]
  · simp [standard, unread]

/-- An answer that tells of no end leaves the wait open, or makes it fail if it cannot be read. -/
theorem decision?_of_unended {answer : WaitAnswer} (unended : Unended answer)
    (settling : ¬Passing answer) : decision? answer = some unread := by
  cases unended with
  | interrupted => exact absurd .interrupted settling
  | @full word full =>
    rcases WaitStatus.decode_of_full full with alive | read
    · exact absurd (.alive alive) settling
    · rw [decision?_ok, read]
      rfl

/-- The first answer that cannot be read makes the wait fail, whatever comes after it. -/
theorem untilEnd_fst_of_unread {early : List WaitAnswer}
    (unended : ∀ answer ∈ early, Unended answer) (settles : ¬∀ answer ∈ early, Passing answer)
    (waits : List WaitAnswer) : (untilEnd (early ++ waits)).map Prod.fst = some unread := by
  induction early with
  | nil => simp at settles
  | cons answer early ih =>
    obtain ⟨first, later⟩ := List.forall_mem_cons.1 unended
    rw [List.cons_append, untilEnd_cons]
    by_cases passing : Passing answer
    · rw [decision?_eq_none_iff.2 passing]
      exact ih later fun all => settles (List.forall_mem_cons.2 ⟨passing, all⟩)
    · rw [decision?_of_unended first passing]
      rfl

/-- Every word of the wait can be read: those before the last one, and the signal's number in that. -/
def Readable (early : List WaitAnswer) (word : UInt32) : Prop :=
  (∀ answer ∈ early, Passing answer) ∧ word.toNat % 128 ≤ 31

theorem untilEnd_of_signaled {early : List WaitAnswer} {word : UInt32}
    (unended : ∀ answer ∈ early, Unended answer) (signaled : Signaled word)
    (rest : List WaitAnswer) :
    (Readable early word → untilEnd (early ++ .ok word :: rest) = some (.ok .killed, rest)) ∧
      (¬Readable early word →
        (untilEnd (early ++ .ok word :: rest)).map Prod.fst = some unread) := by
  -- The last word settles the wait if it is not settled before.
  have last {result : Except LaunchError ExitOutcome} (passing : ∀ answer ∈ early, Passing answer)
      (decided : decision? (.ok word) = some result) :
      untilEnd (early ++ .ok word :: rest) = some (result, rest) :=
    untilEnd_eq_some_iff.2 ⟨early, .ok word, rfl,
      fun answer member => decision?_eq_none_iff.2 (passing answer member), decided⟩
  have decision := decision?_of_signaled signaled
  constructor
  · rintro ⟨passing, standard⟩
    rw [if_pos standard] at decision
    exact last passing decision
  · intro unreadable
    by_cases passing : ∀ answer ∈ early, Passing answer
    · have beyond : ¬word.toNat % 128 ≤ 31 := fun standard => unreadable ⟨passing, standard⟩
      rw [if_neg beyond] at decision
      rw [last passing decision]
      rfl
    · exact untilEnd_fst_of_unread unended passing _

end Waiting

namespace Forked

open Waiting (Passing Readable Unended)
open WaitStatus (Signaled)

/-- **The death of a child by a signal is reported as such exactly if the signal's number and all
earlier words can be read.** Otherwise the launch fails as an invalid wait, and in no case does it
answer with an exit. -/
theorem killed_iff_readable {vector : List Bytes} (fit : ArgumentVector.check vector = .ok ())
    (pid : Pid) {early : List WaitAnswer} {word : UInt32}
    (unended : ∀ answer ∈ early, Unended answer) (signaled : Signaled word)
    (rest : List WaitAnswer) :
    (Waiting.untilEnd (early ++ .ok word :: rest) = some (.ok .killed, rest) ↔
      Readable early word) ∧
    (result? vector (.ok pid) (early ++ .ok word :: rest) = some (.ok .killed) ↔
      Readable early word) ∧
    (result? vector (.ok pid) (early ++ .ok word :: rest) =
        some (.error (.wait "Invalid argument")) ↔ ¬Readable early word) := by
  obtain ⟨killed, fails⟩ := Waiting.untilEnd_of_signaled unended signaled rest
  rw [result?_of_fork fit rfl]
  by_cases readable : Readable early word
  · simp [killed readable, readable]
  · have failed := fails readable
    refine ⟨⟨fun settled => ?_, fun read => absurd read readable⟩, ?_, ?_⟩
    · rw [settled] at failed
      cases failed
    · simp [failed, readable, Waiting.unread]
    · simp [failed, readable, Waiting.unread, Errno.text]

/-- The wait is interrupted, the child is stopped once, and then it aborts and leaves a core. -/
theorem killed_iff_readable_aborted :
    let early : List WaitAnswer := [.error .interrupted, .ok 0x137f]
    ArgumentVector.check [Utf8.encode "/bin/cc"] = .ok () ∧
      (∀ answer ∈ early, Unended answer) ∧ Signaled 0x86 ∧
      Waiting.untilEnd (early ++ .ok 0x86 :: [.ok 0]) = some (.ok .killed, [.ok 0]) ∧
      result? [Utf8.encode "/bin/cc"] (.ok 4242) (early ++ .ok 0x86 :: [.ok 0]) =
        some (.ok .killed) := by
  intro early
  have fit : ArgumentVector.check [Utf8.encode "/bin/cc"] = .ok () := rfl
  have signaled : Signaled 0x86 := ⟨by decide, by decide⟩
  have unended : ∀ answer ∈ early, Unended answer := by
    simp only [early, List.forall_mem_cons]
    exact ⟨.interrupted, .full (by decide), by simp⟩
  have passing : ∀ answer ∈ early, Passing answer := by
    simp only [early, List.forall_mem_cons]
    exact ⟨.interrupted, .alive (by decide), by simp⟩
  have readable : Readable early 0x86 := ⟨passing, by decide⟩
  obtain ⟨settled, launched, -⟩ := killed_iff_readable fit 4242 unended signaled [.ok 0]
  exact ⟨fit, unended, signaled, settled.2 readable, launched.2 readable⟩

/-- The first real-time signal ends the child, and the launch fails. -/
theorem realtime_death_fails :
    (Ending.killed 34).word = 34 ∧ Signaled 34 ∧
      Waiting.untilEnd [.ok 34] = some (.error (.wait "Invalid argument"), []) ∧
      Waiting.untilEnd [.ok 34] ≠ some (.ok .killed, []) ∧
      result? [Utf8.encode "/bin/cc"] (.ok 4242) [.ok 34] =
        some (.error (.wait "Invalid argument")) := by
  have fit : ArgumentVector.check [Utf8.encode "/bin/cc"] = .ok () := rfl
  have signaled : Signaled 34 := ⟨by decide, by decide⟩
  have failed : Waiting.untilEnd [.ok 34] = some (.error (.wait "Invalid argument"), []) := by
    rw [Waiting.untilEnd_cons, Waiting.decision?_of_signaled signaled]
    rfl
  refine ⟨rfl, signaled, failed, ?_, ?_⟩
  · rw [failed]
    simp
  · rw [result?_of_fork fit rfl, failed]
    rfl

end Forked

end CompilerLauncher
