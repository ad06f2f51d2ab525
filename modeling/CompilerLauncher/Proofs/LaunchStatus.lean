import CompilerLauncher.Proofs.StartedProcess
import CompilerLauncher.Proofs.WaitLoop

/-!
# The status of a launch

A child's end reaches its launcher as a word of the kernel. The word is read, the outcome becomes a
number, and of the number eight bits are left when the launcher exits; a launch that fails takes the
same way as an error. `LaunchEnds` says what comes out at the end of it, in terms of the words alone
(`status_result?_iff`).

A wait is left open by some answers and settled by the first of the others (`untilEnd_map_fst_iff`).
The word in which the kernel reports an end is always one of those (`not_passing_ending`).
-/

namespace CompilerLauncher

/-! ## Words -/

namespace WaitStatus

variable {word : UInt32}

theorem decode_of_exited (exited : word.toNat % 128 = 0) :
    decode word = .ok (.exited (word.toNat / 256 % 256)) :=
  if_pos exited

/-- A word that tells of a signal tells its number, or cannot be read. -/
theorem decode_of_signaled (above : 0 < word.toNat % 128) (below : word.toNat % 128 < 127) :
    decode word = .ok (.signaled (word.toNat % 128)) ∨ decode word = .error .invalid := by
  have nonzero : ¬word.toNat % 128 = 0 := by omega
  rw [decode, if_neg nonzero, if_pos below]
  split
  · exact .inl rfl
  · exact .inr rfl

/-- A word that does not tell of an end is read unless it tells of a stop by another signal than the
standard ones. -/
theorem decode_eq_of_full (full : word.toNat % 128 = 127) :
    decode word =
      if word.toNat % 256 = 127 ∧ word.toNat / 256 % 256 ≠ tracedCall ∧
          !isStandard (word.toNat / 256 % 256) then .error .invalid
      else .ok .alive := by
  have nonzero : ¬word.toNat % 128 = 0 := by omega
  have unsignaled : ¬word.toNat % 128 < 127 := by omega
  rw [decode, if_neg nonzero, if_neg unsignaled]

/-- A word that does not tell of an end is about a child that is alive, or cannot be read. -/
theorem decode_of_full (full : word.toNat % 128 = 127) :
    decode word = .ok .alive ∨ decode word = .error .invalid := by
  rw [decode_eq_of_full full]
  split
  · exact .inr rfl
  · exact .inl rfl

end WaitStatus

theorem Ending.toNat_word_exited (code : Nat) :
    (Ending.exited code).word.toNat = code % 256 * 256 := by
  rw [word, UInt32.toNat_ofNat']
  omega

theorem Ending.toNat_word_killed (signal : Nat) :
    (Ending.killed signal).word.toNat = signal % 128 := by
  rw [word, UInt32.toNat_ofNat']
  omega

/-- The word that reports an end does not report a child that is alive. -/
theorem Ending.decode_word_killed (signal : Nat) :
    WaitStatus.decode (Ending.killed signal).word ≠ .ok .alive := by
  have number := toNat_word_killed signal
  rcases Nat.eq_zero_or_pos (signal % 128) with none | above
  · rw [WaitStatus.decode_of_exited (by omega)]
    simp
  by_cases below : signal % 128 < 127
  · have signaled : 0 < (Ending.killed signal).word.toNat % 128 := by omega
    rcases WaitStatus.decode_of_signaled signaled (by omega) with read | read <;> simp [read]
  · have last : (Ending.killed signal).word = 127 := UInt32.toNat_inj.1 (by
      rw [number]
      change signal % 128 = 127
      omega)
    rw [last]
    decide

theorem Ending.decode_word_ne_alive (ending : Ending) :
    WaitStatus.decode ending.word ≠ .ok .alive := by
  cases ending with
  | exited code =>
    have exited : (Ending.exited code).word.toNat % 128 = 0 := by
      rw [toNat_word_exited]
      omega
    rw [WaitStatus.decode_of_exited exited]
    simp
  | killed signal => exact decode_word_killed signal

namespace Waiting

/-- An answer that leaves a wait open. -/
inductive Passing : WaitAnswer → Prop
  | interrupted : Passing (.error .interrupted)
  | alive {word : UInt32} : WaitStatus.decode word = .ok .alive → Passing (.ok word)

/-- The first answer that does not leave the wait open. -/
def SettledBy (waits : List WaitAnswer) (answer : WaitAnswer) : Prop :=
  ∃ early rest, waits = early ++ answer :: rest ∧ (∀ earlier ∈ early, Passing earlier) ∧
    ¬Passing answer

theorem decision?_ok (word : UInt32) :
    decision? (.ok word) =
      match WaitStatus.decode word with
      | .error cause => some (.error (.wait cause.text))
      | .ok status => status.outcome?.map .ok :=
  decision?_of_ne (by simp)

theorem decision?_eq_none_iff {answer : WaitAnswer} : decision? answer = none ↔ Passing answer := by
  constructor
  · intro undecided
    cases answer with
    | error cause =>
      by_cases interrupted : cause = .interrupted
      · rw [interrupted]
        exact .interrupted
      · rw [decision?_of_ne (by simpa using interrupted)] at undecided
        cases undecided
    | ok word =>
      apply Passing.alive
      by_contra gone
      have decides := isSome_decision?_ok gone
      rw [undecided] at decides
      cases decides
  · intro passing
    cases passing with
    | interrupted => rfl
    | alive alive =>
      rw [decision?_ok, alive]
      rfl

/-- A word that tells of an exit or of a signal does not leave the wait open. -/
theorem not_passing_of_low {word : UInt32} (low : word.toNat % 128 < 127) :
    ¬Passing (.ok word) := by
  intro passing
  cases passing with
  | alive alive =>
    rcases Nat.eq_zero_or_pos (word.toNat % 128) with none | above
    · rw [WaitStatus.decode_of_exited none] at alive
      cases alive
    · rcases WaitStatus.decode_of_signaled above low with read | read
      · rw [read] at alive
        cases alive
      · rw [read] at alive
        cases alive

/-- What a wait comes to is decided by the answer that settles it. -/
theorem untilEnd_map_fst_iff {waits : List WaitAnswer} {result : Except LaunchError ExitOutcome} :
    (untilEnd waits).map Prod.fst = some result ↔
      ∃ answer, SettledBy waits answer ∧ decision? answer = some result := by
  constructor
  · intro settled
    obtain ⟨⟨_, rest⟩, found, rfl⟩ := Option.map_eq_some_iff.1 settled
    obtain ⟨early, answer, parts, passing, decided⟩ := untilEnd_eq_some_iff.1 found
    refine ⟨answer, ⟨early, rest, parts, ?_, ?_⟩, decided⟩
    · intro earlier member
      exact decision?_eq_none_iff.1 (passing earlier member)
    · intro open_
      rw [decision?_eq_none_iff.2 open_] at decided
      cases decided
  · rintro ⟨answer, ⟨early, rest, parts, passing, -⟩, decided⟩
    have found : untilEnd waits = some (result, rest) := by
      refine untilEnd_eq_some_iff.2 ⟨early, answer, parts, ?_, decided⟩
      intro earlier member
      exact decision?_eq_none_iff.2 (passing earlier member)
    rw [found]
    rfl

/-- A wait with an answer that does not leave it open comes to something. -/
theorem isSome_untilEnd {waits : List WaitAnswer} (settles : ∃ answer ∈ waits, ¬Passing answer) :
    (untilEnd waits).isSome = true := by
  induction waits with
  | nil => simp at settles
  | cons first later ih =>
    rw [untilEnd_cons]
    cases decides : decision? first with
    | some result => rfl
    | none =>
      obtain ⟨answer, member, settling⟩ := settles
      rcases List.mem_cons.1 member with rfl | member
      · exact absurd (decision?_eq_none_iff.1 decides) settling
      · exact ih ⟨answer, member, settling⟩

end Waiting

/-! ## Results -/

/-- The status with which the front end exits once a launch has its result. -/
def statusOf : Except LaunchError ExitOutcome → Nat
  | .ok outcome => (outcome.statusCode.toInt % 256).toNat
  | .error error => (error.exitStatus.toInt % 256).toNat

theorem statusOf_exited {code : Nat} (small : code < 256) :
    statusOf (.ok (.exited (Int32.ofNat code))) = code := by
  have number : (Int32.ofNat code).toInt = code := Int32.toInt_ofNat_of_lt (by omega)
  unfold statusOf ExitOutcome.statusCode
  dsimp only
  rw [number]
  omega

theorem statusOf_killed : statusOf (.ok .killed) = 255 := by decide

theorem statusOf_error (error : LaunchError) :
    statusOf (.error error) = if error.isFatal then 255 else 1 := by
  unfold statusOf LaunchError.exitStatus
  dsimp only
  split <;> decide

namespace Forked

/-- How a front end exits that launches a program: with the code that its child exits with, with 255
if a signal has killed the child, and after a failure as the failure is fatal or not. -/
inductive LaunchEnds (vector : List Bytes) (fork : ForkAnswer) (waits : List WaitAnswer) :
    Nat → Prop
  | failed {error : LaunchError} (fails : result? vector fork waits = some (.error error)) :
    LaunchEnds vector fork waits (if error.isFatal then 255 else 1)
  | exited {pid : Pid} {word : UInt32} (fit : ArgumentVector.check vector = .ok ())
    (forked : fork = .ok pid) (settled : Waiting.SettledBy waits (.ok word))
    (low : word.toNat % 128 = 0) : LaunchEnds vector fork waits (word.toNat / 256 % 256)
  | killed {pid : Pid} {word : UInt32} (fit : ArgumentVector.check vector = .ok ())
    (forked : fork = .ok pid) (settled : Waiting.SettledBy waits (.ok word))
    (above : 0 < word.toNat % 128) (below : word.toNat % 128 < 127) :
    LaunchEnds vector fork waits 255

variable {vector : List Bytes} {fork : ForkAnswer} {waits : List WaitAnswer}

theorem result?_of_fork {pid : Pid} (fit : ArgumentVector.check vector = .ok ())
    (forked : fork = .ok pid) :
    result? vector fork waits = (Waiting.untilEnd waits).map Prod.fst := by
  subst forked
  rw [result?, fit]

/-- The outcome of a launch is that of a child. -/
theorem fork_of_result {outcome : ExitOutcome}
    (answered : result? vector fork waits = some (.ok outcome)) :
    ArgumentVector.check vector = .ok () ∧ ∃ pid, fork = .ok pid := by
  cases fit : ArgumentVector.check vector with
  | error error =>
    rw [result?_of_refused fit] at answered
    cases answered
  | ok _ =>
    unfold result? at answered
    rw [fit] at answered
    cases fork with
    | error cause => cases answered
    | ok pid => exact ⟨rfl, pid, rfl⟩

/-- A launch whose child's end is reported by a word has what the word decides as its result. -/
theorem result?_of_settled {pid : Pid} {answer : WaitAnswer}
    {result : Except LaunchError ExitOutcome} (fit : ArgumentVector.check vector = .ok ())
    (forked : fork = .ok pid) (settled : Waiting.SettledBy waits answer)
    (decided : Waiting.decision? answer = some result) :
    result? vector fork waits = some result := by
  rw [result?_of_fork fit forked]
  exact Waiting.untilEnd_map_fst_iff.2 ⟨answer, settled, decided⟩

/-- An outcome is reported by a word. -/
theorem launchEnds_of_outcome {outcome : ExitOutcome}
    (answered : result? vector fork waits = some (.ok outcome)) :
    LaunchEnds vector fork waits (statusOf (.ok outcome)) := by
  obtain ⟨fit, pid, forked⟩ := fork_of_result answered
  rw [result?_of_fork fit forked] at answered
  obtain ⟨answer, settled, decided⟩ := Waiting.untilEnd_map_fst_iff.1 answered
  cases answer with
  | error cause =>
    exfalso
    by_cases interrupted : cause = .interrupted
    · rw [interrupted] at decided
      cases decided
    · rw [Waiting.decision?_of_ne (by simpa using interrupted)] at decided
      cases decided
  | ok word =>
    rw [Waiting.decision?_ok] at decided
    have low : word.toNat % 128 < 128 := Nat.mod_lt _ (by omega)
    rcases Nat.eq_zero_or_pos (word.toNat % 128) with none | above
    · rw [WaitStatus.decode_of_exited none] at decided
      cases decided
      rw [statusOf_exited (Nat.mod_lt _ (by omega))]
      exact .exited fit forked settled none
    by_cases below : word.toNat % 128 < 127
    · rcases WaitStatus.decode_of_signaled above below with read | read
      · rw [read] at decided
        cases decided
        exact .killed fit forked settled above below
      · rw [read] at decided
        cases decided
    · have full : word.toNat % 128 = 127 := by omega
      rcases WaitStatus.decode_of_full full with read | read
      · rw [read] at decided
        cases decided
      · rw [read] at decided
        cases decided

/-- The status of a launch's result follows from the words that the kernel reports. -/
theorem status_result?_iff {status : Nat} :
    (result? vector fork waits).map statusOf = some status ↔
      LaunchEnds vector fork waits status := by
  constructor
  · intro found
    obtain ⟨result, answered, rfl⟩ := Option.map_eq_some_iff.1 found
    cases result with
    | ok outcome => exact launchEnds_of_outcome answered
    | error error =>
      rw [statusOf_error]
      exact .failed answered
  · intro ends
    apply Option.map_eq_some_iff.2
    cases ends with
    | failed fails => exact ⟨_, fails, statusOf_error _⟩
    | @exited pid word fit forked settled low =>
      have decided : Waiting.decision? (.ok word) =
          some (.ok (.exited (Int32.ofNat (word.toNat / 256 % 256)))) := by
        rw [Waiting.decision?_ok, WaitStatus.decode_of_exited low]
        rfl
      exact ⟨_, result?_of_settled fit forked settled decided,
        statusOf_exited (Nat.mod_lt _ (by omega))⟩
    | @killed pid word fit forked settled above below =>
      rcases WaitStatus.decode_of_signaled above below with read | read
      · have decided : Waiting.decision? (.ok word) = some (.ok .killed) := by
          rw [Waiting.decision?_ok, read]
          rfl
        exact ⟨_, result?_of_settled fit forked settled decided, statusOf_killed⟩
      · -- The signal's number cannot be read; the launch has failed, and fatally.
        have decided : Waiting.decision? (.ok word) =
            some (.error (.wait Errno.invalid.text)) := by
          rw [Waiting.decision?_ok, read]
        exact ⟨_, result?_of_settled fit forked settled decided, statusOf_error _⟩

/-- A launch has a result unless its child is still waited for. -/
theorem isSome_result? (settles : ∃ answer ∈ waits, ¬Waiting.Passing answer) :
    (result? vector fork waits).isSome = true := by
  cases fit : ArgumentVector.check vector with
  | error error =>
    rw [result?_of_refused fit]
    rfl
  | ok _ =>
    cases forked : fork with
    | error cause =>
      unfold result?
      rw [fit]
      rfl
    | ok pid =>
      rw [result?_of_fork fit rfl, Option.isSome_map]
      exact Waiting.isSome_untilEnd settles

/-- The word that reports the end of a process settles the wait for it. -/
theorem not_passing_ending (ending : Ending) : ¬Waiting.Passing (.ok ending.word) := by
  intro passing
  cases passing with
  | alive alive => exact ending.decode_word_ne_alive alive

/-- The kernel reports of a process that cannot take on its image no exit but its own. -/
def Process.Reported (process : Process) (waits : List WaitAnswer) : Prop :=
  ∀ cause, process.image = .error cause → ∀ word : UInt32, .ok word ∈ waits →
    word.toNat % 128 = 0 → word.toNat / 256 % 256 = notStarted

theorem Process.reported_finish (process : Process) :
    process.Reported [.ok process.finish.1.word] := by
  intro cause fails word member _
  obtain rfl : word = process.finish.1.word := by simpa using member
  rw [finish_of_unloadable fails, Ending.toNat_word_exited]
  rfl

/-- Only a program that has been started, and has exited with 0, makes a launch exit with 0. -/
theorem launchEnds_zero_iff :
    LaunchEnds vector fork waits 0 ↔
      ArgumentVector.check vector = .ok () ∧ ∃ pid word, fork = .ok pid ∧
        Waiting.SettledBy waits (.ok word) ∧ word.toNat % 128 = 0 ∧
        word.toNat / 256 % 256 = 0 := by
  constructor
  · intro ends
    obtain ⟨status, zero⟩ : ∃ status, status = 0 := ⟨0, rfl⟩
    rw [← zero] at ends
    cases ends with
    | failed fails => split at zero <;> cases zero
    | exited fit forked settled low => exact ⟨fit, _, _, forked, settled, low, zero⟩
    | killed => cases zero
  · rintro ⟨fit, pid, word, forked, settled, low, zero⟩
    rw [← zero]
    exact .exited fit forked settled low

end Forked

end CompilerLauncher
