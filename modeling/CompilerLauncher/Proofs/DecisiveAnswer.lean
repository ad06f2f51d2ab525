import CompilerLauncher.Proofs.SignalDeath

/-!
# The answer that settles a wait

The kernel answers a wait with a failure or with a word, and a word tells of a child that has
exited, that a signal has ended, that is stopped or that goes on (`WaitStatus.Reports`). A word that
names a signal can be read only if the signal is a standard one; one that cannot be read is a
failure like any other. Every failure settles a wait but the interruption (`Waiting.Fails`).

`Waiting.Decides` says which answers settle a wait, and how, by the bits of the word alone. They are
those at which the two loops stop (`decision?_eq_some_iff`), so a wait takes the answers up to the
first of them and leaves the others.
-/

namespace CompilerLauncher

namespace WaitStatus

/-! ## What a word tells -/

section Words

variable (word : UInt32)

/-- The word tells that the child has exited. -/
def Exited : Prop := word.toNat % 128 = 0

/-- The word tells that the child is stopped. -/
def Stopped : Prop := word.toNat % 256 = 127

/-- The word tells that the child goes on. -/
def Continued : Prop := word = 0xffff

instance : Decidable (Exited word) := inferInstanceAs (Decidable (_ = _))

instance : Decidable (Stopped word) := inferInstanceAs (Decidable (_ = _))

instance : Decidable (Continued word) := inferInstanceAs (Decidable (_ = _))

/-- The code of an exit, or the number of the signal that has stopped the child. -/
def detail : Nat := word.toNat / 256 % 256

/-- The words with which the kernel reports; the bits that a kind of report does not use may be any.
-/
def Reports : Prop := Exited word ∨ Signaled word ∨ Stopped word ∨ Continued word

/-- The word names a signal that is no standard one, and does not mark a traced call. -/
inductive Unreadable : Prop
  | signaled (signaled : Signaled word) (other : 31 < word.toNat % 128)
  | stopped (stopped : Stopped word) (untraced : detail word ≠ tracedCall)
    (other : detail word = 0 ∨ 31 < detail word)

end Words

variable {word : UInt32}

theorem detail_lt (word : UInt32) : detail word < 256 :=
  Nat.mod_lt _ (by decide)

theorem Stopped.low (stopped : Stopped word) : word.toNat % 128 = 127 := by
  have byte : word.toNat % 256 = 127 := stopped
  omega

/-- What a word tells of a stopped child can be read if the signal is a standard one or marks a
traced call. -/
theorem decode_of_stopped (stopped : Stopped word) :
    decode word =
      if detail word ≠ tracedCall ∧ (detail word = 0 ∨ 31 < detail word) then .error .invalid
      else .ok .alive := by
  have byte : word.toNat % 256 = 127 := stopped
  have standard : (!isStandard (word.toNat / 256 % 256)) = true ↔
      detail word = 0 ∨ 31 < detail word := by
    rw [Bool.not_eq_true', ← Bool.not_eq_true, isStandard_iff, detail]
    omega
  rw [decode_eq_of_full stopped.low]
  simp only [standard, byte, true_and]
  rfl

theorem decode_of_unreadable (unreadable : Unreadable word) : decode word = .error .invalid := by
  cases unreadable with
  | signaled signaled other =>
    have beyond : ¬word.toNat % 128 ≤ 31 := by omega
    rw [decode_eq_of_signaled signaled, if_neg beyond]
  | stopped stopped untraced other => rw [decode_of_stopped stopped, if_pos ⟨untraced, other⟩]

/-- A word that reports neither an exit nor a signal's work and can be read is about a child that is
alive. -/
theorem decode_of_full_of_readable (full : word.toNat % 128 = 127)
    (readable : ¬Unreadable word) : decode word = .ok .alive := by
  by_cases stopped : Stopped word
  · have standard : ¬(detail word ≠ tracedCall ∧ (detail word = 0 ∨ 31 < detail word)) :=
      fun both => readable (.stopped stopped both.1 both.2)
    rw [decode_of_stopped stopped, if_neg standard]
  · have other : ¬word.toNat % 256 = 127 := stopped
    rw [decode_eq_of_full full, if_neg fun both => other both.1]

end WaitStatus

namespace Waiting

open WaitStatus (Continued Exited Reports Signaled Stopped Unreadable detail)

/-! ## What an answer decides -/

/-- The wait fails, and for which cause. -/
inductive Fails : WaitAnswer → Errno → Prop
  | refused {cause : Errno} (other : cause ≠ .interrupted) : Fails (.error cause) cause
  | unread {word : UInt32} (unreadable : Unreadable word) : Fails (.ok word) .invalid

/-- The answer is a failure, or tells of an exit or of a signal that has ended the child. -/
inductive Decisive : WaitAnswer → Prop
  | fails {answer : WaitAnswer} {cause : Errno} (fails : Fails answer cause) : Decisive answer
  | exited {word : UInt32} (exited : Exited word) : Decisive (.ok word)
  | signaled {word : UInt32} (signaled : Signaled word) : Decisive (.ok word)

/-- The answer leaves the wait open: it was interrupted, or the child is stopped, by a signal that
can be read, or goes on. -/
inductive Open : WaitAnswer → Prop
  | interrupted : Open (.error .interrupted)
  | stopped {word : UInt32} (stopped : Stopped word) (readable : ¬Unreadable word) :
    Open (.ok word)
  | continued {word : UInt32} (continued : Continued word) : Open (.ok word)

/-- How an answer settles a wait. -/
inductive Decides : WaitAnswer → Except LaunchError ExitOutcome → Prop
  | fails {answer : WaitAnswer} {cause : Errno} (fails : Fails answer cause) :
    Decides answer (.error (.wait cause.text))
  | exited {word : UInt32} (exited : Exited word) :
    Decides (.ok word) (.ok (.exited (Int32.ofNat (detail word))))
  | killed {word : UInt32} (signaled : Signaled word) (standard : word.toNat % 128 ≤ 31) :
    Decides (.ok word) (.ok .killed)

variable {answer : WaitAnswer} {result : Except LaunchError ExitOutcome}

theorem decision?_of_fails {cause : Errno} (fails : Fails answer cause) :
    decision? answer = some (.error (.wait cause.text)) := by
  cases fails with
  | refused other => exact decision?_of_ne (by simpa using other)
  | unread unreadable => rw [decision?_ok, WaitStatus.decode_of_unreadable unreadable]

theorem decision?_of_exited {word : UInt32} (exited : Exited word) :
    decision? (.ok word) = some (.ok (.exited (Int32.ofNat (detail word)))) := by
  rw [decision?_ok, WaitStatus.decode_of_exited exited]
  rfl

theorem decision?_of_decides (decides : Decides answer result) :
    decision? answer = some result := by
  cases decides with
  | fails fails => exact decision?_of_fails fails
  | exited exited => exact decision?_of_exited exited
  | killed signaled standard => rw [decision?_of_signaled signaled, if_pos standard]

/-- A decisive answer settles the wait in some way. -/
theorem Decisive.decides (decisive : Decisive answer) : ∃ result, Decides answer result := by
  cases decisive with
  | fails fails => exact ⟨_, .fails fails⟩
  | exited exited => exact ⟨_, .exited exited⟩
  | @signaled word signaled =>
    by_cases standard : word.toNat % 128 ≤ 31
    · exact ⟨_, .killed signaled standard⟩
    · exact ⟨_, .fails (.unread (.signaled signaled (Nat.lt_of_not_le standard)))⟩

theorem Decides.decisive (decides : Decides answer result) : Decisive answer := by
  cases decides with
  | fails fails => exact .fails fails
  | exited exited => exact .exited exited
  | killed signaled standard => exact .signaled signaled

theorem eq_interrupted_of_not_decisive {cause : Errno} (undecided : ¬Decisive (.error cause)) :
    cause = .interrupted := by
  by_contra other
  exact undecided (.fails (.refused other))

theorem readable_of_not_decisive {word : UInt32} (undecided : ¬Decisive (.ok word)) :
    ¬Unreadable word :=
  fun unreadable => undecided (.fails (.unread unreadable))

/-- The loops go on after an answer that is not decisive. -/
theorem decision?_of_not_decisive (undecided : ¬Decisive answer) : decision? answer = none := by
  rw [decision?_eq_none_iff]
  cases answer with
  | error cause =>
    rw [eq_interrupted_of_not_decisive undecided]
    exact .interrupted
  | ok word =>
    have unexited : ¬Exited word := fun exited => undecided (.exited exited)
    have unsignaled : ¬Signaled word := fun signaled => undecided (.signaled signaled)
    have full : word.toNat % 128 = 127 := by
      unfold Exited at unexited
      unfold Signaled at unsignaled
      omega
    exact .alive
      (WaitStatus.decode_of_full_of_readable full (readable_of_not_decisive undecided))

/-- An answer settles a wait exactly in the way that its bits say. -/
theorem decision?_eq_some_iff : decision? answer = some result ↔ Decides answer result := by
  constructor
  · intro decided
    by_cases decisive : Decisive answer
    · obtain ⟨other, decides⟩ := decisive.decides
      rw [decision?_of_decides decides] at decided
      cases decided
      exact decides
    · rw [decision?_of_not_decisive decisive] at decided
      cases decided
  · exact decision?_of_decides

theorem decision?_eq_none_iff_not_decisive : decision? answer = none ↔ ¬Decisive answer := by
  constructor
  · intro undecided decisive
    obtain ⟨result, decides⟩ := decisive.decides
    rw [decision?_of_decides decides] at undecided
    cases undecided
  · exact decision?_of_not_decisive

/-- Among the kernel's reports these answers leave the wait open. -/
theorem open_of_not_decisive (reported : ∀ word, answer = .ok word → Reports word)
    (undecided : ¬Decisive answer) : Open answer := by
  cases answer with
  | error cause =>
    rw [eq_interrupted_of_not_decisive undecided]
    exact .interrupted
  | ok word =>
    rcases reported word rfl with exited | signaled | stopped | continued
    · exact absurd (.exited exited) undecided
    · exact absurd (.signaled signaled) undecided
    · exact .stopped stopped (readable_of_not_decisive undecided)
    · exact .continued continued

/-! ## What comes of a wait -/

/-- What comes of a wait that an answer settles, said of each result. -/
structure Settles (answer : WaitAnswer) (result : Except LaunchError ExitOutcome) : Prop where
  failed : ∀ error, result = .error error ↔
    ∃ cause, Fails answer cause ∧ error = .wait cause.text
  exited : ∀ code : Int32, result = .ok (.exited code) ↔
    ∃ word, answer = .ok word ∧ Exited word ∧ code.toInt = detail word
  range : ∀ code : Int32, result = .ok (.exited code) → 0 ≤ code.toInt ∧ code.toInt ≤ 255
  killed : result = .ok .killed ↔
    ∃ word, answer = .ok word ∧ 1 ≤ word.toNat % 128 ∧ word.toNat % 128 ≤ 31
  success : (∃ outcome, result = .ok outcome ∧ outcome.success = true) ↔
    ∃ word, answer = .ok word ∧ Exited word ∧ detail word = 0
  unexited : ∀ word, answer = .ok word → Signaled word → ∀ code, result ≠ .ok (.exited code)

theorem Decides.unique {other : Except LaunchError ExitOutcome} (decides : Decides answer result)
    (decides' : Decides answer other) : result = other :=
  Option.some.inj ((decision?_of_decides decides).symm.trans (decision?_of_decides decides'))

theorem toInt_ofNat_detail (word : UInt32) : (Int32.ofNat (detail word)).toInt = detail word := by
  have small := WaitStatus.detail_lt word
  exact Int32.toInt_ofNat_of_lt (by omega)

theorem Decides.failed_iff (decides : Decides answer result) (error : LaunchError) :
    result = .error error ↔ ∃ cause, Fails answer cause ∧ error = .wait cause.text := by
  constructor
  · rintro rfl
    cases decides with
    | fails fails => exact ⟨_, fails, rfl⟩
  · rintro ⟨cause, fails, rfl⟩
    exact decides.unique (.fails fails)

theorem Decides.exited_iff (decides : Decides answer result) (code : Int32) :
    result = .ok (.exited code) ↔
      ∃ word, answer = .ok word ∧ Exited word ∧ code.toInt = detail word := by
  constructor
  · rintro rfl
    cases decides with
    | exited exited => exact ⟨_, rfl, exited, toInt_ofNat_detail _⟩
  · rintro ⟨word, rfl, exited, same⟩
    have number : code = Int32.ofNat (detail word) :=
      Int32.toInt_inj.1 (same.trans (toInt_ofNat_detail word).symm)
    rw [number]
    exact decides.unique (.exited exited)

theorem Decides.killed_iff (decides : Decides answer result) :
    result = .ok .killed ↔
      ∃ word, answer = .ok word ∧ 1 ≤ word.toNat % 128 ∧ word.toNat % 128 ≤ 31 := by
  constructor
  · rintro rfl
    cases decides with
    | killed signaled standard => exact ⟨_, rfl, signaled.1, standard⟩
  · rintro ⟨word, rfl, above, standard⟩
    have signaled : Signaled word := ⟨above, by omega⟩
    exact decides.unique (.killed signaled standard)

theorem Decides.settles (decides : Decides answer result) : Settles answer result where
  failed := decides.failed_iff
  exited := decides.exited_iff
  killed := decides.killed_iff
  range code ended := by
    obtain ⟨word, -, -, number⟩ := (decides.exited_iff code).1 ended
    have small := WaitStatus.detail_lt word
    omega
  success := by
    have none? : (0 : Int32).toInt = 0 := rfl
    constructor
    · rintro ⟨outcome, rfl, success⟩
      rw [ExitOutcome.success_iff] at success
      rw [success] at decides
      obtain ⟨word, same, exited, number⟩ := (decides.exited_iff 0).1 rfl
      exact ⟨word, same, exited, by omega⟩
    · rintro ⟨word, same, exited, number⟩
      have ended := (decides.exited_iff 0).2 ⟨word, same, exited, by omega⟩
      exact ⟨.exited 0, ended, ExitOutcome.success_iff.2 rfl⟩
  unexited word told signaled code ended := by
    obtain ⟨other, same, exited, -⟩ := (decides.exited_iff code).1 ended
    cases told.symm.trans same
    exact Nat.ne_of_gt signaled.1 exited

/-- **A wait is settled by the first decisive answer.** It takes the answers up to that one and
leaves those behind it, and what comes of it is said by the bits of that answer alone. -/
theorem settled_by_first_decisive {answers : List WaitAnswer}
    (reported : ∀ word, .ok word ∈ answers → Reports word)
    (settling : ∃ answer ∈ answers, Decisive answer) :
    ∃ early answer rest result, answers = early ++ answer :: rest ∧
      (∀ earlier ∈ early, ¬Decisive earlier ∧ Open earlier) ∧ Decisive answer ∧
      untilEnd answers = some (result, rest) ∧ Settles answer result := by
  have settles : ∃ answer ∈ answers, ¬Passing answer := by
    obtain ⟨answer, member, decisive⟩ := settling
    refine ⟨answer, member, fun passing => ?_⟩
    rw [← decision?_eq_none_iff, decision?_eq_none_iff_not_decisive] at passing
    exact passing decisive
  obtain ⟨⟨result, rest⟩, settled⟩ := Option.isSome_iff_exists.1 (isSome_untilEnd settles)
  obtain ⟨early, answer, parts, passing, decided⟩ := untilEnd_eq_some_iff.1 settled
  have decides := decision?_eq_some_iff.1 decided
  refine ⟨early, answer, rest, result, parts, ?_, decides.decisive, settled, decides.settles⟩
  intro earlier member
  have undecided := decision?_eq_none_iff_not_decisive.1 (passing earlier member)
  refine ⟨undecided, open_of_not_decisive ?_ undecided⟩
  rintro word rfl
  exact reported word (by simp [parts, member])

/-- The child is stopped and goes on, its calls are traced, and the wait is interrupted twice before
the child exits with 3; the upper half of that word is not looked at, nor is the next word. -/
theorem settled_by_first_decisive_traced :
    let answers : List WaitAnswer := [.error .interrupted, .ok 0x137f, .ok 0xffff,
      .error .interrupted, .ok 0x857f, .ok 0xabcd0380, .ok 9]
    (∀ word, .ok word ∈ answers → Reports word) ∧ (∃ answer ∈ answers, Decisive answer) ∧
      untilEnd answers = some (.ok (.exited 3), [.ok 9]) ∧
      ∃ early answer, answers = early ++ answer :: [.ok 9] ∧ Decisive answer ∧
        Settles answer (.ok (.exited 3)) := by
  intro answers
  have reported : ∀ word, .ok word ∈ answers → Reports word := by
    intro word member
    simp only [answers, List.mem_cons, reduceCtorEq, Except.ok.injEq, false_or, List.not_mem_nil,
      or_false] at member
    rcases member with rfl | rfl | rfl | rfl | rfl
    · exact .inr (.inr (.inl (by decide)))
    · exact .inr (.inr (.inr (by decide)))
    · exact .inr (.inr (.inl (by decide)))
    · exact .inl (by decide)
    · exact .inr (.inl ⟨by decide, by decide⟩)
  have exited : Exited 0xabcd0380 := by decide
  have settling : ∃ answer ∈ answers, Decisive answer :=
    ⟨.ok 0xabcd0380, by simp [answers], .exited exited⟩
  have taken : untilEnd answers = some (.ok (.exited 3), [.ok 9]) := by
    have open_ : ∀ word : UInt32, WaitStatus.decode word = .ok .alive →
        decision? (.ok word) = none := fun word alive => decision?_eq_none_iff.2 (.alive alive)
    simp only [answers, untilEnd_cons, open_ 0x137f rfl, open_ 0xffff rfl, open_ 0x857f rfl,
      decision?_of_exited exited]
    rfl
  obtain ⟨early, answer, rest, result, parts, -, decisive, settled, settles⟩ :=
    settled_by_first_decisive reported settling
  cases taken.symm.trans settled
  exact ⟨reported, settling, taken, early, answer, parts, decisive, settles⟩

end Waiting

end CompilerLauncher
