import CompilerLauncher.Launch.Forked

/-!
# Waiting for the answer that decides

Waiting is two loops, one inside the other: an interrupted wait is repeated at once, and a child that
is reported alive is waited for again. Together they take one answer after the other until one of
them decides (`untilEnd_cons`, `untilEnd_eq_some_iff`), so a launch uses the answers up to that one
and no more (`used_cons`).
-/

namespace CompilerLauncher

namespace Waiting

/-- What an answer decides: nothing, if the wait was interrupted or the child is still alive. -/
def decision? : WaitAnswer → Option (Except LaunchError ExitOutcome)
  | .error .interrupted => none
  | answer =>
    match read answer with
    | .error cause => some (.error (.wait cause.text))
    | .ok status => status.outcome?.map .ok

theorem decision?_of_ne {answer : WaitAnswer} (decides : answer ≠ .error .interrupted) :
    decision? answer =
      match read answer with
      | .error cause => some (.error (.wait cause.text))
      | .ok status => status.outcome?.map .ok := by
  rw [decision?]
  exact decides

/-- A word that does not report the child alive decides. -/
theorem isSome_decision?_ok {word : UInt32} (gone : WaitStatus.decode word ≠ .ok .alive) :
    (decision? (.ok word)).isSome = true := by
  rw [decision?_of_ne (by simp)]
  have same : read (.ok word) = WaitStatus.decode word := rfl
  rw [same]
  cases found : WaitStatus.decode word with
  | error cause => rfl
  | ok status =>
    cases status with
    | exited | signaled => rfl
    | alive => exact absurd found gone

theorem retry_of_ne {answer : WaitAnswer} (decides : answer ≠ .error .interrupted)
    (rest : List WaitAnswer) : retry (answer :: rest) = some (answer, rest) := by
  rw [retry]
  exact decides

theorem untilEnd_interrupted (rest : List WaitAnswer) :
    untilEnd (.error .interrupted :: rest) = untilEnd rest := by
  rw [untilEnd, untilEnd]
  rfl

theorem untilEnd_of_ne {answer : WaitAnswer} (decides : answer ≠ .error .interrupted)
    (rest : List WaitAnswer) :
    untilEnd (answer :: rest) =
      match read answer with
      | .error cause => some (.error (.wait cause.text), rest)
      | .ok status =>
        match status.outcome? with
        | some outcome => some (.ok outcome, rest)
        | none => untilEnd rest := by
  have found := retry_of_ne decides rest
  rw [untilEnd]
  split
  · rename_i none
    rw [found] at none
    cases none
  · rename_i other later some
    rw [found] at some
    cases some
    rfl

/-- One answer after the other is taken until one decides. -/
theorem untilEnd_cons (answer : WaitAnswer) (rest : List WaitAnswer) :
    untilEnd (answer :: rest) =
      match decision? answer with
      | some result => some (result, rest)
      | none => untilEnd rest := by
  by_cases interrupted : answer = .error .interrupted
  · subst interrupted
    exact untilEnd_interrupted rest
  · rw [untilEnd_of_ne interrupted, decision?_of_ne interrupted]
    cases read answer with
    | error cause => rfl
    | ok status =>
      dsimp only
      cases status.outcome? <;> rfl

@[simp] theorem untilEnd_nil : untilEnd [] = none := by
  rw [untilEnd]
  rfl

/-- A wait is settled by the first answer that decides. -/
theorem untilEnd_eq_some_iff {answers rest : List WaitAnswer}
    {result : Except LaunchError ExitOutcome} :
    untilEnd answers = some (result, rest) ↔
      ∃ early answer, answers = early ++ answer :: rest ∧
        (∀ earlier ∈ early, decision? earlier = none) ∧ decision? answer = some result := by
  induction answers with
  | nil => simp
  | cons first later ih =>
    rw [untilEnd_cons]
    cases decides : decision? first with
    | some decided =>
      constructor
      · intro settled
        cases settled
        exact ⟨[], first, rfl, by simp, decides⟩
      · rintro ⟨early, answer, parts, passing, decided⟩
        cases early with
        | nil =>
          cases parts
          rw [decides] at decided
          cases decided
          rfl
        | cons other early =>
          cases parts
          rw [passing first (.head _)] at decides
          cases decides
    | none =>
      rw [ih]
      constructor
      · rintro ⟨early, answer, rfl, passing, decided⟩
        refine ⟨first :: early, answer, rfl, ?_, decided⟩
        exact List.forall_mem_cons.2 ⟨decides, passing⟩
      · rintro ⟨early, answer, parts, passing, decided⟩
        cases early with
        | nil =>
          cases parts
          rw [decides] at decided
          cases decided
        | cons other early =>
          cases parts
          exact ⟨early, answer, rfl, fun earlier member => passing earlier (.tail _ member), decided⟩

end Waiting

namespace Forked

/-- An answer tells that the child is gone exactly if it decides. -/
theorem ends_eq_isSome_decision? (answer : WaitAnswer) :
    State.ends answer = (Waiting.decision? answer).isSome := by
  by_cases interrupted : answer = .error .interrupted
  · subst interrupted
    rfl
  · rw [State.ends, Waiting.decision?_of_ne interrupted]
    · cases Waiting.read answer with
      | error cause => rfl
      | ok status => simp
    · exact interrupted

/-- A launch's waits are settled by an answer that tells that the child is gone. -/
theorem isSome_untilEnd_cons (answer : WaitAnswer) (rest : List WaitAnswer) :
    (Waiting.untilEnd (answer :: rest)).isSome =
      (State.ends answer || (Waiting.untilEnd rest).isSome) := by
  rw [Waiting.untilEnd_cons, ends_eq_isSome_decision?]
  cases Waiting.decision? answer <;> simp

@[simp] theorem used_nil : used [] = [] := by
  rw [used, Waiting.untilEnd_nil]

/-- The answers that are left over come after those that were used. -/
theorem length_rest_le {answers rest : List WaitAnswer} {result : Except LaunchError ExitOutcome}
    (settled : Waiting.untilEnd answers = some (result, rest)) : rest.length < answers.length := by
  induction answers with
  | nil => simp at settled
  | cons answer later ih =>
    rw [Waiting.untilEnd_cons] at settled
    split at settled
    · cases settled
      simp
    · exact Nat.lt_succ_of_lt (ih settled)

theorem used_cons (answer : WaitAnswer) (rest : List WaitAnswer) :
    used (answer :: rest) = if State.ends answer then [answer] else answer :: used rest := by
  rw [used, used, Waiting.untilEnd_cons, ends_eq_isSome_decision?]
  cases Waiting.decision? answer with
  | some result => simp
  | none =>
    cases settled : Waiting.untilEnd rest with
    | none => simp
    | some pair =>
      obtain ⟨result, left⟩ := pair
      have shorter := length_rest_le settled
      have one : (answer :: rest).length - left.length = rest.length - left.length + 1 := by
        rw [List.length_cons]
        omega
      dsimp only
      rw [one, List.take_succ_cons]
      rfl

end Forked

end CompilerLauncher
