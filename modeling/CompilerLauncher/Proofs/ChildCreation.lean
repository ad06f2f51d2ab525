import CompilerLauncher.Proofs.JobRecord

/-!
# Before and after the creation of a child

The stages before the creation only prepare for it (`preparation`). After a creation that is granted
the child is taken charge of, and then the only calls are those that place it and wait for it, or
end it (`settling`). All of them are made with the same holdings (`of_asked_later`).
-/

namespace CompilerLauncher

namespace JobLaunch

/-- The stages before the creation of the child. -/
def preparation : List Stage := Stage.all.take 11

/-- The stages after the creation of the child. -/
def settlement : List Stage := Stage.all.drop 12

/-- What is held when a created child has been taken charge of. -/
def charged (held : Holdings) (pid : Int32) : Holdings :=
  held.after [.release Resource.isRedirect, .obtain .process, .obtain .thread, .record pid]

section Settling

variable (answers : Answers)

/-- The calls of the wait. -/
def awaiting : List Exchange :=
  (.waitForProcess, answers.failure .waitForProcess) ::
    match answers.failure .waitForProcess with
    | some _ => []
    | none => [(.exitCode, answers.failure .exitCode)]

/-- The calls that follow the creation of a child. -/
def settling : List Exchange :=
  if answers.plan.createsJob then
    match answers.failure .assignProcess with
    | some failure =>
      [(.assignProcess, some failure), (.terminateProcess 1, answers.failure .terminateProcess)]
    | none =>
      (.assignProcess, none) :: (.resumeThread, answers.failure .resumeThread) :: awaiting answers
  else awaiting answers

/-- A call as a deed. -/
def Deed.ofExchange (call : Exchange) : Deed := .ask call.1 call.2

theorem carriedDeeds_wait (order : Order) :
    carriedDeeds answers order [.wait, .code] =
      (awaiting answers).map Deed.ofExchange ++ [.record 0] := by
  have waits : Stage.wait.call? answers order = some .waitForProcess := rfl
  have asks : Stage.code.call? answers order = some .exitCode := rfl
  have coded : carriedDeeds answers order [.code] =
      [.ask .exitCode (answers.failure .exitCode), .record 0] := by
    rw [carriedDeeds_of_called asks, Request.interface]
    cases answers.failure .exitCode <;> rfl
  rw [carriedDeeds_of_called waits, coded, awaiting, Request.interface]
  cases answers.failure .waitForProcess <;> rfl

/-- After its creation a child is placed and waited for, or ended, and then its pid is forgotten. -/
theorem carriedDeeds_settlement (order : Order) :
    carriedDeeds answers order settlement =
      (settling answers).map Deed.ofExchange ++ [.record 0] := by
  have stages : settlement = [.assignment, .resumption, .wait, .code] := rfl
  have waited := carriedDeeds_wait answers order
  rw [stages, settling]
  cases created : answers.plan.createsJob with
  | false =>
    have unassigned : Stage.assignment.call? answers order = none := by
      simp [Stage.call?, created]
    have unresumed : Stage.resumption.call? answers order = none := by
      simp [Stage.call?, created]
    rw [carriedDeeds_cons, carriedDeeds_cons, Stage.deeds, Stage.error?, unassigned, Stage.deeds,
      Stage.error?, unresumed, waited]
    rfl
  | true =>
    have assigns : Stage.assignment.call? answers order = some .assignProcess := by
      simp [Stage.call?, created]
    have resumes : Stage.resumption.call? answers order = some .resumeThread := by
      simp [Stage.call?, created]
    rw [carriedDeeds_of_called assigns, carriedDeeds_of_called resumes, waited, if_pos rfl,
      Request.interface, Request.interface]
    cases answers.failure .assignProcess <;> rfl

theorem trace_ofExchange (holdings : Holdings) (calls : List Exchange) :
    trace holdings (calls.map Deed.ofExchange) =
      calls.map fun call => .asked call.1 call.2 holdings := by
  induction calls with
  | nil => rfl
  | cons call rest ih => exact congrArg (.asked call.1 call.2 holdings :: ·) ih

/-- What is done with a child that has been created: it is taken charge of, it is placed and waited
for or ended, its pid is forgotten, and what is left is given back. -/
theorem onward_creation (answers : Answers) (order : Order) :
    onward answers order .creation settlement none =
      [.release Resource.isRedirect, .obtain .process, .obtain .thread,
          .record answers.pid.toInt32] ++
        (settling answers).map Deed.ofExchange ++ [.record 0, .release fun _ => true] := by
  have whole : onward answers order .creation settlement none =
      [.release Resource.isRedirect, .obtain .process, .obtain .thread,
          .record answers.pid.toInt32] ++
        (carriedDeeds answers order settlement ++ [.release fun _ => true]) := rfl
  rw [whole, carriedDeeds_settlement]
  simp

end Settling

section Creation

variable {answers : Answers} {order : Order} {pid : Int32} {passed rest : List Stage}
  {before after : List Event} {creation : Creation} {failure : Option Failure} {held : Holdings}

/-- The child is created if the stages before that pass. -/
theorem ask_creation_mem (passes : firstError? answers order preparation = none) :
    .ask (.createProcess (JobLaunch.creation answers order)) (answers.failure .createProcess) ∈
      launchDeeds answers order := by
  rw [launchDeeds_of_passes rfl passes, carriedDeeds_cons]
  exact List.mem_append_right _ (.head _)

theorem moment_of_creation
    (parts : (run answers order pid).events =
      before ++ .asked (.createProcess creation) failure held :: after) :
    Moment answers order pid preparation .creation settlement before (.createProcess creation)
      failure held after :=
  moment_of_asked rfl rfl (fun same => nomatch same) parts

/-- The child is created with what the answers and the order make of it. -/
theorem Moment.creation_eq
    (moment : Moment answers order pid passed .creation rest before (.createProcess creation)
      failure held after) :
    creation = JobLaunch.creation answers order :=
  (Request.createProcess.inj (Option.some.inj moment.called)).symm

/-- After the creation a call is one of those that settle the child, and is made with what is held
once the child has been taken charge of. -/
theorem of_asked_later {request : Request} {answer : Option Failure} {later : Holdings}
    (moment : Moment answers order pid preparation .creation settlement before
      (.createProcess creation) failure held after)
    (asked : .asked request answer later ∈ after) :
    (request, answer) ∈ settling answers ∧ later = charged held answers.pid.toInt32 := by
  rw [moment.later] at asked
  cases failure with
  | some refusal =>
    have nothing : onward answers order .creation settlement (some refusal) =
        [.release Resource.isRedirect, .release fun _ => true] := rfl
    rw [nothing] at asked
    simp [trace, Deed.events] at asked
  | none =>
    rw [onward_creation, trace_append, trace_append, trace_ofExchange, ← charged] at asked
    rcases List.mem_append.1 asked with asked | closing
    · rcases List.mem_append.1 asked with opening | asked
      · simp [trace, Deed.events] at opening
      · obtain ⟨call, member, same⟩ := List.mem_map.1 asked
        obtain ⟨rfl, rfl, rfl⟩ := Event.asked.inj same
        exact ⟨member, rfl⟩
    · simp [trace, Deed.events] at closing

theorem exchanges_later
    (moment : Moment answers order pid preparation .creation settlement before
      (.createProcess creation) none held after) :
    exchanges after = settling answers := by
  have calls : ((settling answers).map Deed.ofExchange).filterMap Deed.exchange? =
      settling answers := by
    rw [List.filterMap_map]
    exact List.filterMap_some
  rw [moment.later, exchanges_trace, onward_creation, List.filterMap_append, List.filterMap_append,
    calls]
  exact List.append_nil _

end Creation

end JobLaunch

end CompilerLauncher
