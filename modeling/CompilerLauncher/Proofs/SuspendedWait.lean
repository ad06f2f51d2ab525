import CompilerLauncher.Proofs.ChildFate
import CompilerLauncher.Proofs.FirstFailure

/-!
# Waiting for a child that cannot run

A child with a job of its own is created suspended and is let run by one call. A launch does not look
at the answer to that call, so it waits for the child even if the call has failed. Such a wait is for
a process that has run nothing, will run nothing, and has not been ended (`Stuck`).

What the record shows before a wait is fixed by the answers (`running_before_wait_iff`). So a launch waits
for running children alone exactly if it never comes to the wait, the child has no job of its own, or
its thread is resumed (`waits_for_running_iff`).
-/

namespace CompilerLauncher

namespace JobLaunch

/-- The child can run: it was not created suspended, or its thread has been resumed. -/
def Running (done : List Event) : Prop :=
  (∃ creation held, .asked (.createProcess creation) none held ∈ done ∧
      creation.flags &&& JobPlan.suspended = 0) ∨
    ∃ held, .asked .resumeThread none held ∈ done

/-- The child was created suspended, the call that lets it run has failed, and it has not been
ended. -/
structure Stuck (done : List Event) : Prop where
  suspended : ∃ creation held, .asked (.createProcess creation) none held ∈ done ∧
    creation.flags &&& JobPlan.suspended ≠ 0
  refused : ∃ failure held, .asked .resumeThread (some failure) held ∈ done
  unresumed : ∀ held, .asked .resumeThread none held ∉ done
  unended : ∀ code answer held, .asked (.terminateProcess code) answer held ∉ done

/-- Every wait in the record is for a child that can run. -/
def WaitsForRunning (events : List Event) : Prop :=
  ∀ before answer held after,
    events = before ++ .asked .waitForProcess answer held :: after → Running before

/-- The stages before the wait. -/
def untilWait : List Stage := Stage.all.take 14

section Waits

variable {answers : Answers} {order : Order} {pid : Int32} {before after : List Event}
  {answer : Option Failure} {held : Holdings}

/-- A launch comes to the wait if the stages before it pass. -/
theorem exists_wait (pid : Int32) (passes : firstError? answers order untilWait = none) :
    ∃ before answer held after, (run answers order pid).events =
      before ++ .asked .waitForProcess answer held :: after := by
  have row : Stage.all = untilWait ++ .wait :: [.code] := rfl
  have asked : .ask .waitForProcess (answers.failure .waitForProcess) ∈
      launchDeeds answers order := by
    rw [launchDeeds_of_passes row passes, carriedDeeds_cons]
    exact List.mem_append_right _ (.head _)
  obtain ⟨held, recorded⟩ := mem_trace_of_ask (bare pid) asked
  obtain ⟨before, after, parts⟩ := List.append_of_mem recorded
  exact ⟨before, _, held, after, (run_events answers order pid).trans parts⟩

variable (parts : (run answers order pid).events =
  before ++ .asked .waitForProcess answer held :: after)

include parts

theorem moment_of_wait :
    Moment answers order pid untilWait .wait [.code] before .waitForProcess answer held after :=
  moment_of_asked rfl rfl (fun same => nomatch same) parts

/-- Before the wait each stage has made its call, and nothing else has been called. -/
theorem calls_before_wait :
    calls before = untilWait.filterMap (Stage.call? answers order) := by
  have moment := moment_of_wait parts
  rw [moment.earlier, calls_trace, List.filterMap_append, requests_opening,
    requests_of_passes moment.passes, List.nil_append]

/-- The child that is waited for has been created with what the answers and the order make of it. -/
theorem created_before_wait :
    ∃ held, .asked (.createProcess (creation answers order)) none held ∈ before := by
  have creates : Stage.creation.call? answers order =
      some (.createProcess (creation answers order)) := rfl
  exact mem_exchanges.1 ((moment_of_wait parts).granted (by decide) creates fun _ => rfl)

/-- The thread of a child with a job of its own has been asked to go on. -/
theorem asked_to_resume (creates : answers.plan.createsJob = true) :
    ∃ held, .asked .resumeThread (answers.failure .resumeThread) held ∈ before := by
  have resumes : Stage.resumption.call? answers order = some .resumeThread := by
    simp [Stage.call?, creates]
  exact mem_exchanges.1 ((moment_of_wait parts).exchanged (by decide) resumes)

/-- The child that is waited for can run exactly if it has no job of its own or its thread is
resumed. -/
theorem running_before_wait_iff :
    Running before ↔ answers.plan.createsJob = false ∨ answers.failure .resumeThread = none := by
  have suspends : answers.plan.flags &&& JobPlan.suspended ≠ 0 ↔ answers.plan.createsJob = true :=
    JobPlan.choose_suspended_iff answers.inJob answers.limits
  constructor
  · rintro (⟨other, held, created, free⟩ | ⟨held, resumed⟩)
    · rcases called_of_asked (parts ▸ List.mem_append_left _ created) with ⟨called, -⟩ | ends
      · obtain rfl := Request.createProcess.inj (Option.some.inj called)
        left
        rw [← Bool.not_eq_true, ← suspends, not_not]
        exact free
      · cases ends
    · rcases called_of_asked (parts ▸ List.mem_append_left _ resumed) with ⟨-, answered⟩ | ends
      · exact .inr answered.symm
      · cases ends
  · intro runs
    by_cases creates : answers.plan.createsJob = true
    · obtain ⟨held, resumed⟩ := asked_to_resume parts creates
      rcases runs with inherits | granted
      · rw [creates] at inherits
        cases inherits
      · rw [granted] at resumed
        exact .inr ⟨held, resumed⟩
    · obtain ⟨held, created⟩ := created_before_wait parts
      rw [← suspends, not_not] at creates
      exact .inl ⟨_, held, created, creates⟩

/-- A child that is waited for and cannot run is stuck. -/
theorem stuck_before_wait (halted : ¬Running before) : Stuck before := by
  have runs := mt (running_before_wait_iff parts).2 halted
  rw [not_or, Bool.not_eq_false] at runs
  obtain ⟨creates, refused⟩ := runs
  obtain ⟨failure, refused⟩ := Option.ne_none_iff_exists'.1 refused
  obtain ⟨held, created⟩ := created_before_wait parts
  obtain ⟨later, resumption⟩ := asked_to_resume parts creates
  rw [refused] at resumption
  refine ⟨⟨_, held, created, ?_⟩, ⟨failure, later, resumption⟩, ?_, ?_⟩
  · exact (JobPlan.choose_suspended_iff answers.inJob answers.limits).2 creates
  · exact fun held resumed => halted (.inr ⟨held, resumed⟩)
  · intro code answer held ended
    have called : .terminateProcess code ∈ calls before :=
      List.mem_map_of_mem (mem_exchanges.2 ⟨held, ended⟩)
    rw [calls_before_wait parts] at called
    obtain ⟨stage, -, called⟩ := List.mem_filterMap.1 called
    obtain rfl := stage_of_call? called
    simp [Stage.call?, Request.interface, Interface.stage] at called

theorem result_of_wait :
    (run answers order pid).result =
      outcome (firstError? answers order [.wait, .code]) answers.exitCode := by
  have stages : Stage.all = untilWait ++ [.wait, .code] := rfl
  rw [run_result, stages, firstError?_append, (moment_of_wait parts).passes, Option.none_or]

end Waits

/-- Whether the waits of a launch with arguments are for running children is settled by the stages
before the wait, the plan and the answer to the call that lets the child run. -/
theorem waitsForRunning_run_iff (answers : Answers) (order : Order) (pid : Int32) :
    WaitsForRunning (run answers order pid).events ↔
      (∃ stage ∈ untilWait, stage.error? answers order ≠ none) ∨
        answers.plan.createsJob = false ∨ answers.failure .resumeThread = none := by
  constructor
  · intro waits
    by_cases passes : firstError? answers order untilWait = none
    · obtain ⟨before, answer, held, after, parts⟩ := exists_wait pid passes
      right
      exact (running_before_wait_iff parts).1 (waits before answer held after parts)
    · left
      rw [firstError?, List.findSome?_eq_none_iff] at passes
      push Not at passes
      exact passes
  · intro runs before answer held after parts
    have passes := List.findSome?_eq_none_iff.1 (moment_of_wait parts).passes
    rcases runs with ⟨stage, member, fails⟩ | runs
    · exact absurd (passes stage member) fails
    · exact (running_before_wait_iff parts).2 runs

/-- Without arguments nothing is waited for. -/
theorem unwaited_of_empty (answers : Answers) {order : Order} (pid : Int32)
    (empty : order.arguments = []) (before : List Event) (answer : Option Failure) (held : Holdings)
    (after : List Event) :
    (launch answers order pid).events ≠ before ++ .asked .waitForProcess answer held :: after := by
  intro parts
  have call : (.waitForProcess, answer) ∈ exchanges (launch answers order pid).events :=
    mem_exchanges.2 ⟨held, by simp [parts]⟩
  rw [(launch_of_empty empty).2] at call
  cases call

/-- **A launch waits for running children alone exactly if it never comes to the wait, the child has
no job of its own, or the child's thread is resumed.** Otherwise the launch waits for a child that is
stuck, and all that it reports is what the wait and the question for the code answer. -/
theorem waits_for_running_iff (answers : Answers) (order : Order) (pid : Int32) :
    let report := launch answers order pid
    (WaitsForRunning report.events ↔
        order.arguments = [] ∨ (∃ stage ∈ untilWait, stage.error? answers order ≠ none) ∨
          answers.plan.createsJob = false ∨ answers.failure .resumeThread = none) ∧
      ∀ before answer held after,
        report.events = before ++ .asked .waitForProcess answer held :: after →
          ¬Running before → Stuck before ∧ report.result =
            outcome (firstError? answers order [.wait, .code]) answers.exitCode := by
  intro report
  by_cases empty : order.arguments = []
  · have unwaited := unwaited_of_empty answers pid empty
    refine ⟨⟨fun _ => .inl empty, fun _ before answer held after parts => ?_⟩,
      fun before answer held after parts => ?_⟩
    · exact absurd parts (unwaited before answer held after)
    · exact absurd parts (unwaited before answer held after)
  · have same : report = run answers order pid := launch_of_nonempty empty
    rw [same]
    refine ⟨?_, fun before answer held after parts halted => ?_⟩
    · exact (waitsForRunning_run_iff answers order pid).trans (or_iff_right empty).symm
    · exact ⟨stuck_before_wait parts halted, result_of_wait parts⟩

/-- A system that grants every call but the one that lets a suspended child run. -/
def unresuming : Answers :=
  { granting with
    failure := fun call => if call = .resumeThread then some ⟨5, "Access is denied."⟩ else none }

/-- The launch comes to the wait, and the child's thread has not been resumed. -/
theorem waits_for_running_iff_halted :
    let report := launch unresuming redirected 7
    ¬WaitsForRunning report.events ∧
      ∃ before answer held after,
        report.events = before ++ .asked .waitForProcess answer held :: after ∧
          ¬Running before ∧ Stuck before ∧ report.result = .ok 0xffffffff := by
  intro report
  have passes : firstError? unresuming redirected untilWait = none := by decide
  obtain ⟨before, answer, held, after, parts⟩ := exists_wait 7 passes
  have halted : ¬Running before := by
    rw [running_before_wait_iff parts]
    decide
  have same : report = run unresuming redirected 7 := launch_of_nonempty (by decide)
  rw [← same] at parts
  obtain ⟨stuck, result⟩ :=
    (waits_for_running_iff unresuming redirected 7).2 before answer held after parts halted
  refine ⟨?_, before, answer, held, after, parts, halted, stuck, result⟩
  exact fun waits => halted (waits before answer held after parts)

/-- A launch reports the end of a child that was created suspended and never resumed: it has waited
for it. -/
theorem halted_child_is_waited_for :
    let report := launch unresuming redirected 7
    (∃ answer held, .asked .waitForProcess answer held ∈ report.events) ∧
      (∃ held, .asked (.createProcess (creation unresuming redirected)) none held ∈ report.events) ∧
      (creation unresuming redirected).flags &&& JobPlan.suspended ≠ 0 ∧
      (∀ held, .asked .resumeThread none held ∉ report.events) ∧
      report.result = .ok 0xffffffff := by
  intro report
  have passes : firstError? unresuming redirected untilWait = none := by decide
  obtain ⟨before, answer, held, after, parts⟩ := exists_wait 7 passes
  obtain ⟨charged, created⟩ := created_before_wait parts
  have same : report = run unresuming redirected 7 := launch_of_nonempty (by decide)
  rw [same]
  refine ⟨⟨answer, held, by simp [parts]⟩, ⟨charged, by simp [parts, created]⟩, by decide, ?_,
    result_of_wait parts⟩
  intro held resumed
  rcases called_of_asked resumed with ⟨-, answered⟩ | ends
  · cases answered
  · cases ends

end JobLaunch

end CompilerLauncher
