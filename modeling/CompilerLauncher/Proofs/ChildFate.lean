import CompilerLauncher.Proofs.ChildCreation

/-!
# What becomes of a child

A child that has been created is waited for in the job of its launcher, or waited for in a job of
its own that it is put into before it is let run, or ended before it has run because it could not be
put there (`Fate.History`). Which it is follows from its placement and one answer (`settling`).

The main statement is `child_meets_one_fate`: every created child meets exactly one fate, its pid is
recorded at every later call and forgotten at the end, and it never runs before its place is
settled.
-/

namespace CompilerLauncher

namespace JobLaunch

/-- What becomes of a child: it stays in the job of its launcher, it joins a job of its own, or it
is ended. -/
inductive Fate
  | stays
  | joins
  | ends
  deriving DecidableEq, Repr

/-- The calls of a wait: the code is asked for only if the wait has not failed. -/
inductive Awaited : List Exchange → Prop
  | failed (failure : Failure) : Awaited [(.waitForProcess, some failure)]
  | done (answer : Option Failure) : Awaited [(.waitForProcess, none), (.exitCode, answer)]

/-- A job has been made that kills its members when it is closed. -/
structure JobMade (calls : List Exchange) : Prop where
  created : (.createJob, none) ∈ calls
  limited : ∃ limits, (.setInformation limits, none) ∈ calls ∧ limits &&& JobPlan.killOnClose ≠ 0

/-- The calls before and after the creation of a child that meets a fate. -/
def Fate.History (before : List Exchange) (creation : Creation) (after : List Exchange) :
    Fate → Prop
  | stays =>
    (∀ answer, (.createJob, answer) ∉ before) ∧ creation.flags &&& JobPlan.suspended = 0 ∧
      Awaited after
  | joins =>
    JobMade before ∧ creation.flags &&& JobPlan.suspended ≠ 0 ∧
      ∃ resumed awaited, Awaited awaited ∧
        after = (.assignProcess, none) :: (.resumeThread, resumed) :: awaited
  | ends =>
    JobMade before ∧ creation.flags &&& JobPlan.suspended ≠ 0 ∧
      ∃ failure ended, after = [(.assignProcess, some failure), (.terminateProcess 1, ended)]

/-- The child can run: it was not created suspended, or it has been resumed. -/
def CanRun (done : List Event) : Prop :=
  (∃ creation held, .asked (.createProcess creation) none held ∈ done ∧
      creation.flags &&& JobPlan.suspended = 0) ∨
    ∃ answer held, .asked .resumeThread answer held ∈ done

/-- The child's place is settled: no job is made for it at all, or it has been put into its job. -/
def Placed (events done : List Event) : Prop :=
  (∀ answer held, .asked .createJob answer held ∉ events) ∨
    ∃ held, .asked .assignProcess none held ∈ done

theorem awaited_awaiting (answers : Answers) : Awaited (awaiting answers) := by
  rw [awaiting]
  cases answers.failure .waitForProcess with
  | some failure => exact .failed failure
  | none => exact .done _

section Fates

variable {answers : Answers} {order : Order} {pid : Int32} {before after : List Event}
  {creation : Creation} {held : Holdings} {request : Request} {answer : Option Failure}

/-- A call in the record is the one that its stage makes, or the one that ends a child. -/
theorem called_of_asked (asked : .asked request answer held ∈ (run answers order pid).events) :
    request.interface.stage.call? answers order = some request ∧
        answer = answers.failure request.interface ∨
      request = .terminateProcess 1 := by
  have member : (request, answer) ∈ exchanges (run answers order pid).events :=
    mem_exchanges.2 ⟨held, asked⟩
  rw [run_events, mem_exchanges_trace] at member
  obtain ⟨stage, -, member⟩ := List.mem_flatMap.1 (ask_mem_carriedDeeds member)
  rcases of_ask_mem_deeds member with ⟨called, answered⟩ | ⟨-, same⟩
  · exact .inl ⟨(stage_of_call? called).symm ▸ called, answered⟩
  · exact .inr same

/-- No job is made for a child that is not to have one. -/
theorem createJob_notMem (inherits : answers.plan.createsJob = false) :
    .asked .createJob answer held ∉ (run answers order pid).events := by
  intro asked
  rcases called_of_asked asked with ⟨called, -⟩ | same
  · simp [Stage.call?, Request.interface, Interface.stage, inherits] at called
  · cases same

/-- The calls of the stages that have passed are in the record, with their answers. -/
theorem Moment.exchanged {passed rest : List Stage} {stage earlier : Stage} {planned : Request}
    {failure : Option Failure}
    (moment : Moment answers order pid passed stage rest before request failure held after)
    (member : earlier ∈ passed) (called : earlier.call? answers order = some planned) :
    (planned, answers.failure planned.interface) ∈ exchanges before := by
  rw [moment.earlier, mem_exchanges_trace]
  refine List.mem_append_right _ (List.mem_flatMap.2 ⟨earlier, member, ?_⟩)
  rw [Stage.deeds_of_called called]
  exact .head _

/-- A stage that passes has had its call granted, if it reports every refusal. -/
theorem Moment.granted {passed rest : List Stage} {stage earlier : Stage} {planned : Request}
    {failure : Option Failure} {report : Failure → LaunchError}
    (moment : Moment answers order pid passed stage rest before request failure held after)
    (member : earlier ∈ passed) (called : earlier.call? answers order = some planned)
    (reported : ∀ refusal, earlier.errorOn answers order refusal = refusal.map report) :
    (planned, none) ∈ exchanges before := by
  have passes := List.findSome?_eq_none_iff.1 moment.passes earlier member
  rw [← Stage.granted called reported passes]
  exact moment.exchanged member called

/-- A child is created suspended exactly if a job is made for it. -/
theorem Moment.suspended_iff {passed rest : List Stage} {failure : Option Failure}
    (moment : Moment answers order pid passed .creation rest before (.createProcess creation)
      failure held after) :
    creation.flags &&& JobPlan.suspended ≠ 0 ↔ answers.plan.createsJob = true := by
  rw [moment.creation_eq]
  exact JobPlan.choose_suspended_iff answers.inJob answers.limits

theorem exists_fate
    (parts : (run answers order pid).events =
      before ++ .asked (.createProcess creation) none held :: after) :
    ∃ fate : Fate, fate.History (exchanges before) creation (exchanges after) := by
  have moment := moment_of_creation parts
  have suspends := moment.suspended_iff
  rw [exchanges_later moment, settling]
  cases creates : answers.plan.createsJob with
  | false =>
    refine ⟨.stays, fun answer early => ?_, ?_, awaited_awaiting answers⟩
    · obtain ⟨held, asked⟩ := mem_exchanges.1 early
      refine createJob_notMem creates (parts ▸ List.mem_append_left _ asked)
    · by_contra suspended
      rw [suspends.1 suspended] at creates
      cases creates
  | true =>
    have makes : Stage.job.call? answers order = some .createJob := by
      simp [Stage.call?, creates]
    have limits :
        Stage.jobLimits.call? answers order = some (.setInformation JobPlan.ownLimits) := by
      simp [Stage.call?, creates]
    have made : JobMade (exchanges before) :=
      ⟨moment.granted (by decide) makes fun _ => rfl, JobPlan.ownLimits,
        moment.granted (by decide) limits fun _ => rfl, by decide⟩
    have suspended := suspends.2 creates
    cases answers.failure .assignProcess with
    | some failure => exact ⟨.ends, made, suspended, failure, _, rfl⟩
    | none => exact ⟨.joins, made, suspended, _, _, awaited_awaiting answers, rfl⟩

/-- No calls are the history of two fates. -/
theorem Fate.History.unique {first second : Fate} {earlier later : List Exchange}
    (one : first.History earlier creation later) (other : second.History earlier creation later) :
    first = second := by
  cases first <;> cases second <;> try rfl
  · exact absurd other.1.created (one.1 none)
  · exact absurd other.1.created (one.1 none)
  · exact absurd one.1.created (other.1 none)
  · obtain ⟨-, -, resumed, awaited, -, parts⟩ := one
    obtain ⟨-, -, failure, ended, others⟩ := other
    cases parts.symm.trans others
  · exact absurd one.1.created (other.1 none)
  · obtain ⟨-, -, failure, ended, parts⟩ := one
    obtain ⟨-, -, resumed, awaited, -, others⟩ := other
    cases parts.symm.trans others

/-! ## The child's place -/

/-- A child that can run has its place: either there is no job for it, or it was created suspended
and is resumed only after it has been put into its job. -/
theorem placed_of_canRun {done : List Event} (within : done <+: (run answers order pid).events)
    (runs : CanRun done) : Placed (run answers order pid).events done := by
  rcases runs with ⟨creation, held, created, free⟩ | ⟨answer, held, resumed⟩
  · obtain ⟨before, after, parts⟩ := List.append_of_mem (within.subset created)
    have suspends := (moment_of_creation parts).suspended_iff
    refine .inl fun answer held => createJob_notMem ?_
    rw [← Bool.not_eq_true, ← suspends, not_not]
    exact free
  · obtain ⟨before, between, rfl⟩ := List.append_of_mem resumed
    obtain ⟨rest, parts⟩ := within
    rw [List.append_assoc, List.cons_append] at parts
    have moment : Moment answers order pid (Stage.all.take 13) .resumption (Stage.all.drop 14)
        before .resumeThread answer held (between ++ rest) :=
      moment_of_asked rfl rfl (fun same => nomatch same) parts.symm
    have creates : answers.plan.createsJob = true := by
      have called := moment.called
      by_contra inherits
      simp [Stage.call?, inherits] at called
    have assigns : Stage.assignment.call? answers order = some .assignProcess := by
      simp [Stage.call?, creates]
    obtain ⟨held, assigned⟩ :=
      mem_exchanges.1 (moment.granted (by decide) assigns fun _ => rfl)
    exact .inr ⟨held, List.mem_append_left _ assigned⟩

/-! ## The recorded pid -/

/-- When a launch with a child is over, no pid is recorded. -/
theorem pid_of_created
    (moment : Moment answers order pid preparation .creation settlement before
      (.createProcess creation) none held after) :
    (run answers order pid).holdings.pid = 0 := by
  rw [moment.ends, onward_creation, Holdings.after_append]
  rfl

/-- No pid is recorded before there is a child. -/
theorem of_record_mem_deeds {stage : Stage} {recorded : Int32}
    (member : .record recorded ∈ stage.deeds answers order) :
    stage ∉ preparation ∧ (stage = .creation → stage.error? answers order = none) := by
  obtain ⟨request, called, same | later⟩ := Stage.of_mem_deeds member
  · cases same
  · rw [Stage.error?_of_called called]
    generalize answers.failure request.interface = refusal at later
    cases stage <;> cases refusal <;> simp [Stage.followUp] at later
    all_goals exact ⟨by decide, by simp [Stage.errorOn]⟩

/-- Nothing is recorded by a launch that ends before the creation of its child or with it. -/
theorem record_notMem_launchDeeds {error : LaunchError} {recorded : Int32}
    (fails : firstError? answers order (preparation ++ [.creation]) = some error) :
    .record recorded ∉ launchDeeds answers order := by
  have stages : Stage.all = preparation ++ [.creation] ++ settlement := rfl
  have last : carried answers order Stage.all =
      carried answers order (preparation ++ [.creation]) := by
    rw [stages, carried_append_of_fails fails]
  intro member
  have inside : .record recorded ∈ carriedDeeds answers order Stage.all := by
    have opening : .record recorded ∉ order.opening := by
      intro early
      obtain ⟨stream, same⟩ := Order.of_mem_opening early
      cases same
    simpa [launchDeeds, opening] using member
  obtain ⟨stage, reached, records⟩ := List.mem_flatMap.1 inside
  obtain ⟨late, passed⟩ := of_record_mem_deeds records
  have early := (carried_isPrefix answers order _).subset (last ▸ reached)
  obtain rfl : stage = .creation := by simpa [late] using early
  have passes : firstError? answers order preparation = none := passes_of_mem_carried rfl reached
  rw [firstError?_append, passes, firstError?_cons, passed rfl] at fails
  cases fails

theorem after_of_record_notMem {deeds : List Deed} (holdings : Holdings)
    (unrecorded : ∀ recorded, .record recorded ∉ deeds) :
    (holdings.after deeds).pid = holdings.pid ∧
      ∀ recorded, .recorded recorded ∉ trace holdings deeds := by
  induction deeds generalizing holdings with
  | nil => exact ⟨rfl, fun _ member => nomatch member⟩
  | cons deed rest ih =>
    obtain ⟨kept, later⟩ := ih (holdings.perform deed) fun recorded member =>
      unrecorded recorded (.tail deed member)
    rw [Holdings.after_cons, kept, trace]
    cases deed with
    | record recorded => exact absurd (.head rest) (unrecorded recorded)
    | _ =>
      refine ⟨rfl, fun recorded member => ?_⟩
      rcases List.mem_append.1 member with own | member
      · simp [Deed.events] at own
      · exact later recorded member

/-- A launch without a child records no pid. -/
theorem pid_of_uncreated
    (uncreated : ∀ creation held,
      .asked (.createProcess creation) none held ∉ (run answers order pid).events) :
    (run answers order pid).holdings.pid = pid ∧
      ∀ recorded, .recorded recorded ∉ (run answers order pid).events := by
  rw [run_holdings, run_events]
  refine after_of_record_notMem (bare pid) fun recorded => ?_
  cases found : firstError? answers order (preparation ++ [.creation]) with
  | some error => exact record_notMem_launchDeeds found
  | none =>
    rw [firstError?_append, Option.or_eq_none_iff] at found
    obtain ⟨passes, passed⟩ := found
    have granted : answers.failure .createProcess = none := by
      rw [firstError?_cons, Option.or_eq_none_iff] at passed
      exact Option.map_eq_none_iff.1 passed.1
    obtain ⟨held, asked⟩ := mem_trace_of_ask (bare pid) (ask_creation_mem passes)
    rw [granted, ← run_events] at asked
    exact absurd asked (uncreated _ held)

end Fates

/-- Every child that is created meets exactly one fate, after calls that only prepare for it. Its
pid is recorded at every later call, and none is recorded when the launch is over; it never runs
before its place is settled. A launch that creates no child leaves the recorded pid as it is. -/
theorem child_meets_one_fate (answers : Answers) (order : Order) (pid : Int32) :
    let report := run answers order pid
    (∀ before creation held after,
        report.events = before ++ .asked (.createProcess creation) none held :: after →
          (∃! fate : Fate, fate.History (exchanges before) creation (exchanges after)) ∧
            (∀ call ∈ exchanges before, call.1.interface.stage ∈ preparation) ∧
            (∀ request answer later, .asked request answer later ∈ after →
              later.pid = answers.pid.toInt32) ∧
            report.holdings.pid = 0 ∧
            ∀ done, done <+: report.events → CanRun done → Placed report.events done) ∧
      ((∀ creation held, .asked (.createProcess creation) none held ∉ report.events) →
        report.holdings.pid = pid ∧ ∀ recorded, .recorded recorded ∉ report.events) := by
  intro report
  refine ⟨fun before creation held after parts => ?_, pid_of_uncreated⟩
  have moment := moment_of_creation parts
  obtain ⟨fate, history⟩ := exists_fate parts
  refine ⟨⟨fate, history, fun other another => another.unique history⟩, fun call early => ?_,
    fun request answer later asked => congrArg Holdings.pid (of_asked_later moment asked).2,
    pid_of_created moment, fun done within runs => placed_of_canRun within runs⟩
  rw [moment.earlier, mem_exchanges_trace] at early
  rcases List.mem_append.1 early with opening | early
  · exact absurd opening ask_notMem_opening
  · exact stage_of_ask_mem early

/-- A child that joins its job, and a launch whose child is not created. -/
theorem child_meets_one_fate_joined :
    let refusing : Answers :=
      { granting with
        failure := fun call =>
          if call = .createProcess then some ⟨2, "The system cannot find the file specified."⟩
          else none }
    let events := (run granting redirected 7).events
    (∃ before creation held after,
        events = before ++ .asked (.createProcess creation) none held :: after ∧
          (∃! fate : Fate, fate.History (exchanges before) creation (exchanges after))) ∧
      CanRun events ∧ Placed events events ∧ (run granting redirected 7).holdings.pid = 0 ∧
      (∀ creation held,
        .asked (.createProcess creation) none held ∉ (run refusing redirected 7).events) ∧
      (run refusing redirected 7).holdings.pid = 7 := by
  intro refusing events
  have passes : firstError? granting redirected preparation = none := by decide
  have runs : CanRun events :=
    .inr ⟨none, ⟨[.job, .process, .thread], 4242⟩, by decide⟩
  have uncreated : ∀ creation held,
      .asked (.createProcess creation) none held ∉ (run refusing redirected 7).events := by
    intro creation held asked
    obtain ⟨before, after, parts⟩ := List.append_of_mem asked
    cases (moment_of_creation parts).answered
  obtain ⟨held, asked⟩ := mem_trace_of_ask (bare 7) (ask_creation_mem passes)
  obtain ⟨before, after, parts⟩ := List.append_of_mem asked
  rw [← run_events] at parts
  obtain ⟨fates, -, -, forgotten, places⟩ :=
    (child_meets_one_fate granting redirected 7).1 before _ held after parts
  exact ⟨⟨before, _, held, after, parts, fates⟩, runs, places events List.prefix_rfl runs,
    forgotten, uncreated, ((child_meets_one_fate refusing redirected 7).2 uncreated).1⟩

end JobLaunch

end CompilerLauncher
