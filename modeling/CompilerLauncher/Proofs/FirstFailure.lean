import CompilerLauncher.Proofs.JobRecord

/-!
# The first failure of a launch

A launch succeeds exactly when every stage passes, and then it has made every call of the stages in
their order. Otherwise it reports the error of the first stage that fails, and has called nothing
after that stage but the end of a child that could not be put into its job
(`run_reports_first_failure`).
-/

namespace CompilerLauncher

namespace JobLaunch

/-- The calls in a record. -/
def calls (events : List Event) : List Request :=
  (exchanges events).map Prod.fst

/-- The request that a deed makes. -/
def Deed.request? (deed : Deed) : Option Request :=
  deed.exchange?.map Prod.fst

section Calls

variable {answers : Answers} {order : Order} {stage : Stage} {error : LaunchError}

theorem calls_trace (holdings : Holdings) (deeds : List Deed) :
    calls (trace holdings deeds) = deeds.filterMap Deed.request? := by
  rw [calls, exchanges_trace, List.map_filterMap]
  rfl

/-- A child that could not be put into its job is ended. -/
theorem requests_followUp (answers : Answers) (order : Order) (stage : Stage)
    (refusal : Option Failure) :
    (stage.followUp answers order refusal).filterMap Deed.request? =
      if stage = .assignment ∧ (stage.errorOn answers order refusal).isSome then
        [.terminateProcess 1]
      else [] := by
  cases stage <;> cases refusal <;>
    simp [Stage.followUp, Stage.errorOn, Deed.request?, Deed.exchange?]

/-- A stage makes its own call, and that of the assignment may be followed by the child's end. -/
theorem requests_deeds (stage : Stage) :
    (stage.deeds answers order).filterMap Deed.request? =
      (stage.call? answers order).toList ++
        if stage = .assignment ∧ (stage.error? answers order).isSome then [.terminateProcess 1]
        else [] := by
  cases called : stage.call? answers order with
  | some request =>
    have follow := requests_followUp answers order stage (answers.failure request.interface)
    simp [Stage.deeds, Stage.error?, called, Deed.request?, Deed.exchange?, follow]
  | none =>
    have passes : ¬ (stage = .assignment ∧ (stage.error? answers order).isSome) := by
      rintro ⟨rfl, fails⟩
      rw [Stage.error?_of_uncalled called] at fails
      cases fails
    rw [if_neg passes, Stage.deeds_of_uncalled called]
    rfl

theorem requests_of_passes {stages : List Stage}
    (passes : firstError? answers order stages = none) :
    (stages.flatMap (Stage.deeds answers order)).filterMap Deed.request? =
      stages.filterMap (Stage.call? answers order) := by
  rw [List.filterMap_flatMap, List.filterMap_eq_flatMap_toList]
  refine List.flatMap_congr fun stage member => ?_
  have passed := List.findSome?_eq_none_iff.1 passes stage member
  simp [requests_deeds, passed]

/-- To start with, nothing is asked. -/
theorem requests_opening (order : Order) : order.opening.filterMap Deed.request? = [] := by
  refine List.filterMap_eq_nil_iff.2 fun deed member => ?_
  obtain ⟨stream, rfl⟩ := Order.of_mem_opening member
  rfl

theorem calls_run (answers : Answers) (order : Order) (pid : Int32) :
    calls (run answers order pid).events =
      (carriedDeeds answers order Stage.all).filterMap Deed.request? := by
  rw [run_events, calls_trace, launchDeeds, List.filterMap_append, List.filterMap_append,
    requests_opening]
  simp [Deed.request?, Deed.exchange?]

theorem calls_of_passes (pid : Int32) (passes : firstError? answers order Stage.all = none) :
    calls (run answers order pid).events = Stage.all.filterMap (Stage.call? answers order) := by
  rw [calls_run, carriedDeeds, carried_of_passes passes, requests_of_passes passes]

theorem calls_of_fails {passed rest : List Stage} (pid : Int32)
    (row : Stage.all = passed ++ stage :: rest) (passes : firstError? answers order passed = none)
    (fails : stage.error? answers order = some error) :
    calls (run answers order pid).events =
      (passed ++ [stage]).filterMap (Stage.call? answers order) ++
        if stage = .assignment then [.terminateProcess 1] else [] := by
  have own : (stage.deeds answers order).filterMap Deed.request? =
      [stage].filterMap (Stage.call? answers order) ++
        if stage = .assignment then [.terminateProcess 1] else [] := by
    rw [requests_deeds, fails]
    cases called : stage.call? answers order <;> simp [called]
  rw [calls_run, row, carriedDeeds, carried_append_of_passes passes, List.flatMap_append,
    List.filterMap_append, List.filterMap_append, requests_of_passes passes]
  simp [carried, fails, own]

end Calls

/-- A launch succeeds exactly when all its stages pass, with the code of its child and after all
calls that its stages make. One that fails reports the error of the first stage that fails, and
calls nothing after it but the end of a child that could not be put into its job. -/
theorem run_reports_first_failure (answers : Answers) (order : Order) (pid : Int32) :
    let report := run answers order pid
    (∀ code, report.result = .ok code ↔
        (∀ stage ∈ Stage.all, stage.error? answers order = none) ∧ code = answers.exitCode) ∧
      (∀ code, report.result = .ok code →
        report.outcome = .ok (.exited code.toInt32) ∧ code.toInt32.toUInt32 = code ∧
          calls report.events = Stage.all.filterMap (Stage.call? answers order)) ∧
      ∀ error, report.result = .error error →
        report.outcome = .error error ∧ report.exitStatus = -1 ∧
          ∃ passed stage rest, Stage.all = passed ++ stage :: rest ∧
            (∀ earlier ∈ passed, earlier.error? answers order = none) ∧
            stage.error? answers order = some error ∧
            calls report.events = (passed ++ [stage]).filterMap (Stage.call? answers order) ++
              if stage = .assignment then [.terminateProcess 1] else [] := by
  intro report
  have result : report.result = outcome (firstError? answers order Stage.all) answers.exitCode :=
    run_result answers order pid
  cases found : firstError? answers order Stage.all with
  | none =>
    have passes := List.findSome?_eq_none_iff.1 found
    rw [found, outcome] at result
    refine ⟨fun code => ?_, fun code succeeded => ?_, fun error failed => ?_⟩
    · rw [result, Except.ok.injEq]
      exact ⟨fun same => ⟨passes, same.symm⟩, fun ⟨_, same⟩ => same.symm⟩
    · exact ⟨by rw [Report.outcome, succeeded]; rfl, by simp, calls_of_passes pid found⟩
    · rw [result] at failed
      cases failed
  | some first =>
    obtain ⟨passed, stage, rest, row, fails, passes⟩ := List.findSome?_eq_some_iff.1 found
    rw [found, outcome] at result
    refine ⟨fun code => ⟨fun succeeded => ?_, fun ⟨all, _⟩ => ?_⟩, fun code succeeded => ?_,
      fun error failed => ?_⟩
    · rw [result] at succeeded
      cases succeeded
    · have member : stage ∈ Stage.all := by simp [row]
      rw [all stage member] at fails
      cases fails
    · rw [result] at succeeded
      cases succeeded
    · obtain rfl : first = error := Except.error.inj (result.symm.trans failed)
      exact ⟨by rw [Report.outcome, failed]; rfl, by rw [Report.exitStatus, failed], passed, stage,
        rest, row, passes, fails,
        calls_of_fails pid row (List.findSome?_eq_none_iff.2 passes) fails⟩

/-- A child that ends with the largest code, and one that cannot be put into its job. -/
theorem run_reports_first_failure_unassigned :
    let error := LaunchError.assignToJob "cc.exe" 5 "Access is denied."
    (run granting redirected 7).result = .ok 0xffffffff ∧
      (run granting redirected 7).outcome = .ok (.exited (-1)) ∧
      (run unassigning redirected 7).result = .error error ∧
      (run unassigning redirected 7).exitStatus = -1 ∧
      ∃ passed stage rest, Stage.all = passed ++ stage :: rest ∧
        (∀ earlier ∈ passed, earlier.error? unassigning redirected = none) ∧
        stage.error? unassigning redirected = some error := by
  intro error
  have succeeded : (run granting redirected 7).result = .ok 0xffffffff := by decide
  have failed : (run unassigning redirected 7).result =
      .error (.assignToJob "cc.exe" 5 "Access is denied.") := by decide
  obtain ⟨ended, -, -⟩ := (run_reports_first_failure granting redirected 7).2.1 _ succeeded
  obtain ⟨-, status, passed, stage, rest, row, passes, fails, -⟩ :=
    (run_reports_first_failure unassigning redirected 7).2.2 error failed
  exact ⟨succeeded, ended, failed, status, passed, stage, rest, row, passes, fails⟩

/-- A redirect file whose handle means none is reported before its handle is touched. -/
example :
    let order : Order := { redirected with invalidRedirect := (· == .error) }
    (run granting order 7).result = .error (.invalidHandle "stderr" "invalid handle value") ∧
      .handleInformation .error ∉ calls (run granting order 7).events := by
  decide

end JobLaunch

end CompilerLauncher
