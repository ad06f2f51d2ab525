import CompilerLauncher.Proofs.JobStages
import Mathlib.Data.List.Nodup

/-!
# The record of a launch

A launch obtains its redirect files, carries out its stages and gives back what is left
(`launchDeeds`); its record is the trace of that (`run_eq`).

A call of the system is made at one stage only (`Interface.stage`). Where the record shows a call,
the stages before that stage have passed, and what comes before and after the call in the record is
what the stages before and after it do (`moment_of_asked`).
-/

namespace CompilerLauncher

namespace JobLaunch

/-- How a launch starts: with the redirect files, if its output goes to files. -/
def Order.opening (order : Order) : List Deed :=
  if order.redirects then [.obtain (.redirect .error), .obtain (.redirect .output)] else []

/-- To start with, a launch only obtains redirect files. -/
theorem Order.of_mem_opening {order : Order} {deed : Deed} (member : deed ∈ order.opening) :
    ∃ stream, deed = .obtain (.redirect stream) := by
  rw [Order.opening] at member
  split at member
  · rcases List.mem_pair.1 member with rfl | rfl <;> exact ⟨_, rfl⟩
  · cases member

/-- All that a launch does, until it has given back what it held. -/
def launchDeeds (answers : Answers) (order : Order) : List Deed :=
  order.opening ++ carriedDeeds answers order Stage.all ++ [.release fun _ => true]

/-- What is held before a launch starts. -/
def bare (pid : Int32) : Holdings := ⟨[], pid⟩

theorem run_eq (answers : Answers) (order : Order) (pid : Int32) :
    run answers order pid =
      { result := outcome (firstError? answers order Stage.all) answers.exitCode
        events := trace (bare pid) (launchDeeds answers order)
        holdings := (bare pid).after (launchDeeds answers order) } := by
  have start : atStart order pid = Desk.after ⟨bare pid, []⟩ order.opening := by
    rw [atStart, Order.opening]
    cases order.redirects <;> rfl
  have ran := steps_carries answers order (atStart order pid)
  have whole : (Desk.after (atStart order pid) (carriedDeeds answers order Stage.all)).release
      (fun _ => true) = Desk.after ⟨bare pid, []⟩ (launchDeeds answers order) := by
    rw [launchDeeds, Desk.after_append, Desk.after_append, start]
    rfl
  rw [run, ran]
  dsimp only
  rw [whole, Desk.after_eq]
  simp [Desk.events]

theorem run_events (answers : Answers) (order : Order) (pid : Int32) :
    (run answers order pid).events = trace (bare pid) (launchDeeds answers order) :=
  congrArg Report.events (run_eq answers order pid)

theorem run_result (answers : Answers) (order : Order) (pid : Int32) :
    (run answers order pid).result =
      outcome (firstError? answers order Stage.all) answers.exitCode :=
  congrArg Report.result (run_eq answers order pid)

theorem run_holdings (answers : Answers) (order : Order) (pid : Int32) :
    (run answers order pid).holdings = (bare pid).after (launchDeeds answers order) :=
  congrArg Report.holdings (run_eq answers order pid)

/-! ## The calls of a record -/

/-- A call with its answer. -/
abbrev Exchange := Request × Option Failure

/-- The call that an entry records. -/
def Event.exchange? : Event → Option Exchange
  | asked request failure _ => some (request, failure)
  | obtained _ | released _ | wrote _ _ | recorded _ => none

/-- The calls in a record, with their answers. -/
def exchanges (events : List Event) : List Exchange :=
  events.filterMap Event.exchange?

/-- The call that a deed makes. -/
def Deed.exchange? : Deed → Option Exchange
  | ask request failure => some (request, failure)
  | obtain _ | release _ | write _ _ | record _ => none

theorem exchanges_trace (holdings : Holdings) (deeds : List Deed) :
    exchanges (trace holdings deeds) = deeds.filterMap Deed.exchange? := by
  induction deeds generalizing holdings with
  | nil => rfl
  | cons deed rest ih =>
    rw [trace, exchanges, List.filterMap_append, ← exchanges, ← exchanges, ih]
    cases deed with
    | release kind =>
      have none : exchanges ((holdings.resources.filter kind).reverse.map .released) = [] := by
        simp [exchanges, Event.exchange?]
      rw [Deed.events, none]
      rfl
    | _ => rfl

theorem mem_exchanges {events : List Event} {request : Request} {answer : Option Failure} :
    (request, answer) ∈ exchanges events ↔ ∃ held, .asked request answer held ∈ events := by
  rw [exchanges, List.mem_filterMap]
  constructor
  · rintro ⟨event, member, found⟩
    cases event <;> cases found
    exact ⟨_, member⟩
  · exact fun ⟨held, member⟩ => ⟨_, member, rfl⟩

theorem mem_exchanges_trace {holdings : Holdings} {deeds : List Deed} {request : Request}
    {answer : Option Failure} :
    (request, answer) ∈ exchanges (trace holdings deeds) ↔ .ask request answer ∈ deeds := by
  rw [exchanges_trace, List.mem_filterMap]
  constructor
  · rintro ⟨deed, member, found⟩
    cases deed <;> cases found
    exact member
  · exact fun member => ⟨_, member, rfl⟩

/-! ## Launches with and without arguments -/

section Launch

variable {answers : Answers} {order : Order} {pid : Int32}

theorem launch_of_nonempty (nonempty : order.arguments ≠ []) :
    launch answers order pid = run answers order pid :=
  if_neg nonempty

/-- Nothing is asked of the system for an empty vector. -/
theorem launch_of_empty (empty : order.arguments = []) :
    (launch answers order pid).result = .error (.invalidArgument "empty argument vector") ∧
      exchanges (launch answers order pid).events = [] := by
  have refused : launch answers order pid =
      ⟨.error (.invalidArgument "empty argument vector"),
        ((atStart order pid).release fun _ => true).events,
        ((atStart order pid).release fun _ => true).holdings⟩ := if_pos empty
  rw [refused]
  refine ⟨rfl, ?_⟩
  unfold atStart
  cases order.redirects <;> rfl

end Launch

/-! ## Where a call is made -/

/-- The stage at which a child gets a stream. -/
def Stream.stage : Stream → Stage
  | input => .input
  | output => .output
  | error => .errors

/-- The stage at which a call of the system is made. -/
def Interface.stage : Interface → Stage
  | isProcessInJob => .membership
  | queryInformation => .limits
  | createJob => .job
  | setInformation => .jobLimits
  | standardHandle stream | handleInformation stream => stream.stage
  | makeFile => .spill
  | writeFile => .content
  | flushFile => .flush
  | createProcess => .creation
  | assignProcess | terminateProcess => .assignment
  | resumeThread => .resumption
  | waitForProcess => .wait
  | exitCode => .code

section Calls

variable {answers : Answers} {order : Order} {stage : Stage} {stages : List Stage}
  {request : Request} {failure : Option Failure}

theorem stage_of_call? (called : stage.call? answers order = some request) :
    request.interface.stage = stage := by
  cases stage <;>
    grind [Stage.call?, streamCall?, Request.interface, Interface.stage, Stream.stage,
      Option.map_eq_some_iff]

/-- After its own call a stage makes no other than the one that ends the child. -/
theorem eq_of_ask_mem_followUp {refusal : Option Failure}
    (asked : .ask request failure ∈ stage.followUp answers order refusal) :
    stage = .assignment ∧ request = .terminateProcess 1 := by
  cases stage <;> cases refusal <;> simp_all [Stage.followUp]

/-- A call at a stage is the stage's own, or the one that ends a child. -/
theorem of_ask_mem_deeds (asked : .ask request failure ∈ stage.deeds answers order) :
    stage.call? answers order = some request ∧ failure = answers.failure request.interface ∨
      stage = .assignment ∧ request = .terminateProcess 1 := by
  obtain ⟨planned, called, same | later⟩ := Stage.of_mem_deeds asked
  · cases same
    exact .inl ⟨called, rfl⟩
  · exact .inr (eq_of_ask_mem_followUp later)

theorem stage_of_ask_mem
    (asked : .ask request failure ∈ stages.flatMap (Stage.deeds answers order)) :
    request.interface.stage ∈ stages := by
  obtain ⟨stage, member, asked⟩ := List.mem_flatMap.1 asked
  rcases of_ask_mem_deeds asked with ⟨called, -⟩ | ⟨rfl, rfl⟩
  · rw [stage_of_call? called]
    exact member
  · exact member

theorem carried_isPrefix (answers : Answers) (order : Order) (stages : List Stage) :
    carried answers order stages <+: stages := by
  induction stages with
  | nil => exact List.nil_prefix
  | cons stage rest ih =>
    rw [carried, List.prefix_cons_inj]
    split
    · exact List.nil_prefix
    · exact ih

end Calls

/-! ## A call in the record -/

/-- What a launch does after a stage's call has been granted or refused. -/
def onward (answers : Answers) (order : Order) (stage : Stage) (rest : List Stage)
    (failure : Option Failure) : List Deed :=
  stage.followUp answers order failure ++
    (if (stage.errorOn answers order failure).isSome then []
      else carriedDeeds answers order rest) ++
    [.release fun _ => true]

/-- What is before and after a stage's call when the stages before it have passed. -/
structure Moment (answers : Answers) (order : Order) (pid : Int32) (passed : List Stage)
    (stage : Stage) (rest : List Stage) (before : List Event) (request : Request)
    (failure : Option Failure) (held : Holdings) (after : List Event) : Prop where
  called : stage.call? answers order = some request
  answered : failure = answers.failure request.interface
  passes : firstError? answers order passed = none
  earlier : before =
    trace (bare pid) (order.opening ++ passed.flatMap (Stage.deeds answers order))
  holds : held =
    (bare pid).after (order.opening ++ passed.flatMap (Stage.deeds answers order))
  later : after = trace held (onward answers order stage rest failure)
  ends : (run answers order pid).holdings = held.after (onward answers order stage rest failure)

section Moments

variable {answers : Answers} {order : Order} {pid : Int32} {passed rest : List Stage}
  {stage : Stage} {before after : List Event} {request : Request} {failure : Option Failure}
  {held : Holdings}

theorem ask_notMem_opening : .ask request failure ∉ order.opening := by
  intro asked
  obtain ⟨stream, same⟩ := Order.of_mem_opening asked
  cases same

theorem ask_mem_carriedDeeds (asked : .ask request failure ∈ launchDeeds answers order) :
    .ask request failure ∈ carriedDeeds answers order Stage.all := by
  simpa [launchDeeds, ask_notMem_opening] using asked

/-- A stage stands neither among those before it nor among those after it. -/
theorem notMem_of_row (row : Stage.all = passed ++ stage :: rest) :
    stage ∉ passed ∧ stage ∉ rest := by
  have once : (passed ++ stage :: rest).Nodup := row ▸ (by decide : Stage.all.Nodup)
  have alone := (List.nodup_cons.1 (List.nodup_middle.1 once)).1
  exact ⟨fun earlier => alone (List.mem_append_left rest earlier),
    fun later => alone (List.mem_append_right passed later)⟩

/-- The stages before one that is carried out have passed. -/
theorem passes_of_mem_carried (row : Stage.all = passed ++ stage :: rest)
    (member : stage ∈ carried answers order Stage.all) :
    firstError? answers order passed = none := by
  cases found : firstError? answers order passed with
  | none => rfl
  | some error =>
    rw [row, carried_append_of_fails found] at member
    exact absurd ((carried_isPrefix answers order passed).subset member) (notMem_of_row row).1

theorem launchDeeds_of_passes (row : Stage.all = passed ++ stage :: rest)
    (passes : firstError? answers order passed = none) :
    launchDeeds answers order =
      (order.opening ++ passed.flatMap (Stage.deeds answers order)) ++
        (carriedDeeds answers order (stage :: rest) ++ [.release fun _ => true]) := by
  rw [launchDeeds, row, carriedDeeds, carried_append_of_passes passes, List.flatMap_append]
  simp [carriedDeeds]

theorem ask_notMem_earlier (unpassed : request.interface.stage ∉ passed) :
    .ask request failure ∉ order.opening ++ passed.flatMap (Stage.deeds answers order) := by
  intro asked
  rcases List.mem_append.1 asked with opening | earlier
  · exact ask_notMem_opening opening
  · exact unpassed (stage_of_ask_mem earlier)

theorem ask_notMem_onward {refusal : Option Failure} (other : request ≠ .terminateProcess 1)
    (unleft : request.interface.stage ∉ rest) :
    .ask request failure ∉ onward answers order stage rest refusal := by
  intro asked
  rw [onward, List.append_assoc] at asked
  rcases List.mem_append.1 asked with ends | later
  · exact other (eq_of_ask_mem_followUp ends).2
  · rcases List.mem_append.1 later with later | closing
    · split at later
      · cases later
      · exact unleft ((carried_isPrefix answers order rest).subset (stage_of_ask_mem later))
    · simp at closing

/-- Where the record shows a call other than the one that ends a child, the stages before the call's
own have passed. -/
theorem moment_of_asked (home : request.interface.stage = stage)
    (row : Stage.all = passed ++ stage :: rest) (other : request ≠ .terminateProcess 1)
    (parts : (run answers order pid).events = before ++ .asked request failure held :: after) :
    Moment answers order pid passed stage rest before request failure held after := by
  subst home
  rw [run_events] at parts
  obtain ⟨first, second, cut, rfl, rfl, rfl⟩ := trace_eq_append_asked parts
  have asked : .ask request failure ∈ launchDeeds answers order := by simp [cut]
  obtain ⟨stage, member, asked⟩ := List.mem_flatMap.1 (ask_mem_carriedDeeds asked)
  rcases of_ask_mem_deeds asked with ⟨called, rfl⟩ | ⟨-, ends⟩
  · obtain rfl := stage_of_call? called
    obtain ⟨unpassed, unleft⟩ := notMem_of_row row
    have passes := passes_of_mem_carried row member
    have whole : launchDeeds answers order =
        order.opening ++ passed.flatMap (Stage.deeds answers order) ++
          .ask request (answers.failure request.interface) ::
            onward answers order request.interface.stage rest
              (answers.failure request.interface) := by
      rw [launchDeeds_of_passes row passes, carriedDeeds_of_called called]
      rfl
    -- The call is made nowhere else, so the record can only be cut at the stage's own call.
    obtain ⟨rfl, -, rfl⟩ :=
      (List.append_cons_inj_of_notMem (ask_notMem_earlier unpassed)
        (ask_notMem_onward other unleft)).1 (whole.symm.trans cut)
    refine ⟨called, rfl, passes, rfl, rfl, rfl, ?_⟩
    rw [run_holdings, whole, Holdings.after_append]
    rfl
  · exact absurd ends other

end Moments

/-! ## A launch to look at -/

/-- A system that grants every call to a launcher outside any job. -/
def granting : Answers where
  failure _ := none
  inJob := false
  limits := 0
  invalidHandle _ := false
  file := [0x72]
  taken := 0
  pid := 4242
  exitCode := 0xffffffff

/-- The same system, but it does not let the child into its job. -/
def unassigning : Answers :=
  { granting with
    failure := fun call => if call = .assignProcess then some ⟨5, "Access is denied."⟩ else none }

/-- The program `cc`, with its output to files. -/
def redirected : Order where
  arguments := [[0x63, 0x63]]
  redirects := true
  invalidRedirect _ := false
  shellFor _ := none
  directory := [0x2f]

end JobLaunch

end CompilerLauncher
