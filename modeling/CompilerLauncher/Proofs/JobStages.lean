import CompilerLauncher.Proofs.JobDeeds

/-!
# The stages of a launch

A launch is a row of stages (`Stage.all`). What a stage asks of the system, what follows from the
answer and how the stage fails is told by a table (`Stage.call?`, `Stage.followUp`, `Stage.error?`),
each row from the answers and the order alone.

The launch carries out its stages up to the first that fails, and reports that failure
(`steps_carries`). Each part of the launch is a step that carries some of the stages, and steps that
follow one another carry their stages one after another (`Carries.bind`).
-/

namespace CompilerLauncher

namespace JobLaunch

/-- The parts of a launch that can fail, with the two that are let fail: the input stream and the
resumption of the child. -/
inductive Stage
  | membership
  | limits
  | job
  | jobLimits
  | arguments
  | input
  | output
  | errors
  | spill
  | content
  | flush
  | creation
  | assignment
  | resumption
  | wait
  | code
  deriving DecidableEq, Repr

/-- The stages in their order. -/
def Stage.all : List Stage :=
  [.membership, .limits, .job, .jobLimits, .arguments, .input, .output, .errors, .spill, .content,
    .flush, .creation, .assignment, .resumption, .wait, .code]

/-! ## What is to be launched, when nothing fails -/

/-- The placement of the child. -/
def Answers.plan (answers : Answers) : JobPlan :=
  JobPlan.choose answers.inJob answers.limits

namespace Order

/-- The arguments as texts. -/
def texts (order : Order) : List String :=
  (readArguments order.arguments).toOption.getD []

/-- The first argument. -/
def target (order : Order) : String :=
  order.texts.headD ""

/-- The shell that the target needs. -/
def shell (order : Order) : Option String :=
  order.shellFor order.target

/-- The text that has to go into a response file. -/
def overflow? (order : Order) : Option String :=
  if CommandLine.fits (CommandLine.render order.shell .runs order.texts) then none
  else some (CommandLine.render order.shell .escapes order.texts.tail)

/-- The content of the response file. -/
def content (order : Order) : Bytes :=
  Utf8.encode (order.overflow?.getD "")

end Order

section Table

variable (answers : Answers) (order : Order)

/-- What the creation of the child is given to start. -/
def invocation : Invocation :=
  Id.run (Invocation.build (fun _ => answers.file) (order.shell.getD order.target) order.texts
    order.shell)

/-- What the child reads from. -/
def inputBinding : Binding :=
  if (answers.failure (.standardHandle .input)).isSome then .absent
  else if answers.invalidHandle .input then .invalid
  else .own .input

/-- What the child writes a stream to. -/
def outputBinding (stream : Stream) : Binding :=
  if order.redirects then .redirect stream else .own stream

/-- What the creation of the child is given. -/
def creation : Creation where
  invocation := invocation answers order
  flags := answers.plan.flags
  input := inputBinding answers
  output := outputBinding order .output
  error := outputBinding order .error

/-- What is asked for an output stream. Nothing is for a redirect file whose handle means none. -/
def streamCall? (stream : Stream) : Option Request :=
  if order.redirects then
    if order.invalidRedirect stream then none else some (.handleInformation stream)
  else some (.standardHandle stream)

/-- Why nothing is asked for an output stream. -/
def redirectError? (stream : Stream) : Option LaunchError :=
  if order.redirects && order.invalidRedirect stream then
    some (.invalidHandle stream.name "invalid handle value")
  else none

/-- Why the child cannot write to a stream for which something was asked. -/
def streamError? (stream : Stream) : Option Failure → Option LaunchError
  | some failure => some (.invalidHandle stream.name failure.text)
  | none =>
    if !order.redirects && answers.invalidHandle stream then
      some (.invalidHandle stream.name "invalid handle value")
    else none

namespace Stage

/-- What a stage asks of the system. The stages of a child's own job ask only if it gets one, those
of a response file only if there has to be one. -/
def call? : Stage → Option Request
  | membership => some .isProcessInJob
  | limits => if answers.inJob then some .queryInformation else none
  | job => if answers.plan.createsJob then some .createJob else none
  | jobLimits =>
    if answers.plan.createsJob then some (.setInformation JobPlan.ownLimits) else none
  | input => some (.standardHandle .input)
  | output => streamCall? order .output
  | errors => streamCall? order .error
  | spill => order.overflow?.map fun _ => .makeFile answers.file
  | content => order.overflow?.map fun _ => .writeFile answers.file order.content
  | flush => order.overflow?.map fun _ => .flushFile answers.file
  | creation => some (.createProcess (JobLaunch.creation answers order))
  | assignment => if answers.plan.createsJob then some .assignProcess else none
  | resumption => if answers.plan.createsJob then some .resumeThread else none
  | wait => some .waitForProcess
  | code => some .exitCode
  | arguments => none

/-- What is done after a stage's call has been granted or refused. -/
def followUp : Stage → Option Failure → List Deed
  | job, none => [.obtain .job]
  | spill, none => [.obtain .writer, .obtain (.responseFile answers.file)]
  | content, none => [.write answers.file order.content]
  | content, some _ =>
    [.write answers.file (order.content.take answers.taken), .release Resource.isResponse]
  | flush, none => [.release Resource.isWriter]
  | flush, some _ => [.release Resource.isResponse]
  | creation, none =>
    [.release Resource.isRedirect, .obtain .process, .obtain .thread, .record answers.pid.toInt32]
  | creation, some _ => [.release Resource.isRedirect]
  | assignment, some _ =>
    [.ask (.terminateProcess 1) (answers.failure .terminateProcess), .record 0]
  | wait, some _ => [.record 0]
  | code, _ => [.record 0]
  | _, _ => []

/-- The error that a stage reports after its call has been granted or refused. -/
def errorOn (stage : Stage) (refusal : Option Failure) : Option LaunchError :=
  match stage with
  | membership =>
    refusal.map fun failure => .jobQuery "IsProcessInJob" failure.code failure.text
  | limits =>
    refusal.map fun failure => .jobQuery "QueryInformationJobObject" failure.code failure.text
  | job => refusal.map fun failure => .jobObject "CreateJobObject" failure.code failure.text
  | jobLimits =>
    refusal.map fun failure =>
      .jobObject "JobObjectExtendedLimitInformation" failure.code failure.text
  | output => streamError? answers order .output refusal
  | errors => streamError? answers order .error refusal
  | spill | content | flush => refusal.map (spillError order.directory)
  | creation =>
    refusal.map fun failure =>
      .createProcess (invocation answers order).application failure.code failure.text
  | assignment =>
    refusal.map fun failure =>
      .assignToJob (invocation answers order).application failure.code failure.text
  | wait => refusal.map fun failure => .processWait "WaitForSingleObject" failure.code failure.text
  | code => refusal.map fun failure => .processWait "GetExitCodeProcess" failure.code failure.text
  | arguments | input | resumption => none

/-- The error of a stage that fails without a call. -/
def localError? : Stage → Option LaunchError
  | arguments =>
    match readArguments order.arguments with
    | .error error => some error
    | .ok _ => none
  | output => redirectError? order .output
  | errors => redirectError? order .error
  | _ => none

/-- The error of a stage, if it fails. -/
def error? (stage : Stage) : Option LaunchError :=
  match stage.call? answers order with
  | some request => stage.errorOn answers order (answers.failure request.interface)
  | none => stage.localError? order

/-- What a stage does to the desk. -/
def deeds (stage : Stage) : List Deed :=
  match stage.call? answers order with
  | some request =>
    .ask request (answers.failure request.interface) ::
      stage.followUp answers order (answers.failure request.interface)
  | none => []

end Stage

/-- The stages that are carried out: up to and with the first that fails. -/
def carried : List Stage → List Stage
  | [] => []
  | stage :: rest =>
    stage :: if (stage.error? answers order).isSome then [] else carried rest

/-- The error of the first stage that fails. -/
def firstError? (stages : List Stage) : Option LaunchError :=
  stages.findSome? (Stage.error? answers order)

/-- What is done at the stages that are carried out. -/
def carriedDeeds (stages : List Stage) : List Deed :=
  (carried answers order stages).flatMap (Stage.deeds answers order)

end Table

/-- A step's result: its error, or else its value. -/
def outcome {α : Type} (error? : Option LaunchError) (value : α) : Except LaunchError α :=
  match error? with
  | some error => .error error
  | none => .ok value

/-- The step carries out the stages, and has the value if none of them fails. -/
def Carries {α : Type} (answers : Answers) (order : Order) (step : Step α) (stages : List Stage)
    (value : α) : Prop :=
  Does step (carriedDeeds answers order stages) (outcome (firstError? answers order stages) value)

/-! ## Stages one after another -/

section Calculus

variable {α β : Type} {answers : Answers} {order : Order} {stage : Stage}
  {stages later : List Stage} {error : LaunchError}

theorem Stage.deeds_of_called {request : Request}
    (called : stage.call? answers order = some request) :
    stage.deeds answers order =
      .ask request (answers.failure request.interface) ::
        stage.followUp answers order (answers.failure request.interface) := by
  rw [Stage.deeds, called]

theorem Stage.error?_of_called {request : Request}
    (called : stage.call? answers order = some request) :
    stage.error? answers order =
      stage.errorOn answers order (answers.failure request.interface) := by
  rw [Stage.error?, called]

theorem Stage.deeds_of_uncalled (uncalled : stage.call? answers order = none) :
    stage.deeds answers order = [] := by
  rw [Stage.deeds, uncalled]

theorem Stage.error?_of_uncalled (uncalled : stage.call? answers order = none) :
    stage.error? answers order = stage.localError? order := by
  rw [Stage.error?, uncalled]

/-- What a stage does is its call, or what follows from the answer. -/
theorem Stage.of_mem_deeds {deed : Deed} (member : deed ∈ stage.deeds answers order) :
    ∃ request, stage.call? answers order = some request ∧
      (deed = .ask request (answers.failure request.interface) ∨
        deed ∈ stage.followUp answers order (answers.failure request.interface)) := by
  cases called : stage.call? answers order with
  | none =>
    rw [Stage.deeds_of_uncalled called] at member
    cases member
  | some request =>
    rw [Stage.deeds_of_called called] at member
    exact ⟨request, rfl, List.mem_cons.1 member⟩

/-- A stage that passes has had its call granted, if it reports every refusal. -/
theorem Stage.granted {request : Request} {report : Failure → LaunchError}
    (called : stage.call? answers order = some request)
    (reported : ∀ refusal, stage.errorOn answers order refusal = refusal.map report)
    (passes : stage.error? answers order = none) : answers.failure request.interface = none := by
  rw [Stage.error?_of_called called, reported] at passes
  exact Option.map_eq_none_iff.1 passes

/-- A stage that passes makes its call and does what follows when that is granted. -/
theorem Stage.deeds_of_passes {request : Request} {report : Failure → LaunchError}
    (called : stage.call? answers order = some request)
    (reported : ∀ refusal, stage.errorOn answers order refusal = refusal.map report)
    (passes : stage.error? answers order = none) :
    stage.deeds answers order = .ask request none :: stage.followUp answers order none := by
  rw [Stage.deeds_of_called called, Stage.granted called reported passes]

theorem firstError?_append (stages later : List Stage) :
    firstError? answers order (stages ++ later) =
      (firstError? answers order stages).or (firstError? answers order later) :=
  List.findSome?_append

theorem firstError?_cons (stage : Stage) (later : List Stage) :
    firstError? answers order (stage :: later) =
      (stage.error? answers order).or (firstError? answers order later) := by
  rw [firstError?, List.findSome?_cons]
  cases stage.error? answers order <;> rfl

/-- Stages that pass are followed by the stages after them. -/
theorem carried_append_of_passes (passes : firstError? answers order stages = none)
    (later : List Stage) :
    carried answers order (stages ++ later) = stages ++ carried answers order later := by
  induction stages with
  | nil => rfl
  | cons stage rest ih =>
    cases found : stage.error? answers order with
    | some error =>
      rw [firstError?_cons, found] at passes
      cases passes
    | none =>
      rw [firstError?_cons, found, Option.none_or] at passes
      simp [carried, found, ih passes]

/-- A stage that fails is the last to be carried out. -/
theorem carried_append_of_fails (fails : firstError? answers order stages = some error)
    (later : List Stage) :
    carried answers order (stages ++ later) = carried answers order stages := by
  induction stages with
  | nil => cases fails
  | cons stage rest ih =>
    cases found : stage.error? answers order with
    | some other => simp [carried, found]
    | none =>
      rw [firstError?_cons, found, Option.none_or] at fails
      simp [carried, found, ih fails]

theorem carried_of_passes (passes : firstError? answers order stages = none) :
    carried answers order stages = stages := by
  simpa [carried] using carried_append_of_passes passes []

/-- Steps that follow one another carry out their stages one after another. -/
theorem Carries.bind {step : Step α} {next : α → Step β} {value : α} {final : β}
    (first : Carries answers order step stages value) (later : List Stage)
    (second : Carries answers order (next value) later final) :
    Carries answers order (step >>= next) (stages ++ later) final := by
  unfold Carries carriedDeeds at *
  rw [firstError?_append]
  cases found : firstError? answers order stages with
  | some error =>
    rw [carried_append_of_fails found]
    rw [found] at first
    exact first.bind_error
  | none =>
    rw [carried_append_of_passes found, List.flatMap_append]
    rw [found, carried_of_passes found] at first
    exact first.bind second

theorem carriedDeeds_cons (stage : Stage) (later : List Stage) :
    carriedDeeds answers order (stage :: later) =
      stage.deeds answers order ++
        if (stage.error? answers order).isSome then [] else carriedDeeds answers order later := by
  rw [carriedDeeds, carried, List.flatMap_cons]
  split <;> rfl

theorem carriedDeeds_of_called {request : Request}
    (called : stage.call? answers order = some request) (later : List Stage) :
    carriedDeeds answers order (stage :: later) =
      .ask request (answers.failure request.interface) ::
        (stage.followUp answers order (answers.failure request.interface) ++
          if (stage.errorOn answers order (answers.failure request.interface)).isSome then []
          else carriedDeeds answers order later) := by
  rw [carriedDeeds_cons, Stage.deeds_of_called called, Stage.error?_of_called called]
  rfl

theorem carries_single {step : Step α} {value : α}
    (does : Does step (stage.deeds answers order) (outcome (stage.error? answers order) value)) :
    Carries answers order step [stage] value := by
  have none : carriedDeeds answers order [] = [] := rfl
  have passes : firstError? answers order [] = .none := rfl
  rw [Carries, carriedDeeds_cons, firstError?_cons, none, passes, ite_self, List.append_nil,
    Option.or_none]
  exact does

/-- A step that makes a stage's call is that stage, and the stages after it, if it does with either
answer what they do. -/
theorem carries_ask {request : Request} {next : Option Failure → Step α} {value : α}
    (called : stage.call? answers order = some request)
    (does : ∀ refusal, Does (next refusal) (stage.followUp answers order refusal ++
        if (stage.errorOn answers order refusal).isSome then []
        else carriedDeeds answers order later)
      (outcome ((stage.errorOn answers order refusal).or (firstError? answers order later))
        value)) :
    Carries answers order (ask answers request >>= next) (stage :: later) value := by
  rw [Carries, carriedDeeds_of_called called, firstError?_cons, Stage.error?_of_called called]
  exact (ask_does answers request).bind (does (answers.failure request.interface))

theorem carries_require {request : Request} {report : Failure → LaunchError}
    (called : stage.call? answers order = some request)
    (quiet : ∀ refusal, stage.followUp answers order refusal = [])
    (reported : ∀ refusal, stage.errorOn answers order refusal = refusal.map report) :
    Carries answers order (require answers request report) [stage] () := by
  refine carries_ask called fun refusal => ?_
  rw [quiet, reported]
  cases refusal <;> exact fun _ => rfl

/-- Stages that ask nothing and cannot fail are carried out by doing nothing. -/
theorem carries_idle
    (idle : ∀ stage ∈ stages, stage.call? answers order = none ∧ stage.localError? order = none)
    (value : α) :
    Carries answers order (pure value) stages value := by
  have passes : firstError? answers order stages = none := by
    refine List.findSome?_eq_none_iff.2 fun stage member => ?_
    obtain ⟨uncalled, passes⟩ := idle stage member
    rw [Stage.error?_of_uncalled uncalled, passes]
  have nothing : carriedDeeds answers order stages = [] := by
    rw [carriedDeeds, carried_of_passes passes]
    refine List.flatMap_eq_nil_iff.2 fun stage member => ?_
    exact Stage.deeds_of_uncalled (idle stage member).1
  rw [Carries, passes, nothing]
  exact Does.pure value

/-- A part that is left out is followed by the same steps as when it is done. -/
theorem Carries.ite_bind {condition : Prop} [Decidable condition] {step : Step Unit}
    {next : Unit → Step β} {final : β}
    (first : Carries answers order (if condition then step else pure ()) stages ())
    (later : List Stage) (second : Carries answers order (next ()) later final) :
    Carries answers order (if condition then step >>= next else next ()) (stages ++ later)
      final := by
  have same : (if condition then step >>= next else next ()) =
      (if condition then step else pure ()) >>= next := by
    split <;> rfl
  rw [same]
  exact first.bind later second

end Calculus

/-! ## The parts of a launch -/

section Parts

variable (answers : Answers) (order : Order)

theorem decidePlan_carries :
    Carries answers order (decidePlan answers) [.membership, .limits] answers.plan := by
  have asked : Stage.membership.call? answers order = some .isProcessInJob := rfl
  unfold decidePlan
  refine (carries_require asked (fun _ => rfl) fun _ => rfl).bind [.limits] ?_
  cases inJob : answers.inJob with
  | true =>
    have queried : Stage.limits.call? answers order = some .queryInformation := by
      simp [Stage.call?, inJob]
    have plan : answers.plan = JobPlan.choose true answers.limits := by rw [Answers.plan, inJob]
    rw [plan]
    exact (carries_require queried (fun _ => rfl) fun _ => rfl).bind [] (Does.pure _)
  | false =>
    have plan : answers.plan = JobPlan.choose false 0 := by rw [Answers.plan, inJob]; rfl
    rw [plan]
    apply carries_idle
    simp [Stage.call?, Stage.localError?, inJob]

theorem makeJob_carries :
    Carries answers order (if answers.plan.createsJob then makeJob answers else pure ())
      [.job, .jobLimits] () := by
  cases created : answers.plan.createsJob with
  | false =>
    apply carries_idle
    simp [Stage.call?, Stage.localError?, created]
  | true =>
    have asked : Stage.job.call? answers order = some .createJob := by
      simp [Stage.call?, created]
    have set : Stage.jobLimits.call? answers order = some (.setInformation JobPlan.ownLimits) := by
      simp [Stage.call?, created]
    rw [if_pos rfl, makeJob, ← bind_assoc]
    refine (?_ : Carries answers order _ [.job] ()).bind [.jobLimits]
      (carries_require set (fun _ => rfl) fun _ => rfl)
    rw [require, bind_assoc]
    refine carries_ask asked fun refusal => ?_
    cases refusal <;> exact fun _ => rfl

theorem readArguments_carries :
    Carries answers order (ExceptT.mk (pure (readArguments order.arguments))) [.arguments]
      order.texts := by
  apply carries_single
  have error : Stage.arguments.error? answers order =
      Stage.arguments.localError? order := rfl
  rw [error, Stage.localError?, Order.texts]
  cases readArguments order.arguments <;> exact fun _ => rfl

theorem bindInput_carries :
    Carries answers order (bindInput answers) [.input] (inputBinding answers) := by
  apply carries_single
  refine (ask_does answers (.standardHandle .input)).bind ?_
  have interface : Request.interface (.standardHandle .input) = .standardHandle .input := rfl
  rw [inputBinding, interface]
  cases answers.failure (.standardHandle .input) with
  | some failure => exact fun _ => rfl
  | none => cases answers.invalidHandle .input <;> exact fun _ => rfl

theorem bindOutput_carries (stage : Stage) (stream : Stream)
    (called : stage.call? answers order = streamCall? order stream)
    (unasked : stage.localError? order = redirectError? order stream)
    (quiet : ∀ refusal, stage.followUp answers order refusal = [])
    (reported : ∀ refusal,
      stage.errorOn answers order refusal = streamError? answers order stream refusal) :
    Carries answers order (bindOutput answers order stream) [stage]
      (outputBinding order stream) := by
  rw [bindOutput, outputBinding]
  cases redirects : order.redirects with
  | true =>
    rw [streamCall?, redirects, if_pos rfl] at called
    rw [if_pos rfl, if_pos rfl, bindRedirect]
    cases invalid : order.invalidRedirect stream with
    | true =>
      rw [invalid, if_pos rfl] at called
      apply carries_single
      rw [Stage.deeds_of_uncalled called, Stage.error?_of_uncalled called, unasked, redirectError?,
        redirects, invalid]
      exact fun _ => rfl
    | false =>
      rw [invalid, if_neg (by decide)] at called
      rw [if_neg (by decide), require, bind_assoc]
      refine carries_ask called fun refusal => ?_
      rw [quiet, reported]
      cases refusal with
      | some failure => exact fun _ => rfl
      | none =>
        rw [streamError?, redirects]
        exact fun _ => rfl
  | false =>
    rw [streamCall?, redirects, if_neg (by decide)] at called
    rw [if_neg (by decide), if_neg (by decide), bindOwn, require, bind_assoc]
    refine carries_ask called fun refusal => ?_
    rw [quiet, reported]
    cases refusal with
    | some failure => exact fun _ => rfl
    | none =>
      rw [streamError?, redirects]
      cases answers.invalidHandle stream <;> exact fun _ => rfl

section Spilling

variable {order} {text : String} (overflowed : order.overflow? = some text)

include overflowed

theorem content_eq : order.content = Utf8.encode text := by
  rw [Order.content, overflowed]
  rfl

theorem call?_spill : Stage.spill.call? answers order = some (.makeFile answers.file) := by
  rw [Stage.call?, overflowed]
  rfl

theorem call?_content :
    Stage.content.call? answers order = some (.writeFile answers.file order.content) := by
  rw [Stage.call?, overflowed]
  rfl

theorem call?_flush : Stage.flush.call? answers order = some (.flushFile answers.file) := by
  rw [Stage.call?, overflowed]
  rfl

/-- A response file is made, written and closed at three stages. -/
theorem writeResponse_carries :
    Carries answers order (writeResponse answers order.directory text) [.spill, .content, .flush]
      answers.file := by
  rw [writeResponse, ← content_eq overflowed]
  refine (?_ : Carries answers order (openResponse answers order.directory) [.spill] ()).bind
    [.content, .flush] ?_
  · rw [openResponse, require, bind_assoc]
    refine carries_ask (call?_spill answers overflowed) fun refusal => ?_
    cases refusal <;> exact fun _ => rfl
  refine (?_ : Carries answers order (fillResponse answers order.directory order.content)
    [.content] ()).bind [.flush] ?_
  · refine carries_ask (call?_content answers overflowed) fun refusal => ?_
    cases refusal <;> exact fun _ => rfl
  refine (?_ : Carries answers order (closeResponse answers order.directory) [.flush] ()).bind []
    (Does.pure _)
  refine carries_ask (call?_flush answers overflowed) fun refusal => ?_
  cases refusal <;> exact fun _ => rfl

end Spilling

theorem build_carries :
    Carries answers order
      (Invocation.build (writeResponse answers order.directory) (order.shell.getD order.target)
        order.texts order.shell)
      [.spill, .content, .flush] (invocation answers order) := by
  rw [invocation, Invocation.build, Invocation.build]
  by_cases fits : CommandLine.fits (CommandLine.render order.shell .runs order.texts)
  · have inline : order.overflow? = none := if_pos fits
    rw [if_pos fits, if_pos fits]
    apply carries_idle
    simp [Stage.call?, Stage.localError?, inline]
  · rw [if_neg fits, if_neg fits]
    exact (writeResponse_carries answers (if_neg fits)).bind [] (Does.pure _)

theorem createChild_carries :
    Carries answers order (createChild answers (creation answers order)) [.creation] () := by
  refine carries_ask rfl fun refusal => ?_
  cases refusal <;> exact fun _ => rfl

theorem settleChild_carries :
    Carries answers order
      (if answers.plan.createsJob then settleChild answers (invocation answers order).application
        else pure ())
      [.assignment, .resumption] () := by
  cases created : answers.plan.createsJob with
  | false =>
    apply carries_idle
    simp [Stage.call?, Stage.localError?, created]
  | true =>
    have assigned : Stage.assignment.call? answers order = some .assignProcess := by
      simp [Stage.call?, created]
    have resumed : Stage.resumption.call? answers order = some .resumeThread := by
      simp [Stage.call?, created]
    rw [if_pos rfl, settleChild]
    refine carries_ask assigned fun refusal => ?_
    cases refusal with
    | some failure => exact fun _ => rfl
    | none => exact carries_ask resumed fun _ _ => rfl

/-- The pid is forgotten on every way out of the wait. -/
theorem awaitChild_eq (answers : Answers) :
    awaitChild answers = (do
      match ← ask answers .waitForProcess with
      | some failure =>
        modify (·.record 0)
        throw (.processWait "WaitForSingleObject" failure.code failure.text)
      | none =>
        match ← ask answers .exitCode with
        | some failure =>
          modify (·.record 0)
          throw (.processWait "GetExitCodeProcess" failure.code failure.text)
        | none =>
          modify (·.record 0)
          return answers.exitCode) := by
  funext desk
  rw [awaitChild, awaitCode, require, require, ask, ask]
  cases answers.failure (Request.interface .waitForProcess) <;>
    cases answers.failure (Request.interface .exitCode) <;> rfl

theorem awaitChild_carries :
    Carries answers order (awaitChild answers) [.wait, .code] answers.exitCode := by
  rw [awaitChild_eq]
  refine carries_ask rfl fun refusal => ?_
  cases refusal with
  | some failure => exact fun _ => rfl
  | none =>
    refine carries_ask rfl fun refusal => ?_
    cases refusal <;> exact fun _ => rfl

/-- A launch carries out its stages up to the first that fails. -/
theorem steps_carries :
    Carries answers order (steps answers order) Stage.all answers.exitCode := by
  have output :=
    bindOutput_carries answers order .output .output rfl rfl (fun _ => rfl) fun _ => rfl
  have errors :=
    bindOutput_carries answers order .errors .error rfl rfl (fun _ => rfl) fun _ => rfl
  unfold steps
  refine (decidePlan_carries answers order).bind (Stage.all.drop 2) ?_
  refine (makeJob_carries answers order).ite_bind (Stage.all.drop 4) ?_
  refine (readArguments_carries answers order).bind (Stage.all.drop 5) ?_
  refine (bindInput_carries answers order).bind (Stage.all.drop 6) ?_
  refine output.bind (Stage.all.drop 7) ?_
  refine errors.bind (Stage.all.drop 8) ?_
  refine (build_carries answers order).bind (Stage.all.drop 11) ?_
  refine (createChild_carries answers order).bind (Stage.all.drop 12) ?_
  exact (settleChild_carries answers order).ite_bind _ (awaitChild_carries answers order)

end Parts

end JobLaunch

end CompilerLauncher
