import CompilerLauncher.Proofs.ChildCreation
import CompilerLauncher.Proofs.LineCut

/-!
# Arguments that cannot be carried

An empty vector is refused before anything is asked of the system (`launch_of_empty`). An argument
that is no text is refused at the stage that reads the arguments, so no child is created
(`notMem_of_unreadable`), and the launch reports it if the stages before have passed
(`result_of_unreadable`).

No stage looks for a NUL: the child is created whenever the other stages pass
(`exists_creation`). Its line is read whole exactly if nothing that is written on it holds a NUL
(`asRead_line_iff`).
-/

namespace CompilerLauncher

open CommandLine (split render)

namespace JobLaunch

/-- The stages before the arguments are read. -/
def planning : List Stage := Stage.all.take 4

/-! ## Arguments as texts -/

/-- What has been read are the texts that the arguments spell. -/
theorem decode_of_readArguments {arguments : List Bytes} {texts : List String}
    (read : readArguments arguments = .ok texts) :
    arguments.map Utf8.decode? = texts.map some := by
  induction arguments generalizing texts with
  | nil =>
    cases read
    rfl
  | cons argument rest ih =>
    unfold readArguments at read
    cases spelled : Utf8.decode? argument with
    | none =>
      rw [spelled] at read
      cases read
    | some text =>
      rw [spelled] at read
      cases onward : readArguments rest with
      | error error =>
        rw [onward] at read
        cases read
      | ok later =>
        rw [onward] at read
        cases read
        rw [List.map_cons, List.map_cons, spelled, ih onward]

/-- Arguments that are texts can be read. -/
theorem exists_readArguments {arguments : List Bytes}
    (readable : ∀ argument ∈ arguments, (Utf8.decode? argument).isSome = true) :
    ∃ texts, readArguments arguments = .ok texts := by
  induction arguments with
  | nil => exact ⟨[], rfl⟩
  | cons argument rest ih =>
    obtain ⟨spelled, readable⟩ := List.forall_mem_cons.1 readable
    obtain ⟨text, same⟩ := Option.isSome_iff_exists.1 spelled
    obtain ⟨texts, read⟩ := ih readable
    refine ⟨text :: texts, ?_⟩
    rw [readArguments, same, read]
    rfl

/-- The first argument that is no text is named in the error. -/
theorem readArguments_of_unreadable {before : List Bytes} {argument : Bytes} (after : List Bytes)
    (readable : ∀ earlier ∈ before, (Utf8.decode? earlier).isSome = true)
    (unreadable : Utf8.decode? argument = none) :
    readArguments (before ++ argument :: after) =
      .error (.invalidArgument s!"argument is not valid Unicode: {Utf8.lossy argument}") := by
  induction before with
  | nil => rw [List.nil_append, readArguments, unreadable]
  | cons earlier before ih =>
    obtain ⟨spelled, readable⟩ := List.forall_mem_cons.1 readable
    obtain ⟨text, same⟩ := Option.isSome_iff_exists.1 spelled
    rw [List.cons_append, readArguments, same, ih readable]
    rfl

section Launch

variable {answers : Answers} {order : Order} {pid : Int32}

/-! ## Arguments that are no texts -/

theorem error?_arguments (answers : Answers) (order : Order) :
    Stage.arguments.error? answers order =
      match readArguments order.arguments with
      | .error error => some error
      | .ok _ => none := rfl

/-- A child is only created if the arguments have been read. -/
theorem texts_of_creation {creation : Creation} {answer : Option Failure} {held : Holdings}
    (created : .asked (.createProcess creation) answer held ∈ (run answers order pid).events) :
    creation = JobLaunch.creation answers order ∧
      order.arguments.map Utf8.decode? = order.texts.map some := by
  obtain ⟨before, after, parts⟩ := List.append_of_mem created
  have moment := moment_of_creation parts
  refine ⟨moment.creation_eq, ?_⟩
  have passes := List.findSome?_eq_none_iff.1 moment.passes .arguments (by decide)
  rw [error?_arguments] at passes
  cases read : readArguments order.arguments with
  | error error =>
    rw [read] at passes
    cases passes
  | ok texts =>
    have same : order.texts = texts := by
      unfold Order.texts
      rw [read]
      rfl
    rw [same]
    exact decode_of_readArguments read

theorem notMem_of_unreadable {argument : Bytes} (member : argument ∈ order.arguments)
    (unreadable : Utf8.decode? argument = none) (creation : Creation) (answer : Option Failure)
    (held : Holdings) :
    .asked (.createProcess creation) answer held ∉ (run answers order pid).events := by
  intro created
  obtain ⟨-, texts⟩ := texts_of_creation created
  have listed : Utf8.decode? argument ∈ order.texts.map some := by
    rw [← texts]
    exact List.mem_map_of_mem member
  rw [unreadable] at listed
  simp at listed

/-- An argument that is no text makes the launch fail, and is what it reports if the stages before
have passed. -/
theorem result_of_unreadable {before after : List Bytes} {argument : Bytes}
    (parts : order.arguments = before ++ argument :: after)
    (readable : ∀ earlier ∈ before, (Utf8.decode? earlier).isSome = true)
    (unreadable : Utf8.decode? argument = none) :
    ∃ error, (run answers order pid).result = .error error ∧
      ((∀ stage ∈ planning, stage.error? answers order = none) →
        error = .invalidArgument s!"argument is not valid Unicode: {Utf8.lossy argument}") := by
  have fails : Stage.arguments.error? answers order =
      some (.invalidArgument s!"argument is not valid Unicode: {Utf8.lossy argument}") := by
    rw [error?_arguments, parts, readArguments_of_unreadable after readable unreadable]
  have row : firstError? answers order Stage.all =
      firstError? answers order (planning ++ .arguments :: Stage.all.drop 5) := rfl
  rw [run_result, row, firstError?_append, firstError?_cons, fails]
  cases early : firstError? answers order planning with
  | some error =>
    refine ⟨error, rfl, ?_⟩
    intro passes
    cases early.symm.trans (List.findSome?_eq_none_iff.2 passes)
  | none => exact ⟨_, rfl, fun _ => rfl⟩

/-! ## What is written on the line -/

/-- What is written on the line of a launch: the shell and the arguments, or the program and the
response file that holds the others. -/
def onLine (answers : Answers) (order : Order) : List String :=
  match order.overflow? with
  | none => order.shell.toList ++ order.texts
  | some _ => [order.shell.getD order.target, Utf8.lossy answers.file]

theorem line_invocation (answers : Answers) (order : Order) :
    (invocation answers order).line =
      match order.overflow? with
      | none => render order.shell .runs order.texts
      | some _ =>
        Invocation.referring (CommandLine.application (order.shell.getD order.target))
          answers.file := by
  rw [invocation, Invocation.build, Order.overflow?]
  split <;> rfl

theorem nul_mem_application_iff {program : String} :
    nul ∈ (CommandLine.application program).toList ↔ nul ∈ program.toList := by
  unfold CommandLine.application
  split
  · exact Iff.rfl
  · have absent : nul ∉ ".exe".toList := by decide
    rw [String.toList_append, List.mem_append, or_iff_left absent]

theorem nul_mem_referring_iff {application : String} {file : Bytes} :
    nul ∈ (Invocation.referring application file).toList ↔
      nul ∈ application.toList ∨ nul ∈ (Utf8.lossy file).toList := by
  have quote : nul ∉ "\"".toList := by decide
  have between : nul ∉ "\" \"@".toList := by decide
  have spelled : Invocation.referring application file =
      "\"" ++ application ++ "\" \"@" ++ Utf8.lossy file ++ "\"" := rfl
  rw [spelled]
  simp only [String.toList_append, List.mem_append, quote, between, false_or, or_false]

theorem nul_mem_line_iff (answers : Answers) (order : Order) :
    nul ∈ (invocation answers order).line.toList ↔
      ∃ text ∈ onLine answers order, nul ∈ text.toList := by
  rw [line_invocation, onLine]
  cases order.overflow? with
  | none =>
    dsimp only
    rw [CommandLine.mem_render_iff CommandLine.plain_nul]
    cases order.shell <;> simp
  | some text =>
    dsimp only
    rw [nul_mem_referring_iff, nul_mem_application_iff]
    simp

/-- The line is read whole exactly if nothing that is written on it holds a NUL. -/
theorem asRead_line_iff (answers : Answers) (order : Order) :
    asRead (invocation answers order).line = (invocation answers order).line ↔
      ∀ text ∈ onLine answers order, nul ∉ text.toList := by
  rw [asRead_eq_self_iff, nul_mem_line_iff]
  constructor
  · intro clear text member holds
    exact clear ⟨text, member, holds⟩
  · rintro clear ⟨text, member, holds⟩
    exact clear text member holds

/-- A line that is not spilled loses all behind the first NUL of its arguments. -/
theorem split_line_of_cut (inline : order.overflow? = none)
    (led : ∀ shell, order.shell = some shell → '"' ∉ shell.toList ∧ nul ∉ shell.toList)
    {before after : List String} {cut : String} (parts : order.texts = before ++ cut :: after)
    (clear : ∀ text ∈ before, nul ∉ text.toList) (holds : nul ∈ cut.toList) :
    split (asRead (invocation answers order).line) =
      split (render order.shell .runs before) ++ [asRead cut] := by
  have front : nul ∉ (render order.shell .runs before).toList := by
    rw [CommandLine.mem_render_iff CommandLine.plain_nul]
    rintro (⟨shell, same, member⟩ | ⟨text, member, cuts⟩)
    · exact (led shell same).2 member
    · exact clear text member cuts
  rw [line_invocation, inline, parts]
  exact CommandLine.split_cut_line (fun shell same => (led shell same).1) front holds after

/-! ## Creation -/

/-- The child is created once the other stages of its preparation have passed, whatever the texts
hold. -/
theorem exists_creation
    (readable : ∀ argument ∈ order.arguments, (Utf8.decode? argument).isSome = true)
    (passes : ∀ stage ∈ preparation, stage ≠ .arguments → stage.error? answers order = none) :
    ∃ held, .asked (.createProcess (JobLaunch.creation answers order))
      (answers.failure .createProcess) held ∈ (run answers order pid).events := by
  obtain ⟨texts, read⟩ := exists_readArguments readable
  have prepared : firstError? answers order preparation = none := by
    apply List.findSome?_eq_none_iff.2
    intro stage member
    by_cases same : stage = .arguments
    · rw [same, error?_arguments, read]
    · exact passes stage member same
  rw [run_events]
  exact mem_trace_of_ask (bare pid) (ask_creation_mem prepared)

end Launch

/-- An empty vector and an argument that is no text are refused, and no child is created. A NUL is
not looked for: with any other arguments the child is created once the rest of its preparation has
passed, and its line is read whole exactly if nothing on it holds a NUL. Otherwise a line that is
not spilled ends within the first argument that holds one. -/
theorem launch_line_whole_iff (answers : Answers) (order : Order) (pid : Int32) :
    let report := launch answers order pid
    (order.arguments = [] →
        report.result = .error (.invalidArgument "empty argument vector") ∧
          exchanges report.events = []) ∧
      (∀ before argument after, order.arguments = before ++ argument :: after →
        (∀ earlier ∈ before, (Utf8.decode? earlier).isSome = true) →
        Utf8.decode? argument = none →
          (∀ creation answer held,
            .asked (.createProcess creation) answer held ∉ report.events) ∧
          ∃ error, report.result = .error error ∧
            ((∀ stage ∈ planning, stage.error? answers order = none) → error =
              .invalidArgument s!"argument is not valid Unicode: {Utf8.lossy argument}")) ∧
      (∀ creation answer held, .asked (.createProcess creation) answer held ∈ report.events →
        order.arguments ≠ [] ∧ order.arguments.map Utf8.decode? = order.texts.map some ∧
          (asRead creation.invocation.line = creation.invocation.line ↔
            ∀ text ∈ onLine answers order, nul ∉ text.toList) ∧
          (order.overflow? = none →
            (∀ shell, order.shell = some shell → '"' ∉ shell.toList ∧ nul ∉ shell.toList) →
            ∀ before cut after, order.texts = before ++ cut :: after →
              (∀ text ∈ before, nul ∉ text.toList) → nul ∈ cut.toList →
                split (asRead creation.invocation.line) =
                  split (render order.shell .runs before) ++ [asRead cut])) ∧
      (order.arguments ≠ [] →
        (∀ argument ∈ order.arguments, (Utf8.decode? argument).isSome = true) →
        (∀ stage ∈ preparation, stage ≠ .arguments → stage.error? answers order = none) →
          ∃ held, .asked (.createProcess (creation answers order))
            (answers.failure .createProcess) held ∈ report.events) := by
  intro report
  refine ⟨launch_of_empty, ?_, ?_, ?_⟩
  · intro before argument after parts readable unreadable
    have member : argument ∈ order.arguments := by simp [parts]
    have same : report = run answers order pid := launch_of_nonempty (List.ne_nil_of_mem member)
    rw [same]
    exact ⟨notMem_of_unreadable member unreadable, result_of_unreadable parts readable unreadable⟩
  · intro creation answer held created
    have nonempty : order.arguments ≠ [] := by
      intro empty
      have none := (@launch_of_empty answers order pid empty).2
      have call : (Request.createProcess creation, answer) ∈ exchanges report.events :=
        mem_exchanges.2 ⟨held, created⟩
      rw [none] at call
      cases call
    have same : report = run answers order pid := launch_of_nonempty nonempty
    rw [same] at created
    obtain ⟨rfl, texts⟩ := texts_of_creation created
    refine ⟨nonempty, texts, asRead_line_iff answers order, ?_⟩
    intro inline led before cut after parts clear holds
    exact split_line_of_cut inline led parts clear holds
  · intro nonempty readable passes
    have same : report = run answers order pid := launch_of_nonempty nonempty
    rw [same]
    exact exists_creation readable passes

/-- The program `cc`, with an argument that holds a NUL and one behind it. -/
def severed : Order where
  arguments := ["cc", "a\x00b", "-c"].map Utf8.encode
  redirects := false
  invalidRedirect _ := false
  shellFor _ := none
  directory := Utf8.encode "/tmp"

/-- The program that is started finds the beginning of the one argument and not the other. -/
theorem launch_line_whole_iff_severed :
    ∃ creation held,
      .asked (.createProcess creation) none held ∈ (launch granting severed 7).events ∧
        asRead creation.invocation.line ≠ creation.invocation.line ∧
        split (asRead creation.invocation.line) = ["cc", "a"] := by
  obtain ⟨-, -, calls, creates⟩ := launch_line_whole_iff granting severed 7
  have texts : severed.texts = ["cc", "a\x00b", "-c"] := by decide +kernel
  have inline : severed.overflow? = none := by decide +kernel
  have cuts : nul ∈ "a\x00b".toList := by decide
  have clear : ∀ text ∈ ["cc"], nul ∉ text.toList := by decide
  have unled : ∀ shell, severed.shell = some shell → '"' ∉ shell.toList ∧ nul ∉ shell.toList := by
    intro shell led
    cases led
  obtain ⟨held, asked⟩ := creates (by decide) (by decide +kernel) (by decide +kernel)
  obtain ⟨-, -, whole, broken⟩ := calls _ _ held asked
  refine ⟨_, held, asked, ?_, ?_⟩
  · intro same
    have listed : "a\x00b" ∈ onLine granting severed := by
      rw [onLine, inline, texts]
      simp
    exact whole.1 same _ listed cuts
  · rw [broken inline unled ["cc"] _ ["-c"] texts clear cuts]
    decide +kernel

/-- A vector with a NUL in it is not refused: the child is created and waited for, and its line is
not read whole. -/
theorem severed_is_launched :
    ¬∀ (answers : Answers) (order : Order) (pid : Int32),
      (∃ argument ∈ order.arguments, (0 : UInt8) ∈ argument) →
        (∀ creation answer held,
          .asked (.createProcess creation) answer held ∉ (launch answers order pid).events) ∧
        ∃ error, (launch answers order pid).result = .error error := by
  intro refused
  have holds : ∃ argument ∈ severed.arguments, (0 : UInt8) ∈ argument := by decide +kernel
  obtain ⟨-, error, fails⟩ := refused granting severed 7 holds
  have succeeds : (launch granting severed 7).result = .ok 0xffffffff := by decide +kernel
  cases succeeds.symm.trans fails

end JobLaunch

end CompilerLauncher
