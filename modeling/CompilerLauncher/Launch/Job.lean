import CompilerLauncher.CommandLine.Spill
import CompilerLauncher.ExitOutcome
import CompilerLauncher.Launch.JobTrace

/-!
Launching a child in a job.

`JobLaunch.steps` asks the system for one thing after another and stops at the first refusal, which
is reported as that call's error; only the refusal to assign the child to its job is followed by one
more call, which ends the child. A line that is too long is spilled into a response file, which is
made, written, flushed and closed before there is a child. `JobLaunch.run` gives back whatever is
still held when the steps are over, whichever way they ended; `JobLaunch.launch` is asked first, and
refuses an empty vector.
-/

namespace CompilerLauncher

namespace JobLaunch

/-- What is to be launched: the argument vector, whether its output goes to files, which of these
have a handle that means no file, the shell that a target needs, and the directory for a response
file. -/
structure Order where
  arguments : List Bytes
  redirects : Bool
  invalidRedirect : Stream → Bool
  shellFor : String → Option String
  directory : Bytes

/-- A step of a launch: it may fail, and what was recorded before stays. -/
abbrev Step := ExceptT LaunchError (StateM Desk)

/-- Makes a request and answers with its failure, if any. -/
def ask (answers : Answers) (request : Request) : Step (Option Failure) := do
  let failure := answers.failure request.interface
  modify fun desk => desk.ask request failure
  return failure

/-- Makes a request that the launch cannot do without. -/
def require (answers : Answers) (request : Request) (error : Failure → LaunchError) :
    Step Unit := do
  match ← ask answers request with
  | none => return
  | some failure => throw (error failure)

/-! ## Placement -/

/-- Finds out the launcher's own job and decides the child's placement. -/
def decidePlan (answers : Answers) : Step JobPlan := do
  require answers .isProcessInJob fun failure =>
    .jobQuery "IsProcessInJob" failure.code failure.text
  if answers.inJob then
    require answers .queryInformation fun failure =>
      .jobQuery "QueryInformationJobObject" failure.code failure.text
    return JobPlan.choose true answers.limits
  else
    return JobPlan.choose false 0

/-- Makes the child's job and sets its limits. -/
def makeJob (answers : Answers) : Step Unit := do
  require answers .createJob fun failure =>
    .jobObject "CreateJobObject" failure.code failure.text
  modify (·.obtain .job)
  require answers (.setInformation JobPlan.ownLimits) fun failure =>
    .jobObject "JobObjectExtendedLimitInformation" failure.code failure.text

/-! ## Arguments and streams -/

/-- The arguments as texts; the first that is none is named in the error. -/
def readArguments : List Bytes → Except LaunchError (List String)
  | [] => .ok []
  | argument :: rest =>
    match Utf8.decode? argument with
    | some text => (readArguments rest).map (text :: ·)
    | none =>
      .error (.invalidArgument s!"argument is not valid Unicode: {Utf8.lossy argument}")

/-- The launcher's own input stream for the child, which may do without. -/
def bindInput (answers : Answers) : Step Binding := do
  match ← ask answers (.standardHandle .input) with
  | some _ => return .absent
  | none => return if answers.invalidHandle .input then .invalid else .own .input

/-- A redirect file for the child, made inheritable. A handle that means no file is not touched. -/
def bindRedirect (answers : Answers) (order : Order) (stream : Stream) : Step Binding := do
  if order.invalidRedirect stream then
    throw (.invalidHandle stream.name "invalid handle value")
  require answers (.handleInformation stream) fun failure =>
    .invalidHandle stream.name failure.text
  return .redirect stream

/-- The launcher's own output stream for the child. -/
def bindOwn (answers : Answers) (stream : Stream) : Step Binding := do
  require answers (.standardHandle stream) fun failure =>
    .invalidHandle stream.name failure.text
  if answers.invalidHandle stream then
    throw (.invalidHandle stream.name "invalid handle value")
  return .own stream

/-- An output stream for the child: the redirect file or the launcher's own. -/
def bindOutput (answers : Answers) (order : Order) (stream : Stream) : Step Binding :=
  if order.redirects then bindRedirect answers order stream else bindOwn answers stream

/-! ## Response files -/

/-- Why there is no response file in a directory. -/
def spillError (directory : Bytes) (failure : Failure) : LaunchError :=
  .responseFile (Utf8.lossy directory) failure.text

/-- Makes an empty response file and opens it. -/
def openResponse (answers : Answers) (directory : Bytes) : Step Unit := do
  require answers (.makeFile answers.file) (spillError directory)
  modify (·.obtain .writer)
  modify (·.obtain (.responseFile answers.file))

/-- Writes the response file. One that breaks off, with a part of its content, is removed and
closed. -/
def fillResponse (answers : Answers) (directory data : Bytes) : Step Unit := do
  match ← ask answers (.writeFile answers.file data) with
  | some failure =>
    modify (·.write answers.file (data.take answers.taken))
    modify (·.release Resource.isResponse)
    throw (spillError directory failure)
  | none => modify (·.write answers.file data)

/-- Flushes the response file and closes it. One that cannot be flushed is removed, too. -/
def closeResponse (answers : Answers) (directory : Bytes) : Step Unit := do
  match ← ask answers (.flushFile answers.file) with
  | some failure =>
    modify (·.release Resource.isResponse)
    throw (spillError directory failure)
  | none => modify (·.release Resource.isWriter)

/-- Makes a response file with the given text, which is closed and stays. -/
def writeResponse (answers : Answers) (directory : Bytes) (text : String) : Step Bytes := do
  openResponse answers directory
  fillResponse answers directory (Utf8.encode text)
  closeResponse answers directory
  return answers.file

/-- The system's account of a response file that cannot be made in a tree of files. -/
def unmade? (tree : FileTree) (directory suffix : Bytes) : Option Failure :=
  match ResponseFile.create tree directory suffix "" with
  | .error (.responseFile _ reason) => some ⟨0, reason⟩
  | _ => none

/-- The answers of a system that makes its response files in a tree of files. Writing to a file that
has been made does not fail. -/
def Answers.onTree (answers : Answers) (tree : FileTree) (directory suffix : Bytes) : Answers :=
  { answers with
    failure := fun
      | .makeFile => unmade? tree directory suffix
      | .writeFile | .flushFile => none
      | call => answers.failure call
    file := ResponseFile.pathIn tree directory suffix }

/-! ## The child -/

/-- Creates the child. The redirect files are given back whether or not there is a child now. -/
def createChild (answers : Answers) (creation : Creation) : Step Unit := do
  let failure ← ask answers (.createProcess creation)
  modify (·.release Resource.isRedirect)
  match failure with
  | some failure =>
    throw (.createProcess creation.invocation.application failure.code failure.text)
  | none =>
    modify (·.obtain .process)
    modify (·.obtain .thread)
    modify (·.record answers.pid.toInt32)

/-- Puts the suspended child into its job and lets it run. A child that cannot be put there is
ended. -/
def settleChild (answers : Answers) (application : String) : Step Unit := do
  match ← ask answers .assignProcess with
  | some failure =>
    let _ ← ask answers (.terminateProcess 1)
    modify (·.record 0)
    throw (.assignToJob application failure.code failure.text)
  | none =>
    let _ ← ask answers .resumeThread

/-- Waits for the child's end and asks for its code. -/
def awaitCode (answers : Answers) : Step UInt32 := do
  require answers .waitForProcess fun failure =>
    .processWait "WaitForSingleObject" failure.code failure.text
  require answers .exitCode fun failure =>
    .processWait "GetExitCodeProcess" failure.code failure.text
  return answers.exitCode

/-- Waits for the child and forgets its pid, whether or not its code could be had. -/
def awaitChild (answers : Answers) : Step UInt32 :=
  ExceptT.mk do
    let result ← (awaitCode answers).run
    modify (·.record 0)
    return result

/-- The launch, step by step. -/
def steps (answers : Answers) (order : Order) : Step UInt32 := do
  let plan ← decidePlan answers
  if plan.createsJob then
    makeJob answers
  let arguments ← ExceptT.mk (pure (readArguments order.arguments))
  let target := arguments.headD ""
  let shell := order.shellFor target
  let input ← bindInput answers
  let output ← bindOutput answers order .output
  let error ← bindOutput answers order .error
  let invocation ←
    Invocation.build (writeResponse answers order.directory) (shell.getD target) arguments shell
  createChild answers ⟨invocation, plan.flags, input, output, error⟩
  if plan.createsJob then
    settleChild answers invocation.application
  awaitChild answers

/-! ## The whole launch -/

/-- The result of a launch and the record of it. -/
structure Report where
  result : Except LaunchError UInt32
  events : List Event
  holdings : Holdings

/-- What a launch holds when it starts: the redirect files, if its output goes to files. The one for
errors is given back last. -/
def atStart (order : Order) (pid : Int32) : Desk :=
  let desk : Desk := { holdings := ⟨[], pid⟩ }
  if order.redirects then (desk.obtain (.redirect .error)).obtain (.redirect .output) else desk

/-- Launches a child and gives back what is held at the end. -/
def run (answers : Answers) (order : Order) (pid : Int32) : Report :=
  let (result, desk) := (steps answers order).run (atStart order pid)
  let closed := desk.release fun _ => true
  ⟨result, closed.events, closed.holdings⟩

/-- Launches what is ordered. Without any argument nothing is asked of the system, and only the
redirect files are given back. -/
def launch (answers : Answers) (order : Order) (pid : Int32) : Report :=
  if order.arguments = [] then
    let closed := (atStart order pid).release fun _ => true
    ⟨.error (.invalidArgument "empty argument vector"), closed.events, closed.holdings⟩
  else run answers order pid

/-- The child's end as an outcome; the code is read as a signed number. -/
def Report.outcome (report : Report) : Except LaunchError ExitOutcome :=
  report.result.map fun code => .exited code.toInt32

/-- The exit status of a process that is replaced by the launch. -/
def Report.exitStatus (report : Report) : Int32 :=
  match report.result with
  | .ok code => code.toInt32
  | .error _ => -1

end JobLaunch

end CompilerLauncher
