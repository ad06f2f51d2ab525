import CompilerLauncher.Script.Builtin
import CompilerLauncher.Script.Subshell

/-!
The jobs of a shell: starting them, showing them and waiting for them.

A job runs when the shell waits for it or ends, or when a program lets time pass; until then it is
under way.
-/

namespace CompilerLauncher

namespace Script

namespace Jobs

open Session

/-- The smallest number that no job has. -/
def freeNumber (jobs : List Job) : Nat :=
  let numbers := List.range' 1 (jobs.length + 1)
  (numbers.find? fun number => !jobs.any fun job => job.number == number).getD 1

/-- Starts a job. -/
def start (body : Command) : Act Unit := do
  let pid ← freshPid
  modify fun session =>
    let (storage, number) := session.storage.add .sink
    let shell := session.shell
    let job : Job :=
      { number := freeNumber shell.jobs
        pid
        body
        bindings := shell.bindings
        arguments := shell.arguments
        descriptors := shell.descriptors.set 0 ⟨number, false⟩ }
    { session with
      storage
      shell := { shell with jobs := job :: shell.jobs, lastJob := some pid, status := 0 } }

/-! ## Showing -/

/-- The state of a job in words. -/
def stateOf (job : Job) : String :=
  match job.ending with
  | none => "Running"
  | some (.exited 0) => "Done"
  | some (.exited status) => s!"Done({status % 256})"
  | some (.killed signal) => Signal.text signal

/-- The line for a job. The last job is marked, and so is the one before it. -/
def line (withPid : Bool) (place : Nat) (job : Job) : String :=
  let mark := if place = 0 then "+" else if place = 1 then "-" else " "
  let pid := if withPid then s!"{job.pid.toInt} " else ""
  let text := s!"[{job.number}] {mark} {pid}{stateOf job}"
  text ++ String.ofList (List.replicate (33 - text.length) ' ') ++ "\n"

/-- The job that an argument means: by a percent sign and its number, or as the last one or the one
before it. -/
def named? (jobs : List Job) (argument : Bytes) : Option Job :=
  match argument with
  | [] => none
  | first :: rest =>
    if !isSign '%' first then none
    else
      match (Builtin.shown rest).toList with
      | [] | ['%'] | ['+'] => jobs.head?
      | ['-'] => jobs[1]?
      | _ =>
        (Builtin.number? rest).bind fun number => jobs.find? fun job => job.number == number

/-- Shows one job; one that has ended is shown no more. -/
def showOne (given : List (Char × Bytes)) (job : Job) : Act Unit := do
  let jobs := (← get).shell.jobs
  let place := jobs.findIdx fun other => other.number == job.number
  if Builtin.isGiven given 'p' then print (Utf8.encode s!"{job.pid.toInt}\n")
  else print (Utf8.encode (line (Builtin.isGiven given 'l') place job))
  if job.ending.isSome then
    onShell fun shell =>
      { shell with jobs := shell.jobs.filter fun other => other.number != job.number }

/-- Shows the jobs, or those that are named. -/
def jobs (arguments : List Bytes) : Act Nat := do
  let (given, names) ← Builtin.options "lp" arguments
  let all := (← get).shell.jobs
  if names = [] then all.forM (showOne given)
  else
    for name in names do
      match named? (← get).shell.jobs name with
      | some job => showOne given job
      | none => fail 2 s!"No such job: {Builtin.shown name}"
  return 0

/-- Brings a job back, which only a shell that controls its jobs can do. -/
def resume (arguments : List Bytes) : Act Nat := do
  match arguments, (← get).shell.jobs with
  | [], [] => fail 2 "No current job"
  | [], _ :: _ => fail 2 "job (null) not created under job control"
  | name :: _, jobs =>
    match named? jobs name with
    | some _ => fail 2 s!"job {Builtin.shown name} not created under job control"
    | none => fail 2 s!"No such job: {Builtin.shown name}"

/-! ## Waiting -/

/-- Waits for one of the jobs; its status is the answer, or the status so far if there is none of
that number. -/
def waitFor (status : Nat) (argument : Bytes) : Act Nat := do
  let jobs := (← get).shell.jobs
  let found ←
    if argument.head?.any (isSign '%') then
      match named? jobs argument with
      | some job => pure (some job)
      | none => fail 2 s!"No such job: {Builtin.shown argument}"
    else
      let pid ← Builtin.numberOr argument
      pure (jobs.find? fun job => job.pid.toInt == (pid : Int))
  match found.bind fun job => job.ending.map fun ending => (job, ending) with
  | none => return status
  | some (job, ending) =>
    if !job.noted then mention ending
    return statusOf ending

/-- Waits for jobs: for all of them, or for those named, of which the last gives the status. -/
def wait (run : Runner) (arguments : List Bytes) : Act Nat := do
  let names ← Builtin.operands arguments
  runJobs run
  let mut status := if names = [] then 0 else 127
  for name in names do
    status ← waitFor status name
  noteJobs
  return status

end Jobs

end Script

end CompilerLauncher
