import CompilerLauncher.Script.Session

/-!
Processes that a shell starts: they begin with what the shell has, and nothing that becomes of them
changes the shell. Only what they do to files and to other processes stays.
-/

namespace CompilerLauncher

namespace Script

open Forked (Pid)

/-- The shell as a process of its own: traps with commands are gone, and so are the jobs. -/
def Shell.split (shell : Shell) (self : Pid) : Shell :=
  { shell with
    self
    parent := shell.self
    traps := shell.traps.filter fun entry => entry.2.isEmpty
    caught := []
    jobs := [] }

/-- Whether commands stand ready for a signal or for the end. -/
def Shell.hasTraps (shell : Shell) : Bool :=
  shell.traps.any fun entry => !entry.2.isEmpty

namespace Session

/-- A number for a process. -/
def freshPid : Act Pid := do
  let session ← get
  set { session with nextPid := session.nextPid + 1 }
  return session.nextPid

/-- How a process ends whose course changes in the given way, if it left the given status behind. A
process that nests too deep runs out of its stack. -/
def endingOf (status : Nat) : Flow → Ending
  | .exit status | .failed status => .exited status
  | .killed signal => .killed signal
  | .exhausted => .killed Signal.segmentation
  | .break _ | .continue _ | .return => .exited status

/-- What an action does as a process that starts as `start`: how the process ends. The shell and its
working directory are afterwards what they were. -/
def apart (start : Shell) (body : Act Unit) : Act Ending := do
  let before ← get
  set { before with shell := start }
  let ending ←
    tryCatch
      (do
        body
        return Ending.exited (← get).shell.status)
      fun flow => return endingOf (← get).shell.status flow
  modify fun session =>
    { session with
      shell := before.shell
      storage :=
        { session.storage with
          tree := { session.storage.tree with working := before.storage.tree.working } } }
  return ending

/-- The signals whose work a shell does not mention. -/
def unmentioned : List Signal := [Signal.interrupt, Signal.brokenPipe]

/-- Mentions that a process which the shell has waited for was ended by a signal. -/
def mention : Ending → Act Unit
  | .exited _ => return ()
  | .killed signal =>
    if unmentioned.contains signal then return ()
    else discard (write Descriptors.errors (Utf8.encode (Signal.text signal) ++ [newline]))

/-- Takes note of the jobs that have ended. -/
def noteJobs : Act Unit :=
  onShell fun shell =>
    { shell with jobs := shell.jobs.map fun job => { job with noted := job.ending.isSome } }

/-- Takes note of the end of a process that the shell has waited for. Signals that were sent to the
shell meanwhile arrive. -/
def noticeEnd (ending : Ending) : Act Unit := do
  mention ending
  noteJobs
  deliver Signal.child
  receive

/-- Does something with other descriptors, and puts the old ones back, however it comes out. -/
def keepingDescriptors {α : Type} (body : Act α) : Act α := do
  let before := (← get).shell.descriptors
  let restore : Act Unit := onShell fun shell => { shell with descriptors := before }
  tryCatch
    (do
      let value ← body
      restore
      return value)
    fun flow => do
      restore
      throw flow

end Session

/-! ## The end of a shell -/

/-- Runs the jobs that have not run yet, each as a process of its own. -/
def runJobs (run : Runner) : Act Unit := do
  let waiting := (← get).shell.jobs.filter fun job => job.ending.isNone
  for job in waiting do
    let shell := (← get).shell
    let ignored := Signal.interrupt :: Signal.quit :: shell.ignored
    let start : Shell :=
      { shell.split job.pid with
        bindings := job.bindings
        arguments := job.arguments
        descriptors := job.descriptors
        inCondition := false
        ignored }
    let ending ← Session.apart start (run (.command job.body true))
    let settle (other : Job) : Job :=
      if other.pid = job.pid then { other with ending := some ending } else other
    Session.onShell fun shell => { shell with jobs := shell.jobs.map settle }
    Session.receive

/-- Runs the commands of traps whose signals have been caught, in the order of the signals. The
status stays what it was, unless they change the course of the script. -/
def runTraps (run : Runner) : Act Unit := do
  let shell := (← get).shell
  if shell.caught.isEmpty then return ()
  let signals := shell.caught.eraseDups.mergeSort fun left right => left ≤ right
  Session.onShell fun shell => { shell with caught := [] }
  for signal in signals do
    match shell.traps.lookup signal with
    | none => pure ()
    | some commands =>
      let before := (← get).shell
      Session.onShell fun shell =>
        { shell with held := some (before.held.getD before.status) }
      let restore : Act Unit := Session.onShell fun shell => { shell with held := before.held }
      tryCatch (run (.text commands .arguments)) fun flow => do
        restore
        throw flow
      restore
      Session.setStatus before.status

/-- Runs the commands that stand ready for the end of a shell, once. An exit in them replaces the
status. -/
def runEndTrap (run : Runner) : Act Unit := do
  let shell := (← get).shell
  match shell.traps.lookup 0 with
  | none => pure ()
  | some commands =>
    Session.onShell fun shell =>
      { shell with
        traps := shell.traps.filter fun entry => entry.1 != 0
        held := some shell.status }
    let status ←
      tryCatch
        (do
          run (.text commands .arguments)
          return shell.status)
        fun
        | .exit status | .failed status => return status
        | .killed signal => throw (.killed signal)
        | .exhausted => throw .exhausted
        | .break _ | .continue _ | .return => return shell.status
    Session.setStatus status

/-- Does something as the whole work of a shell. -/
def conclude (run : Runner) (body : Act Unit) : Act Unit := do
  tryCatch body fun
    | .exit status | .failed status => Session.setStatus status
    | .killed signal => throw (.killed signal)
    | .exhausted => throw .exhausted
    | .break _ | .continue _ | .return => pure ()
  runEndTrap run
  runJobs run
  throw (.exit (← get).shell.status)

/-- Runs a command in a subshell and leaves its status behind. -/
def runSubshell (run : Runner) (body : Command) (descriptors : Descriptors) : Act Unit := do
  let self ← Session.freshPid
  let start : Shell := { (← get).shell.split self with descriptors }
  let ending ← Session.apart start (conclude run (run (.command body true)))
  Session.noticeEnd ending
  Session.setStatus (statusOf ending)

/-- What a command writes as a subshell, without the line ends at the end. -/
def substitute (run : Runner) : Command → Act Bytes
  | .nothing => return []
  | body => do
    let self ← Session.freshPid
    let session ← get
    let (storage, number) := session.storage.add (.collected [])
    set { session with storage }
    let shell := session.shell
    let start : Shell :=
      { shell.split self with
        descriptors := shell.descriptors.set Descriptors.output ⟨number, false⟩ }
    let ending ← Session.apart start (conclude run (run (.command body true)))
    Session.noticeEnd ending
    Session.onShell fun shell => { shell with substituted := statusOf ending }
    let written := (← get).storage.content number
    return ((written.filter (· != 0)).reverse.dropWhile (· == newline)).reverse

end Script

end CompilerLauncher
