import CompilerLauncher.Launch.Forked
import CompilerLauncher.Script.Run

/-!
Launches carried out: what the child does, from the replacement of its image to its end, and what
the launcher makes of it.

The launcher's side is the list of actions of `Forked`; this module supplies the kernel's answers,
of which the wait's is the child's end.
-/

namespace CompilerLauncher

namespace Forked

open Script (Session Shell Variable Watcher)

/-- A file that tells a pid, a file that allows a signal, and the signal: what someone who watches a
launch is to do. -/
structure Watch where
  announcement : Bytes
  readiness : Bytes
  signal : Option Signal

/-- A launcher and what it has: open files, descriptors, variables, a mask and the recorded pid. -/
structure Launcher where
  storage : Storage
  descriptors : Descriptors
  environment : List (Bytes × Bytes)
  mask : SignalMask := SignalMask.empty
  recorded : Pid := 0
  self : Pid
  watch : Option Watch := none

/-- What a launch leaves behind: the answer, the open files, and the states of the launcher. -/
structure Report where
  result : Option (Except LaunchError ExitOutcome)
  storage : Storage
  states : List State
  final : State

namespace Launcher

/-- The depth to which what a program does may nest. -/
def depth : Nat := 20000

/-- The session that a process starts with. -/
def sessionOf (launcher : Launcher) (storage : Storage) (pid : Pid) (start : ChildStart) :
    Session :=
  { storage
    shell :=
      { zero := start.arguments.headD []
        bindings := launcher.environment.map fun (name, value) =>
          (name, { value := some value, exported := true : Variable })
        pid
        self := pid
        parent := launcher.self
        mask := start.mask
        descriptors := start.descriptors }
    nextPid := pid + 1
    watcher := launcher.watch.map fun watch =>
      { child := pid
        announcement := watch.announcement
        readiness := watch.readiness
        signal := watch.signal } }

/-- Replaces the image of a process, and follows it to its end. A process whose image cannot be
replaced ends with `notStarted`. -/
def follow (launcher : Launcher) (storage : Storage) (pid : Pid) (start : ChildStart) :
    Ending × Storage :=
  match Image.load storage.tree (start.arguments.headD []) start.arguments with
  | .error _ => (.exited notStarted, storage)
  | .ok image =>
    let session := launcher.sessionOf storage pid start
    match (Session.apart session.shell (Script.Run.perform depth (.image image))).run session with
    | (.ok ending, session) => (ending, session.storage)
    | (.error _, session) => (.exited notStarted, session.storage)

/-- The child's number. -/
def childPid (launcher : Launcher) : Pid := launcher.self + 1

/-- The state in which a launch begins. -/
def initial (launcher : Launcher) (sinks : Option (Nat × Nat)) : State :=
  { mask := launcher.mask, recorded := launcher.recorded, holdsSinks := sinks.isSome }

/-- Runs a program and waits for its end. `sinks` are the descriptors of the files that get what the
program writes as output and as errors. -/
def execute (launcher : Launcher) (arguments : List Bytes) (sinks : Option (Nat × Nat)) : Report :=
  let before := launcher.initial sinks
  match ArgumentVector.check arguments with
  | .error _ =>
    let actions := actions arguments (.ok launcher.childPid) []
    { result := result? arguments (.ok launcher.childPid) []
      storage := launcher.storage
      states := before.run actions
      final := before.after actions }
  | .ok () =>
    let forked := before.after [.block, .fork (.ok launcher.childPid)]
    let (ending, storage) :=
      launcher.follow launcher.storage launcher.childPid
        (childOf forked arguments launcher.descriptors sinks)
    let waits := [.ok ending.word]
    let actions := actions arguments (.ok launcher.childPid) waits
    { result := result? arguments (.ok launcher.childPid) waits
      storage
      states := before.run actions
      final := before.after actions }

/-- Replaces the launcher itself by a program: how the process ends, and the open files then. -/
def replace (launcher : Launcher) (arguments : List Bytes) : Ending × Storage :=
  match ArgumentVector.check arguments with
  | .error _ => (.exited notStarted, launcher.storage)
  | .ok () =>
    launcher.follow launcher.storage launcher.self
      { arguments, mask := launcher.mask, descriptors := launcher.descriptors.replaced }

end Launcher

end Forked

end CompilerLauncher
