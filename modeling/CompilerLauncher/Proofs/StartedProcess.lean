import CompilerLauncher.Proofs.SelfExclusion

/-!
# The process that runs a program

A launch makes a child, and a replacement makes none; in both a process replaces its image by the
program (`Forked.Process`). A process runs the image that it can take on, and otherwise it ends at
once (`Process.finish_of_loadable`, `Process.finish_of_unloadable`). The launcher waits for the
child's end, so what a launch answers, and what it leaves behind, are read off that process
(`Launcher.result_execute`, `Launcher.storage_execute`).

A run of the front end that starts a program comes to such a process, if the arguments can be
carried, and to no other (`Outcome.process?_of_start`, `Outcome.start?_of_process`).
-/

namespace CompilerLauncher

namespace Forked

open Script (Session)

/-- A process that is about to replace its image: its launcher, its number, and what it has. -/
structure Process where
  launcher : Launcher
  pid : Pid
  start : ChildStart

/-- The image that the process is to take on. -/
def Process.image (process : Process) : Except Errno Image :=
  Image.load process.launcher.storage.tree (process.start.arguments.headD [])
    process.start.arguments

/-- The session in which the process runs its image. -/
def Process.session (process : Process) : Session :=
  process.launcher.sessionOf process.launcher.storage process.pid process.start

/-- How the process ends that runs an image in its session, and what it leaves. -/
def Process.enact (process : Process) (image : Image) : Ending × Storage :=
  match (Session.apart process.session.shell
      (Script.Run.perform Launcher.depth (.image image))).run process.session with
  | (.ok ending, session) => (ending, session.storage)
  | (.error _, session) => (.exited notStarted, session.storage)

/-- How the process ends, and what it leaves. -/
def Process.finish (process : Process) : Ending × Storage :=
  process.launcher.follow process.launcher.storage process.pid process.start

/-- A process that cannot take on its image ends at once. -/
theorem Process.finish_of_unloadable {process : Process} {cause : Errno}
    (fails : process.image = .error cause) :
    process.finish = (.exited notStarted, process.launcher.storage) := by
  unfold Process.image at fails
  unfold finish Launcher.follow
  rw [fails]

/-- A process that takes on its image runs it. -/
theorem Process.finish_of_loadable {process : Process} {image : Image}
    (loads : process.image = .ok image) : process.finish = process.enact image := by
  unfold Process.image at loads
  unfold finish Launcher.follow
  rw [loads]
  rfl

namespace Launcher

/-- The child of a launch. -/
def child (launcher : Launcher) (arguments : List Bytes) (sinks : Option (Nat × Nat)) :
    Process where
  launcher
  pid := launcher.childPid
  start :=
    childOf ((launcher.initial sinks).after [.block, .fork (.ok launcher.childPid)]) arguments
      launcher.descriptors sinks

/-- The launcher itself when it is to be replaced. -/
def successor (launcher : Launcher) (arguments : List Bytes) : Process where
  launcher
  pid := launcher.self
  start := { arguments, mask := launcher.mask, descriptors := launcher.descriptors.replaced }

variable (launcher : Launcher) (arguments : List Bytes) (sinks : Option (Nat × Nat))

/-- A launch that refuses its vector answers with the refusal and lets go of its files. -/
theorem execute_of_refused {arguments : List Bytes} {error : LaunchError}
    (refused : ArgumentVector.check arguments = .error error) :
    launcher.execute arguments sinks =
      { result := some (.error error)
        storage := launcher.storage
        states := (launcher.initial sinks).run [.releaseSinks]
        final := (launcher.initial sinks).after [.releaseSinks] } := by
  rw [execute, refused]
  dsimp only
  rw [actions_of_refused refused, result?_of_refused refused]

/-- A launch answers what its child's end says. -/
theorem result_execute :
    (launcher.execute arguments sinks).result =
      result? arguments (.ok launcher.childPid)
        [.ok (launcher.child arguments sinks).finish.1.word] := by
  cases checked : ArgumentVector.check arguments with
  | error error => rw [execute_of_refused launcher sinks checked, result?_of_refused checked]
  | ok _ =>
    rw [execute, checked]
    rfl

/-- A launch leaves what its child leaves. -/
theorem storage_execute {arguments : List Bytes} (fit : ArgumentVector.check arguments = .ok ()) :
    (launcher.execute arguments sinks).storage = (launcher.child arguments sinks).finish.2 := by
  rw [execute, fit]
  rfl

theorem replace_of_check {arguments : List Bytes} (fit : ArgumentVector.check arguments = .ok ()) :
    launcher.replace arguments = (launcher.successor arguments).finish := by
  rw [replace, fit]
  rfl

end Launcher

end Forked

namespace FrontEnd

open Forked (Process)

namespace Outcome

/-- The process that runs the program, if the run comes to one and its arguments can be carried. -/
def process? : Outcome → Option Process
  | ended _ => none
  | launched host arguments sinks =>
    match ArgumentVector.check arguments with
    | .ok _ => some (host.launcher.child arguments sinks)
    | .error _ => none
  | replaced host arguments =>
    match ArgumentVector.check arguments with
    | .ok _ => some (host.launcher.successor arguments)
    | .error _ => none

variable {outcome : Outcome} {process : Process} {tree : FileTree} {vector : List Bytes}

/-- A vector that can be carried is the argument vector of a process. -/
theorem process?_of_start (started : outcome.start? = some (tree, vector))
    (fit : ArgumentVector.check vector = .ok ()) :
    ∃ process, outcome.process? = some process ∧ process.start.arguments = vector ∧
      process.launcher.storage.tree = tree := by
  cases outcome with
  | ended finish => cases started
  | launched host arguments sinks =>
    cases started
    exact ⟨host.launcher.child vector sinks, by rw [process?, fit], rfl, rfl⟩
  | replaced host arguments =>
    cases started
    exact ⟨host.launcher.successor vector, by rw [process?, fit], rfl, rfl⟩

theorem start?_of_process (found : outcome.process? = some process) :
    outcome.start? = some (process.launcher.storage.tree, process.start.arguments) := by
  cases outcome with
  | ended finish => cases found
  | launched host arguments sinks | replaced host arguments =>
    rw [process?] at found
    split at found
    · cases found
      rfl
    · cases found

/-- The arguments of a process can be carried. -/
theorem check_of_process (found : outcome.process? = some process) :
    ArgumentVector.check process.start.arguments = .ok () := by
  cases outcome with
  | ended finish => cases found
  | launched host arguments sinks | replaced host arguments =>
    rw [process?] at found
    split at found
    · rename_i fit
      cases found
      exact fit
    · cases found

/-- A run leaves what the process leaves. -/
theorem storage_finish (found : outcome.process? = some process) :
    outcome.finish.storage = process.finish.2 := by
  cases outcome with
  | ended finish => cases found
  | launched host arguments sinks =>
    rw [process?] at found
    split at found
    · rename_i fit
      cases found
      exact host.launcher.storage_execute sinks fit
    · cases found
  | replaced host arguments =>
    rw [process?] at found
    split at found
    · rename_i fit
      cases found
      exact congrArg Prod.snd (host.launcher.replace_of_check fit)
    · cases found

end Outcome

/-- A compiler that is a script, and a shell for it. -/
def Host.scripted : Host where
  launcher :=
    { storage :=
        { tree :=
            { entries := [
                ([Utf8.encode "tmp"], .directory 0o777),
                ([Utf8.encode "bin"], .directory 0o755),
                ([Utf8.encode "bin", Utf8.encode "sh"],
                  .file (Image.programMark ++ Utf8.encode "sh") 0o755),
                ([Utf8.encode "bin", Utf8.encode "gcc"],
                  .file (Utf8.encode "#!/bin/sh -e\n") 0o755)] } }
      descriptors := []
      environment := [(Utf8.encode "PATH", Utf8.encode "/bin")]
      self := 4242 }
  ownPath := Utf8.encode "/opt/cc"

end FrontEnd

end CompilerLauncher
