import CompilerLauncher.FrontEnd.Options
import CompilerLauncher.Launch.Execution
import CompilerLauncher.Search
import CompilerLauncher.Settings.Document

/-!
The front end: from the command line to the status with which the process ends.

The steps are taken in this order, and the first that fails ends the run: the command line is read,
the settings are loaded and overridden by the environment, the compiler's name is checked and looked
up, the files for its output are made, and it is launched, or the front end is replaced by it.
-/

namespace CompilerLauncher

namespace FrontEnd

open Forked (Launcher)

/-- The name and version that the front end shows. -/
def versionLine : String := "compcache-run 0.1.0\n"

/-- How a run ends, with the open files then. -/
structure Finish where
  ending : Ending
  storage : Storage

/-- The front end's process: a launcher, and the path of its own program. -/
structure Host where
  launcher : Launcher
  ownPath : Bytes

namespace Host

/-- The environment of the process. -/
def environment (host : Host) : Environment := fun name =>
  host.launcher.environment.lookup (Utf8.encode name)

/-- Writes to a descriptor. -/
def write (host : Host) (descriptor : Nat) (bytes : Bytes) : Storage :=
  match host.launcher.descriptors.lookup descriptor with
  | some found => (host.launcher.storage.write found.file bytes).1
  | none => host.launcher.storage

/-- Ends with an error that has words. -/
def fail (host : Host) (message : Bytes) : Finish :=
  { ending := .exited 1
    storage := host.write Descriptors.errors (Utf8.encode "Error: " ++ message ++ [newline]) }

/-- Ends with a status. -/
def finish (host : Host) (status : Int32) : Finish :=
  { ending := .exited (status.toInt % 256).toNat, storage := host.launcher.storage }

/-- Ends because of the command line. -/
def refuse (host : Host) : UsageError → Finish
  | .displayVersion =>
    { ending := .exited 0
      storage := host.write Descriptors.output (Utf8.encode versionLine) }
  | .displayHelp => host.finish 0
  | _ => host.finish 2

/-! ## The steps -/

/-- The settings that the options and the environment make. -/
def settings (host : Host) (options : Options) : Except SettingsError Settings :=
  let loaded :=
    match options.config with
    | some path => Settings.loadFile host.launcher.storage.tree host.environment path
    | none => .ok (Settings.defaults host.environment)
  loaded.map fun settings => settings.override host.environment

/-- Makes a file for output and opens it on the lowest free descriptor, which is closed when an
image is replaced. -/
def createSink (host : Host) (path : Bytes) : Except Errno (Host × Nat) :=
  (host.launcher.storage.tree.create path 0o644).map fun (tree, place) =>
    let file : OpenFile :=
      match place with
      | some place => .place place 0 false
      | none => .sink
    let (storage, number) := ({ host.launcher.storage with tree }).add file
    let descriptor := host.launcher.descriptors.free 0
    let descriptors := host.launcher.descriptors.set descriptor ⟨number, true⟩
    ({ host with launcher := { host.launcher with storage, descriptors } }, descriptor)

/-- The complaint about a file for output. -/
def notCreated (path : Bytes) : Bytes :=
  Utf8.encode s!"Failed to create {Utf8.lossy path}"

/-- The complaint about a compiler that was not found. -/
def notFound (name : Bytes) : Bytes :=
  Utf8.encode s!"Could not find compiler \"{Utf8.lossy name}\" in PATH"

/-- Launches the compiler, and ends with its status. -/
def launch (host : Host) (arguments : List Bytes) (sinks : Option (Nat × Nat)) : Finish :=
  let report := host.launcher.execute arguments sinks
  let status : Int32 :=
    match report.result with
    | some (.ok outcome) => outcome.statusCode
    | some (.error error) => error.exitStatus
    | none => 1
  { ending := .exited (status.toInt % 256).toNat, storage := report.storage }

/-- Goes on once the compiler's path is known. -/
def runCompiler (host : Host) (options : Options) (arguments : List Bytes) : Finish :=
  if options.replace then
    let (ending, storage) := host.launcher.replace arguments
    { ending, storage }
  else
    match options.output, options.errors with
    | some output, some errors =>
      match host.createSink output with
      | .error _ => host.fail (notCreated output)
      | .ok (host, out) =>
        match host.createSink errors with
        | .error _ => host.fail (notCreated errors)
        | .ok (host, err) => host.launch arguments (some (out, err))
    | _, _ => host.launch arguments none

/-- Does what the options ask for. -/
def carryOut (host : Host) (options : Options) : Finish :=
  match host.settings options with
  | .error error => host.fail (Utf8.encode error.message)
  | .ok settings =>
    match options.compiler with
    | .error name => host.fail (Utf8.encode (Options.unreadableName name))
    | .ok (name, arguments) =>
      match Search.program? host.launcher.storage.tree settings host.environment name
          (some host.ownPath) with
      | none => host.fail (notFound name)
      | some path => host.runCompiler options (path :: arguments)

/-- Runs the front end with the given command line. -/
def run (host : Host) (tokens : List Bytes) : Finish :=
  match Options.read tokens with
  | .error error => host.refuse error
  | .ok options => host.carryOut options

end Host

end FrontEnd

end CompilerLauncher
