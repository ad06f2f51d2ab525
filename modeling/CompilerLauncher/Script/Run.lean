import CompilerLauncher.Script.Compound
import CompilerLauncher.Script.Start
import CompilerLauncher.Script.Tool

/-!
How scripts and programs run.

`step` says what one task comes to, with the tasks inside it left to a `Runner`; `perform` closes
the circle with a bound on how deep tasks may nest.
-/

namespace CompilerLauncher

namespace Script

open Session

namespace Run

/-! ## Scripts -/

/-- The lines of a text up to the given number of line ends. -/
def linesOf : Nat → Bytes → Bytes
  | _, [] => []
  | ends, byte :: rest =>
    if byte = newline then
      match ends with
      | 0 => [byte]
      | ends + 1 => byte :: linesOf ends rest
    else byte :: linesOf ends rest

/-- Shows a part of a script that has been read, if the shell shows scripts and this one comes from
a file. -/
def echo (origin : Origin) (part : Unit → Bytes) : Act Unit := do
  if origin = .file && (← get).shell.isOn "verbose" then
    discard (write Descriptors.errors (part ()))

/-- Runs the commands of a script line by line, at most as many lines as `fuel`. `size` is the size
of the script, and `before` the status of the commands so far. -/
def lines (run : Runner) (origin : Origin) (size : Nat) : Nat → Source → Nat → Act Unit
  | 0, _, _ => throw .exhausted
  | fuel + 1, source, before => do
    let aliases := (← get).shell.aliases
    let source := { source with aliases }
    match source.readCommand? (Source.depthFor size aliases) with
    | .error fault =>
      echo origin fun _ => linesOf (fault.line - source.line) source.unread
      onShell fun shell => { shell with line := fault.line, readTo := fault.line }
      fail 2 fault.mistake.message
    | .ok (found, behind) =>
      echo origin fun _ => source.unread.take (source.unread.length - behind.unread.length)
      onShell fun shell => { shell with readTo := behind.line }
      match found with
      | none => setStatus before
      | some .nothing => lines run origin size fuel behind before
      | some body =>
        run (.command body false)
        lines run origin size fuel behind (← get).shell.status

/-- Runs the text of a script. In a file zero bytes do not count. -/
def text (run : Runner) (script : Bytes) (origin : Origin) : Act Unit := do
  let readTo := (← get).shell.readTo
  let restore : Act Unit := onShell fun shell => { shell with readTo }
  let unread := if origin = .file then script.filter (· != 0) else script
  tryCatch
    (do
      lines run origin unread.length Compound.roundLimit { unread } 0
      restore)
    fun flow => do
      restore
      throw flow

/-! ## Programs -/

/-- Does what a program does, to the end of the process. -/
def image (run : Runner) (image : Image) : Act Unit := do
  let zero := image.arguments.headD []
  let arguments := image.arguments.tail
  let name := Utf8.lossy image.program
  if name = "sh" then
    modify fun session => { session with shell := Start.fresh session zero }
    conclude run (Start.work run arguments)
  else
    onShell fun shell =>
      { shell with
        zero
        ignored := shell.ignored ++ (shell.traps.filter fun entry => entry.2.isEmpty).map (·.1)
        traps := [] }
    if name = "env" then Tool.env run arguments
    else
      match Tool.find? name with
      | some tool => throw (.exit (← Tool.perform tool arguments))
      | none => throw (.exit 127)

/-! ## All together -/

/-- Does one thing, with the things inside it left to `run`. -/
def step (run : Runner) : Task → Act Unit
  | .command body last => do
    if (← get).shell.isOn "noexec" then return ()
    runTraps run
    Compound.command run last body
    runTraps run
  | .text script origin => text run script origin
  | .image loaded => image run loaded

/-- Does one thing, where nothing nests deeper than the given number. -/
def perform : Nat → Runner
  | 0, _ => throw .exhausted
  | depth + 1, task => step (fun inner => perform depth inner) task

end Run

end Script

end CompilerLauncher
