import CompilerLauncher.Script.Redirect
import CompilerLauncher.Script.Subshell
import CompilerLauncher.Script.Switch

/-!
How a shell starts: the variables that it begins with, and what its arguments ask for.
-/

namespace CompilerLauncher

namespace Script

namespace Start

open Session

/-- The variables of a shell that is given the listed ones, in the directory `here`. -/
def bindings (given : List (Bytes × Bytes)) (parent : Forked.Pid) (here : Bytes) :
    List (Bytes × Variable) :=
  let own (name : String) (value : Bytes) : Bytes × Variable :=
    (Utf8.encode name,
      { value := some value, exported := (given.lookup (Utf8.encode name)).isSome })
  let replaceable (name value : String) : Bytes × Variable :=
    (Utf8.encode name, { value := some (Utf8.encode value) })
  let usual : List (Bytes × Variable) :=
    [own "IFS" usualSeparators, own "OPTIND" (Utf8.encode "1"),
      replaceable "PATH" (Utf8.lossy usualPath), replaceable "PS1" "# ", replaceable "PS2" "> ",
      replaceable "PS4" "+ "]
  let fixed : List Bytes := [Utf8.encode "IFS", Utf8.encode "OPTIND", Utf8.encode "PPID"]
  let given := given.filter fun entry => !fixed.contains entry.1
  let taken := given.foldl
    (fun bindings (name, value) => rebind name (some { value := some value, exported := true })
      bindings)
    usual
  let (parentName, parentHeld) := own "PPID" (Utf8.encode (toString parent.toInt))
  rebind (Utf8.encode "PWD") (some { value := some here, exported := true })
    (rebind parentName (some parentHeld) taken)

/-- The working directory by the name that a shell is told, if that is its name, or else as it
stands in the tree. -/
def directory (tree : FileTree) (told : Option Bytes) : Bytes :=
  let real := FileTree.pathOf tree.working
  match told with
  | none => real
  | some path =>
    match tree.lookup path with
    | .ok (place, _) => if Path.isAbsolute path && place = tree.working then path else real
    | .error _ => real

/-- The shell for a process that becomes one. Its variables come from those that are exported. -/
def fresh (session : Session) (zero : Bytes) : Shell :=
  let old := session.shell
  let given := (environment old).filter fun entry => isName entry.1
  let here := directory session.storage.tree (given.lookup (Utf8.encode "PWD"))
  { zero
    bindings := bindings given old.parent here
    ignored := old.ignored ++ (old.traps.filter fun entry => entry.2.isEmpty).map (·.1)
    pid := old.self
    self := old.self
    parent := old.parent
    line := 0
    directory := here
    withheld := old.withheld
    limits := old.limits
    mask := old.mask
    descriptors := old.descriptors }

/-- Takes all that is left of the input. -/
def takeInput : Act Bytes := do
  let session ← get
  match session.shell.descriptors.lookup 0 with
  | none => return []
  | some found =>
    let script := session.storage.unread found.file
    set { session with storage := session.storage.advance found.file script.length }
    return script

/-- Runs the script that the arguments of the shell ask for: an argument, a file or the input. -/
def work (run : Runner) (arguments : List Bytes) : Act Unit := do
  let (asked, rest, _) ← Switch.arguments true (arguments.length + 1) {} arguments
  if (← get).shell.isOn "interactive" then Switch.turn true "monitor"
  if rest = [] then
    if asked.command then fail 2 "-c requires an argument"
    Switch.turn true "stdin"
  let fromInput : Bool := (← get).shell.isOn "stdin"
  let settle (zero? : Option Bytes) (arguments : List Bytes) : Act Unit :=
    onShell fun shell => { shell with zero := zero?.getD shell.zero, arguments, line := 1 }
  let input : Act Unit := do
    run (.text (← takeInput) .file)
  match rest with
  | [] =>
    settle none []
    input
  | first :: behind =>
    if asked.command then
      settle behind.head? behind.tail
      run (.text first .arguments)
      if fromInput then input
    else if fromInput then
      settle none rest
      input
    else
      match (← get).storage.tree.lookup first with
      | .error cause =>
        fail 2 s!"cannot open {Utf8.lossy first}: {Redirection.reason false cause}"
      | .ok (place, _) =>
        let script := (← get).storage.tree.dataAt place
        settle (some first) behind
        run (.text script .file)

end Start

end Script

end CompilerLauncher
