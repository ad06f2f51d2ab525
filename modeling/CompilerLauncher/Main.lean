import CompilerLauncher.FrontEnd.Run
import CompilerLauncher.Process.Programs

/-!
The front end as a program.

It gathers what a run can look at (the environment, the file of settings, and the files that the
compiler's name may mean) into a tree beside the system's own programs, runs the front end on that
tree, and gives back what the run wrote: its output, its errors and the files it was told to make.
-/

namespace CompilerLauncher

open FrontEnd (Host)

/-- The bytes of a file, if it can be read. -/
def readBytes? (path : String) : IO (Option Bytes) := do
  try
    return some (← IO.FS.readBinFile path).toList
  catch _ => return none

/-- The tree with a file that can be read, in the place of its real path. -/
def withFile (tree : FileTree) (path : String) : IO FileTree := do
  match ← readBytes? path with
  | none => return tree
  | some data =>
    let place := Utf8.encode path
    return (((tree.makeParents place).writeFile place data 0o755).toOption).getD tree

/-- The variables that a run consults or hands on, those of them that are set. -/
def gatherVariables : IO (List (Bytes × Bytes)) := do
  let names := ["PATH", "TMPDIR", "HOME", Settings.pathVariable, Settings.temporaryDirVariable,
    Settings.detectShebangVariable]
  names.filterMapM fun name => do
    return (← IO.getEnv name).map fun value => (Utf8.encode name, Utf8.encode value)

/-- The paths that a compiler's name may mean. -/
def meanings (bindings : List (Bytes × Bytes)) (name : Bytes) : List String :=
  let lists := ["PATH", Settings.pathVariable].filterMap fun listed =>
    bindings.lookup (Utf8.encode listed)
  let found := lists.flatMap fun list => Search.candidates list name
  (name :: found).filterMap Utf8.decode?

/-- The tree that a run works on. -/
def gatherTree (bindings : List (Bytes × Bytes)) (options : Options) : IO FileTree := do
  let here := Utf8.encode (← IO.currentDir).toString
  let tree := Programs.tree.makeDirectories here
  let mut tree := { tree with working := Path.names here }
  let files := (options.config.toList.filterMap Utf8.decode?) ++
    meanings bindings (options.command.headD [])
  for path in files do
    tree ← withFile tree path
  return tree

/-- The number of the open file that holds a run's output. -/
def outputFile : Nat := 1

/-- The number of the open file that holds a run's errors. -/
def errorsFile : Nat := 2

/-- The front end's process. -/
def hostOf (tree : FileTree) (bindings : List (Bytes × Bytes)) (ownPath : Bytes) : Host :=
  { launcher :=
      { storage := { tree, files := [.sink, .collected [], .collected []] }
        descriptors := [(0, ⟨0, false⟩), (1, ⟨outputFile, false⟩), (2, ⟨errorsFile, false⟩)]
        environment := bindings
        self := 2 }
    ownPath }

/-- Writes the file that an option named. -/
def keepFile (tree : FileTree) (path : Option Bytes) : IO Unit := do
  match path.bind Utf8.decode?, path.map tree.read with
  | some path, some (.ok data) => IO.FS.writeBinFile path ⟨data.toArray⟩
  | _, _ => return ()

/-- The status by which a process's end is known to whoever started it. -/
def statusByte : Ending → UInt8
  | .exited code => UInt8.ofNat code
  | .killed signal => UInt8.ofNat (128 + signal)

end CompilerLauncher

open CompilerLauncher

/-- Runs the front end with the process's arguments. -/
def main (tokens : List String) : IO UInt32 := do
  let tokens := tokens.map Utf8.encode
  let options := ((Options.read tokens).toOption).getD {}
  let bindings ← gatherVariables
  let tree ← gatherTree bindings options
  let ownPath := Utf8.encode (← IO.appPath).toString
  let finish := (hostOf tree bindings ownPath).run tokens
  (← IO.getStdout).write ⟨(finish.storage.content outputFile).toArray⟩
  (← IO.getStderr).write ⟨(finish.storage.content errorsFile).toArray⟩
  keepFile finish.storage.tree options.output
  keepFile finish.storage.tree options.errors
  return (statusByte finish.ending).toUInt32
