import CompilerLauncher.CommandLine.Invocation
import CompilerLauncher.FileTree.Edit
import CompilerLauncher.Text.Shown

/-!
Response files in a tree of files: where a new one is put, how it is made, and which failures making
it meets.
-/

namespace CompilerLauncher

namespace ResponseFile

/-- How the name of every response file starts. -/
def nameStart : Bytes := Utf8.encode "cmd_args"

/-- The path of a new response file: below the directory, which counts from the working directory if
it is relative, with a suffix that makes the name fresh. -/
def pathIn (tree : FileTree) (directory suffix : Bytes) : Bytes :=
  Path.join (Path.join (FileTree.pathOf tree.working) directory) (nameStart ++ suffix)

/-- The failure to make a response file at a path in a directory. -/
def failure (directory path : Bytes) (reason : String) : LaunchError :=
  .responseFile (Utf8.lossy directory) s!"{reason} at path {Shown.quote path}"

/-- Makes a response file with the given text in a directory. -/
def create (tree : FileTree) (directory suffix : Bytes) (text : String) :
    Except LaunchError (FileTree × Bytes) :=
  let path := pathIn tree directory suffix
  if path.contains 0 then
    .error (failure directory path "file name contained an unexpected NUL byte")
  else
    match tree.writeFile path (Utf8.encode text) 0o600 with
    | .ok made => .ok (made, path)
    | .error cause =>
      .error (failure directory path s!"{cause.text} (os error {cause.number})")

/-- The number of response files in the directory that a path leads to. -/
def countIn (tree : FileTree) (directory : Bytes) : Nat :=
  match tree.lookup directory with
  | .ok (place, .directory _) =>
    tree.entries.countP fun (listed, _) =>
      listed.dropLast == place && nameStart.isPrefixOf (listed.getLastD [])
  | _ => 0

end ResponseFile

end CompilerLauncher
