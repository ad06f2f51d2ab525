import CompilerLauncher.FileTree.Resolve
import CompilerLauncher.Settings.Basic

/-!
Finding a program on a search list without finding the launcher itself.

The launcher may be installed under a compiler's name, so a search by name alone would find it
again. A candidate is therefore judged by its canonical form, which no chain of links can disguise:
it must differ from the excluded program's, and its file name must not start with the launcher's
name.
-/

namespace CompilerLauncher

namespace Search

/-- The byte that separates the entries of a search list. -/
def separator : UInt8 := 58

/-- The directories of a search list; empty entries name none. -/
def directories (list : Bytes) : List Bytes :=
  (Path.fields separator list).filter (· != [])

/-- Where a name is looked for, in order. -/
def candidates (list name : Bytes) : List Bytes :=
  (directories list).map fun directory => Path.join directory name

/-- Whether the file name of a path starts with the launcher's name. -/
def isOwn (toolName : String) (path : Bytes) : Bool :=
  (Path.fileName? path).any fun name => toolName.toList.isPrefixOf (Utf8.lossy name).toList

/-- Whether a candidate may be taken: it can be executed, it leads somewhere, and that is neither
where `exclude` leads nor one of the launcher's own programs. -/
def accepts (tree : FileTree) (exclude : Option Bytes) (toolName : String) (candidate : Bytes) :
    Bool :=
  tree.isExecutable candidate &&
    match tree.canonical? candidate with
    | none => false
    | some real => (exclude.bind tree.canonical?) != some real && !isOwn toolName real

/-- The first candidate on a search list that may be taken. -/
def onList (tree : FileTree) (name list : Bytes) (exclude : Option Bytes) (toolName : String) :
    Option Bytes :=
  (candidates list name).find? (accepts tree exclude toolName)

/-- The program that a name stands for under the given settings; an absolute name stands for itself,
whatever is there. -/
def program? (tree : FileTree) (settings : Settings) (environment : Environment) (name : Bytes)
    (exclude : Option Bytes) : Option Bytes :=
  if Path.isAbsolute name then some name
  else
    (settings.searchList? environment).bind fun list =>
      onList tree name (Utf8.encode list) exclude settings.toolName

end Search

end CompilerLauncher
