import CompilerLauncher.Path
import CompilerLauncher.Errno

/-!
A tree of files.

A place is the list of names that leads from the root to an entry through directories only; the root
is the empty list and is always a directory. A tree lists what stands at each place, and remembers
the working directory, where relative paths start. An earlier entry of the list hides a later one of
the same place, so putting an entry in front of the list replaces what was there.
-/

namespace CompilerLauncher

/-- A list of names from the root down, none of them a link. -/
abbrev Place := List Bytes

/-- What stands at a place: a file with its content and mode, a directory with its mode, a symbolic
link with the path it holds, or the device that swallows what is written to it. -/
inductive Entry
  | file (data : Bytes) (mode : Nat)
  | directory (mode : Nat)
  | link (target : Bytes)
  | sink
  deriving DecidableEq, Repr

/-- The entries of a file system, and the working directory. -/
structure FileTree where
  entries : List (Place × Entry) := []
  working : Place := []

namespace FileTree

/-- What stands at a place. -/
def get? (tree : FileTree) (place : Place) : Option Entry :=
  if place = [] then some (.directory 0o755)
  else tree.entries.lookup place

/-- The tree with an entry put at a place. -/
def put (tree : FileTree) (place : Place) (entry : Entry) : FileTree :=
  { tree with
    entries := (place, entry) :: tree.entries.filter fun listed => listed.1 != place }

/-- The tree without a place and all that lies below it. -/
def erase (tree : FileTree) (place : Place) : FileTree :=
  { tree with entries := tree.entries.filter fun listed => !place.isPrefixOf listed.1 }

/-- The content of the file at a place, and nothing where no file stands. -/
def dataAt (tree : FileTree) (place : Place) : Bytes :=
  match tree.get? place with
  | some (.file data _) => data
  | _ => []

/-- The path of a place from the root. -/
def pathOf (place : Place) : Bytes :=
  if place = [] then [Path.slash] else place.flatMap (Path.slash :: ·)

@[simp] theorem get?_root (tree : FileTree) :
    tree.get? [] = some (.directory 0o755) := by
  simp [get?]

/-- What was put at a place is found there. -/
theorem get?_put_self {tree : FileTree} {place : Place} {entry : Entry} (h : place ≠ []) :
    (tree.put place entry).get? place = some entry := by
  simp [get?, put, h]

end FileTree

end CompilerLauncher
