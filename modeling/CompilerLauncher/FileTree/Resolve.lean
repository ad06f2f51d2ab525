import CompilerLauncher.FileTree.Basic

/-!
Following a path through a tree.

`FileTree.resolve` takes a path name by name. A link is replaced by the names of the path it holds,
and at most `linkLimit` links are followed on one walk, so loops end; everything else is recursion
on the names that remain. Where the last name is missing the walk ends at a vacant spot, where an
entry could be made.
-/

namespace CompilerLauncher

/-- Where a walk ends: at an entry, or at a place in a directory where nothing stands. -/
inductive Spot
  | found (place : Place) (entry : Entry)
  | vacant (place : Place)
  deriving DecidableEq, Repr

namespace FileTree

/-- The number of links that one walk may follow. -/
def linkLimit : Nat := 40

/-- The greatest length of a name. -/
def nameLimit : Nat := 255

/-- The length from which on a path is refused by the requests that take one. -/
def pathLimit : Nat := 4096

/-- The names of a path as a walk takes them. A slash at the end asks for a directory, as one more
step to the directory itself does. -/
def steps (path : Bytes) : List Bytes :=
  let names := (Path.fields Path.slash path).filter (· != [])
  if path.getLast? = some Path.slash then names ++ [Path.here] else names

/-- Where a path starts: at the root, or at the directory it is relative to. -/
def startFrom (directory : Place) (path : Bytes) : Place :=
  if Path.isAbsolute path then [] else directory

/-- Takes the remaining names from a place on; `jump` goes on where a link leads. -/
def walkWith (tree : FileTree) (jump : Place → List Bytes → Except Errno Spot) :
    Place → List Bytes → Except Errno Spot
  | place, [] =>
    match tree.get? place with
    | some entry => .ok (.found place entry)
    | none => .error .noEntry
  | place, name :: rest =>
    match tree.get? place with
    | some (.directory _) =>
      if name = Path.here then walkWith tree jump place rest
      else if name = Path.above then walkWith tree jump place.dropLast rest
      else if nameLimit < name.length then .error .nameTooLong
      else
        match tree.get? (place ++ [name]) with
        | some (.link target) => jump (startFrom place target) (steps target ++ rest)
        | some _ => walkWith tree jump (place ++ [name]) rest
        | none => if rest = [] then .ok (.vacant (place ++ [name])) else .error .noEntry
    | some _ => .error .notDirectory
    | none => .error .noEntry

/-- Takes the remaining names from a place on, following no more than the given number of links. -/
def walk (tree : FileTree) : Nat → Place → List Bytes → Except Errno Spot
  | 0 => walkWith tree fun _ _ => .error .tooManyLinks
  | links + 1 => walkWith tree (walk tree links)

/-- Where a path leads, with links followed to the end. -/
def resolve (tree : FileTree) (path : Bytes) : Except Errno Spot :=
  if path = [] then .error .noEntry
  else if path.contains 0 then .error .invalid
  else tree.walk linkLimit (startFrom tree.working path) (steps path)

/-- What a path leads to, for a request that takes paths of limited length. -/
def lookup (tree : FileTree) (path : Bytes) : Except Errno (Place × Entry) :=
  if pathLimit ≤ path.length then .error .nameTooLong
  else
    match tree.resolve path with
    | .ok (.found place entry) => .ok (place, entry)
    | .ok (.vacant _) => .error .noEntry
    | .error cause => .error cause

/-- The canonical form of a path: where it leads, written from the root, without links. -/
def canonical? (tree : FileTree) (path : Bytes) : Option Bytes :=
  match tree.resolve path with
  | .ok (.found place _) => some (pathOf place)
  | _ => none

/-- Whether the superuser may execute the entry, which is who asks in this development: a file needs
the permission of one of its three classes, whichever it is, and a directory may always be passed
through. Any other user needs the permission of the class that the user is in. -/
def Entry.mayExecute : Entry → Bool
  | .file _ mode => mode &&& 0o111 != 0
  | .directory _ => true
  | .link _ | .sink => false

/-- Whether the path leads to something that the superuser may execute. -/
def isExecutable (tree : FileTree) (path : Bytes) : Bool :=
  match tree.lookup path with
  | .ok (_, entry) => Entry.mayExecute entry
  | .error _ => false

/-- The content of the file that a path leads to. -/
def read (tree : FileTree) (path : Bytes) : Except Errno Bytes :=
  match tree.lookup path with
  | .ok (_, .file data _) => .ok data
  | .ok (_, .sink) => .ok []
  | .ok (_, _) => .error .isDirectory
  | .error cause => .error cause

end FileTree

end CompilerLauncher
