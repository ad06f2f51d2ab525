import CompilerLauncher.FileTree.Resolve

/-!
Changes to a tree: making directories, files and links, changing modes, removing and renaming.

Changes that concern a file's content or mode follow links; changes that concern the entry itself do
not follow the last name of its path.
-/

namespace CompilerLauncher

namespace FileTree

/-- The place that the last name of a path denotes, the last name itself not being followed. -/
def placeOf (tree : FileTree) (path : Bytes) : Except Errno Place :=
  match (Path.names path).getLast? with
  | none => .ok (startFrom tree.working path)
  | some name =>
    match tree.walk linkLimit (startFrom tree.working path) (Path.names path).dropLast with
    | .ok (.found place (.directory _)) => .ok (place ++ [name])
    | .ok (.found _ _) => .error .notDirectory
    | .ok (.vacant _) => .error .noEntry
    | .error cause => .error cause

/-- Whether something stands at a path, a link in the place of the last name included. -/
def stands (tree : FileTree) (path : Bytes) : Bool :=
  if (Path.names path).getLast? = some Path.above then (tree.lookup path).isOk
  else
    match tree.placeOf path with
    | .ok place => (tree.get? place).isSome
    | .error _ => false

/-- Makes every directory on the way along the given names that is not there yet. -/
def makeAlong (tree : FileTree) (start : Place) : List Bytes → List Bytes → FileTree
  | _, [] => tree
  | done, name :: rest =>
    let done := done ++ [name]
    match tree.walk linkLimit start done with
    | .ok (.vacant place) => makeAlong (tree.put place (.directory 0o755)) start done rest
    | _ => makeAlong tree start done rest

/-- Makes the directory that a path names and all that lead to it. -/
def makeDirectories (tree : FileTree) (path : Bytes) : FileTree :=
  tree.makeAlong (startFrom tree.working path) [] (Path.names path)

/-- Makes the directories that lead to the last name of a path. -/
def makeParents (tree : FileTree) (path : Bytes) : FileTree :=
  tree.makeAlong (startFrom tree.working path) [] (Path.names path).dropLast

/-- Gives what a path leads to another mode. -/
def chmod (tree : FileTree) (path : Bytes) (mode : Nat) : Except Errno FileTree :=
  match tree.lookup path with
  | .ok (place, .file data _) => .ok (tree.put place (.file data mode))
  | .ok (place, .directory _) => .ok (tree.put place (.directory mode))
  | .ok _ => .ok tree
  | .error cause => .error cause

/-- Opens the file that a path leads to for writing, empty; a file that is not there is made with
the given mode. The answer is the file's place, or none for the device that swallows what is
written. -/
def create (tree : FileTree) (path : Bytes) (mode : Nat) : Except Errno (FileTree × Option Place) :=
  if pathLimit ≤ path.length then .error .nameTooLong
  else
    match tree.resolve path with
    | .ok (.found place (.file _ kept)) => .ok (tree.put place (.file [] kept), some place)
    | .ok (.found _ .sink) => .ok (tree, none)
    | .ok (.found _ _) => .error .isDirectory
    | .ok (.vacant place) => .ok (tree.put place (.file [] mode), some place)
    | .error cause => .error cause

/-- Writes a file, which gets the given content and mode. -/
def writeFile (tree : FileTree) (path data : Bytes) (mode : Nat) : Except Errno FileTree :=
  match tree.create path mode with
  | .ok (made, some place) => .ok (made.put place (.file data mode))
  | .ok (made, none) => .ok made
  | .error cause => .error cause

/-- Puts a symbolic link in the place of a file or link of that name. -/
def makeLink (tree : FileTree) (path target : Bytes) : Except Errno FileTree :=
  (tree.placeOf path).map fun place => (tree.erase place).put place (.link target)

/-- Removes an entry and all that lies below it. -/
def remove (tree : FileTree) (path : Bytes) : Except Errno FileTree :=
  (tree.placeOf path).bind fun place =>
    if (tree.get? place).isSome then .ok (tree.erase place) else .error .noEntry

/-- The place that takes the role of `place` when what stands at `old` comes to stand at `new`. -/
def moved (old new place : Place) : Place :=
  if old.isPrefixOf place then new ++ place.drop old.length else place

/-- Gives an entry another name, with all that lies below it; what had the new name is gone. -/
def rename (tree : FileTree) (oldPath newPath : Bytes) : Except Errno FileTree :=
  (tree.placeOf oldPath).bind fun old =>
    (tree.placeOf newPath).bind fun new =>
      if (tree.get? old).isNone then .error .noEntry
      else if old = new then .ok tree
      else
        let cleared := tree.erase new
        .ok { cleared with entries := cleared.entries.map fun (place, entry) =>
          (moved old new place, entry) }

end FileTree

end CompilerLauncher
