import CompilerLauncher.Descriptors
import CompilerLauncher.FileTree.Edit

/-!
Open files, which descriptors refer to and processes share.

An open file is a place in the tree of files with a position in it, text that comes from elsewhere,
text that is collected for a reader, or the device that holds nothing. Two openings of one place
have a position each; two descriptors of one opening share it.
-/

namespace CompilerLauncher

/-- An open file. -/
inductive OpenFile
  | sink
  | place (place : Place) (position : Nat) (appends : Bool)
  | collected (written : Bytes)
  | source (unread : Bytes)
  deriving DecidableEq, Repr

/-- The tree of files and the files that are open, by number. -/
structure Storage where
  tree : FileTree
  files : List OpenFile := []

namespace Storage

/-- Opens one more file; the answer is its number. -/
def add (storage : Storage) (file : OpenFile) : Storage × Nat :=
  ({ storage with files := storage.files ++ [file] }, storage.files.length)

/-- The content of a file with bytes written at a position. What lies between the end of the content
and the position is filled with zeros. -/
def splice (content : Bytes) (position : Nat) (written : Bytes) : Bytes :=
  content.take position ++ List.replicate (position - content.length) 0 ++ written
    ++ content.drop (position + written.length)

/-- Writes to the file at a place, and answers with the position behind what was written. -/
def writeAt (tree : FileTree) (place : Place) (position : Nat) (appends : Bool)
    (written : Bytes) : FileTree × Nat :=
  match tree.get? place with
  | some (.file content mode) =>
    let start := if appends then content.length else position
    (tree.put place (.file (splice content start written) mode), start + written.length)
  | _ => (tree, position)

/-- Writes to an open file; the answer is whether it could be written to. -/
def write (storage : Storage) (number : Nat) (written : Bytes) : Storage × Bool :=
  match storage.files[number]? with
  | none | some (.source _) => (storage, false)
  | some .sink => (storage, true)
  | some (.collected earlier) =>
    ({ storage with files := storage.files.set number (.collected (earlier ++ written)) }, true)
  | some (.place place position appends) =>
    let (tree, behind) := writeAt storage.tree place position appends written
    ({ tree, files := storage.files.set number (.place place behind appends) }, true)

/-- What is left to read of an open file. -/
def unread (storage : Storage) (number : Nat) : Bytes :=
  match storage.files[number]? with
  | some (.source rest) => rest
  | some (.place place position _) => (storage.tree.dataAt place).drop position
  | _ => []

/-- Moves the position of an open file behind a number of bytes. -/
def advance (storage : Storage) (number count : Nat) : Storage :=
  match storage.files[number]? with
  | some (.source rest) =>
    { storage with files := storage.files.set number (.source (rest.drop count)) }
  | some (.place place position appends) =>
    { storage with files := storage.files.set number (.place place (position + count) appends) }
  | _ => storage

/-- The text collected by an open file, or the content of the place that it is. -/
def content (storage : Storage) (number : Nat) : Bytes :=
  match storage.files[number]? with
  | some (.collected written) => written
  | some (.place place _ _) => storage.tree.dataAt place
  | _ => []

end Storage

end CompilerLauncher
