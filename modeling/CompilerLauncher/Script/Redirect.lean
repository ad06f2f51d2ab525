import CompilerLauncher.Script.Expand

/-!
Redirections: what a command's descriptors refer to while it runs.

First the words of all redirections are replaced, then each of them is carried out. The text of a
document is replaced only when its turn comes.
-/

namespace CompilerLauncher

namespace Script

namespace Redirection

/-- What a descriptor is to refer to: what a path leads to, another descriptor or none, or a text
that may still have to be replaced. -/
inductive Target
  | path (direction : Direction) (path : Bytes)
  | descriptor (other : Option Nat)
  | document (text : Word)

/-- Why a file could not be opened, in a shell's words. -/
def reason (creates : Bool) : Errno → String
  | .noEntry | .notDirectory => if creates then "Directory nonexistent" else "No such file"
  | cause => cause.text

/-- Opens the file that a path leads to for reading, or for reading and writing. -/
def openFile (tree : FileTree) (path : Bytes) : Except Errno OpenFile :=
  (tree.lookup path).map fun (there, entry) =>
    match entry with
    | .sink => .sink
    | _ => .place there 0 false

/-- Opens the file that a path leads to for writing, empty or at its end. A file that is made lacks
the permissions that are withheld. -/
def openForWriting (tree : FileTree) (withheld : Nat) (path : Bytes) (appends : Bool) :
    Except Errno (FileTree × OpenFile) := do
  let kept := tree.read path
  let (made, found) ← tree.create path (0o666 - (0o666 &&& withheld))
  match found with
  | none => return (made, .sink)
  | some there =>
    match appends, kept with
    | true, .ok data =>
      return (made.put there (.file data (modeAt tree there)), .place there 0 true)
    | _, _ => return (made, .place there 0 appends)
where
  /-- The mode of the file at a place. -/
  modeAt (tree : FileTree) (there : Place) : Nat :=
    match tree.get? there with
    | some (.file _ mode) => mode
    | _ => 0o644

/-- Whether a path leads to a file, which a careful shell does not overwrite. -/
def isFile (tree : FileTree) (path : Bytes) : Bool :=
  match tree.lookup path with
  | .ok (_, .file ..) => true
  | _ => false

/-- Puts an open file on a descriptor. -/
def put (descriptor : Nat) (tree : FileTree) (file : OpenFile) : Act Unit :=
  modify fun session =>
    let (storage, number) := ({ session.storage with tree }).add file
    { session with
      storage
      shell :=
        { session.shell with
          descriptors := session.shell.descriptors.set descriptor ⟨number, false⟩ } }

/-- Puts the file that was opened for a path on a descriptor, or says why it could not be opened. -/
def settle (descriptor : Nat) (creates : Bool) (path : Bytes)
    (opened : Except Errno (FileTree × OpenFile)) : Act Bool := do
  match opened with
  | .ok (tree, file) =>
    put descriptor tree file
    return true
  | .error cause =>
    let verb := if creates then "create" else "open"
    Session.complain s!"cannot {verb} {Utf8.lossy path}: {reason creates cause}"
    return false

/-- The descriptor and the target of a redirection, its word replaced. -/
def resolve (substitute : Command → Act Bytes) : Redirection → Act (Nat × Target)
  | .document descriptor text => return (descriptor, .document text)
  | .place descriptor direction target => do
    let text ← Expand.text substitute target
    if direction ≠ .duplicate then return (descriptor, .path direction text)
    else if text = Utf8.encode "-" then return (descriptor, .descriptor none)
    else
      match text with
      | [digit] =>
        if isDigit digit then return (descriptor, .descriptor (some (decimal [digit])))
        else badNumber
      | _ => badNumber
where
  /-- Ends the shell, in the line up to which its script has been read. -/
  badNumber : Act (Nat × Target) := do
    Session.onShell fun shell => { shell with line := shell.readTo }
    Session.fail 2 "Syntax error: Bad fd number"

/-- Carries out a redirection; the answer is whether it could be. -/
def apply (substitute : Command → Act Bytes) (descriptor : Nat) : Target → Act Bool
  | .path direction path => do
    let session ← get
    let tree := session.storage.tree
    let withheld := session.shell.withheld
    match direction with
    | .input => settle descriptor false path ((openFile tree path).map fun file => (tree, file))
    | .append => settle descriptor true path (openForWriting tree withheld path true)
    | .output =>
      if session.shell.isOn "noclobber" && isFile tree path then
        settle descriptor true path (.error .exists)
      else settle descriptor true path (openForWriting tree withheld path false)
    | .both =>
      match openFile tree path with
      | .ok file => settle descriptor true path (.ok (tree, file))
      | .error _ => settle descriptor true path (openForWriting tree withheld path false)
    | _ => settle descriptor true path (openForWriting tree withheld path false)
  | .descriptor none => do
    Session.onShell fun shell =>
      { shell with descriptors := shell.descriptors.close descriptor }
    return true
  | .descriptor (some other) => do
    let descriptors := (← get).shell.descriptors
    if other = descriptor then return true
    else
      match descriptors.lookup other with
      | some _ =>
        Session.onShell fun shell =>
          { shell with descriptors := descriptors.duplicate other descriptor }
        return true
      | none =>
        Session.complain s!"{other}: Bad file descriptor"
        return false
  | .document text => do
    let bytes ← Expand.document substitute text
    put descriptor (← get).storage.tree (.source bytes)
    return true

/-- Carries out redirections in order, up to the first that cannot be. A fault in a document counts
as a redirection that cannot be carried out; a fault in another word ends the shell. -/
def applyAll (substitute : Command → Act Bytes) (redirections : List Redirection) : Act Bool := do
  let resolved ← redirections.mapM (resolve substitute)
  tryCatch (go resolved) fun
    | .failed _ => return false
    | flow => throw flow
where
  /-- Carries out what redirections have come to. -/
  go : List (Nat × Target) → Act Bool
    | [] => return true
    | (descriptor, target) :: rest => do
      if ← apply substitute descriptor target then go rest else return false

end Redirection

end Script

end CompilerLauncher
