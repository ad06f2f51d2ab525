import CompilerLauncher.Script.Builtin
import CompilerLauncher.Search

/-!
What names stand for as commands: reserved words, aliases, functions, the shell's own commands and
programs, in this order.

A program is looked for in the directories of the search list, and where it was found is kept in
mind until the list changes.
-/

namespace CompilerLauncher

namespace Script

namespace Lookup

open Session

/-! ## Programs -/

/-- Whether a path leads to a file that may be executed. -/
def isProgram (tree : FileTree) (path : Bytes) : Bool :=
  (Condition.unary? tree "-f" path).getD false && tree.isExecutable path

/-- Where the search list allows a program to be. -/
def candidates (path name : Bytes) : List Bytes :=
  (Path.fields Search.separator path).map fun directory =>
    if directory = [] then name else directory ++ Path.slash :: name

/-- Where the program of a name is, or the error that the search ends with. Something that stands
there and cannot be executed is an error, too, unless another place follows where it can. -/
def search (tree : FileTree) (path name : Bytes) : Except Errno Bytes :=
  let candidates := candidates path name
  let later (cause : Errno) (candidate : Bytes) : Errno :=
    match tree.lookup candidate with
    | .ok _ => .accessDenied
    | .error .noEntry | .error .notDirectory => cause
    | .error other => other
  match candidates.find? (isProgram tree) with
  | some found => .ok found
  | none => .error (candidates.foldl later .noEntry)

/-- What a file makes of the process. A file that is not a program is taken for a script. -/
def imageOf (tree : FileTree) (path : Bytes) (arguments : List Bytes) : Except Errno Image :=
  match Image.load tree path arguments with
  | .error .notExecutable =>
    let shell := Utf8.encode "/bin/sh"
    Image.load tree shell (shell :: path :: arguments.tail)
  | result => result

/-- Why a program cannot be started, in a shell's words. -/
def reason : Errno → String
  | .noEntry | .notDirectory => "not found"
  | cause => cause.text

/-- The status of a shell that cannot become a program. -/
def refusal : Errno → Nat
  | .noEntry | .notDirectory | .nameTooLong | .tooManyLinks => 127
  | _ => 126

/-- Whether a file is the program that lets time pass. -/
def isPause (tree : FileTree) (path : Bytes) : Bool :=
  match Image.load tree path [path] with
  | .ok image => image.program == Utf8.encode "sleep"
  | .error _ => false

/-- Keeps in mind where a program was found. -/
def track (name place : Bytes) : Act Unit :=
  onShell fun shell => { shell with tracked := rebind name (some place) shell.tracked }

/-- Where the program of a name is; a name with a slash is a path. What is found by the usual way of
searching is kept in mind. -/
def locate (path? : Option Bytes) (name : Bytes) : Act (Except Errno Bytes) := do
  let session ← get
  let tree := session.storage.tree
  let shell := session.shell
  if name.contains Path.slash then return .ok name
  else
    match path? with
    | some path => return search tree path name
    | none =>
      match (shell.tracked.lookup name).filter (isProgram tree) with
      | some known => return .ok known
      | none =>
        let found := search tree (searchList shell) name
        match found with
        | .ok place => track name place
        | .error _ => pure ()
        return found

/-! ## Names -/

/-- The shell's own commands that are not special. -/
def ordinaryCommands : List String :=
  ["[", "alias", "bg", "cd", "chdir", "command", "echo", "false", "fg", "getopts", "hash", "jobs",
    "kill", "printf", "pwd", "read", "test", "true", "type", "ulimit", "umask", "unalias", "wait"]

/-- Whether a command is special: its assignments stay and its failure ends the shell. -/
def isSpecial (name : Bytes) : Bool :=
  specialCommands.contains (Utf8.lossy name)

/-- Whether a command is the shell's own. -/
def isOwn (name : Bytes) : Bool :=
  isSpecial name || ordinaryCommands.contains (Utf8.lossy name)

/-- What a name stands for. -/
inductive Meaning
  | reserved
  | alias (text : Bytes)
  | function
  | own (special : Bool)
  | program (path : Bytes) (tracked : Bool)
  deriving DecidableEq, Repr

/-- What a name stands for, programs searched for in the given list or in the shell's. -/
def meaning? (session : Session) (path? : Option Bytes) (name : Bytes) : Option Meaning :=
  let shell := session.shell
  let tree := session.storage.tree
  if reservedWords.contains (Utf8.lossy name) then some .reserved
  else
    match shell.aliases.lookup name with
    | some text => some (.alias text)
    | none =>
      if (shell.functions.lookup name).isSome then some .function
      else if isOwn name then some (.own (isSpecial name))
      else if name.contains Path.slash then
        if (tree.lookup name).isOk then some (.program name false) else none
      else
        match if path?.isNone then shell.tracked.lookup name else none with
        | some known => some (.program known true)
        | none =>
          match search tree (path?.getD (searchList shell)) name with
          | .ok found => some (.program found false)
          | .error _ => none

/-- The line that tells what runs under a name. -/
def Meaning.shown (name : Bytes) : Meaning → Bytes
  | .alias text => Utf8.encode "alias " ++ Builtin.aliasLine name text
  | .program path _ => path ++ [newline]
  | _ => name ++ [newline]

/-- The line that tells in words what a name stands for. -/
def Meaning.explained (name : Bytes) (meaning : Meaning) : Bytes :=
  let phrase : Bytes :=
    match meaning with
    | .reserved => Utf8.encode "a shell keyword"
    | .alias text => Utf8.encode "an alias for " ++ text
    | .function => Utf8.encode "a shell function"
    | .own true => Utf8.encode "a special shell builtin"
    | .own false => Utf8.encode "a shell builtin"
    | .program path true => Utf8.encode "a tracked alias for " ++ path
    | .program path false => path
  name ++ Utf8.encode " is " ++ phrase ++ [newline]

/-- Tells what a name stands for, in words or by what can be run. -/
def describe (path? : Option Bytes) (inWords : Bool) (name : Bytes) : Act Nat := do
  let meaning := meaning? (← get) path? name
  match path?, meaning with
  | none, some (.program place false) => if !name.contains Path.slash then track name place
  | _, _ => pure ()
  match meaning, inWords with
  | some meaning, true => Builtin.output "type" (meaning.explained name) 0
  | some meaning, false => Builtin.output "command" (meaning.shown name) 0
  | none, true => Builtin.output "type" (name ++ Utf8.encode ": not found\n") 127
  | none, false => return 127

/-- Tells in words what names stand for. -/
def explain : List Bytes → Act Nat
  | [] => return 0
  | name :: rest => do
    let here ← describe none true name
    let later ← explain rest
    return max here later

/-- Tells what a name stands for, by options; without them nothing is to be done. -/
def verify (arguments : List Bytes) : Act Nat := do
  let (given, names) ← Builtin.options "pvV" arguments
  let path? := if Builtin.isGiven given 'p' then some usualPath else none
  match names with
  | [] => return 0
  | name :: _ =>
    if Builtin.isGiven given 'V' then describe path? true name
    else if Builtin.isGiven given 'v' then describe path? false name
    else return 0

/-- Searches for the program of a name before it is needed, if that is what the name stands for. -/
def prepare (name : Bytes) : Act Unit := do
  let isFunction := ((← get).shell.functions.lookup name).isSome
  if isName name && !isFunction && !isOwn name then discard (locate none name)

/-- Searches for programs once more. -/
def searchAgain : List Bytes → Act Nat
  | [] => return 0
  | name :: rest => do
    onShell fun shell => { shell with tracked := rebind name none shell.tracked }
    let shell := (← get).shell
    let isKnown := isOwn name || (shell.functions.lookup name).isSome
    let found ← if isKnown then pure (.ok name) else locate none name
    match found with
    | .ok _ => searchAgain rest
    | .error cause =>
      complain s!"{Utf8.lossy name}: {reason cause}"
      discard (searchAgain rest)
      return 1

/-- Shows the programs that have been found, forgets them or searches for them once more. -/
def hash (arguments : List Bytes) : Act Nat := do
  let (given, names) ← Builtin.options "r" arguments
  if given ≠ [] then
    onShell fun shell => { shell with tracked := [] }
    return 0
  else if names = [] then
    let known := shelved programShelves (← get).shell.tracked
    Builtin.output "hash" (known.flatMap fun (_, path) => path ++ [newline]) 0
  else searchAgain names

end Lookup

end Script

end CompilerLauncher
