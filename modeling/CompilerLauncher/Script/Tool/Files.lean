import CompilerLauncher.Script.Tool.Basic

/-!
The system's programs that make, show, move and remove files.
-/

namespace CompilerLauncher

namespace Script

namespace Tool

open Session
open Builtin (shown)

/-- Whether a path leads to a directory. -/
def isDirectory (tree : FileTree) (path : Bytes) : Bool :=
  (Condition.unary? tree "-d" path).getD false

/-- The last name of a path, slashes at the end left out. -/
def lastName (path : Bytes) : Bytes :=
  let whole := (path.reverse.dropWhile (· == Path.slash)).reverse
  if whole = [] then (if path = [] then [] else [Path.slash])
  else (whole.reverse.takeWhile (· != Path.slash)).reverse

/-- What a path has before its last name. -/
def before (path : Bytes) : Bytes :=
  let whole := (path.reverse.dropWhile (· == Path.slash)).reverse
  let parent := whole.reverse.dropWhile (· != Path.slash)
  let parent := (parent.dropWhile (· == Path.slash)).reverse
  if parent = [] then
    if path.head? = some Path.slash then [Path.slash] else Path.here
  else parent

/-- Prints the last names of paths, without an ending if one is given. -/
def basename (arguments : List Bytes) : Act Nat := do
  let options : Options := { letters := "as:z", endsEarly := true }
  let (given, operands) ← options.read arguments
  let ending := (valueOf? given 's').getD (if given = [] then (operands[1]?).getD [] else [])
  let cut (name : Bytes) : Bytes :=
    if ending.isSuffixOf name && ending != name then name.take (name.length - ending.length)
    else name
  match operands with
  | [] => misuse 1 "missing operand"
  | first :: others =>
    match given, others with
    | [], _ :: extra :: _ => misuse 1 s!"extra operand '{shown extra}'"
    | [], _ => printLines [cut (lastName first)]
    | _, _ => printLines (operands.map fun operand => cut (lastName operand))
    return 0

/-- Prints what paths have before their last names. -/
def dirname (arguments : List Bytes) : Act Nat := do
  let (_, operands) ← ({ letters := "z" } : Options).read arguments
  if operands = [] then misuse 1 "missing operand"
  else
    printLines (operands.map before)
    return 0

/-- Makes empty files where there are none. -/
def touch (arguments : List Bytes) : Act Nat := do
  let (given, operands) ← ({ letters := "acmhd:t:r:" } : Options).read arguments
  if operands = [] then misuse 1 "missing file operand"
  else
    forAll operands fun operand => do
      let session ← get
      let tree := session.storage.tree
      match tree.lookup operand with
      | .ok _ => return true
      | .error _ =>
        if isGiven given 'c' then return true
        else
          let mode := 0o666 - (0o666 &&& session.shell.withheld)
          change s!"cannot touch '{shown operand}'" (tree.writeFile operand [] mode)

/-- Removes files, and directories if that is asked for. -/
def rm (arguments : List Bytes) : Act Nat := do
  let options : Options :=
    { letters := "rRfidv", names := [("recursive", 'r'), ("force", 'f'), ("dir", 'd')] }
  let (given, operands) ← options.read arguments
  let has (letter : Char) : Bool := isGiven given letter
  if operands = [] && !has 'f' then misuse 1 "missing operand"
  else
    forAll operands fun operand => do
      let tree := (← get).storage.tree
      let what := s!"cannot remove '{shown operand}'"
      let isDirectory := isDirectory tree operand && !Condition.isLink tree operand
      if isDirectory && !(has 'r' || has 'R') then change what (.error .isDirectory)
      else
        match tree.remove operand with
        | .error .noEntry => if has 'f' then return true else change what (.error .noEntry)
        | removed => change what removed

/-- The names in a directory, in order. -/
def namesIn (tree : FileTree) (place : Place) : List Bytes :=
  let names := tree.entries.filterMap fun (entry, _) =>
    if entry.length = place.length + 1 && place.isPrefixOf entry then entry.getLast? else none
  names.eraseDups.mergeSort fun left right => left ≤ right

/-- Removes empty directories. -/
def rmdir (arguments : List Bytes) : Act Nat := do
  let (_, operands) ← ({ letters := "pv" } : Options).read arguments
  if operands = [] then misuse 1 "missing operand"
  else
    forAll operands fun operand => do
      let tree := (← get).storage.tree
      let what := s!"failed to remove '{shown operand}'"
      match tree.lookup operand with
      | .ok (place, .directory _) =>
        if namesIn tree place = [] then change what (tree.remove operand)
        else
          complain s!"{what}: Directory not empty"
          return false
      | .ok _ => change what (.error .notDirectory)
      | .error cause => change what (.error cause)

/-- Makes directories, and those that lead to them if that is asked for. -/
def mkdir (arguments : List Bytes) : Act Nat := do
  let options : Options := { letters := "pm:v", names := [("parents", 'p'), ("mode", 'm')] }
  let (given, operands) ← options.read arguments
  if operands = [] then misuse 1 "missing operand"
  else
    forAll operands fun operand => do
      let tree := (← get).storage.tree
      let made : Except Errno FileTree :=
        if isGiven given 'p' then
          let made := tree.makeDirectories operand
          if isDirectory made operand then .ok made
          else
            match made.lookup operand with
            | .ok _ => .error .exists
            | .error cause => .error cause
        else
          (tree.placeOf operand).bind fun place =>
            if (tree.get? place).isSome then .error .exists
            else .ok (tree.put place (.directory 0o755))
      change s!"cannot create directory '{shown operand}'" made

/-! ## Files from others -/

/-- Where something of the given name goes that is put at a path: into it, if it leads to a
directory. -/
def targetFor (tree : FileTree) (target name : Bytes) : Bytes :=
  if isDirectory tree target then
    let start := if target.getLast? = some Path.slash then target else target ++ [Path.slash]
    start ++ lastName name
  else target

/-- Does something with each file and the path that it goes to. Several files need a directory. -/
def towards (operands : List Bytes) (act : Bytes → Bytes → Act Bool) : Act Nat := do
  match operands.reverse with
  | [] => misuse 1 "missing file operand"
  | [only] => misuse 1 s!"missing destination file operand after '{shown only}'"
  | target :: backward =>
    let tree := (← get).storage.tree
    if 1 < backward.length && !isDirectory tree target then
      match tree.lookup target with
      | .ok _ => stop 1 s!"target '{shown target}': Not a directory"
      | .error cause => stop 1 s!"target '{shown target}': {cause.text}"
    else
      forAll backward.reverse fun operand => do
        let tree := (← get).storage.tree
        act operand (targetFor tree target operand)

/-- Gives files other names, or puts them into a directory. -/
def mv (arguments : List Bytes) : Act Nat := do
  let (_, operands) ← ({ letters := "finv" } : Options).read arguments
  towards operands fun old new => do
    let tree := (← get).storage.tree
    if !tree.stands old then change s!"cannot stat '{shown old}'" (.error .noEntry)
    else
      change s!"cannot move '{shown old}' to '{shown new}'" (tree.rename old new)

/-- Copies files. -/
def cp (arguments : List Bytes) : Act Nat := do
  let (_, operands) ← ({ letters := "fipv" } : Options).read arguments
  towards operands fun old new => do
    let session ← get
    let tree := session.storage.tree
    match tree.lookup old with
    | .error cause => change s!"cannot stat '{shown old}'" (.error cause)
    | .ok (_, .directory _) =>
      complain s!"-r not specified; omitting directory '{shown old}'"
      return false
    | .ok (place, entry) =>
      let mode := match entry with
        | .file _ mode => mode
        | _ => 0o666
      if Condition.isSame tree old new then
        complain s!"'{shown old}' and '{shown new}' are the same file"
        return false
      else
        let made := (tree.create new (mode - (mode &&& session.shell.withheld))).map
          fun (made, there) =>
            match there.bind fun there => (made.get? there).map fun entry => (there, entry) with
            | some (there, .file _ mode) => made.put there (.file (tree.dataAt place) mode)
            | _ => made
        change s!"cannot create regular file '{shown new}'" made

/-- Gives a file one more name, or makes a link that holds a path. -/
def ln (arguments : List Bytes) : Act Nat := do
  let (given, operands) ← ({ letters := "sfnv" } : Options).read arguments
  let operands := match operands with
    | [only] => [only, Path.here]
    | operands => operands
  let isSymbolic := isGiven given 's'
  towards operands fun old new => do
    let tree := (← get).storage.tree
    let kind := if isSymbolic then "symbolic" else "hard"
    let what := s!"failed to create {kind} link '{shown new}'"
    if tree.stands new && !isGiven given 'f' then change what (.error .exists)
    else if isSymbolic then change what (tree.makeLink new old)
    else
      match tree.lookup old with
      | .error cause => change s!"failed to access '{shown old}'" (.error cause)
      | .ok (_, entry) =>
        change what ((tree.placeOf new).map fun place => (tree.erase place).put place entry)

/-! ## Modes -/

/-- The mode that an argument asks for: octal digits, or clauses that change the old one. -/
def modeFrom? (old : Nat) (argument : Bytes) : Option Nat :=
  if argument.head?.any isDigit then
    (Print.numberIn? 8 argument).filter (· ≤ 0o7777)
  else (Path.fields 44 argument).foldlM Builtin.clause? old

/-- Changes the modes of files. -/
def chmod (arguments : List Bytes) : Act Nat := do
  match arguments with
  | [] => misuse 1 "missing operand"
  | [mode] => misuse 1 s!"missing operand after '{shown mode}'"
  | mode :: operands =>
    if (modeFrom? 0 mode).isNone then misuse 1 s!"invalid mode: '{shown mode}'"
    else
      forAll operands fun operand => do
        let tree := (← get).storage.tree
        let old := match tree.lookup operand with
          | .ok (_, .file _ mode) | .ok (_, .directory mode) => mode
          | _ => 0
        change s!"cannot access '{shown operand}'"
          (tree.chmod operand ((modeFrom? old mode).getD old))

/-! ## Showing -/

/-- Lists directories and files, a name in a line. -/
def ls (arguments : List Bytes) : Act Nat := do
  let (given, operands) ← ({ letters := "1aAdq", refusal := 2 } : Options).read arguments
  let tree := (← get).storage.tree
  let operands := if operands = [] then [Path.here] else operands
  let operands := operands.mergeSort fun left right => left ≤ right
  let found := operands.filterMap fun operand =>
    (tree.lookup operand).toOption.map fun (place, entry) => (operand, place, entry)
  let isListed (entry : Entry) : Bool :=
    match entry with
    | .directory _ => !isGiven given 'd'
    | _ => false
  let visible (name : Bytes) : Bool :=
    name.head? != some 46 || isGiven given 'a' || isGiven given 'A'
  let inside (place : Place) : List Bytes :=
    let names := (namesIn tree place).filter visible
    if isGiven given 'a' then Path.here :: Path.above :: names else names
  let status ← forAll operands fun operand => do
    match tree.lookup operand with
    | .ok _ => return true
    | .error cause =>
      complain s!"cannot access '{shown operand}': {cause.text}"
      return false
  let files := found.filter fun (_, _, entry) => !isListed entry
  let directories := found.filter fun (_, _, entry) => isListed entry
  let blocks : List (List Bytes) := directories.map fun (operand, place, _) =>
    if operands.length = 1 then inside place
    else (operand ++ Utf8.encode ":") :: inside place
  let first := files.map (·.1)
  let blocks := if first = [] then blocks else first :: blocks
  printLines (([[]] : List Bytes).intercalate blocks)
  return if status = 0 then 0 else 2

/-- Prints what links hold, or where paths lead. -/
def readlink (arguments : List Bytes) : Act Nat := do
  let (given, operands) ← ({ letters := "fem" } : Options).read arguments
  if operands = [] then misuse 1 "missing operand"
  else
    forAll operands fun operand => do
      let tree := (← get).storage.tree
      let found : Option Bytes :=
        if given ≠ [] then
          match tree.resolve operand with
          | .ok (.found place _) | .ok (.vacant place) => some (FileTree.pathOf place)
          | .error _ => none
        else
          match (tree.placeOf operand).toOption.bind tree.get? with
          | some (.link target) => some target
          | _ => none
      found.toList.forM fun path => print (path ++ [newline])
      return found.isSome

/-- Prints where paths lead. -/
def realpath (arguments : List Bytes) : Act Nat := do
  let (_, operands) ← ({ letters := "em" } : Options).read arguments
  if operands = [] then misuse 1 "missing operand"
  else
    forAll operands fun operand => do
      match (← get).storage.tree.resolve operand with
      | .ok (.found place _) | .ok (.vacant place) =>
        print (FileTree.pathOf place ++ [newline])
        return true
      | .error cause =>
        complain s!"{shown operand}: {cause.text}"
        return false

end Tool

end Script

end CompilerLauncher
