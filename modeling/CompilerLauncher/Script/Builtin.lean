import CompilerLauncher.Script.Condition
import CompilerLauncher.Script.Session

/-!
The commands that a shell carries out itself: those that leave something, name something, test
something, print something or go somewhere.

Each takes its arguments and answers with its status. One that fails with a message throws; whether
that ends the shell depends on the command.
-/

namespace CompilerLauncher

namespace Script

namespace Builtin

open Session

/-! ## Arguments -/

/-- The text of an argument. -/
def shown (argument : Bytes) : String :=
  Utf8.lossy argument

/-- The number from zero on that an argument spells. -/
def number? (argument : Bytes) : Option Nat :=
  (wholeNumber? argument).bind fun value =>
    if 0 ≤ value ∧ value < 2147483648 then some value.toNat else none

/-- The number that an argument spells; without one the command fails. -/
def numberOr (argument : Bytes) : Act Nat :=
  match number? argument with
  | some value => return value
  | none => fail 2 s!"Illegal number: {shown argument}"

/-- The pieces in which a text is quoted: runs of quotes, and runs of other bytes. The text stands
for what is left of it. -/
def quotedPieces : Nat → Bytes → List Bytes
  | 0, _ => []
  | fuel + 1, text =>
    let plain := text.takeWhile (!isSign '\'' ·)
    let rest := text.drop plain.length
    let quotes := rest.takeWhile (isSign '\'')
    let here := Utf8.encode "'" ++ plain ++ Utf8.encode "'"
    if rest = [] then [here]
    else
      let later := rest.drop quotes.length
      let marks := Utf8.encode "\"" ++ quotes ++ Utf8.encode "\""
      here :: marks :: (if later = [] then [] else quotedPieces fuel later)

/-- A text as a shell reads it back: in quotes, quotes themselves in quotes of the other kind. -/
def quoted (text : Bytes) : Bytes :=
  (quotedPieces (text.length + 1) text).flatten

/-- A line that says what a name stands for. -/
def bindingLine (start : String) (name : Bytes) (value : Option Bytes) : Bytes :=
  let value := (value.map fun value => Utf8.encode "=" ++ quoted value).getD []
  Utf8.encode start ++ name ++ value ++ [newline]

/-- The letters of the options among the arguments, those of one argument behind one another, with
the values of those that take one. In `letters` a colon stands behind such a letter. The options end
before an argument that is none, and behind two dashes. -/
def optionsOf (letters : String) (taken : List (Char × Bytes)) :
    List Bytes → Act (List (Char × Bytes) × List Bytes)
  | [] => return (taken, [])
  | argument :: rest => do
    match argument with
    | [] => return (taken, argument :: rest)
    | [_] => return (taken, argument :: rest)
    | dash :: body =>
      if !isSign '-' dash then return (taken, argument :: rest)
      else if body = Utf8.encode "-" then return (taken, rest)
      else
        match valued? body with
        | none =>
          for letter in body do
            check (sign letter)
          optionsOf letters (taken ++ body.map fun letter => (sign letter, [])) rest
        | some (flags, letter, value) =>
          for flag in flags do
            check (sign flag)
          let taken := taken ++ flags.map fun flag => (sign flag, [])
          if value ≠ [] then optionsOf letters (taken ++ [(letter, value)]) rest
          else
            match rest with
            | value :: rest => optionsOf letters (taken ++ [(letter, value)]) rest
            | [] => fail 2 s!"No arg for -{letter} option"
where
  /-- Whether an option takes a value. -/
  takesValue (letter : Char) : Bool :=
    (letters.toList.zip letters.toList.tail).contains (letter, ':')
  /-- The options before the first one that takes a value, that one, and what follows it. -/
  valued? (body : Bytes) : Option (Bytes × Char × Bytes) :=
    let flags := body.takeWhile fun letter => !takesValue (sign letter)
    match body.drop flags.length with
    | letter :: value => some (flags, sign letter, value)
    | [] => none
  /-- Refuses a letter that is no option. -/
  check (letter : Char) : Act Unit := do
    if letter = ':' || !letters.toList.contains letter then
      fail 2 s!"Illegal option -{letter}"

/-- The options among the arguments, and the others. -/
def options (letters : String) (arguments : List Bytes) :
    Act (List (Char × Bytes) × List Bytes) :=
  optionsOf letters [] arguments

/-- The arguments of a command that has no options. -/
def operands (arguments : List Bytes) : Act (List Bytes) := do
  return (← options "" arguments).2

/-- Whether an option was given. -/
def isGiven (given : List (Char × Bytes)) (letter : Char) : Bool :=
  given.any fun option => option.1 == letter

/-- Writes what a command prints; a descriptor that cannot be written to is an error. -/
def output (command : String) (bytes : Bytes) (status : Nat) : Act Nat := do
  if bytes = [] then return status
  else
    if ← write Descriptors.output bytes then return status
    else refuse 1 s!"{command}: I/O error"

/-! ## Leaving -/

/-- Ends the shell. -/
def exit (arguments : List Bytes) : Act Nat := do
  match arguments with
  | [] =>
    let shell := (← get).shell
    throw (.exit (shell.held.getD shell.status))
  | argument :: _ => throw (.exit (← numberOr argument))

/-- Ends the function or the script that is read. -/
def leave (arguments : List Bytes) : Act Nat := do
  match arguments with
  | [] => throw .return
  | argument :: _ =>
    setStatus (← numberOr argument)
    throw .return

/-- Ends rounds of loops, or the loops themselves. -/
def leaveLoops (flow : Nat → Flow) (arguments : List Bytes) : Act Nat := do
  let levels ← match arguments with
    | [] => pure 1
    | argument :: _ => numberOr argument
  let loops := (← get).shell.loops
  if levels = 0 then fail 2 s!"Illegal number: {shown (arguments.headD [])}"
  else if loops = 0 then return 0
  else
    setStatus 0
    throw (flow (min levels loops))

/-! ## Variables -/

/-- The name and the value that an argument assigns. -/
def assignment (argument : Bytes) : Bytes × Option Bytes :=
  let name := argument.takeWhile (!isSign '=' ·)
  if name.length < argument.length then (name, some (argument.drop (name.length + 1)))
  else (name, none)

/-- Variables in the order of their names. -/
def sorted (entries : List (Bytes × Variable)) : List (Bytes × Variable) :=
  entries.mergeSort fun left right => left.1 ≤ right.1

/-- Marks variables, after setting those that are given a value, or shows those that are marked. -/
def declare (command : String) (change : Variable → Variable) (chosen : Variable → Bool)
    (arguments : List Bytes) : Act Nat := do
  let (given, names) ← options "p" arguments
  if given ≠ [] || names = [] then
    let entries := (← get).shell.bindings.filter fun entry => chosen entry.2
    let lines := (sorted entries).map fun (name, held) =>
      bindingLine s!"{command} " name held.value
    output command lines.flatten 0
  else
    for argument in names do
      let (name, value) := assignment argument
      match value with
      | some value => setVariable name value
      | none => if !isName name then fail 2 s!"{shown name}: bad variable name"
      markVariable name change
    return 0

/-- Makes names the running function's own; a dash stands for the options of the shell. -/
def makeLocal (arguments : List Bytes) : Act Nat := do
  if (← get).shell.frames = 0 then fail 2 "not in a function"
  for argument in arguments do
    let (name, value) := assignment argument
    let shell := (← get).shell
    if argument = Utf8.encode "-" then
      onShell fun shell => { shell with localSwitches := some shell.switches }
    else
      let old := shell.bindings.lookup name
      onShell fun shell => { shell with locals := (name, old) :: shell.locals }
      match value with
      | some value => setVariable name value
      | none => if !isName name then fail 2 s!"{shown name}: bad variable name"
  return 0

/-- Forgets variables, or functions. -/
def unset (arguments : List Bytes) : Act Nat := do
  let (given, names) ← options "vf" arguments
  let functions := (given.getLast?).any fun option => option.1 == 'f'
  for name in names do
    if functions then
      onShell fun shell => { shell with functions := rebind name none shell.functions }
    else forgetVariable name
  return 0

/-! ## Aliases -/

/-- The line that says what an alias stands for. -/
def aliasLine (name text : Bytes) : Bytes :=
  name ++ Utf8.encode "=" ++ quoted text ++ [newline]

/-- Sets aliases, or shows them. -/
def setAliases (arguments : List Bytes) : Act Nat := do
  if arguments = [] then
    let entries := shelved nameShelves (← get).shell.aliases
    output "alias" (entries.flatMap fun (name, text) => aliasLine name text) 0
  else
    let mut status := 0
    for argument in arguments do
      match assignment argument with
      | (first :: rest, some text) =>
        onShell fun shell =>
          { shell with aliases := rebind (first :: rest) (some text) shell.aliases }
      | _ =>
        match (← get).shell.aliases.lookup argument with
        | some text => print (aliasLine argument text)
        | none =>
          discard (write Descriptors.errors
            (Utf8.encode "alias: " ++ argument ++ Utf8.encode " not found\n"))
          status := 1
    return status

/-- Forgets aliases. -/
def forgetAliases (arguments : List Bytes) : Act Nat := do
  let (given, names) ← options "a" arguments
  if isGiven given 'a' then
    onShell fun shell => { shell with aliases := [] }
    return 0
  else
    let mut status := 0
    for name in names do
      if ((← get).shell.aliases.lookup name).isSome then
        onShell fun shell => { shell with aliases := rebind name none shell.aliases }
      else
        discard (write Descriptors.errors
          (Utf8.encode "unalias: " ++ name ++ Utf8.encode " not found\n"))
        status := 1
    return status

/-! ## Arguments of the script -/

/-- The shell with other arguments, whose options are read from the first one on. -/
def withArguments (arguments : List Bytes) (shell : Shell) : Shell :=
  { shell with arguments, optionPlace := {} }

/-- Drops arguments from the front. -/
def shift (arguments : List Bytes) : Act Nat := do
  let count ← match arguments with
    | [] => pure 1
    | argument :: _ => numberOr argument
  let old := (← get).shell.arguments
  if old.length < count then fail 2 "can't shift that many"
  else
    onShell (withArguments (old.drop count))
    return 0

/-! ## Printing -/

/-- Prints arguments. -/
def echo (arguments : List Bytes) : Act Nat :=
  output "echo" (Print.echo arguments) 0

/-- Prints by a format. -/
def printf (arguments : List Bytes) : Act Nat := do
  match ← operands arguments with
  | [] => fail 2 "usage: printf format [arg ...]"
  | format :: rest =>
    let formatted := Print.format format rest
    for complaint in formatted.complaints do
      complain complaint.message
    let status ← output "printf" formatted.bytes (if formatted.complaints = [] then 0 else 1)
    if formatted.complaints.any Print.Complaint.isFatal then throw (.failed 2) else return status

/-! ## Tests -/

/-- Decides a condition. -/
def test (arguments : List Bytes) : Act Nat := do
  match Condition.decide? (← get).storage.tree arguments with
  | .ok holds => return if holds then 0 else 1
  | .error trouble => fail 2 trouble.message

/-- Decides a condition that a bracket closes. -/
def bracket (arguments : List Bytes) : Act Nat := do
  if arguments.getLast? = some (Utf8.encode "]") then test arguments.dropLast
  else fail 2 "missing ]"

/-- Does nothing, with the given status. -/
def quiet (status : Nat) (_ : List Bytes) : Act Nat :=
  return status

/-! ## Places -/

/-- A path with its dots taken for what they say, from the root. Two slashes at its start, and no
more, stay two. -/
def tidy (path : Bytes) : Bytes :=
  let step (names : List Bytes) (name : Bytes) : List Bytes :=
    if name = [] ∨ name = Path.here then names
    else if name = Path.above then names.dropLast
    else names ++ [name]
  let isDouble := (path.takeWhile (· == Path.slash)).length = 2
  (if isDouble then [Path.slash] else [])
    ++ FileTree.pathOf ((Path.fields Path.slash path).foldl step [])

/-- The paths that a target may mean, each with the directory that it starts in: one of those
listed, unless the target says where it starts. -/
def destinations (shell : Shell) (target : Bytes) : List (Bytes × Bytes) :=
  let first := (Path.fields Path.slash target).headD []
  let path := if target = [] then Path.here else target
  if Path.isAbsolute target || first = Path.here || first = Path.above then [([], path)]
  else
    let starts := ((valueOf? shell (Utf8.encode "CDPATH")).map (Path.fields (58 : UInt8))).getD []
    (starts ++ [[]]).map fun start =>
      (start, if start = [] then path else start ++ Path.slash :: path)

/-- The variable that an export makes, which goes to programs. -/
def setExported (name value : Bytes) : Act Unit := do
  setVariable name value
  markVariable name ({ · with exported := true })

/-- Goes to the directory that a path leads to from the working directory, if it is one. A physical
walk takes links for what they lead to. -/
def enter (physical : Bool) (path : Bytes) : Act Bool := do
  let session ← get
  let here := session.shell.directory
  let start := if here.getLast? = some Path.slash then here else here ++ [Path.slash]
  let whole := if Path.isAbsolute path then path else start ++ path
  let tree := session.storage.tree
  match tree.lookup (if physical then path else tidy whole) with
  | .ok (working, .directory _) =>
    let directory := if physical then FileTree.pathOf working else tidy whole
    modify fun session =>
      { session with
        storage := { session.storage with tree := { tree with working } }
        shell := { session.shell with directory } }
    setExported (Utf8.encode "OLDPWD") here
    setExported (Utf8.encode "PWD") directory
    return true
  | _ => return false

/-- Whether the last of the options asks for the physical directory. -/
def isPhysical (given : List (Char × Bytes)) : Bool :=
  (given.getLast?).any fun option => option.1 == 'P'

/-- Goes to another working directory. -/
def cd (arguments : List Bytes) : Act Nat := do
  let (given, arguments) ← options "LP" arguments
  let shell := (← get).shell
  let back := arguments.head? == some (Utf8.encode "-")
  let target := if back then value shell "OLDPWD" else arguments.headD (value shell "HOME")
  let path := if target = [] then Path.here else target
  let tree := (← get).storage.tree
  let isDirectory (candidate : Bytes) : Bool :=
    (Condition.unary? tree "-d" candidate).getD false
  let (start, chosen) :=
    ((destinations shell target).find? fun entry => isDirectory entry.2).getD ([], path)
  if ← enter (isPhysical given) chosen then
    let directory := (← get).shell.directory
    if back || start ≠ [] then output "cd" (directory ++ [newline]) 0 else return 0
  else fail 2 s!"can't cd to {shown path}"

/-- Prints the working directory. -/
def pwd (arguments : List Bytes) : Act Nat := do
  let (given, _) ← options "LP" arguments
  let session ← get
  let directory :=
    if isPhysical given then FileTree.pathOf session.storage.tree.working
    else session.shell.directory
  output "pwd" (directory ++ [newline]) 0

/-! ## Limits -/

/-- What is limited, by its letter, with the usual limit. -/
def limitTable : List (Char × String × Option Nat) :=
  [('t', "time(seconds)", none), ('f', "file(blocks)", none), ('d', "data(kbytes)", none),
    ('s', "stack(kbytes)", some 8192), ('c', "coredump(blocks)", some 0),
    ('m', "memory(kbytes)", none), ('l', "locked memory(kbytes)", some 8192),
    ('p', "process", some 128619), ('n', "nofiles", some 20000), ('v', "vmemory(kbytes)", none),
    ('w', "locks", none), ('r', "rtprio", some 0)]

/-- A limit in words. -/
def limitShown (shell : Shell) (letter : Char) (usual : Option Nat) : String :=
  match (shell.limits.lookup letter).getD usual with
  | some limit => toString limit
  | none => "unlimited"

/-- Shows a limit or all of them, or takes a new one. -/
def ulimit (arguments : List Bytes) : Act Nat := do
  let (given, names) ← options "HSatfdsmcnlpvwr" arguments
  let shell := (← get).shell
  let letter := ((given.filter fun option => !"HSa".toList.contains option.1).getLast?.map
    (·.1)).getD 'f'
  let isAll := isGiven given 'a'
  match names with
  | [] =>
    let line (name : String) : String :=
      name ++ String.ofList (List.replicate (21 - name.length) ' ')
    let lines := limitTable.filterMap fun (key, name, usual) =>
      if isAll then some (line name ++ limitShown shell key usual ++ "\n")
      else if key = letter then some (limitShown shell key usual ++ "\n")
      else none
    output "ulimit" (Utf8.encode (String.join lines)) 0
  | value :: more =>
    if isAll || more ≠ [] then fail 2 "too many arguments"
    else
      let isUnlimited := value = Utf8.encode "unlimited"
      if !isUnlimited && !value.all isDigit then fail 2 "bad number"
      else
        let limit := if isUnlimited then none else some (decimal value)
        onShell fun shell => { shell with limits := (letter, limit) :: shell.limits }
        return 0

/-- A number in octal digits, at least four. -/
def octalDigits (number : Nat) : Bytes :=
  let digits := Utf8.encode (String.ofList (Nat.toDigits 8 number))
  List.replicate (4 - digits.length) Print.zero ++ digits

/-- The letters of the permissions in three bits. -/
def permissionLetters (bits : Nat) : String :=
  (if bits &&& 4 = 0 then "" else "r") ++ (if bits &&& 2 = 0 then "" else "w") ++
    (if bits &&& 1 = 0 then "" else "x")

/-- Permissions by whom they are for. -/
def permissionsShown (permissions : Nat) : String :=
  s!"u={permissionLetters (permissions >>> 6)},g={permissionLetters (permissions >>> 3 &&& 7)}," ++
    s!"o={permissionLetters (permissions &&& 7)}"

/-- The permissions with one clause carried out: for whom, how and which. -/
def clause? (permissions : Nat) (clause : Bytes) : Option Nat :=
  let whom := clause.takeWhile (isOneOf "ugoa")
  match clause.drop whom.length with
  | [] => none
  | operator :: letters =>
    if !isOneOf "=+-" operator || !letters.all (isOneOf "rwx") then none
    else
      let has (letters : Bytes) (letter : Char) : Bool := letters.any (isSign letter)
      let bits := (if has letters 'r' then 4 else 0) + (if has letters 'w' then 2 else 0) +
        (if has letters 'x' then 1 else 0)
      let everyone := whom = [] || has whom 'a'
      let among (letter : Char) (unit : Nat) : Nat :=
        if everyone || has whom letter then unit else 0
      let units := among 'u' 64 + among 'g' 8 + among 'o' 1
      let chosen := units * bits
      let others := permissions - (permissions &&& units * 7)
      match sign operator with
      | '=' => some (others + chosen)
      | '+' => some (permissions ||| chosen)
      | _ => some (permissions - (permissions &&& chosen))

/-- Shows the permissions that new files lack, or takes new ones. -/
def umask (arguments : List Bytes) : Act Nat := do
  let (given, arguments) ← options "S" arguments
  let withheld := (← get).shell.withheld
  match arguments with
  | [] =>
    if given = [] then output "umask" (octalDigits withheld ++ [newline]) 0
    else output "umask" (Utf8.encode (permissionsShown (511 - withheld) ++ "\n")) 0
  | mode :: _ =>
    if mode.head?.any isDigit then
      match Print.numberIn? 8 mode with
      | some withheld =>
        onShell fun shell => { shell with withheld := withheld &&& 511 }
        return 0
      | none => fail 2 s!"Illegal number: {shown mode}"
    else
      match (Path.fields (44 : UInt8) mode).foldlM clause? (511 - withheld) with
      | some permissions =>
        onShell fun shell => { shell with withheld := 511 - permissions }
        return 0
      | none => fail 2 s!"Illegal mode: {shown mode}"

/-- Shows the time that has been spent, which is none. -/
def times (_ : List Bytes) : Act Nat :=
  let line := "0m0.000000s 0m0.000000s\n"
  output "times" (Utf8.encode (line ++ line)) 0

end Builtin

end Script

end CompilerLauncher
