import CompilerLauncher.Script.Builtin

/-!
What the system's programs have in common: how they read their arguments, how they complain, and how
they get at what they work on.

A program works on the descriptors and the variables that its process has, and answers with the
status with which it ends.
-/

namespace CompilerLauncher

namespace Script

namespace Tool

open Session
open Builtin (shown)

/-- Writes a message that begins with the name under which the program runs. -/
def complain (message : String) : Act Unit := do
  let name := (← get).shell.zero
  discard (write Descriptors.errors (name ++ Utf8.encode s!": {message}\n"))

/-- Ends the program with a message. -/
def stop {α : Type} (status : Nat) (message : String) : Act α := do
  complain message
  throw (.exit status)

/-- Says where to read about the program. -/
def referToHelp : Act Unit := do
  let name := (← get).shell.zero
  discard (write Descriptors.errors
    (Utf8.encode "Try '" ++ name ++ Utf8.encode " --help' for more information.\n"))

/-- Ends a program that was called in a wrong way. -/
def misuse {α : Type} (status : Nat) (message : String) : Act α := do
  complain message
  referToHelp
  throw (.exit status)

/-! ## Arguments -/

/-- The options of a program: letters, with a colon behind those that take a value, the long names
that stand for letters, whether options end at the first operand, the status of a program that is
called in a wrong way, and a hint for one whose options hold a blank. -/
structure Options where
  letters : String := ""
  names : List (String × Char) := []
  endsEarly : Bool := false
  refusal : Nat := 1
  hint? : Option String := none

namespace Options

/-- Whether a letter is an option. -/
def has (options : Options) (letter : Char) : Bool :=
  letter != ':' && options.letters.toList.contains letter

/-- Whether an option takes a value. -/
def takesValue (options : Options) (letter : Char) : Bool :=
  (options.letters.toList.zip options.letters.toList.tail).contains (letter, ':')

/-- An option that was given, with its value. -/
abbrev Given := List (Char × Bytes)

/-- Reads the letters of one argument. The answer is the options, and a letter that still waits for
its value. -/
def ofLetters (options : Options) (taken : Given) : Bytes → Act (Given × Option Char)
  | [] => return (taken, none)
  | byte :: rest => do
    let letter := sign byte
    if !options.has letter then
      complain s!"invalid option -- '{letter}'"
      if isBlank byte then options.hint?.forM complain
      referToHelp
      throw (.exit options.refusal)
    else if !options.takesValue letter then ofLetters options (taken ++ [(letter, [])]) rest
    else if rest = [] then return (taken, some letter)
    else return (taken ++ [(letter, rest)], none)

/-- Reads a long option, of whose name only as much has to be given as tells it from others. -/
def ofName (options : Options) (taken : Given) (argument : Bytes) : Act (Given × Option Char) := do
  let (name, value) := Builtin.assignment argument
  let text := shown name
  let exact := options.names.filter fun entry => entry.1 == text
  let near := options.names.filter fun entry => text.toList.isPrefixOf entry.1.toList
  match if exact = [] then near else exact with
  | [] => misuse options.refusal s!"unrecognized option '--{shown argument}'"
  | [(whole, letter)] =>
    match options.takesValue letter, value with
    | true, none => return (taken, some letter)
    | true, some value => return (taken ++ [(letter, value)], none)
    | false, none => return (taken ++ [(letter, [])], none)
    | false, some _ =>
      misuse options.refusal s!"option '--{whole}' doesn't allow an argument"
  | several =>
    let possible := String.join (several.map fun entry => s!" '--{entry.1}'")
    misuse options.refusal s!"option '--{text}' is ambiguous; possibilities:{possible}"

/-- Reads arguments: options and operands, in any order unless options end early. -/
def readFrom (options : Options) (awaiting : Option Char) (taken : Given)
    (operands : List Bytes) : List Bytes → Act (Given × List Bytes)
  | [] =>
    match awaiting with
    | some letter => misuse options.refusal s!"option requires an argument -- '{letter}'"
    | none => return (taken, operands)
  | argument :: rest => do
    match awaiting with
    | some letter => readFrom options none (taken ++ [(letter, argument)]) operands rest
    | none =>
      if argument = Utf8.encode "--" then return (taken, operands ++ rest)
      else if (Utf8.encode "--").isPrefixOf argument then
        let (taken, awaiting) ← ofName options taken (argument.drop 2)
        readFrom options awaiting taken operands rest
      else if argument.head?.any (isSign '-') && 1 < argument.length then
        let (taken, awaiting) ← ofLetters options taken argument.tail
        readFrom options awaiting taken operands rest
      else if options.endsEarly then return (taken, operands ++ argument :: rest)
      else readFrom options none taken (operands ++ [argument]) rest

/-- Reads arguments. -/
def read (options : Options) (arguments : List Bytes) : Act (Given × List Bytes) :=
  readFrom options none [] [] arguments

end Options

/-- Whether an option was given. -/
def isGiven (given : Options.Given) (letter : Char) : Bool :=
  Builtin.isGiven given letter

/-- The value that an option was given last. -/
def valueOf? (given : Options.Given) (letter : Char) : Option Bytes :=
  (given.reverse.find? fun option => option.1 == letter).map (·.2)

/-! ## Files -/

/-- Does something with each operand; one failure makes the whole fail. -/
def forAll (operands : List Bytes) (act : Bytes → Act Bool) : Act Nat := do
  let mut status := 0
  for operand in operands do
    if !(← act operand) then status := 1
  return status

/-- Changes the tree, or says why it cannot be changed. -/
def change (what : String) (result : Except Errno FileTree) : Act Bool := do
  match result with
  | .ok tree =>
    modify fun session => { session with storage := { session.storage with tree } }
    return true
  | .error cause =>
    complain s!"{what}: {cause.text}"
    return false

/-- All that is left to read of the input. -/
def takeInput : Act Bytes := do
  let session ← get
  match session.shell.descriptors.lookup 0 with
  | none => return []
  | some found =>
    let unread := session.storage.unread found.file
    set { session with storage := session.storage.advance found.file unread.length }
    return unread

/-- Why the input cannot be read, if it cannot. -/
def inputTrouble? (session : Session) : Option Errno :=
  match session.shell.descriptors.lookup 0 with
  | none => some .badDescriptor
  | some found =>
    match session.storage.files[found.file]? with
    | some (.place place ..) =>
      match session.storage.tree.get? place with
      | some (.directory _) => some .isDirectory
      | _ => none
    | _ => none

/-- The content of a file, or of the input if the operand is a dash. -/
def contentOf (operand : Bytes) : Act (Except Errno Bytes) := do
  let session ← get
  if operand ≠ Utf8.encode "-" then return session.storage.tree.read operand
  else
    match inputTrouble? session with
    | some cause => return .error cause
    | none => return .ok (← takeInput)

/-- The contents of files, or of the input if none is named, one behind the other. A file that
cannot be read is complained about, and the answer says whether all could be read. -/
def contentsOf (complaint : Bytes → String) (operands : List Bytes) :
    Act (List (Bytes × Bytes) × Bool) := do
  let mut found : List (Bytes × Bytes) := []
  let mut isWhole := true
  for operand in if operands = [] then [Utf8.encode "-"] else operands do
    match ← contentOf operand with
    | .ok content => found := found ++ [(operand, content)]
    | .error cause =>
      complain s!"{complaint operand}: {cause.text}"
      isWhole := false
  return (found, isWhole)

/-- The lines of a text, without what ends them. -/
def linesOf (content : Bytes) : List Bytes :=
  let fields := Path.fields newline content
  if fields.getLast? = some [] then fields.dropLast else fields

/-- Prints lines. -/
def printLines (lines : List Bytes) : Act Unit :=
  print (lines.flatMap fun line => line ++ [newline])

/-- The number that an argument spells. -/
def natural? (argument : Bytes) : Option Nat :=
  if argument ≠ [] && argument.all isDigit then some (decimal argument) else none

end Tool

end Script

end CompilerLauncher
