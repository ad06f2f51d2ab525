import CompilerLauncher.Script.Lookup
import CompilerLauncher.Script.Tool.Basic

/-!
The program that runs another one with other variables.

It may take its arguments from one text, which is how a script's first line passes more than one
argument to an interpreter.
-/

namespace CompilerLauncher

namespace Script

namespace Tool

open Session
open Builtin (shown)

/-! ## Arguments in one text -/

/-- Why a text cannot be split into arguments. -/
inductive SplitFault
  | unclosed
  | endsInBackslash
  | noStopInQuotes
  | unknownEscape (letter : Char)
  | notAVariable (rest : Bytes)
  deriving DecidableEq, Repr

/-- The fault in words. -/
def SplitFault.message : SplitFault → String
  | unclosed => "no terminating quote in -S string"
  | endsInBackslash => "invalid backslash at end of string in -S"
  | noStopInQuotes => "'\\c' must not appear in double-quoted -S string"
  | unknownEscape letter => "invalid sequence '\\" ++ String.singleton letter ++ "' in -S"
  | notAVariable rest =>
    "only $\x7bVARNAME\x7d expansion is supported, error at: " ++ shown rest

/-- The two kinds of quotes. -/
inductive Quote
  | single
  | double
  deriving DecidableEq, Repr

/-- Arguments that are split off a text: those that are complete, the one that goes on, if there is
one, and the quote that is open. -/
structure Pieces where
  complete : List Bytes := []
  open? : Option Bytes := none
  quote : Option Quote := none
  deriving DecidableEq, Repr

namespace Pieces

/-- The pieces with bytes added to the argument that goes on. -/
def add (pieces : Pieces) (bytes : Bytes) : Pieces :=
  { pieces with open? := some (pieces.open?.getD [] ++ bytes) }

/-- The pieces with the argument complete. -/
def next (pieces : Pieces) : Pieces :=
  { pieces with complete := pieces.complete ++ pieces.open?.toList, open? := none }

/-- The pieces behind a quote of either kind. -/
def toggle (pieces : Pieces) (quote : Quote) : Pieces :=
  { pieces.add [] with quote := if pieces.quote.isSome then none else some quote }

end Pieces

/-- What a backslash and a letter stand for. -/
def escapedByte? (letter : Char) : Option UInt8 :=
  match letter with
  | 'f' => some 12
  | 'n' => some 10
  | 'r' => some 13
  | 't' => some 9
  | 'v' => some 11
  | '"' => some 34
  | '#' => some 35
  | '$' => some 36
  | '\'' => some 39
  | '\\' => some 92
  | _ => none

/-- The name of the variable that the bytes begin with, in braces behind a dollar sign, and what
stands behind it. -/
def bracedVariable? (bytes : Bytes) : Option (Bytes × Bytes) :=
  match bytes with
  | dollar :: brace :: rest =>
    let name := rest.takeWhile continuesName
    let behind := rest.drop name.length
    if isSign '$' dollar && isSign '\x7b' brace && isName name
        && behind.head?.any (isSign '\x7d') then
      some (name, behind.tail)
    else none
  | _ => none

/-- Splits a text into arguments, in at most as many steps as `fuel`. -/
def splitFrom (lookup : Bytes → Option Bytes) : Nat → Pieces → Bytes →
    Except SplitFault (List Bytes)
  | 0, pieces, _ => .ok pieces.next.complete
  | _ + 1, pieces, [] => if pieces.quote.isSome then .error .unclosed else .ok pieces.next.complete
  | fuel + 1, pieces, byte :: rest =>
    let literal : Except SplitFault (List Bytes) := splitFrom lookup fuel (pieces.add [byte]) rest
    match sign byte, pieces.quote with
    | '\'', quote =>
      if quote = some .double then literal else splitFrom lookup fuel (pieces.toggle .single) rest
    | '"', quote =>
      if quote = some .single then literal else splitFrom lookup fuel (pieces.toggle .double) rest
    | '#', none => if pieces.open?.isNone then .ok pieces.complete else literal
    | '\\', quote =>
      match rest with
      | [] => if quote = some .single then literal else .error .endsInBackslash
      | next :: behind =>
        if quote = some .single && !isOneOf "\\'" next then literal
        else
          match sign next with
          | '_' =>
            if quote = some .double then splitFrom lookup fuel (pieces.add [space]) behind
            else splitFrom lookup fuel pieces.next behind
          | 'c' =>
            if quote = some .double then .error .noStopInQuotes else .ok pieces.next.complete
          | letter =>
            match escapedByte? letter with
            | some found => splitFrom lookup fuel (pieces.add [found]) behind
            | none => .error (.unknownEscape letter)
    | '$', some .single => literal
    | '$', _ =>
      match bracedVariable? (byte :: rest) with
      | none => .error (.notAVariable (byte :: rest))
      | some (name, behind) =>
        match lookup name with
        | some value => splitFrom lookup fuel (pieces.add value) behind
        | none => splitFrom lookup fuel pieces behind
    | _, none => if isBlank byte then splitFrom lookup fuel pieces.next rest else literal
    | _, some _ => literal

/-- Splits a text into arguments. -/
def split (lookup : Bytes → Option Bytes) (text : Bytes) : Except SplitFault (List Bytes) :=
  splitFrom lookup (text.length + 1) {} text

/-! ## Running -/

/-- What to do about blanks in the first line of a script. -/
def splitHint : String :=
  "use -[v]S to pass options in shebang lines"

/-- The options of the program. -/
def envOptions : Options :=
  { letters := "C:iS:u:v0"
    names := [("ignore-environment", 'i'), ("null", '0'), ("unset", 'u'), ("chdir", 'C'),
      ("split-string", 'S'), ("debug", 'v')]
    endsEarly := true
    refusal := 125
    hint? := some splitHint }

/-- Says what the program does, a thing in quotes. -/
def note (what : String) (thing : Bytes) : Act Unit :=
  discard (write Descriptors.errors
    (Utf8.encode (what ++ "'") ++ thing ++ Utf8.encode "'\n"))

/-- Says what another program is started with. -/
def noteStart (name : Bytes) (arguments : List Bytes) : Act Unit := do
  discard (write Descriptors.errors (Utf8.encode "executing: " ++ name ++ [newline]))
  for (argument, index) in arguments.zipIdx do
    note s!"   arg[{index}]= " argument

/-- The arguments with the texts that are to be split replaced by what they are split into, one
after another, at most as many as `fuel`. -/
def splitArguments : Nat → Options.Given → List Bytes → Act (Options.Given × List Bytes)
  | 0, taken, arguments => return (taken, arguments)
  | fuel + 1, taken, arguments => do
    match arguments with
    | [] => return (taken, [])
    | argument :: rest =>
      if argument = Utf8.encode "--" then return (taken, rest)
      else if argument.length < 2 || !argument.head?.any (isSign '-') then
        return (taken, arguments)
      else
        let (given, awaiting) ←
          if (Utf8.encode "--").isPrefixOf argument then envOptions.ofName taken (argument.drop 2)
          else envOptions.ofLetters taken argument.tail
        let (given, rest) ← match awaiting, rest with
          | none, rest => pure (given, rest)
          | some letter, value :: rest => pure (given ++ [(letter, value)], rest)
          | some letter, [] => misuse 125 s!"option requires an argument -- '{letter}'"
        match given.getLast? with
        | some ('S', text) =>
          match split (Session.valueOf? (← get).shell) text with
          | .ok pieces =>
            if isGiven given 'v' then
              note "split -S:  " text
              (pieces.take 1).forM (note " into:    ")
              (pieces.drop 1).forM (note "     &    ")
            splitArguments fuel given.dropLast (pieces ++ rest)
          | .error fault => stop 125 fault.message
        | _ => splitArguments fuel given rest

/-- The number of texts that are split before the program gives up. -/
def splitLimit : Nat := 100000

/-- Carries out the assignments that the arguments begin with; the answer is what follows them. -/
def assignments : List Bytes → Act (List Bytes)
  | [] => return []
  | argument :: rest => do
    match Builtin.assignment argument with
    | (name, some value) =>
      onShell fun shell => bind shell name (some { value := some value, exported := true })
      assignments rest
    | (_, none) => return argument :: rest

/-- The variables, one behind the other. -/
def listing (ending : UInt8) (shell : Shell) : Bytes :=
  (environment shell).flatMap fun (name, value) => name ++ Utf8.encode "=" ++ value ++ [ending]

/-- Goes to another directory. -/
def goTo (path : Bytes) : Act Unit := do
  let tree := (← get).storage.tree
  let what := s!"cannot change directory to '{shown path}'"
  match tree.lookup path with
  | .ok (working, .directory _) =>
    modify fun session =>
      { session with storage := { session.storage with tree := { tree with working } } }
  | .ok _ => stop 125 s!"{what}: {Errno.notDirectory.text}"
  | .error cause => stop 125 s!"{what}: {cause.text}"

/-- Runs a program with other variables, or shows them. -/
def env (run : Runner) (arguments : List Bytes) : Act Unit := do
  let (given, rest) ← splitArguments splitLimit [] arguments
  let dash := rest.head? == some (Utf8.encode "-")
  if dash || isGiven given 'i' then onShell fun shell => { shell with bindings := [] }
  for option in given do
    if option.1 = 'u' then
      if option.2 = [] || option.2.any (isSign '=') then
        stop 125 s!"cannot unset '{shown option.2}': {Errno.invalid.text}"
      else onShell fun shell => bind shell option.2 none
  match ← assignments (if dash then rest.tail else rest) with
  | [] =>
    if (valueOf? given 'C').isSome then
      misuse 125 "must specify command with --chdir (-C)"
    print (listing (if isGiven given '0' then 0 else newline) (← get).shell)
    throw (.exit 0)
  | name :: rest =>
    if isGiven given '0' then misuse 125 "cannot specify --null (-0) with command"
    (valueOf? given 'C').forM goTo
    let session ← get
    let tree := session.storage.tree
    let path :=
      (Session.valueOf? session.shell (Utf8.encode "PATH")).getD (Utf8.encode "/bin:/usr/bin")
    let found :=
      if name.contains Path.slash then .ok name else Lookup.search tree path name
    if isGiven given 'v' then noteStart name (name :: rest)
    match found.bind fun path => Lookup.imageOf tree path (name :: rest) with
    | .ok image => run (.image image)
    | .error cause =>
      complain s!"'{shown name}': {cause.text}"
      if cause = .noEntry && name.any isBlank then
        complain splitHint
      throw (.exit (if cause = .noEntry then 127 else 126))

end Tool

end Script

end CompilerLauncher
