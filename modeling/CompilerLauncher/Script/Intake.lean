import CompilerLauncher.Script.Builtin
import CompilerLauncher.Script.Expand

/-!
The commands that take something in piece by piece and put it into variables: lines of the input,
and options among arguments.
-/

namespace CompilerLauncher

namespace Script

namespace Intake

open Session
open Builtin (shown options operands)

/-! ## Lines -/

/-- The first line of the bytes, in which a backslash frees the byte behind it unless `raw`, whether
its end was found, and the number of bytes that it takes. -/
def lineOf (raw : Bool) (backward : List Mark) (taken : Nat) : Bytes → List Mark × Bool × Nat
  | [] => (backward.reverse, false, taken)
  | byte :: rest =>
    if isSign '\n' byte then (backward.reverse, true, taken + 1)
    else if isSign '\\' byte && !raw then
      match rest with
      | [] => (backward.reverse, false, taken + 1)
      | next :: rest =>
        if isSign '\n' next then lineOf raw backward (taken + 2) rest
        else lineOf raw (⟨next, true⟩ :: backward) (taken + 2) rest
    else if byte = 0 then lineOf raw backward (taken + 1) rest
    else lineOf raw (⟨byte, false⟩ :: backward) (taken + 1) rest

/-- Whether a mark separates fields. -/
def separates (separators : Bytes) (mark : Mark) : Bool :=
  !mark.quoted && separators.contains mark.byte

/-- Whether a mark is a blank that separates fields. -/
def isGap (separators : Bytes) (mark : Mark) : Bool :=
  separates separators mark && isOneOf " \t\n" mark.byte

/-- The marks without gaps at their end. -/
def trimEnd (separators : Bytes) (marks : List Mark) : List Mark :=
  (marks.reverse.dropWhile (isGap separators)).reverse

/-- Gives names the fields of a line; the last of them gets all that is left. -/
def deal (separators : Bytes) : List Bytes → List Mark → Act Unit
  | [], _ => return ()
  | [name], marks => do
    let rest := trimEnd separators (marks.dropWhile (isGap separators))
    let field := rest.takeWhile fun mark => !separates separators mark
    let behind := (rest.drop field.length).dropWhile (isGap separators)
    let whole := match behind with
      | [mark] => if separates separators mark then field else rest
      | _ => rest
    setVariable name (bytesOf whole)
  | name :: names, marks => do
    let rest := marks.dropWhile (isGap separators)
    let field := rest.takeWhile fun mark => !separates separators mark
    let behind := (rest.drop field.length).dropWhile (isGap separators)
    let behind := match behind with
      | mark :: later => if separates separators mark then later else behind
      | [] => []
    setVariable name (bytesOf field)
    deal separators names behind

/-- Reads a line into variables. -/
def read (arguments : List Bytes) : Act Nat := do
  let (given, names) ← options "p:r" arguments
  if names = [] then fail 2 "arg count"
  else
    let session ← get
    let input := session.shell.descriptors.lookup 0
    let unread := (input.map fun found => session.storage.unread found.file).getD []
    let (line, ended, taken) := lineOf (Builtin.isGiven given 'r') [] 0 unread
    match input with
    | some found =>
      modify fun session =>
        { session with storage := session.storage.advance found.file taken }
    | none => pure ()
    deal (Expand.separators session.shell) names line
    return if ended then 0 else 1

/-! ## Options -/

/-- What one step in reading options comes to: the letter that was found or what it is replaced by,
the value of the option if that changes, what there is to complain about, whether there are no more
options, and where to go on. -/
structure OptionStep where
  letter : Char := '?'
  value : Option (Option Bytes) := none
  complaint : String := ""
  isOver : Bool := false
  place : OptionPlace

/-- What the letter of an option asks for: whether it is one, and whether it takes a value. -/
def known? : List Char → Char → Option Bool
  | [], _ => none
  | first :: ':' :: rest, letter => if first = letter then some true else known? rest letter
  | first :: rest, letter => if first = letter then some false else known? rest letter

/-- The bytes of an option argument that are left to read, if the place is inside of one. -/
def leftIn? (arguments : List Bytes) (place : OptionPlace) : Option Bytes :=
  match place.offset with
  | none => none
  | some offset =>
    if place.next ≤ 1 then none
    else
      match arguments[place.next - 2]? with
      | none => none
      | some argument =>
        if offset < argument.length then some (argument.drop offset) else none

/-- Reads one option from the letters that are left of an argument, behind which `place.next` is the
number of the next one. -/
def stepFrom (letters : Bytes) (arguments : List Bytes) (next : Nat) (left : Bytes) : OptionStep :=
  let letter := sign (left.headD 0)
  let rest := left.tail
  let isQuiet := letters.head?.any (isSign ':')
  let argument := (arguments[next - 2]?).getD []
  let inside : OptionPlace := { next, offset := some (argument.length - rest.length) }
  match known? (letters.map sign) letter with
  | none =>
    if isQuiet then { value := some (some [left.headD 0]), place := inside }
    else { value := some none, complaint := s!"Illegal option -{letter}\n", place := inside }
  | some false => { letter, value := some (some []), place := inside }
  | some true =>
    if rest ≠ [] then { letter, value := some (some rest), place := { next } }
    else
      match arguments[next - 1]? with
      | some value => { letter, value := some (some value), place := { next := next + 1 } }
      | none =>
        if isQuiet then { letter := ':', value := some (some [left.headD 0]), place := { next } }
        else
          { value := some none, complaint := s!"No arg for -{letter} option\n", place := { next } }

/-- Reads one option. -/
def step (letters : Bytes) (arguments : List Bytes) (place : OptionPlace) : OptionStep :=
  match leftIn? arguments place with
  | some left => stepFrom letters arguments place.next left
  | none =>
    match arguments[place.next - 1]? with
    | some (dash :: first :: more) =>
      if !isSign '-' dash then { isOver := true, place := { next := place.next } }
      else if isSign '-' first && more = [] then
        { isOver := true, place := { next := place.next + 1 } }
      else stepFrom letters arguments (place.next + 1) (first :: more)
    | _ => { isOver := true, place := { next := place.next } }

/-- Reads one option from the arguments of the script, or from those given, into a variable. -/
def getopts (arguments : List Bytes) : Act Nat := do
  match ← operands arguments with
  | letters :: name :: given =>
    let shell := (← get).shell
    let among := if given = [] then shell.arguments else given
    let place := shell.optionPlace
    let place := if among.length + 1 < place.next then {} else place
    let result := step letters among place
    if result.complaint ≠ "" then
      discard (write Descriptors.errors (Utf8.encode result.complaint))
    match result.value with
    | some (some value) => setVariable (Utf8.encode "OPTARG") value
    | some none => forgetVariable (Utf8.encode "OPTARG")
    | none => pure ()
    setVariable (Utf8.encode "OPTIND") (Expand.digits result.place.next)
    onShell fun shell => { shell with optionPlace := result.place }
    setVariable name (Utf8.encode (String.singleton result.letter))
    return if result.isOver then 1 else 0
  | _ => fail 2 "Usage: getopts optstring var [arg...]"

end Intake

end Script

end CompilerLauncher
