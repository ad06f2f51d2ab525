import CompilerLauncher.CommandLine.Render
import CompilerLauncher.Text.Blank

/-!
How programs split a line into arguments.

`CommandLine.split` holds the platform's rules: blanks separate, a double quote opens or closes a
quoted stretch, and backslashes are special only in a run that ends in a double quote, where each
pair stands for one and an odd one makes the quote literal. `CommandLine.splitStrict` is the runtime
library's own reading of the whole line: the program's name comes first and knows no escapes, and
two double quotes inside a quoted stretch stand for one. `ResponseFile.split` reads a response file,
where a backslash makes the next character literal and both kinds of quotes may be used.

All three are machines that read one character at a time and hold the argument they are in.
-/

namespace CompilerLauncher

namespace CommandLine

/-- The argument that a splitter is in: whether a quoted stretch is open, how many backslashes wait
for the character after them, and the characters so far, newest first. -/
structure Piece where
  inside : Bool := false
  run : Nat := 0
  backward : List Char := []
  deriving DecidableEq, Repr

namespace Piece

/-- The characters of the argument, when it ends here. -/
def text (piece : Piece) : List Char :=
  (backslashes piece.run ++ piece.backward).reverse

/-- The argument with one more character, which makes the waiting backslashes literal. -/
def push (piece : Piece) (character : Char) : Piece :=
  { piece with run := 0, backward := character :: (backslashes piece.run ++ piece.backward) }

/-- The argument after a double quote: half of the waiting backslashes stay, and the quote itself is
literal if their number is odd. -/
def quote (piece : Piece) : Piece :=
  let kept := backslashes (piece.run / 2) ++ piece.backward
  if piece.run % 2 = 1 then { piece with run := 0, backward := '"' :: kept }
  else { inside := !piece.inside, run := 0, backward := kept }

end Piece

/-- The characters that separate arguments on a line. -/
def separates (character : Char) : Bool :=
  character == ' ' || character == '\t'

/-- The argument after one more character, if the character does not end it. -/
def Piece.next? (piece : Piece) (character : Char) : Option Piece :=
  if character = '\\' then some { piece with run := piece.run + 1 }
  else if character = '"' then some piece.quote
  else if !piece.inside && separates character then none
  else some (piece.push character)

/-- Splits the rest of a line, inside an argument or between two. -/
def splitFrom : Option Piece → List Char → List (List Char)
  | none, [] => []
  | some piece, [] => [piece.text]
  | none, character :: rest =>
    if separates character then splitFrom none rest
    else splitFrom (({} : Piece).next? character) rest
  | some piece, character :: rest =>
    match piece.next? character with
    | some next => splitFrom (some next) rest
    | none => piece.text :: splitFrom none rest

/-- Splits a line by the platform's rules. -/
def split (line : String) : List String :=
  (splitFrom none line.toList).map String.ofList

/-! ## The runtime library's own reading -/

/-- Splits the rest of a line after the program's name, where a double quote right after one that
closed a quoted stretch stands for itself and opens the stretch again. -/
def splitStrictFrom : Option Piece → List Char → List (List Char)
  | none, [] => []
  | some piece, [] => [piece.text]
  | none, character :: rest =>
    if separates character then splitStrictFrom none rest
    else splitStrictFrom (({} : Piece).next? character) rest
  | some piece, character :: rest =>
    if character = '"' ∧ piece.inside ∧ piece.run % 2 = 0 then
      match rest with
      | '"' :: later =>
        splitStrictFrom
          (some { piece.quote with inside := true, backward := '"' :: piece.quote.backward }) later
      | rest => splitStrictFrom (some piece.quote) rest
    else
      match piece.next? character with
      | some next => splitStrictFrom (some next) rest
      | none => piece.text :: splitStrictFrom none rest

/-- The program's name and the rest of the line: quotes only open and close, backslashes are
literal, and the first blank outside quotes ends the name. -/
def programName : Bool → List Char → List Char × List Char
  | _, [] => ([], [])
  | inside, character :: rest =>
    if character = '"' then programName (!inside) rest
    else if !inside && separates character then ([], rest)
    else
      match programName inside rest with
      | (name, later) => (character :: name, later)

/-- Splits a line as the runtime library does. -/
def splitStrict (line : String) : List String :=
  match programName false line.toList with
  | (name, later) => (name :: splitStrictFrom none later).map String.ofList

end CommandLine

namespace ResponseFile

/-- The argument that a reader of a response file is in: the quote that is open, whether the next
character is literal, and the characters so far, newest first. -/
structure Piece where
  quote : Option Char := none
  literal : Bool := false
  backward : List Char := []
  deriving DecidableEq, Repr

/-- The argument after one more character, if the character does not end it. -/
def Piece.next? (piece : Piece) (character : Char) : Option Piece :=
  let kept : Piece := { piece with literal := false, backward := character :: piece.backward }
  if piece.literal then some kept
  else if character = '\\' then some { piece with literal := true }
  else if piece.quote = some character then some { piece with quote := none }
  else if piece.quote = none ∧ (character = '"' ∨ character = '\'') then
    some { piece with quote := some character }
  else if piece.quote = none ∧ isBlank character then none
  else some kept

/-- Splits the rest of a response file, inside an argument or between two. -/
def splitFrom : Option Piece → List Char → List (List Char)
  | none, [] => []
  | some piece, [] => [piece.backward.reverse]
  | none, character :: rest =>
    if isBlank character then splitFrom none rest
    else splitFrom (({} : Piece).next? character) rest
  | some piece, character :: rest =>
    match piece.next? character with
    | some next => splitFrom (some next) rest
    | none => piece.backward.reverse :: splitFrom none rest

/-- Splits the text of a response file. -/
def split (text : String) : List String :=
  (splitFrom none text.toList).map String.ofList

end ResponseFile

end CompilerLauncher
