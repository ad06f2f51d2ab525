import CompilerLauncher.Yaml.Character

/-!
Positions in a document, and the text that remains behind one.
-/

namespace CompilerLauncher

namespace Yaml

/-- A position: the lines before it, the characters before it on its line, and the bytes before it
in the whole document. -/
structure Position where
  line : Nat := 0
  column : Nat := 0
  offset : Nat := 0
  deriving DecidableEq, Repr

/-- The position behind one more character. -/
def Position.behind (position : Position) (character : Char) : Position :=
  let offset := position.offset + character.utf8Size
  if isBreak character then ⟨position.line + 1, 0, offset⟩
  else ⟨position.line, position.column + 1, offset⟩

/-- What remains of a document, and where it starts. -/
structure Cursor where
  rest : List Char
  position : Position := {}
  deriving Repr

namespace Cursor

/-- The line where the text starts. -/
def line (cursor : Cursor) : Nat :=
  cursor.position.line

/-- The column where the text starts. -/
def column (cursor : Cursor) : Nat :=
  cursor.position.column

/-- The position one character on. -/
def next (cursor : Cursor) : Cursor :=
  match cursor.rest with
  | [] => cursor
  | character :: rest => ⟨rest, cursor.position.behind character⟩

/-- The position a number of characters on. -/
def skip (cursor : Cursor) : Nat → Cursor
  | 0 => cursor
  | count + 1 => cursor.next.skip count

/-- The characters on the current line for which the test holds, up to the first for which it does
not, and the position behind them. -/
def takeWhile (cursor : Cursor) (test : Char → Bool) : List Char × Cursor :=
  let taken := cursor.rest.takeWhile fun character => test character && !isBreak character
  (taken, ⟨cursor.rest.drop taken.length, taken.foldl Position.behind cursor.position⟩)

/-- The position behind the characters for which the test holds. -/
def dropWhile (cursor : Cursor) (test : Char → Bool) : Cursor :=
  (cursor.takeWhile test).2

/-- The position behind the gaps and the comment that may end a line. -/
def dropComment (cursor : Cursor) : Cursor :=
  let cursor := cursor.dropWhile isGap
  match cursor.rest with
  | '#' :: _ => cursor.dropWhile fun _ => true
  | _ => cursor

/-- Whether the text starts with the given character. -/
def isAt (cursor : Cursor) (character : Char) : Bool :=
  cursor.rest.head? == some character

/-- Whether the text ends or the line does. -/
def isAtLineEnd (cursor : Cursor) : Bool :=
  atLineEnd cursor.rest

/-- Whether a gap, the line's end or the text's end is here. -/
def isAtGapOrEnd (cursor : Cursor) : Bool :=
  atGapOrEnd cursor.rest

end Cursor

end Yaml

end CompilerLauncher
