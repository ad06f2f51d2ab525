import CompilerLauncher.Yaml.Cursor
import CompilerLauncher.Yaml.Folding

/-!
Reading scalars: plain, quoted and block ones.

Each reader takes one character after the other. A reader that meets something it cannot accept
answers with nothing.
-/

namespace CompilerLauncher

namespace Yaml

/-- How a scalar is written. -/
inductive Style
  | plain
  | singleQuoted
  | doubleQuoted
  | literal
  | folded
  deriving DecidableEq, Repr

/-- A scalar that has been read: its text, the position behind it, and whether lines were broken
right before that position. -/
structure ScalarRead where
  text : String
  behind : Cursor
  broken : Bool := false

/-- The text of characters that are held newest first. -/
def textOf (backward : List Char) : String :=
  String.ofList backward.reverse

/-! ## Plain scalars -/

/-- Whether a plain scalar ends before the given text. -/
def endsPlain (inFlow : Bool) (character : Char) (rest : List Char) : Bool :=
  (character == ':' && atGapOrEnd rest) || (inFlow && isFlowIndicator character)

/-- Whether the text is a colon right before an indicator, which a flow collection does not allow
inside a plain scalar. -/
def isStrayColon (inFlow : Bool) (character : Char) (rest : List Char) : Bool :=
  inFlow && character == ':' &&
    match rest with
    | next :: _ => isFlowIndicator next || next == '?'
    | [] => false

/-- Whether a plain scalar ends behind a gap, before the given text. -/
def endsBehindGap (inFlow : Bool) (indent column : Nat) (text : List Char) : Bool :=
  (!inFlow && column < indent) || (column == 0 && isDocumentMark text) || text.head? == some '#'

/-- Reads a plain scalar from a position on. Lines that continue it are indented at least by
`indent`, except in flow collections. -/
def plainFrom (inFlow : Bool) (indent : Nat) (folding : Folding) (position : Position) :
    List Char → Option ScalarRead
  | [] => some ⟨textOf folding.backward, ⟨[], position⟩, folding.broken⟩
  | character :: rest =>
    if isGap character then
      if folding.broken && position.column < indent && character == '\t' then none
      else plainFrom inFlow indent (folding.blank character) (position.behind character) rest
    else if isBreak character then
      plainFrom inFlow indent (folding.lineBreak character) (position.behind character) rest
    else if folding.inGap && endsBehindGap inFlow indent position.column (character :: rest) then
      some ⟨textOf folding.backward, ⟨character :: rest, position⟩, folding.broken⟩
    else if isStrayColon inFlow character rest then none
    else if endsPlain inFlow character rest then
      some ⟨textOf folding.backward, ⟨character :: rest, position⟩, folding.broken⟩
    else plainFrom inFlow indent (folding.push character) (position.behind character) rest

/-- Reads a plain scalar. -/
def readPlain (inFlow : Bool) (indent : Nat) (cursor : Cursor) : Option ScalarRead :=
  plainFrom inFlow indent {} cursor.position cursor.rest

/-! ## Quoted scalars -/

/-- The value of a hexadecimal digit. -/
def hexValue? (character : Char) : Option Nat :=
  if '0' ≤ character ∧ character ≤ '9' then some (character.toNat - 48)
  else if 'a' ≤ character ∧ character ≤ 'f' then some (character.toNat - 87)
  else if 'A' ≤ character ∧ character ≤ 'F' then some (character.toNat - 55)
  else none

/-- The character that a letter after a backslash stands for. -/
def escaped? : Char → Option Char
  | '0' => some '\x00'
  | 'a' => some '\x07'
  | 'b' => some '\x08'
  | 't' => some '\t'
  | '\t' => some '\t'
  | 'n' => some '\n'
  | 'v' => some '\x0b'
  | 'f' => some '\x0c'
  | 'r' => some '\r'
  | 'e' => some '\x1b'
  | ' ' => some ' '
  | '"' => some '"'
  | '/' => some '/'
  | '\\' => some '\\'
  | 'N' => some '\u0085'
  | '_' => some '\u00a0'
  | 'L' => some '\u2028'
  | 'P' => some '\u2029'
  | _ => none

/-- The number of digits that a letter after a backslash announces. -/
def announcedDigits? : Char → Option Nat
  | 'x' => some 2
  | 'u' => some 4
  | 'U' => some 8
  | _ => none

/-- The character of a number, if the number is one's. -/
def characterOf? (code : Nat) : Option Char :=
  if code < 0xD800 ∨ (0xDFFF < code ∧ code ≤ 0x10FFFF) then some (Char.ofNat code) else none

/-- Reads the rest of a quoted scalar. `digits` is the number of digits of an escape that are still
due, with the value of those before them. -/
def quotedFrom (single : Bool) (folding : Folding) (digits : Option (Nat × Nat))
    (position : Position) : List Char → Option ScalarRead
  | [] => none
  | character :: rest =>
    match digits with
    | some (due, value) =>
      match hexValue? character with
      | none => none
      | some digit =>
        let value := value * 16 + digit
        match due with
        | 0 | 1 =>
          match characterOf? value with
          | some found =>
            quotedFrom single (folding.push found) none (position.behind character) rest
          | none => none
        | due + 1 => quotedFrom single folding (some (due, value)) (position.behind character) rest
    | none =>
      if isGap character then
        quotedFrom single (folding.blank character) none (position.behind character) rest
      else if isBreak character then
        quotedFrom single (folding.lineBreak character) none (position.behind character) rest
      else if position.column == 0 && isDocumentMark (character :: rest) then none
      else if single then
        if character = '\'' then
          match rest with
          | '\'' :: rest => quotedFrom single (folding.push '\'') none
              ((position.behind '\'').behind '\'') rest
          | _ => some ⟨textOf folding.joined, ⟨rest, position.behind character⟩, false⟩
        else quotedFrom single (folding.push character) none (position.behind character) rest
      else if character = '"' then
        some ⟨textOf folding.joined, ⟨rest, position.behind character⟩, false⟩
      else if character = '\\' then
        match rest with
        | [] => none
        | letter :: rest =>
          let next := (position.behind character).behind letter
          if isBreak letter then quotedFrom single folding.escapedBreak none next rest
          else
            match announcedDigits? letter with
            | some due => quotedFrom single folding (some (due, 0)) next rest
            | none =>
              match escaped? letter with
              | some found => quotedFrom single (folding.push found) none next rest
              | none => none
      else quotedFrom single (folding.push character) none (position.behind character) rest

/-- Reads a quoted scalar whose opening quote is at the position. -/
def readQuoted (single : Bool) (cursor : Cursor) : Option ScalarRead :=
  let inside := cursor.next
  quotedFrom single {} none inside.position inside.rest

/-! ## Block scalars -/

/-- What becomes of the line breaks at the end of a block scalar. -/
inductive Chomping
  | strip
  | clip
  | keep
  deriving DecidableEq, Repr

/-- The header of a block scalar: how it ends, and its indentation if that is given. -/
structure BlockHeader where
  chomping : Chomping := .clip
  increment : Nat := 0

/-- The chomping that a character asks for. -/
def chomping? : Char → Option Chomping
  | '-' => some .strip
  | '+' => some .keep
  | _ => none

/-- The indentation that a character gives, if it is a digit. Zero is none that could be given. -/
def increment? (character : Char) : Option Nat :=
  if character.isDigit then some (character.toNat - 48) else none

/-- Reads a block scalar's header, in either order of its two parts. -/
def readHeader : List Char → Option (BlockHeader × Nat)
  | [] => some ({}, 0)
  | first :: rest =>
    match chomping? first with
    | some chomping =>
      match rest.head?.bind increment? with
      | some 0 => none
      | some increment => some (⟨chomping, increment⟩, 2)
      | none => some (⟨chomping, 0⟩, 1)
    | none =>
      match increment? first with
      | some 0 => none
      | some increment =>
        match rest.head?.bind chomping? with
        | some chomping => some (⟨chomping, increment⟩, 2)
        | none => some (⟨.clip, increment⟩, 1)
      | none => some ({}, 0)

/-- A block scalar that is being read. The break that ended the last line and the breaks of empty
lines after it wait until it is known what follows them. -/
structure Block where
  folds : Bool
  least : Nat
  indent : Nat
  widest : Nat := 0
  inLine : Bool := false
  backward : List Char := []
  lineEnd : Option Char := none
  emptyLines : List Char := []
  startedBlank : Bool := false

namespace Block

/-- The column of the block's lines is known. -/
def isSettled (block : Block) : Bool :=
  block.indent != 0

/-- The block with its column settled by the widest run of spaces seen so far. -/
def settle (block : Block) (column : Nat) : Block :=
  if block.isSettled then block
  else { block with indent := max (max (max block.widest column) block.least) 1 }

/-- The characters with the waiting breaks, before a line that starts with the given character. -/
def joined (block : Block) (first : Char) : List Char :=
  if block.folds && block.lineEnd == some '\n' && !block.startedBlank && !isGap first then
    if block.emptyLines = [] then ' ' :: block.backward else block.emptyLines ++ block.backward
  else block.emptyLines ++ block.lineEnd.toList ++ block.backward

/-- Begins a line. -/
def begin (block : Block) (first : Char) : Block :=
  { block with
    inLine := true, backward := first :: block.joined first, lineEnd := none, emptyLines := [],
    startedBlank := isGap first }

/-- The text of the whole block. -/
def text (block : Block) (chomping : Chomping) : String :=
  textOf (match chomping with
    | .strip => block.backward
    | .clip => block.lineEnd.toList ++ block.backward
    | .keep => block.emptyLines ++ block.lineEnd.toList ++ block.backward)

end Block

/-- Reads a block scalar's lines. -/
def blockFrom (chomping : Chomping) (block : Block) (position : Position) :
    List Char → Option ScalarRead
  | [] => some ⟨block.text chomping, ⟨[], position⟩, false⟩
  | character :: rest =>
    if block.inLine then
      if isBreak character then
        blockFrom chomping { block with inLine := false, lineEnd := some character }
          (position.behind character) rest
      else
        blockFrom chomping { block with backward := character :: block.backward }
          (position.behind character) rest
    else
      let column := position.column
      let within := !block.isSettled || column < block.indent
      if within && character == ' ' then
        blockFrom chomping block (position.behind character) rest
      else if within && character == '\t' then none
      else if isBreak character then
        blockFrom chomping
          { block with
            emptyLines := character :: block.emptyLines, widest := max block.widest column }
          (position.behind character) rest
      else
        let block := block.settle column
        if column == block.indent then
          blockFrom chomping (block.begin character) (position.behind character) rest
        else some ⟨block.text chomping, ⟨character :: rest, position⟩, false⟩

/-- Reads a block scalar whose indicator is at the position. Its lines are indented by more than
`indent`, the indentation of what it stands in. -/
def readBlock (folds : Bool) (indent : Option Nat) (cursor : Cursor) : Option ScalarRead := do
  let cursor := cursor.next
  let (header, length) ← readHeader cursor.rest
  let cursor := (cursor.skip length).dropComment
  if !cursor.isAtLineEnd then none
  else
    let cursor := cursor.next
    blockFrom header.chomping
      { folds
        least := (indent.map (· + 1)).getD 0
        indent := if header.increment = 0 then 0 else indent.getD 0 + header.increment }
      cursor.position cursor.rest

end Yaml

end CompilerLauncher
