import CompilerLauncher.Script.Source

/-!
Words while they are read.

Two stacks grow and shrink as a word goes on. A `Level` says how bytes are read: what quotes are
open, and how many braces and parentheses. A `Frame` collects the parts of the word itself, or of an
operand or an arithmetic expression inside it. Operands open a level of their own only where their
bytes are read in another way than those around them, so braces are counted within a level.
-/

namespace CompilerLauncher

namespace Script

/-- How bytes are read: as they are, between quotes of one of the two kinds, or as arithmetic. -/
inductive Quoting
  | none
  | single
  | double
  | arithmetic
  deriving DecidableEq, Repr

/-- What a word that is read is for: to be used, to mark the end of a document, or to be the text of
a document, which ends before a line that is the mark. -/
inductive Purpose
  | use
  | mark
  | document (mark : Bytes) (dropsTabs : Bool)
  deriving DecidableEq, Repr

/-- How bytes are read at one level. `isDouble` says that the level is between double quotes
whatever is open inside them, `isInner` that quotes are open inside braces, `doubleBraces` counts
those of the braces that are between double quotes, and `isPushed` says that the level ends with its
last brace. -/
structure Level where
  quoting : Quoting := .none
  isDouble : Bool := false
  isInner : Bool := false
  braces : Nat := 0
  doubleBraces : Nat := 0
  isPushed : Bool := false
  parentheses : Nat := 0
  deriving DecidableEq, Repr

/-- Bytes that stand for themselves at a level. -/
def Level.isPlain (level : Level) (byte : UInt8) : Bool :=
  match level.quoting with
  | .none => !isOneOf "\n\\'\"\x60$\x7d<>();&| \t" byte
  | .single => !isOneOf "\n'" byte
  | .double => !isOneOf "\n\\\"\x60$\x7d" byte
  | .arithmetic => !isOneOf "\n\\\x60$\x7d()" byte

/-- What the parts of a frame become when it is closed. -/
inductive Enclosure
  | parameter (name : Bytes) (treatment : Treatment) (quoted : Bool)
  | arithmetic (quoted : Bool)

/-- Parts that are collected, newest first. They are quoted if all of the frame is (`inherits`) or
if quotes are open in it (`isOpen`). -/
structure Frame where
  backward : Word := []
  inherits : Bool := false
  isOpen : Bool := false

/-- A word that is read: the innermost level and those around it, the innermost frame and those
around it, each with what the one inside it becomes, and whether quotes have taken part. -/
structure Draft where
  purpose : Purpose
  level : Level := {}
  outerLevels : List Level := []
  frame : Frame := {}
  outerFrames : List (Enclosure × Frame) := []
  isQuoted : Bool := false

namespace Draft

/-- The name of all arguments, each by itself. -/
def everyArgument : Bytes := Utf8.encode "@"

/-- Whether a word is read as the text of a document. -/
def isDocument (draft : Draft) : Bool :=
  match draft.purpose with
  | .document .. => true
  | _ => false

/-- Whether a replacement that stands here is quoted. -/
def quotes (draft : Draft) : Bool :=
  draft.frame.inherits || draft.frame.isOpen

/-- The draft with one more part. -/
def add (draft : Draft) (part : Part) : Draft :=
  { draft with frame := { draft.frame with backward := part :: draft.frame.backward } }

/-- The draft with text. -/
def put (draft : Draft) (bytes : Bytes) : Draft :=
  let between := draft.level.quoting = .single || draft.level.quoting = .double
  draft.add (.text bytes (between || draft.quotes))

/-- The draft with text that is quoted by itself. -/
def putEscaped (draft : Draft) (bytes : Bytes) : Draft :=
  draft.add (.text bytes true)

/-- Changes the innermost level. -/
def onLevel (draft : Draft) (change : Level → Level) : Draft :=
  { draft with level := change draft.level }

/-- The draft behind a quotation mark. The mark leaves an empty quoted text, so that even an empty
quotation is seen, unless all that the quotation holds is every argument. In documents the marks
leave nothing. -/
def toggle (draft : Draft) : Draft :=
  if draft.isDocument then draft
  else if draft.frame.isOpen then
    let backward :=
      match draft.frame.backward with
      | .parameter name .value operand quoted :: .text [] true :: earlier =>
        if name = everyArgument then .parameter name .value operand quoted :: earlier
        else draft.frame.backward
      | backward => backward
    { draft with frame := { draft.frame with backward, isOpen := false } }
  else
    let opened := draft.add (.text [] true)
    { opened with frame := { opened.frame with isOpen := true } }

/-- The draft behind a double quotation mark. -/
def toggleDouble (draft : Draft) : Draft :=
  (draft.onLevel fun level =>
    { level with isInner := level.isInner != decide (0 < level.braces) }).toggle

/-- The draft behind a quotation mark that opens single quotes. -/
def openSingle (draft : Draft) : Draft :=
  (draft.onLevel fun level => { level with quoting := .single }).toggle

/-- The draft behind a quotation mark that opens double quotes. -/
def openDouble (draft : Draft) : Draft :=
  (draft.onLevel fun level => { level with quoting := .double, isDouble := true }).toggleDouble

/-- The draft behind a quotation mark that closes quotes. Between braces that stand in double quotes
the quotes stay open. -/
def closeQuotes (draft : Draft) (mark : UInt8) : Draft :=
  if draft.isDocument && draft.level.braces = 0 then draft.put [mark]
  else
    let closed := draft.onLevel fun level =>
      if level.doubleBraces = 0 then { level with quoting := .none, isDouble := false } else level
    let closed := { closed with isQuoted := true }
    if isSign '"' mark then closed.toggleDouble else closed.toggle

/-- The draft inside of something that it opens. -/
def enclose (draft : Draft) (enclosure : Enclosure) (inherits : Bool) : Draft :=
  { draft with
    frame := { inherits }
    outerFrames := (enclosure, draft.frame) :: draft.outerFrames }

/-- The draft behind something that it closes. -/
def disclose (draft : Draft) : Draft :=
  match draft.outerFrames with
  | [] => draft
  | (enclosure, frame) :: outerFrames =>
    let inside := Word.merged draft.frame.backward.reverse
    let part : Part :=
      match enclosure with
      | .parameter name treatment quoted => .parameter name treatment inside quoted
      | .arithmetic quoted => .arithmetic inside quoted
    { draft with
      frame := { frame with backward := part :: frame.backward }
      outerFrames }

/-- The draft inside of an arithmetic expression. -/
def openArithmetic (draft : Draft) : Draft :=
  let opened := draft.enclose (.arithmetic draft.quotes) false
  { opened with
    level := { quoting := .arithmetic, isDouble := true }
    outerLevels := draft.level :: draft.outerLevels }

/-- The draft on the next outer level. -/
def popLevel (draft : Draft) : Draft :=
  match draft.outerLevels with
  | [] => draft
  | level :: outerLevels => { draft with level, outerLevels }

/-- Whether a treatment's operand is a word of its own, whatever quotes the parameter stands in. -/
def standsAlone : Treatment → Bool
  | .orAssign _ | .orFail _ | .withoutStart _ | .withoutEnd _ => true
  | _ => false

/-- The draft inside of the braces of a parameter, behind its name and treatment. A pattern is read
without the quotes around the parameter. -/
def openBraces (draft : Draft) (name : Bytes) (treatment : Treatment) : Draft :=
  let quoting : Quoting :=
    match treatment with
    | .withoutStart _ | .withoutEnd _ => .none
    | _ => if draft.level.quoting = .arithmetic then .double else draft.level.quoting
  let opened := draft.enclose (.parameter name treatment draft.quotes)
    (!standsAlone treatment && draft.quotes)
  let opened :=
    if quoting ≠ draft.level.quoting || draft.level.isInner then
      { opened with
        level := { quoting, isDouble := quoting != .none, isPushed := true }
        outerLevels := draft.level :: draft.outerLevels }
    else opened
  opened.onLevel fun level =>
    { level with
      braces := level.braces + 1
      doubleBraces := if level.isDouble then level.doubleBraces + 1 else level.doubleBraces }

/-- The draft behind a closing brace. -/
def closeBrace (draft : Draft) (brace : UInt8) : Draft :=
  let level := draft.level
  if level.isInner || level.braces = 0 then draft.put [brace]
  else
    let counted : Level := { level with braces := level.braces - 1 }
    let left : Draft :=
      if counted.braces = 0 && level.isPushed then { draft with level := counted }.popLevel
      else { draft with level := { counted with doubleBraces := level.doubleBraces - 1 } }
    left.disclose

/-- The draft behind the parentheses that close an arithmetic expression. -/
def closeArithmetic (draft : Draft) : Draft :=
  draft.popLevel.disclose

/-- Whether a backslash frees the byte behind it; where it does not, it stays. -/
def frees (draft : Draft) (byte : UInt8) : Bool :=
  !draft.level.isDouble || isOneOf "\\\x60$" byte ||
    (isSign '"' byte && !(draft.isDocument && draft.level.braces = 0)) ||
    (isSign '\x7d' byte && draft.level.braces != 0)

/-- The draft behind a backslash and the byte behind it. -/
def escape (draft : Draft) (backslash byte : UInt8) : Draft :=
  let escaped :=
    if draft.frees byte then draft.putEscaped [byte] else draft.putEscaped [backslash, byte]
  { escaped with isQuoted := true }

/-- What is open at the end of the draft. -/
def opening? (draft : Draft) : Option Opening :=
  if draft.level.quoting = .arithmetic then some .arithmetic
  else if draft.level.quoting ≠ .none && !draft.isDocument then some .quotation
  else if draft.level.braces ≠ 0 then some .braces
  else none

/-- The word that has been read. -/
def word (draft : Draft) : Word :=
  Word.merged draft.frame.backward.reverse

/-- The number of a descriptor that the draft is: one unquoted digit; an empty draft is the
`usual` one. -/
def descriptor? (draft : Draft) (usual : Nat) : Option Nat :=
  if draft.isQuoted then none
  else
    match draft.frame.backward with
    | [] => some usual
    | [.text [digit] false] => if isDigit digit then some (decimal [digit]) else none
    | _ => none

end Draft

end Script

end CompilerLauncher
