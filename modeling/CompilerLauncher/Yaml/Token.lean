import CompilerLauncher.Yaml.Scalar
import CompilerLauncher.Text.Utf8

/-!
The tokens of a document, and the readers of those that are neither punctuation nor scalars: anchors
and aliases, tags, and directives.
-/

namespace CompilerLauncher

namespace Yaml

/-- A token of a document. The start and end of block collections follow from the indentation. -/
inductive Token
  | version (major minor : Nat)
  | handle (handle start : Bytes)
  | documentStart
  | documentEnd
  | blockSequenceStart
  | blockMappingStart
  | blockEnd
  | flowSequenceStart
  | flowSequenceEnd
  | flowMappingStart
  | flowMappingEnd
  | blockEntry
  | flowEntry
  | key
  | value
  | alias (name : String)
  | anchor (name : String)
  | tag (handle suffix : Bytes)
  | scalar (style : Style) (text : String)
  deriving DecidableEq, Repr

/-- A token that has been read, and the position behind it. -/
abbrev TokenRead := Option (Token × Cursor)

/-! ## Anchors and aliases -/

/-- The characters besides gaps that may follow the name of an anchor. -/
def followsName (character : Char) : Bool :=
  ['?', ':', ',', ']', '\x7d', '%', '@', '\x60'].contains character

/-- Reads the name behind the indicator of an anchor or an alias. -/
def readName (cursor : Cursor) : Option (String × Cursor) :=
  let (name, behind) := cursor.next.takeWhile isWord
  if name = [] then none
  else if behind.isAtGapOrEnd || behind.rest.head?.any followsName then
    some (String.ofList name, behind)
  else none

/-! ## Tags -/

/-- A character of a tag that is written as it is. -/
def isTagCharacter (verbatim : Bool) (character : Char) : Bool :=
  isWord character || ";/?:@&=+$.!~*'()".toList.contains character
    || (verbatim && ",[]".toList.contains character)

/-- The byte that two digits after a percent sign stand for. -/
def octet? (high low : Char) : Option Nat := do
  let high ← hexValue? high
  let low ← hexValue? low
  return high * 16 + low

/-- The number of bytes of a character whose first byte is given. -/
def widthOfLead (octet : Nat) : Option Nat :=
  if octet < 0x80 then some 1
  else if octet / 32 = 6 then some 2
  else if octet / 16 = 14 then some 3
  else if octet / 8 = 30 then some 4
  else none

/-- The number of further bytes that a character needs behind one of its bytes, if that byte may
stand where `due` bytes of a character are missing. -/
def dueBehind (due octet : Nat) : Option Nat :=
  match due with
  | 0 => (widthOfLead octet).map (· - 1)
  | due + 1 => if octet / 64 = 2 then some due else none

/-- Reads the characters of a tag into bytes, which are held newest first. A character may be
escaped byte by byte; `due` of its bytes are still missing. -/
def tagBytes (verbatim : Bool) (due : Nat) (backward : Bytes) (position : Position) :
    List Char → Option (Bytes × Cursor)
  | '%' :: high :: low :: rest =>
    match octet? high low with
    | none => none
    | some octet =>
      match dueBehind due octet with
      | none => none
      | some due =>
        tagBytes verbatim due (UInt8.ofNat octet :: backward)
          (((position.behind '%').behind high).behind low) rest
  | character :: rest =>
    if due ≠ 0 ∨ character = '%' then none
    else if isTagCharacter verbatim character then
      tagBytes verbatim due ((String.utf8EncodeChar character).reverse ++ backward)
        (position.behind character) rest
    else some (backward.reverse, ⟨character :: rest, position⟩)
  | [] => if due = 0 then some (backward.reverse, ⟨[], position⟩) else none

/-- Reads the rest of a tag behind what has been read of it already. -/
def readTagRest (verbatim : Bool) (start : Bytes) (cursor : Cursor) : Option (Bytes × Cursor) := do
  let (bytes, behind) ← tagBytes verbatim 0 [] cursor.position cursor.rest
  if start = [] ∧ bytes = [] then none
  else return (start.drop 1 ++ bytes, behind)

/-- Reads what may be the handle of a tag: an exclamation mark, a word, and one more mark if it is
there. -/
def readHandle (cursor : Cursor) : Option (Bytes × Cursor) :=
  if cursor.isAt '!' then
    let (word, behind) := cursor.next.takeWhile isWord
    let start := '!' :: word
    if behind.isAt '!' then
      some (Utf8.encode (String.ofList (start ++ ['!'])), behind.next)
    else some (Utf8.encode (String.ofList start), behind)
  else none

/-- The byte of an exclamation mark. -/
def bang : UInt8 := 33

/-- Whether what was read is a handle with a mark at both ends. -/
def isWholeHandle (handle : Bytes) : Bool :=
  1 < handle.length && handle.getLast? == some bang

/-- Whether a tag may end here. -/
def endsTag (inFlow : Bool) (cursor : Cursor) : Bool :=
  cursor.isAtGapOrEnd || (inFlow && cursor.isAt ',')

/-- Reads a tag in one of its forms: verbatim between angle brackets, with a handle, or local. -/
def readTag (inFlow : Bool) (cursor : Cursor) : TokenRead := do
  let (handle, suffix, behind) ←
    if cursor.next.isAt '<' then do
      let (suffix, behind) ← readTagRest true [] (cursor.skip 2)
      if behind.isAt '>' then pure (([] : Bytes), suffix, behind.next) else none
    else do
      let (handle, behind) ← readHandle cursor
      if isWholeHandle handle then do
        let (suffix, behind) ← readTagRest false [] behind
        pure (handle, suffix, behind)
      else do
        let (suffix, behind) ← readTagRest false handle behind
        if suffix.head?.getD 0 = 0 then pure (([] : Bytes), [bang], behind)
        else pure ([bang], suffix, behind)
  if endsTag inFlow behind then return (.tag handle suffix, behind) else none

/-! ## Directives -/

/-- The greatest number of digits of a version. -/
def versionDigits : Nat := 9

/-- Reads a number of a version. -/
def readNumber (cursor : Cursor) : Option (Nat × Cursor) :=
  let (digits, behind) := cursor.takeWhile Char.isDigit
  if digits = [] ∨ versionDigits < digits.length then none
  else some (digits.foldl (fun sum digit => sum * 10 + (digit.toNat - 48)) 0, behind)

/-- Reads the value of a version directive. -/
def readVersion (cursor : Cursor) : TokenRead := do
  let (major, behind) ← readNumber (cursor.dropWhile isGap)
  if behind.isAt '.' then do
    let (minor, behind) ← readNumber behind.next
    return (.version major minor, behind)
  else none

/-- Reads the value of a directive that introduces a handle for tags. -/
def readHandleDirective (cursor : Cursor) : TokenRead := do
  let (handle, behind) ← readHandle (cursor.dropWhile isGap)
  if handle ≠ [bang] ∧ !isWholeHandle handle then none
  else if behind.rest.head?.any isGap then do
    let (start, behind) ← readTagRest true [] (behind.dropWhile isGap)
    if behind.isAtGapOrEnd then return (.handle handle start, behind) else none
  else none

/-- Reads a directive and the rest of its line. -/
def readDirective (cursor : Cursor) : TokenRead := do
  let (name, behind) := cursor.next.takeWhile isWord
  if !behind.isAtGapOrEnd then none
  else
    let (token, behind) ←
      if name = "YAML".toList then readVersion behind
      else if name = "TAG".toList then readHandleDirective behind
      else none
    let behind := behind.dropComment
    if behind.isAtLineEnd then return (token, behind.next) else none

end Yaml

end CompilerLauncher
