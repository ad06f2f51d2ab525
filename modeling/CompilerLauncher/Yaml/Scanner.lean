import CompilerLauncher.Yaml.Token

/-!
From the characters of a document to its tokens.

A word turns out to be a key only when a colon follows it, so the scanner remembers, for each level
of flow collections, the last place where a key may have begun; the tokens that announce a key are
put there when the colon is found. In block context the columns where collections began are held as
a list, and a line further to the left ends those collections.
-/

namespace CompilerLauncher

namespace Yaml

/-- A place where a key may have begun: the number of tokens before it, its position, and whether
nothing but a key can stand there. -/
structure KeyPlace where
  index : Nat
  position : Position
  required : Bool
  deriving Repr

/-- The scanner between two tokens. The tokens are held newest first, and `count` is how many they
are; `key` and `outerKeys` hold the place of a possible key of the current level and of each level
around it. -/
structure Scanner where
  cursor : Cursor
  backward : List Token := []
  count : Nat := 0
  key : Option KeyPlace := none
  outerKeys : List (Option KeyPlace) := []
  indents : List Nat := []
  keyAllowed : Bool := true

namespace Scanner

/-- The number of bytes that a key on one line may span. -/
def keySpan : Nat := 1024

/-- The column where the innermost block collection began. -/
def indent (scanner : Scanner) : Option Nat :=
  scanner.indents.head?

/-- Whether the scanner is inside a flow collection. -/
def inFlow (scanner : Scanner) : Bool :=
  !scanner.outerKeys.isEmpty

/-- The column from which on lines continue a plain scalar. -/
def inner (scanner : Scanner) : Nat :=
  (scanner.indent.map (· + 1)).getD 0

/-- Adds a token and goes on behind it. -/
def emitTo (scanner : Scanner) (token : Token) (cursor : Cursor) : Scanner :=
  { scanner with cursor, backward := token :: scanner.backward, count := scanner.count + 1 }

/-- Adds a token before those from an index on. -/
def insert (scanner : Scanner) (index : Nat) (token : Token) : Scanner :=
  let later := scanner.count - index
  { scanner with
    backward := scanner.backward.take later ++ token :: scanner.backward.drop later
    count := scanner.count + 1 }

/-! ## Indentation -/

/-- How many of the columns where block collections began, the innermost first, lie right of a
column; without a column, all of them. -/
def endedBy (column : Option Nat) (indents : List Nat) : Nat :=
  match indents with
  | [] => 0
  | indent :: outer =>
    if column.any (indent ≤ ·) then 0 else endedBy column outer + 1

/-- Ends the block collections that began right of a column; without a column, all of them. -/
def unroll (scanner : Scanner) (column : Option Nat) : Scanner :=
  if scanner.inFlow then scanner
  else
    let ended := endedBy column scanner.indents
    { scanner with
      backward := List.replicate ended .blockEnd ++ scanner.backward
      count := scanner.count + ended
      indents := scanner.indents.drop ended }

/-- Begins a block collection at a column if one is due there, with its token before those from an
index on. -/
def roll (scanner : Scanner) (column index : Nat) (token : Token) : Scanner :=
  if scanner.inFlow || scanner.indent.any (column ≤ ·) then scanner
  else
    { scanner.insert index token with indents := column :: scanner.indents }

/-! ## Possible keys -/

/-- Gives up the possible key of the current level; a key that is required must not be given up. -/
def forgetKey (scanner : Scanner) : Option Scanner :=
  if scanner.key.any (·.required) then none else some { scanner with key := none }

/-- Remembers that a key may begin here. -/
def saveKey (scanner : Scanner) : Option Scanner :=
  if scanner.keyAllowed then
    scanner.forgetKey.map fun scanner =>
      { scanner with
        key := some {
          index := scanner.count
          position := scanner.cursor.position
          required := !scanner.inFlow && scanner.indent == some scanner.cursor.column } }
  else some scanner

/-- Whether a key that began at a place can no longer end at the position. -/
def isStale (cursor : Cursor) (key : KeyPlace) : Bool :=
  key.position.line < cursor.line || key.position.offset + keySpan < cursor.position.offset

/-- The possible key of a level, given up if it is stale. -/
def freshKey (cursor : Cursor) (key : Option KeyPlace) : Option (Option KeyPlace) :=
  match key with
  | none => some none
  | some place =>
    if isStale cursor place then if place.required then none else some none else some (some place)

/-- Gives up the possible keys of all levels that have become stale. -/
def dropStale (scanner : Scanner) : Option Scanner := do
  let key ← freshKey scanner.cursor scanner.key
  let outerKeys ← scanner.outerKeys.mapM (freshKey scanner.cursor)
  return { scanner with key, outerKeys }

/-! ## Between tokens -/

/-- The mark of byte order, with which a line may begin. It takes up a column. -/
def orderMark : Char := '\uFEFF'

/-- The position behind the mark of byte order, if a line begins with one here. -/
def behindMark (cursor : Cursor) : Cursor :=
  if cursor.column == 0 && cursor.isAt orderMark then cursor.next else cursor

/-- Skips blanks, comments and line breaks, at most as many as `fuel`. Tabs count as blanks where no
key may begin. -/
def skipBlank : Nat → Scanner → Scanner
  | 0, scanner => scanner
  | fuel + 1, scanner =>
    let isBlank (character : Char) : Bool :=
      character == ' ' || ((scanner.inFlow || !scanner.keyAllowed) && character == '\t')
    let cursor := (behindMark scanner.cursor).dropWhile isBlank
    let cursor := if cursor.isAt '#' then cursor.dropWhile fun _ => true else cursor
    match cursor.rest with
    | character :: _ =>
      if isBreak character then
        skipBlank fuel
          { scanner with
            cursor := cursor.next, keyAllowed := scanner.keyAllowed || !scanner.inFlow }
      else { scanner with cursor }
    | [] => { scanner with cursor }

/-! ## Tokens -/

/-- Takes a mark or a directive that stands between documents. -/
def takeBetween (scanner : Scanner) (read : TokenRead) : Option Scanner := do
  let (token, behind) ← read
  let scanner ← (scanner.unroll none).forgetKey
  return { scanner.emitTo token behind with keyAllowed := false }

/-- Takes the start of a flow collection. -/
def takeFlowStart (scanner : Scanner) (token : Token) : Option Scanner := do
  let scanner ← scanner.saveKey
  return { scanner.emitTo token scanner.cursor.next with
    key := none, outerKeys := scanner.key :: scanner.outerKeys, keyAllowed := true }

/-- Takes the end of a flow collection. -/
def takeFlowEnd (scanner : Scanner) (token : Token) : Option Scanner := do
  let scanner ← scanner.forgetKey
  let scanner := { scanner.emitTo token scanner.cursor.next with keyAllowed := false }
  match scanner.outerKeys with
  | [] => return scanner
  | key :: outerKeys => return { scanner with key, outerKeys }

/-- Takes the separator of a flow collection's entries. -/
def takeFlowEntry (scanner : Scanner) : Option Scanner := do
  let scanner ← scanner.forgetKey
  return { scanner.emitTo .flowEntry scanner.cursor.next with keyAllowed := true }

/-- Begins a block collection where a key would be allowed. -/
def rollHere (scanner : Scanner) (token : Token) : Option Scanner :=
  if scanner.inFlow then some scanner
  else if scanner.keyAllowed then
    some (scanner.roll scanner.cursor.column scanner.count token)
  else none

/-- Takes the mark of a block sequence's entry. -/
def takeBlockEntry (scanner : Scanner) : Option Scanner := do
  let scanner ← scanner.rollHere .blockSequenceStart
  let scanner ← scanner.forgetKey
  return { scanner.emitTo .blockEntry scanner.cursor.next with keyAllowed := true }

/-- Takes the mark of a key that is written with one. -/
def takeKey (scanner : Scanner) : Option Scanner := do
  let scanner ← scanner.rollHere .blockMappingStart
  let scanner ← scanner.forgetKey
  return { scanner.emitTo .key scanner.cursor.next with keyAllowed := !scanner.inFlow }

/-- Takes the colon behind a key. If a key may have begun on this level, it did. -/
def takeValue (scanner : Scanner) : Option Scanner := do
  match scanner.key with
  | some place =>
    let scanner := scanner.insert place.index .key
    let scanner := scanner.roll place.position.column place.index .blockMappingStart
    return { scanner.emitTo .value scanner.cursor.next with key := none, keyAllowed := false }
  | none =>
    let scanner ← scanner.rollHere .blockMappingStart
    return { scanner.emitTo .value scanner.cursor.next with keyAllowed := !scanner.inFlow }

/-- Takes a token that may begin a key and behind which none may begin. -/
def takeProperty (scanner : Scanner) (read : TokenRead) : Option Scanner := do
  let (token, behind) ← read
  let scanner ← scanner.saveKey
  return { scanner.emitTo token behind with keyAllowed := false }

/-- Takes a plain or quoted scalar. A key may begin behind a plain one that was followed by a line
break. -/
def takeScalar (scanner : Scanner) (style : Style) (read : Option ScalarRead) :
    Option Scanner := do
  let read ← read
  let scanner ← scanner.saveKey
  return { scanner.emitTo (.scalar style read.text) read.behind with keyAllowed := read.broken }

/-- Takes a block scalar. -/
def takeBlock (scanner : Scanner) (style : Style) : Option Scanner := do
  let scanner ← scanner.forgetKey
  let read ← readBlock (style == .folded) scanner.indent scanner.cursor
  return { scanner.emitTo (.scalar style read.text) read.behind with keyAllowed := true }

/-- Whether a plain scalar may start with a character, given what follows it. -/
def startsPlain (inFlow : Bool) (character : Char) (rest : List Char) : Bool :=
  if character == '-' then !rest.head?.any isGap
  else if character == '?' || character == ':' then !inFlow && !atGapOrEnd rest
  else
    !isGap character && !isBreak character && !isFlowIndicator character
      && !"#&*!|>'\"%@\x60".toList.contains character

/-- Takes the token that starts with a character. -/
def take (scanner : Scanner) (character : Char) (rest : List Char) : Option Scanner :=
  let cursor := scanner.cursor
  let atStart := cursor.column == 0
  let named (token : String → Token) : TokenRead :=
    (readName cursor).map fun (name, behind) => (token name, behind)
  if atStart && character == '%' then scanner.takeBetween (readDirective cursor)
  else if atStart && isTriple '-' cursor.rest then
    scanner.takeBetween (some (.documentStart, cursor.skip 3))
  else if atStart && isTriple '.' cursor.rest then
    scanner.takeBetween (some (.documentEnd, cursor.skip 3))
  else if character == '[' then scanner.takeFlowStart .flowSequenceStart
  else if character == '\x7b' then scanner.takeFlowStart .flowMappingStart
  else if character == ']' then scanner.takeFlowEnd .flowSequenceEnd
  else if character == '\x7d' then scanner.takeFlowEnd .flowMappingEnd
  else if character == ',' then scanner.takeFlowEntry
  else if character == '-' && atGapOrEnd rest then scanner.takeBlockEntry
  else if character == '?' && (scanner.inFlow || atGapOrEnd rest) then scanner.takeKey
  else if character == ':' && (scanner.inFlow || atGapOrEnd rest) then scanner.takeValue
  else if character == '*' then scanner.takeProperty (named .alias)
  else if character == '&' then scanner.takeProperty (named .anchor)
  else if character == '!' then scanner.takeProperty (readTag scanner.inFlow cursor)
  else if character == '|' && !scanner.inFlow then scanner.takeBlock .literal
  else if character == '>' && !scanner.inFlow then scanner.takeBlock .folded
  else if character == '\'' then scanner.takeScalar .singleQuoted (readQuoted true cursor)
  else if character == '"' then scanner.takeScalar .doubleQuoted (readQuoted false cursor)
  else if startsPlain scanner.inFlow character rest then
    scanner.takeScalar .plain (readPlain scanner.inFlow scanner.inner cursor)
  else none

/-- Ends the document: the open block collections end, and no key may be missing. -/
def finish (scanner : Scanner) : Option (List Token) := do
  let scanner ← (scanner.unroll none).forgetKey
  return scanner.backward.reverse

/-- Takes tokens until the end, at most as many as `fuel`. As many line breaks are skipped before a
token, which is enough if the fuel exceeds the number of characters that remain. -/
def run : Nat → Scanner → Option (List Token)
  | 0, _ => none
  | fuel + 1, scanner => do
    let scanner := scanner.skipBlank (fuel + 1)
    let scanner ← scanner.dropStale
    let scanner := scanner.unroll (some scanner.cursor.column)
    match scanner.cursor.rest with
    | [] => scanner.finish
    | character :: rest => (scanner.take character rest).bind (run fuel)

end Scanner

/-- The tokens of a text, if it is made of tokens. Each of them takes up a character at least. -/
def tokens? (text : String) : Option (List Token) :=
  let characters := text.toList
  if characters.all isAllowed then
    let normal := normalize characters
    Scanner.run (normal.length + 1) { cursor := ⟨normal, {}⟩ }
  else none

end Yaml

end CompilerLauncher
