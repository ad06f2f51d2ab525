import CompilerLauncher.Script.Command

/-!
Scripts while they are read: the bytes that are left, with the texts of aliases that stand in for
names, the line, the last lexeme, and the documents that redirections wait for.

`Reader` is an action that reads; it goes on with the rest of the script or ends with a `Fault`.
-/

namespace CompilerLauncher

namespace Script

/-! ## Lexemes and faults -/

/-- A lexeme of a script. What a word or a redirection consists of is kept by the source. -/
inductive Token
  | scriptEnd
  | lineEnd
  | separator
  | background
  | both
  | pipe
  | either
  | opening
  | closing
  | armEnd
  | redirection
  | word
  | reserved (name : String)
  deriving DecidableEq, Repr

namespace Token

/-- A lexeme in words. -/
def shown : Token → String
  | scriptEnd => "end of file"
  | lineEnd => "newline"
  | separator => "\";\""
  | background => "\"&\""
  | both => "\"&&\""
  | pipe => "\"|\""
  | either => "\"||\""
  | opening => "\"(\""
  | closing => "\")\""
  | armEnd => "\";;\""
  | redirection => "redirection"
  | word => "word"
  | reserved name => s!"\"{name}\""

/-- Whether commands may end before the lexeme. -/
def endsList : Token → Bool
  | scriptEnd | closing | armEnd => true
  | reserved name =>
    ["do", "done", "elif", "else", "esac", "fi", "then", "\x7d"].contains name
  | _ => false

end Token

/-- What a script opens and does not close. -/
inductive Opening
  | quotation
  | braces
  | backquote
  | arithmetic
  deriving DecidableEq, Repr

/-- What is wrong with a script: something is not closed, a name is none, or there is a lexeme where
it cannot be, and another one was expected if that is sure. -/
inductive Mistake
  | unfinished (opening : Opening)
  | badName (what : String)
  | unexpected (found : Token) (expected : Option Token)
  deriving DecidableEq, Repr

/-- A mistake and the line that it was noticed in. -/
structure Fault where
  mistake : Mistake
  line : Nat
  deriving DecidableEq, Repr

/-- A mistake in words. -/
def Mistake.message : Mistake → String
  | unfinished .quotation => "Syntax error: Unterminated quoted string"
  | unfinished .braces => "Syntax error: Missing '\x7d'"
  | unfinished .backquote => "Syntax error: EOF in backquote substitution"
  | unfinished .arithmetic => "Syntax error: Missing '))'"
  | badName what => s!"Syntax error: Bad {what}"
  | unexpected found none => s!"Syntax error: {found.shown} unexpected"
  | unexpected found (some expected) =>
    s!"Syntax error: {found.shown} unexpected (expecting {expected.shown})"

/-! ## Sources -/

/-- The text of an alias, which is read in the place of its name. -/
structure Layer where
  name : Bytes
  unread : Bytes
  endsInGap : Bool

/-- The operator of a redirection: its descriptor and what it does, or the start of a document,
whose lines may lose the tabs that they begin with. -/
inductive Arrow
  | place (descriptor : Nat) (direction : Direction)
  | document (descriptor : Nat) (dropsTabs : Bool)

/-- A document that a redirection waits for: its number, the line that ends it, whether nothing in
it is replaced, and whether its lines lose the tabs that they begin with. -/
structure Awaited where
  number : Nat
  mark : Bytes
  isRaw : Bool
  dropsTabs : Bool

/-- A script while it is read. The last lexeme can be pushed back. `word` and `arrow` say what the
last word and the last redirection were, `isQuoted` whether quotes took part in the word. `busy` are
aliases that are not replaced because the source stands inside their text, and `afterGap` says that
a text with a gap at its end has just been left. -/
structure Source where
  unread : Bytes
  layers : List Layer := []
  line : Nat := 1
  aliases : List (Bytes × Bytes) := []
  busy : List Bytes := []
  afterGap : Bool := false
  token : Token := .scriptEnd
  isPushedBack : Bool := false
  word : Word := []
  isQuoted : Bool := false
  arrow : Arrow := .place 0 .input
  awaited : List Awaited := []
  documents : List (Nat × Word) := []
  nextDocument : Nat := 0

namespace Source

/-- The next byte. -/
def next? (source : Source) : Option UInt8 :=
  match source.layers.find? fun layer => !layer.unread.isEmpty with
  | some layer => layer.unread.head?
  | none => source.unread.head?

/-- The source without the layers that have been read to their ends. -/
def settled (source : Source) : Source :=
  let finished := source.layers.takeWhile fun layer => layer.unread.isEmpty
  if finished.isEmpty then source
  else
    { source with
      layers := source.layers.drop finished.length
      afterGap := source.afterGap || finished.any (·.endsInGap) }

/-- The longest run of bytes of a class that stand next in one text, and the source behind it. -/
def run (isMember : UInt8 → Bool) (source : Source) : Bytes × Source :=
  let source := source.settled
  match source.layers with
  | [] =>
    let (found, rest) := source.unread.span isMember
    (found, { source with unread := rest })
  | layer :: layers =>
    let (found, rest) := layer.unread.span isMember
    (found, { source with layers := { layer with unread := rest } :: layers })

/-- The source behind the next byte. -/
def advance (source : Source) : Source :=
  let source := source.settled
  match source.layers with
  | [] => { source with unread := source.unread.tail }
  | layer :: layers =>
    { source with layers := { layer with unread := layer.unread.tail } :: layers }

/-- The source behind the given bytes, if they come next. -/
def behind? : Bytes → Source → Option Source
  | [], source => some source
  | byte :: rest, source => if source.next? = some byte then behind? rest source.advance else none

/-- The source behind the backslashes at whose line ends lines are joined, of which at most as many
as `fuel` are left out. -/
def joined : Nat → Source → Source
  | 0, source => source
  | fuel + 1, source =>
    if source.next?.any (isSign '\\') then
      let behind := source.advance
      if behind.next? = some newline then
        joined fuel { behind.advance with line := source.line + 1 }
      else source
    else source

/-- The reserved word that the last word is. -/
def reserved? (source : Source) : Option String :=
  (Word.plain? source.word).bind fun text => reservedWords.find? fun name =>
    Utf8.encode name == text

/-- The alias that the last word is, unless the source stands inside its text. -/
def alias? (source : Source) : Option (Bytes × Bytes) :=
  match Word.plain? source.word with
  | none => none
  | some name =>
    if source.busy.contains name || source.layers.any (·.name == name) then none
    else (source.aliases.lookup name).map fun text => (name, text)

/-- The source with an alias's text before everything else. -/
def push (source : Source) (name text : Bytes) : Source :=
  if text = [] then source
  else
    { source with
      layers := ⟨name, text, text.getLast?.any isGap⟩ :: source.layers }

/-- The aliases whose text the source stands in. -/
def busyNames (source : Source) : List Bytes :=
  source.layers.map (·.name) ++ source.busy

end Source

/-! ## Reading -/

/-- An action that reads from a source. -/
abbrev Reader := StateT Source (Except Fault)

/-- Something that still waits for the texts of documents, which are given by their numbers. -/
abbrev Awaiting := ReaderM (List (Nat × Word))

namespace Reader

/-- Stops with a mistake. -/
def stop {α : Type} (mistake : Mistake) : Reader α :=
  fun source => .error ⟨mistake, source.line⟩

/-- Stops at the last lexeme. -/
def refuse {α : Type} (expected : Option Token) : Reader α :=
  fun source => .error ⟨.unexpected source.token expected, source.line⟩

/-- Stops because nothing can be nested deeper. -/
def tooDeep {α : Type} : Reader α :=
  stop (.unfinished .quotation)

/-- Takes the next byte. -/
def take : Reader Unit :=
  modify Source.advance

/-- Counts the end of a line. -/
def countLine : Reader Unit :=
  modify fun source => { source with line := source.line + 1 }

/-- The next byte behind joined lines. -/
def following (fuel : Nat) : Reader (Option UInt8) := do
  modify (Source.joined fuel)
  return (← get).next?

/-- Takes the next byte behind joined lines if it is the given character, and says whether it is. -/
def takes (fuel : Nat) (character : Char) : Reader Bool := do
  if (← following fuel).any (isSign character) then
    take
    return true
  else return false

/-- Takes the longest run of bytes of a class that stand next in one text. -/
def takeRun (isMember : UInt8 → Bool) : Reader Bytes := do
  let (found, behind) := (← get).run isMember
  set behind
  return found

/-- Takes bytes of a class, over joined lines, at most as many runs as `fuel`. -/
def takeAll (isMember : UInt8 → Bool) : Nat → Reader Bytes
  | 0 => return []
  | fuel + 1 => do
    if (← following (fuel + 1)).any isMember then
      let found ← takeRun isMember
      return found ++ (← takeAll isMember fuel)
    else return []

/-- Notes the last lexeme. -/
def found (token : Token) : Reader Token := do
  modify fun source => { source with token }
  return token

/-- Puts the last lexeme back. -/
def pushBack : Reader Unit :=
  modify fun source => { source with isPushedBack := true }

/-- Puts the end of the script back. -/
def putBackEnd : Reader Unit :=
  modify fun source => { source with token := .scriptEnd, isPushedBack := true }

end Reader

end Script

end CompilerLauncher
