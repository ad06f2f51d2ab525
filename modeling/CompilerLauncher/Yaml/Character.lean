/-!
The characters of a document.

A document may hold only printable characters, tabs and line breaks. Line breaks come in several
spellings; `Yaml.normalize` writes the common ones as one line feed each and leaves the two that
separate lines and paragraphs, which are never folded, as they are.
-/

namespace CompilerLauncher

namespace Yaml

/-- A character that a document may hold. -/
def isAllowed (character : Char) : Bool :=
  let code := character.toNat
  code == 0x09 || code == 0x0A || code == 0x0D || (0x20 ≤ code && code ≤ 0x7E) || code == 0x85
    || (0xA0 ≤ code && code ≤ 0xFFFD) || 0x10000 ≤ code

/-- The spellings of a line feed. -/
def isLineFeed (character : Char) : Bool :=
  character == '\n' || character == '\r' || character == '\u0085'

/-- The characters with every common line break written as one line feed. -/
def normalize : List Char → List Char
  | '\r' :: '\n' :: rest => '\n' :: normalize rest
  | character :: rest => (if isLineFeed character then '\n' else character) :: normalize rest
  | [] => []

/-- A character that ends a line, after normalisation. -/
def isBreak (character : Char) : Bool :=
  character == '\n' || character == '\u2028' || character == '\u2029'

/-- A space or a tab. -/
def isGap (character : Char) : Bool :=
  character == ' ' || character == '\t'

/-- Whether the text starts with a gap or a line break, or is at its end. -/
def atGapOrEnd : List Char → Bool
  | [] => true
  | character :: _ => isGap character || isBreak character

/-- Whether the text starts with a line break or is at its end. -/
def atLineEnd : List Char → Bool
  | [] => true
  | character :: _ => isBreak character

/-- A character of names and tags: a letter, a digit, a dash or an underscore. -/
def isWord (character : Char) : Bool :=
  character.isAlphanum || character == '-' || character == '_'

/-- A character that opens, closes or separates flow collections. -/
def isFlowIndicator (character : Char) : Bool :=
  character == ',' || character == '[' || character == ']' || character == '\x7b'
    || character == '\x7d'

/-- Whether the text starts with three of the given character and nothing that would continue them:
a mark between documents, if a line begins here. -/
def isTriple (character : Char) : List Char → Bool
  | a :: b :: c :: rest => a == character && b == character && c == character && atGapOrEnd rest
  | _ => false

/-- Whether a mark between documents starts here, if a line does. -/
def isDocumentMark (text : List Char) : Bool :=
  isTriple '-' text || isTriple '.' text

end Yaml

end CompilerLauncher
