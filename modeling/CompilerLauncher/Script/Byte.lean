import CompilerLauncher.Text.Utf8

/-!
The bytes of shell scripts, by what they may stand for.
-/

namespace CompilerLauncher

namespace Script

/-- The character that has a byte's number, so that bytes of a script can be compared with
characters. -/
def sign (byte : UInt8) : Char :=
  Char.ofNat byte.toNat

/-- Whether a byte is the given character. -/
def isSign (character : Char) (byte : UInt8) : Bool :=
  sign byte == character

/-- Whether a byte is one of the characters. -/
def isOneOf (characters : String) (byte : UInt8) : Bool :=
  characters.toList.contains (sign byte)

/-- A decimal digit. -/
def isDigit (byte : UInt8) : Bool :=
  (sign byte).isDigit

/-- A byte that may begin a name. -/
def beginsName (byte : UInt8) : Bool :=
  let character := sign byte
  character.isAlpha || character == '_'

/-- A byte that may continue a name. -/
def continuesName (byte : UInt8) : Bool :=
  beginsName byte || isDigit byte

/-- A parameter of one byte that is no name and no digit. -/
def isSpecialParameter (byte : UInt8) : Bool :=
  isOneOf "@*#?-$!" byte

/-- Whether the bytes are a name. -/
def isName : Bytes → Bool
  | [] => false
  | first :: rest => beginsName first && rest.all continuesName

/-- A space or a tab. -/
def isGap (byte : UInt8) : Bool :=
  isOneOf " \t" byte

/-- A byte that ends a word unless it is quoted. -/
def endsWord (byte : UInt8) : Bool :=
  isOneOf " \t\n;&|<>()" byte

/-- The value of a digit in any base up to sixteen. -/
def digitValue? (byte : UInt8) : Option Nat :=
  let character := sign byte
  if character.isDigit then some (character.toNat - 48)
  else if 'a' ≤ character ∧ character ≤ 'f' then some (character.toNat - 87)
  else if 'A' ≤ character ∧ character ≤ 'F' then some (character.toNat - 55)
  else none

/-- The value of decimal digits. -/
def decimal (digits : Bytes) : Nat :=
  digits.foldl (fun sum digit => sum * 10 + (digit.toNat - 48)) 0

/-- A space or one of its kind. -/
def isBlank (byte : UInt8) : Bool :=
  isOneOf " \t\n\x0b\x0c\r" byte

/-- The whole number that bytes spell, with blanks around it, if 64 bits can hold it. -/
def wholeNumber? (bytes : Bytes) : Option Int :=
  let inner := ((bytes.dropWhile isBlank).reverse.dropWhile isBlank).reverse
  let digits := if inner.head?.any (isOneOf "+-") then inner.tail else inner
  let magnitude : Int := decimal digits
  let value := if inner.head?.any (isSign '-') then -magnitude else magnitude
  if digits ≠ [] ∧ digits.all isDigit ∧ -9223372036854775808 ≤ value ∧ value ≤ 9223372036854775807
  then some value else none

end Script

end CompilerLauncher
