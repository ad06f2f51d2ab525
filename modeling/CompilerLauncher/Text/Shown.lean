import CompilerLauncher.Text.Unseen
import CompilerLauncher.Text.Utf8

/-!
Byte strings shown to a reader of messages.

A shown byte string stands between double quotes. Characters that would not be seen, or that would
end or distort the quotation, are written as escapes, and bytes that belong to no character as two
hexadecimal digits each.
-/

namespace CompilerLauncher

namespace Shown

/-- A number in hexadecimal, without leading zeros. -/
def hexadecimal (number : Nat) : List Char :=
  Nat.toDigits 16 number

/-- A character as it stands in a shown byte string. -/
def character (character : Char) : List Char :=
  match character with
  | '"' => ['\\', '"']
  | '\\' => ['\\', '\\']
  | '\n' => ['\\', 'n']
  | '\r' => ['\\', 'r']
  | '\t' => ['\\', 't']
  | '\x00' => ['\\', '0']
  | other =>
    if Unseen.isUnseen other then
      ['\\', 'u', '\x7b'] ++ hexadecimal other.toNat ++ ['\x7d']
    else [other]

/-- A byte that belongs to no character. -/
def byte (byte : UInt8) : List Char :=
  ['\\', 'x', (Nat.digitChar (byte.toNat / 16)).toUpper, (Nat.digitChar (byte.toNat % 16)).toUpper]

/-- A piece as it stands in a shown byte string. -/
def piece : Utf8.Piece → List Char
  | .character one => character one
  | .malformed bytes => bytes.flatMap byte

/-- The byte string between double quotes. -/
def quote (bytes : Bytes) : String :=
  String.ofList ('"' :: ((Utf8.pieces bytes).flatMap piece ++ ['"']))

end Shown

end CompilerLauncher
