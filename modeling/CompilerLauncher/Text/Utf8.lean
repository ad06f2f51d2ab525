/-!
Byte strings and the texts they spell.

The operating system names files, passes arguments and stores content as bytes; the launcher's own
settings and messages are text. `Utf8.encode` spells a text, `Utf8.decode?` reads a byte string that
spells one, and `Utf8.lossy` reads any byte string, writing the replacement character once for each
longest beginning of a character that the next byte does not continue.

All three stand on one machine, `Utf8.advance`, which consumes a byte and says which pieces it
completed.
-/

namespace CompilerLauncher

/-- A byte string: a name, an argument or a file's content. -/
abbrev Bytes := List UInt8

/-- The byte that ends a line. -/
def newline : UInt8 := 10

/-- The byte of a space. -/
def space : UInt8 := 32

namespace Utf8

/-- The bytes that spell a text. -/
def encode (text : String) : Bytes :=
  text.toList.flatMap String.utf8EncodeChar

/-! ## The reading machine -/

/-- A piece of a byte string: a character, or bytes that begin one and do not go on. -/
inductive Piece
  | character (character : Char)
  | malformed (bytes : Bytes)
  deriving DecidableEq, Repr

/-- A character whose first bytes have been read, newest first: the next byte lies between `low` and
`high`, after it `later` more continuation bytes are due, and `bits` holds the number gathered so
far. -/
structure Pending where
  read : Bytes
  later : Nat
  low : UInt8
  high : UInt8
  bits : Nat
  deriving Repr, DecidableEq

/-- What a byte at the start of a character announces. -/
inductive Lead
  | whole (character : Char)
  | longer (pending : Pending)
  | malformed

/-- Reads a byte at the start of a character. -/
def Lead.ofByte (byte : UInt8) : Lead :=
  if byte < 0x80 then .whole (Char.ofNat byte.toNat)
  else if byte < 0xC2 then .malformed
  else if byte < 0xE0 then .longer ⟨[byte], 0, 0x80, 0xBF, byte.toNat % 32⟩
  else if byte = 0xE0 then .longer ⟨[byte], 1, 0xA0, 0xBF, 0⟩
  else if byte = 0xED then .longer ⟨[byte], 1, 0x80, 0x9F, 13⟩
  else if byte < 0xF0 then .longer ⟨[byte], 1, 0x80, 0xBF, byte.toNat % 16⟩
  else if byte = 0xF0 then .longer ⟨[byte], 2, 0x90, 0xBF, 0⟩
  else if byte < 0xF4 then .longer ⟨[byte], 2, 0x80, 0xBF, byte.toNat % 8⟩
  else if byte = 0xF4 then .longer ⟨[byte], 2, 0x80, 0x8F, 4⟩
  else .malformed

/-- The pieces that a byte completes at the start of a character, and what is pending after it. -/
def enter (byte : UInt8) : List Piece × Option Pending :=
  match Lead.ofByte byte with
  | .whole character => ([.character character], none)
  | .longer pending => ([], some pending)
  | .malformed => ([.malformed [byte]], none)

/-- Consumes one byte. A byte that does not continue the pending character closes it as malformed
and is then read as the start of the next one. -/
def advance : Option Pending → UInt8 → List Piece × Option Pending
  | none, byte => enter byte
  | some pending, byte =>
    if pending.low ≤ byte ∧ byte ≤ pending.high then
      let bits := pending.bits * 64 + byte.toNat % 64
      match pending.later with
      | 0 => ([.character (Char.ofNat bits)], none)
      | later + 1 => ([], some ⟨byte :: pending.read, later, 0x80, 0xBF, bits⟩)
    else
      (.malformed pending.read.reverse :: (enter byte).1, (enter byte).2)

/-- The piece that is left when the bytes end. -/
def leftOver : Option Pending → List Piece
  | none => []
  | some pending => [.malformed pending.read.reverse]

/-- The pieces from a state on, after the pieces `done`, which are held newest first. -/
def gather (state : Option Pending) (done : List Piece) : Bytes → List Piece
  | [] => (leftOver state ++ done).reverse
  | byte :: rest =>
    match advance state byte with
    | (pieces, next) => gather next (pieces.reverse ++ done) rest

/-- The characters and malformed pieces of a byte string, in order. -/
def pieces (bytes : Bytes) : List Piece :=
  gather none [] bytes

/-! ## Reading -/

/-- The character that a piece is, if it is one. -/
def Piece.character? : Piece → Option Char
  | .character one => some one
  | .malformed _ => none

/-- The text that a byte string spells, if it spells one. -/
def decode? (bytes : Bytes) : Option String :=
  let found := (pieces bytes).map Piece.character?
  if found.all Option.isSome then some (String.ofList (found.filterMap id)) else none

/-- The text of any byte string, with the replacement character for each malformed piece. -/
def lossy (bytes : Bytes) : String :=
  String.ofList ((pieces bytes).map fun piece => piece.character?.getD '\uFFFD')

end Utf8

end CompilerLauncher
