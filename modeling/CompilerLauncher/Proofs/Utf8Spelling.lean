import CompilerLauncher.Text.Utf8
import Mathlib.Tactic.SplitIfs

/-!
# Reading what has been spelled

The bytes that spell a text are read as that text: each character's first byte announces how many
bytes follow and within which bounds the next one lies, and the bytes that spell the character keep
to that (`gather_utf8EncodeChar`). So what is spelled can be read, strictly (`decode?_encode`) and
leniently (`lossy_encode`).
-/

namespace CompilerLauncher

namespace Utf8

@[simp] theorem encode_append (left right : String) :
    encode (left ++ right) = encode left ++ encode right := by
  simp [encode]

/-! ## What a first byte announces -/

theorem toNat_ofNat_of_lt {number : Nat} (small : number < 256) :
    (UInt8.ofNat number).toNat = number := by
  rw [UInt8.toNat_ofNat']
  exact Nat.mod_eq_of_lt small

theorem ofByte_ascii (byte : UInt8) (small : byte.toNat < 0x80) :
    Lead.ofByte byte = .whole (Char.ofNat byte.toNat) := by
  have first : byte < 0x80 := UInt8.lt_iff_toNat_lt.2 small
  rw [Lead.ofByte, if_pos first]

/-- The bytes that continue a character begin none, nor do the two below the first one of two. -/
theorem ofByte_short (byte : UInt8) (less : byte.toNat < 0xC2) :
    Lead.ofByte byte =
      if byte.toNat < 0x80 then .whole (Char.ofNat byte.toNat) else .malformed := by
  unfold Lead.ofByte
  simp only [UInt8.lt_iff_toNat_lt, UInt8.reduceToNat, if_pos less]

theorem ofByte_two (byte : UInt8) (least : 0xC2 ≤ byte.toNat) (less : byte.toNat < 0xE0) :
    Lead.ofByte byte = .longer ⟨[byte], 0, 0x80, 0xBF, byte.toNat - 0xC0⟩ := by
  have bits : byte.toNat % 32 = byte.toNat - 0xC0 := by omega
  unfold Lead.ofByte
  simp only [UInt8.lt_iff_toNat_lt, UInt8.reduceToNat]
  rw [if_neg (by omega), if_neg (by omega), if_pos less, bits]

/-- The lowest and the highest first byte of three narrow the bounds of the second. -/
theorem ofByte_three (byte : UInt8) (least : 0xE0 ≤ byte.toNat) (less : byte.toNat < 0xF0) :
    Lead.ofByte byte = .longer ⟨[byte], 1, if byte.toNat = 0xE0 then 0xA0 else 0x80,
      if byte.toNat = 0xED then 0x9F else 0xBF, byte.toNat - 0xE0⟩ := by
  have bits : byte.toNat % 16 = byte.toNat - 0xE0 := by omega
  unfold Lead.ofByte
  simp only [UInt8.lt_iff_toNat_lt, ← UInt8.toNat_inj, UInt8.reduceToNat]
  rw [if_neg (by omega), if_neg (by omega), if_neg (by omega), if_pos less, bits]
  by_cases lowest : byte.toNat = 0xE0
  · simp [lowest]
  · by_cases surrogates : byte.toNat = 0xED <;> simp [lowest, surrogates]

/-- So do the lowest and the highest first byte of four. -/
theorem ofByte_four (byte : UInt8) (least : 0xF0 ≤ byte.toNat) (most : byte.toNat ≤ 0xF4) :
    Lead.ofByte byte = .longer ⟨[byte], 2, if byte.toNat = 0xF0 then 0x90 else 0x80,
      if byte.toNat = 0xF4 then 0x8F else 0xBF, byte.toNat - 0xF0⟩ := by
  unfold Lead.ofByte
  simp only [UInt8.lt_iff_toNat_lt, ← UInt8.toNat_inj, UInt8.reduceToNat]
  rw [if_neg (by omega), if_neg (by omega), if_neg (by omega), if_neg (by omega),
    if_neg (by omega), if_neg (by omega)]
  by_cases lowest : byte.toNat = 0xF0
  · simp [lowest]
  · by_cases highest : byte.toNat = 0xF4
    · simp [highest]
    · have between : byte.toNat < 0xF4 := by omega
      have bits : byte.toNat % 8 = byte.toNat - 0xF0 := by omega
      simp [lowest, highest, between, bits]

/-- Larger bytes begin no character. -/
theorem ofByte_beyond (byte : UInt8) (more : 0xF4 < byte.toNat) :
    Lead.ofByte byte = .malformed := by
  unfold Lead.ofByte
  simp only [UInt8.lt_iff_toNat_lt, ← UInt8.toNat_inj, UInt8.reduceToNat]
  rw [if_neg (by omega), if_neg (by omega), if_neg (by omega), if_neg (by omega),
    if_neg (by omega), if_neg (by omega), if_neg (by omega), if_neg (by omega),
    if_neg (by omega)]

/-! ## Reading the bytes of one character -/

theorem gather_whole {byte : UInt8} {character : Char}
    (announced : Lead.ofByte byte = .whole character) (done : List Piece) (rest : Bytes) :
    gather none done (byte :: rest) = gather none (.character character :: done) rest := by
  simp [gather, advance, enter, announced]

theorem gather_longer {byte : UInt8} {pending : Pending}
    (announced : Lead.ofByte byte = .longer pending) (done : List Piece) (rest : Bytes) :
    gather none done (byte :: rest) = gather (some pending) done rest := by
  simp [gather, advance, enter, announced]

/-- A byte within the bounds that is not the last one. -/
theorem gather_more {read : Bytes} {later bits : Nat} {low high byte : UInt8}
    (least : low ≤ byte) (most : byte ≤ high) (done : List Piece) (rest : Bytes) :
    gather (some ⟨read, later + 1, low, high, bits⟩) done (byte :: rest) =
      gather (some ⟨byte :: read, later, 0x80, 0xBF, bits * 64 + byte.toNat % 64⟩) done rest := by
  simp [gather, advance, least, most]

/-- The last byte of a character. -/
theorem gather_last {read : Bytes} {bits : Nat} {low high byte : UInt8}
    (least : low ≤ byte) (most : byte ≤ high) (done : List Piece) (rest : Bytes) :
    gather (some ⟨read, 0, low, high, bits⟩) done (byte :: rest) =
      gather none (.character (Char.ofNat (bits * 64 + byte.toNat % 64)) :: done) rest := by
  simp [gather, advance, least, most]

/-- The byte that carries six bits of a character, after the first one. -/
def continuation (bits : Nat) : UInt8 := UInt8.ofNat (bits % 64 + 0x80)

theorem toNat_continuation (bits : Nat) : (continuation bits).toNat = bits % 64 + 0x80 :=
  toNat_ofNat_of_lt (by omega)

theorem continuation_mod (bits : Nat) : (continuation bits).toNat % 64 = bits % 64 := by
  rw [toNat_continuation]
  omega

theorem le_continuation (bits : Nat) : 0x80 ≤ continuation bits := by
  rw [UInt8.le_iff_toNat_le, toNat_continuation]
  simp

theorem continuation_le (bits : Nat) : continuation bits ≤ 0xBF := by
  rw [UInt8.le_iff_toNat_le, toNat_continuation]
  simp
  omega

theorem gather_two {number : Nat} (least : 0x80 ≤ number) (less : number < 0x800)
    (done : List Piece) (rest : Bytes) :
    gather none done (UInt8.ofNat (number / 64 % 32 + 0xC0) :: continuation number :: rest) =
      gather none (.character (Char.ofNat number) :: done) rest := by
  have byte := toNat_ofNat_of_lt (show number / 64 % 32 + 0xC0 < 256 by omega)
  have announced := ofByte_two (UInt8.ofNat (number / 64 % 32 + 0xC0)) (by omega) (by omega)
  have bits : (number / 64 % 32 + 0xC0 - 0xC0) * 64 + number % 64 = number := by omega
  rw [byte] at announced
  rw [gather_longer announced, gather_last (le_continuation number) (continuation_le number),
    continuation_mod, bits]

/-- Three bytes never spell less than two could, nor a surrogate. -/
theorem gather_three {number : Nat} (least : 0x800 ≤ number) (less : number < 0x10000)
    (valid : number < 0xD800 ∨ 0xDFFF < number) (done : List Piece) (rest : Bytes) :
    gather none done (UInt8.ofNat (number / 4096 % 16 + 0xE0) :: continuation (number / 64) ::
        continuation number :: rest) =
      gather none (.character (Char.ofNat number) :: done) rest := by
  have byte := toNat_ofNat_of_lt (show number / 4096 % 16 + 0xE0 < 256 by omega)
  have announced := ofByte_three (UInt8.ofNat (number / 4096 % 16 + 0xE0)) (by omega) (by omega)
  have bits : ((number / 4096 % 16 + 0xE0 - 0xE0) * 64 + number / 64 % 64) * 64 + number % 64 =
      number := by omega
  rw [byte] at announced
  rw [gather_longer announced, gather_more,
    gather_last (le_continuation number) (continuation_le number), continuation_mod,
    continuation_mod, bits]
  · rw [UInt8.le_iff_toNat_le, toNat_continuation]
    split_ifs <;> simp only [UInt8.reduceToNat] <;> omega
  · rw [UInt8.le_iff_toNat_le, toNat_continuation]
    split_ifs <;> simp only [UInt8.reduceToNat] <;> omega

/-- Four bytes never spell less than three could, nor more than there are characters. -/
theorem gather_four {number : Nat} (least : 0x10000 ≤ number) (less : number < 0x110000)
    (done : List Piece) (rest : Bytes) :
    gather none done (UInt8.ofNat (number / 262144 % 8 + 0xF0) :: continuation (number / 4096) ::
        continuation (number / 64) :: continuation number :: rest) =
      gather none (.character (Char.ofNat number) :: done) rest := by
  have byte := toNat_ofNat_of_lt (show number / 262144 % 8 + 0xF0 < 256 by omega)
  have announced := ofByte_four (UInt8.ofNat (number / 262144 % 8 + 0xF0)) (by omega) (by omega)
  have bits : (((number / 262144 % 8 + 0xF0 - 0xF0) * 64 + number / 4096 % 64) * 64 +
      number / 64 % 64) * 64 + number % 64 = number := by omega
  rw [byte] at announced
  rw [gather_longer announced, gather_more,
    gather_more (le_continuation (number / 64)) (continuation_le (number / 64)),
    gather_last (le_continuation number) (continuation_le number), continuation_mod,
    continuation_mod, continuation_mod, bits]
  · rw [UInt8.le_iff_toNat_le, toNat_continuation]
    split_ifs <;> simp only [UInt8.reduceToNat] <;> omega
  · rw [UInt8.le_iff_toNat_le, toNat_continuation]
    split_ifs <;> simp only [UInt8.reduceToNat] <;> omega

theorem utf8EncodeChar_eq (character : Char) :
    String.utf8EncodeChar character =
      let number := character.val.toNat
      if number ≤ 0x7F then [UInt8.ofNat number]
      else if number ≤ 0x7FF then
        [UInt8.ofNat (number / 64 % 32 + 0xC0), continuation number]
      else if number ≤ 0xFFFF then
        [UInt8.ofNat (number / 4096 % 16 + 0xE0), continuation (number / 64),
          continuation number]
      else
        [UInt8.ofNat (number / 262144 % 8 + 0xF0), continuation (number / 4096),
          continuation (number / 64), continuation number] := rfl

/-- The bytes that spell a character are read as it, whatever was read before. -/
theorem gather_utf8EncodeChar (character : Char) (done : List Piece) (rest : Bytes) :
    gather none done (String.utf8EncodeChar character ++ rest) =
      gather none (.character character :: done) rest := by
  have whole : Char.ofNat character.val.toNat = character := Char.ofNat_toNat character
  have valid : character.val.toNat < 0xD800 ∨
      0xDFFF < character.val.toNat ∧ character.val.toNat < 0x110000 := character.valid
  rw [utf8EncodeChar_eq]
  generalize character.val.toNat = number at whole valid
  subst whole
  dsimp only
  split_ifs with one two three
  · have byte := toNat_ofNat_of_lt (show number < 256 by omega)
    have announced := ofByte_ascii (UInt8.ofNat number) (by omega)
    rw [byte] at announced
    exact gather_whole announced done rest
  · exact gather_two (by omega) (by omega) done rest
  · exact gather_three (by omega) (by omega) (by omega) done rest
  · exact gather_four (by omega) (by omega) done rest

/-! ## Reading whole texts -/

theorem gather_flatMap (text : List Char) (done : List Piece) :
    gather none done (text.flatMap String.utf8EncodeChar) =
      done.reverse ++ text.map .character := by
  induction text generalizing done with
  | nil => simp [gather, leftOver]
  | cons character rest ih =>
    rw [List.flatMap_cons, gather_utf8EncodeChar, ih]
    simp

theorem pieces_encode (text : String) : pieces (encode text) = text.toList.map .character :=
  gather_flatMap text.toList []

/-- What is spelled is read as the text that it spells. -/
theorem decode?_encode (text : String) : decode? (encode text) = some text := by
  have found : (text.toList.map Piece.character).map Piece.character? = text.toList.map some := by
    rw [List.map_map]
    rfl
  rw [decode?, pieces_encode, found]
  simp

theorem lossy_encode (text : String) : lossy (encode text) = text := by
  rw [lossy, pieces_encode, List.map_map]
  simp [Function.comp_def, Piece.character?]

end Utf8

end CompilerLauncher
