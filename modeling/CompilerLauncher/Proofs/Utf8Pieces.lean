import CompilerLauncher.Proofs.Utf8Lossy
import Mathlib.Algebra.Group.Nat.Defs

/-!
# No byte is lost

Reading cuts a byte string into pieces, and each piece stands for bytes: a character for those that
spell it, and a malformed piece for its own. Put together in order, these bytes are the byte string
that was read (`flatMap_bytes_pieces`). So a byte string is read as a text only if it is that text's
spelling, and there is no second spelling of any text (`decode?_eq_some_iff`).

The invariant says what a pending character may become: whatever bytes complete it within the
bounds, they are the end of the spelling of which the bytes read so far are the beginning
(`Pending.Spells`).
-/

namespace CompilerLauncher

namespace Utf8

/-- The bytes that a piece stands for. -/
def Piece.bytes : Piece → Bytes
  | .character one => String.utf8EncodeChar one
  | .malformed bytes => bytes

/-- The last bytes of the spelling of a number, as many as are asked for. -/
def continuations : Nat → Nat → Bytes
  | 0, _ => []
  | count + 1, number => continuation (number / 64 ^ count) :: continuations count number

/-- The bytes that were read begin the spelling of every character that may come of them. -/
def Pending.Spells (pending : Pending) : Prop :=
  ∀ number, number / 64 ^ (pending.later + 1) = pending.bits →
    pending.low.toNat ≤ number / 64 ^ pending.later % 64 + 0x80 →
    number / 64 ^ pending.later % 64 + 0x80 ≤ pending.high.toNat →
    String.utf8EncodeChar (Char.ofNat number) =
      pending.read.reverse ++ continuations (pending.later + 1) number

/-- What is pending, if anything is, begins a spelling. -/
def Spells (state : Option Pending) : Prop :=
  ∀ pending, state = some pending → pending.Spells

/-- The bytes that were read of what is pending. -/
def held : Option Pending → Bytes
  | none => []
  | some pending => pending.read.reverse

theorem spells_none : Spells none := by
  intro pending found
  cases found

/-- The spelling of a number that is a character's. -/
theorem utf8EncodeChar_ofNat {number : Nat} (valid : number.isValidChar) :
    String.utf8EncodeChar (Char.ofNat number) =
      if number ≤ 0x7F then [UInt8.ofNat number]
      else if number ≤ 0x7FF then
        [UInt8.ofNat (number / 64 % 32 + 0xC0), continuation number]
      else if number ≤ 0xFFFF then
        [UInt8.ofNat (number / 4096 % 16 + 0xE0), continuation (number / 64),
          continuation number]
      else
        [UInt8.ofNat (number / 262144 % 8 + 0xF0), continuation (number / 4096),
          continuation (number / 64), continuation number] := by
  have own : (Char.ofNat number).val.toNat = number := by
    rw [Char.ofNat, dif_pos valid]
    rfl
  rw [utf8EncodeChar_eq, own]

/-- What a first byte announces if the character is longer than one byte. -/
theorem longer_cases {byte : UInt8} {pending : Pending}
    (announced : Lead.ofByte byte = .longer pending) :
    (0xC2 ≤ byte.toNat ∧ byte.toNat < 0xE0 ∧
        pending = ⟨[byte], 0, 0x80, 0xBF, byte.toNat - 0xC0⟩) ∨
      (0xE0 ≤ byte.toNat ∧ byte.toNat < 0xF0 ∧
        pending = ⟨[byte], 1, if byte.toNat = 0xE0 then 0xA0 else 0x80,
          if byte.toNat = 0xED then 0x9F else 0xBF, byte.toNat - 0xE0⟩) ∨
      (0xF0 ≤ byte.toNat ∧ byte.toNat ≤ 0xF4 ∧
        pending = ⟨[byte], 2, if byte.toNat = 0xF0 then 0x90 else 0x80,
          if byte.toNat = 0xF4 then 0x8F else 0xBF, byte.toNat - 0xF0⟩) := by
  by_cases short : byte.toNat < 0xC2
  · rw [ofByte_short byte short] at announced
    split at announced <;> cases announced
  by_cases two : byte.toNat < 0xE0
  · rw [ofByte_two byte (Nat.not_lt.1 short) two] at announced
    exact .inl ⟨Nat.not_lt.1 short, two, (Lead.longer.inj announced).symm⟩
  by_cases three : byte.toNat < 0xF0
  · rw [ofByte_three byte (Nat.not_lt.1 two) three] at announced
    exact .inr (.inl ⟨Nat.not_lt.1 two, three, (Lead.longer.inj announced).symm⟩)
  by_cases four : byte.toNat ≤ 0xF4
  · rw [ofByte_four byte (Nat.not_lt.1 three) four] at announced
    exact .inr (.inr ⟨Nat.not_lt.1 three, four, (Lead.longer.inj announced).symm⟩)
  · rw [ofByte_beyond byte (Nat.not_le.1 four)] at announced
    cases announced

theorem read_of_longer {byte : UInt8} {pending : Pending}
    (announced : Lead.ofByte byte = .longer pending) : pending.read = [byte] := by
  rcases longer_cases announced with ⟨-, -, rfl⟩ | ⟨-, -, rfl⟩ | ⟨-, -, rfl⟩ <;> rfl

/-- A first byte announces characters whose spelling begins with it. -/
theorem spells_of_longer {byte : UInt8} {pending : Pending}
    (announced : Lead.ofByte byte = .longer pending) : pending.Spells := by
  rcases longer_cases announced with ⟨low, high, rfl⟩ | ⟨low, high, rfl⟩ | ⟨low, high, rfl⟩
  · intro number bits _ _
    simp only [Nat.reduceAdd, Nat.reducePow] at bits
    have valid : number.isValidChar := .inl (by omega)
    have first : UInt8.ofNat (number / 64 % 32 + 0xC0) = byte := by
      rw [← UInt8.toNat_inj, toNat_ofNat_of_lt (by omega)]
      omega
    rw [utf8EncodeChar_ofNat valid, if_neg (by omega), if_pos (by omega), first]
    simp [continuations]
  · intro number bits least most
    simp only [Nat.reduceAdd, Nat.reducePow] at bits least most
    -- The narrowed bounds keep the number from being a shorter character's or a surrogate.
    have long : 0x800 ≤ number ∧ (number < 0xD800 ∨ 0xDFFF < number) := by
      split_ifs at least most <;> simp only [UInt8.reduceToNat] at least most <;> omega
    have valid : number.isValidChar := by
      unfold Nat.isValidChar
      omega
    have first : UInt8.ofNat (number / 4096 % 16 + 0xE0) = byte := by
      rw [← UInt8.toNat_inj, toNat_ofNat_of_lt (by omega)]
      omega
    rw [utf8EncodeChar_ofNat valid, if_neg (by omega), if_neg (by omega), if_pos (by omega),
      first]
    simp [continuations]
  · intro number bits least most
    simp only [Nat.reduceAdd, Nat.reducePow] at bits least most
    have long : 0x10000 ≤ number ∧ number < 0x110000 := by
      split_ifs at least most <;> simp only [UInt8.reduceToNat] at least most <;> omega
    have valid : number.isValidChar := by
      unfold Nat.isValidChar
      omega
    have first : UInt8.ofNat (number / 262144 % 8 + 0xF0) = byte := by
      rw [← UInt8.toNat_inj, toNat_ofNat_of_lt (by omega)]
      omega
    rw [utf8EncodeChar_ofNat valid, if_neg (by omega), if_neg (by omega), if_neg (by omega),
      first]
    simp [continuations]

/-! ## One byte -/

/-- A byte at the start of a character goes into a piece or is held. -/
theorem bytes_enter (byte : UInt8) :
    (enter byte).1.flatMap Piece.bytes ++ held (enter byte).2 = [byte] := by
  rw [enter]
  rcases ofByte_cases byte with ⟨small, whole⟩ | malformed | ⟨pending, longer, -⟩
  · have valid : byte.toNat.isValidChar := .inl (by omega)
    rw [whole]
    simp [Piece.bytes, held, utf8EncodeChar_ofNat valid, Nat.le_of_lt_succ small]
  · rw [malformed]
    simp [Piece.bytes, held]
  · rw [longer]
    simp [held, read_of_longer longer]

theorem spells_enter (byte : UInt8) : Spells (enter byte).2 := by
  rw [enter]
  cases announced : Lead.ofByte byte with
  | whole character => exact spells_none
  | malformed => exact spells_none
  | longer pending =>
    intro other found
    cases found
    exact spells_of_longer announced

/-- A byte that continues a character is the one that carries its bits. -/
theorem continuation_eq {number : Nat} {byte : UInt8} (least : 0x80 ≤ byte.toNat)
    (most : byte.toNat ≤ 0xBF) (carried : number % 64 = byte.toNat % 64) :
    continuation number = byte := by
  rw [← UInt8.toNat_inj, toNat_continuation]
  omega

/-- A byte goes into a piece, with those that were held, or is held behind them. -/
theorem bytes_advance {state : Option Pending} (beyond : Beyond state) (spells : Spells state)
    (byte : UInt8) :
    (advance state byte).1.flatMap Piece.bytes ++ held (advance state byte).2 =
      held state ++ [byte] := by
  cases state with
  | none => exact bytes_enter byte
  | some pending =>
    obtain ⟨low, high, -⟩ := beyond pending rfl
    rw [advance]
    split
    · rename_i within
      have least : pending.low.toNat ≤ byte.toNat := UInt8.le_iff_toNat_le.1 within.1
      have most : byte.toNat ≤ pending.high.toNat := UInt8.le_iff_toNat_le.1 within.2
      cases count : pending.later with
      | succ later => simp [held]
      | zero =>
        have spelled := spells pending rfl (pending.bits * 64 + byte.toNat % 64)
        rw [count] at spelled
        simp only [Nat.zero_add, Nat.pow_one, Nat.pow_zero, Nat.div_one, continuations] at spelled
        have carried : continuation (pending.bits * 64 + byte.toNat % 64) = byte :=
          continuation_eq (by omega) (by omega) (by omega)
        rw [carried] at spelled
        simpa [Piece.bytes, held] using spelled (by omega) (by omega) (by omega)
    · have entered := bytes_enter byte
      simpa [Piece.bytes, held] using entered

theorem spells_advance {state : Option Pending} (beyond : Beyond state) (spells : Spells state)
    (byte : UInt8) : Spells (advance state byte).2 := by
  cases state with
  | none => exact spells_enter byte
  | some pending =>
    obtain ⟨low, high, -⟩ := beyond pending rfl
    rw [advance]
    split
    · rename_i within
      have least : pending.low.toNat ≤ byte.toNat := UInt8.le_iff_toNat_le.1 within.1
      have most : byte.toNat ≤ pending.high.toNat := UInt8.le_iff_toNat_le.1 within.2
      cases count : pending.later with
      | zero => exact spells_none
      | succ later =>
        intro next found number bits _ _
        cases found
        dsimp only at bits ⊢
        -- The byte carries the six bits that come next in the number.
        have outer : number / 64 ^ (later + 1 + 1) = pending.bits := by
          rw [Nat.pow_succ, ← Nat.div_div_eq_div_mul, bits]
          omega
        have carried : number / 64 ^ (later + 1) % 64 = byte.toNat % 64 := by
          rw [bits]
          omega
        have spelled := spells pending rfl number
        rw [count] at spelled
        rw [spelled outer (by omega) (by omega), continuations,
          continuation_eq (by omega) (by omega) carried]
        simp
    · exact spells_enter byte

/-! ## All bytes -/

theorem flatMap_bytes_gather {state : Option Pending} (beyond : Beyond state)
    (spells : Spells state) (bytes : Bytes) :
    (gather state [] bytes).flatMap Piece.bytes = held state ++ bytes := by
  induction bytes generalizing state with
  | nil =>
    rw [gather_nil]
    cases state <;> simp [leftOver, held, Piece.bytes]
  | cons byte rest ih =>
    rw [gather_cons, List.flatMap_append,
      ih (beyond_advance beyond byte) (spells_advance beyond spells byte), ← List.append_assoc,
      bytes_advance beyond spells, List.append_assoc]
    rfl

/-- **The pieces that are read stand for the bytes that were read,** none left out and none twice. -/
theorem flatMap_bytes_pieces (bytes : Bytes) : (pieces bytes).flatMap Piece.bytes = bytes :=
  flatMap_bytes_gather beyond_none spells_none bytes

/-- Bytes without a malformed piece are the spelling of what is read. -/
theorem encode_lossy_of_whole {bytes : Bytes}
    (whole : ∀ broken, .malformed broken ∉ pieces bytes) : encode (lossy bytes) = bytes := by
  have spelled (piece : Piece) (member : piece ∈ pieces bytes) :
      String.utf8EncodeChar (piece.character?.getD '\uFFFD') = piece.bytes := by
    cases piece with
    | character one => rfl
    | malformed broken => exact absurd member (whole broken)
  calc
    encode (lossy bytes) = (pieces bytes).flatMap
        fun piece => String.utf8EncodeChar (piece.character?.getD '\uFFFD') := by
      rw [encode, lossy, String.toList_ofList, List.flatMap_map]
    _ = (pieces bytes).flatMap Piece.bytes := List.flatMap_congr spelled
    _ = bytes := flatMap_bytes_pieces bytes

/-- A byte string is read as a text exactly if it is the text's spelling. -/
theorem decode?_eq_some_iff {bytes : Bytes} {text : String} :
    decode? bytes = some text ↔ bytes = encode text := by
  constructor
  · intro spelled
    rw [← lossy_of_decode? spelled]
    refine (encode_lossy_of_whole fun broken member => ?_).symm
    rw [decode?] at spelled
    split at spelled
    · rename_i whole
      have sound := List.all_eq_true.1 whole _ (List.mem_map_of_mem member)
      cases sound
    · cases spelled
  · rintro rfl
    exact decode?_encode text

/-- Bytes that are read without a replacement character are the spelling of what is read. -/
theorem encode_lossy_of_notMem {bytes : Bytes} (absent : '\uFFFD' ∉ (lossy bytes).toList) :
    encode (lossy bytes) = bytes := by
  refine encode_lossy_of_whole fun broken member => absent ?_
  rw [lossy, String.toList_ofList]
  exact List.mem_map_of_mem (f := fun piece => piece.character?.getD '\uFFFD') member

end Utf8

end CompilerLauncher
