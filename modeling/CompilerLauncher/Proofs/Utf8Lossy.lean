import CompilerLauncher.Proofs.Utf8Spelling
import Mathlib.Data.List.Basic

/-!
# Reading any bytes

Bytes that spell no text are read all the same, with replacement characters. A character of the
first 128 is still its own byte: no longer piece ever gives one, and its byte ends whatever is
pending. So such a character is only read where its byte stands (`exists_byte_of_mem_lossy`), and
from such a byte on the reading does not depend on what came before (`lossy_append`).

Both rest on an invariant of pending characters: the next byte lies beyond the first 128, and so
does every character that may come of it (`Pending.Beyond`).
-/

namespace CompilerLauncher

namespace Utf8

/-- Neither the next byte nor the pending character itself is one of the first 128. -/
structure Pending.Beyond (pending : Pending) : Prop where
  low : 0x80 ≤ pending.low.toNat
  high : pending.high.toNat ≤ 0xBF
  bits : 2 ≤ pending.bits ∨
    0 < pending.later ∧ 2 ≤ pending.bits * 64 + pending.low.toNat % 64

/-- What is pending, if anything is, lies beyond the first 128. -/
def Beyond (state : Option Pending) : Prop :=
  ∀ pending, state = some pending → pending.Beyond

theorem beyond_none : Beyond none := by
  intro pending found
  cases found

/-- A first byte is a character of the first 128, announces one beyond them, or begins none. -/
theorem ofByte_cases (byte : UInt8) :
    (byte.toNat < 0x80 ∧ Lead.ofByte byte = .whole (Char.ofNat byte.toNat)) ∨
      Lead.ofByte byte = .malformed ∨
      ∃ pending, Lead.ofByte byte = .longer pending ∧ pending.Beyond := by
  by_cases one : byte.toNat < 0x80
  · exact .inl ⟨one, ofByte_ascii byte one⟩
  by_cases short : byte.toNat < 0xC2
  · exact .inr (.inl ((ofByte_short byte short).trans (if_neg one)))
  by_cases two : byte.toNat < 0xE0
  · refine .inr (.inr ⟨_, ofByte_two byte (Nat.not_lt.1 short) two, ?_⟩)
    constructor <;> simp only [UInt8.reduceToNat] <;> omega
  by_cases three : byte.toNat < 0xF0
  · refine .inr (.inr ⟨_, ofByte_three byte (Nat.not_lt.1 two) three, ?_⟩)
    constructor <;> dsimp only <;> split_ifs <;>
      simp only [UInt8.reduceToNat] <;> omega
  by_cases four : byte.toNat ≤ 0xF4
  · refine .inr (.inr ⟨_, ofByte_four byte (Nat.not_lt.1 three) four, ?_⟩)
    constructor <;> dsimp only <;> split_ifs <;>
      simp only [UInt8.reduceToNat] <;> omega
  · exact .inr (.inl (ofByte_beyond byte (Nat.not_le.1 four)))

theorem beyond_enter (byte : UInt8) : Beyond (enter byte).2 := by
  rw [enter]
  rcases ofByte_cases byte with ⟨-, whole⟩ | malformed | ⟨pending, longer, beyond⟩
  · rw [whole]
    exact beyond_none
  · rw [malformed]
    exact beyond_none
  · rw [longer]
    intro other found
    cases found
    exact beyond

theorem beyond_advance {state : Option Pending} (beyond : Beyond state) (byte : UInt8) :
    Beyond (advance state byte).2 := by
  cases state with
  | none => exact beyond_enter byte
  | some pending =>
    obtain ⟨low, high, bits⟩ := beyond pending rfl
    rw [advance]
    split
    · rename_i within
      have least : pending.low.toNat ≤ byte.toNat := UInt8.le_iff_toNat_le.1 within.1
      have most : byte.toNat ≤ pending.high.toNat := UInt8.le_iff_toNat_le.1 within.2
      cases count : pending.later with
      | zero => exact beyond_none
      | succ later =>
        rw [count] at bits
        intro next found
        cases found
        -- Within the bounds a larger byte carries larger bits.
        have carried : pending.low.toNat % 64 ≤ byte.toNat % 64 := by omega
        have grown : 2 ≤ pending.bits * 64 + byte.toNat % 64 := by omega
        exact ⟨Nat.le_refl _, Nat.le_refl _, .inl grown⟩
    · exact beyond_enter byte

/-! ## Pieces in order -/

theorem gather_step (state : Option Pending) (done : List Piece) (byte : UInt8) (rest : Bytes) :
    gather state done (byte :: rest) =
      gather (advance state byte).2 ((advance state byte).1.reverse ++ done) rest := rfl

theorem gather_done (state : Option Pending) (done : List Piece) (bytes : Bytes) :
    gather state done bytes = done.reverse ++ gather state [] bytes := by
  induction bytes generalizing state done with
  | nil => simp [gather]
  | cons byte rest ih =>
    rw [gather_step, gather_step, ih, ih _ ((advance state byte).1.reverse ++ [])]
    simp

theorem gather_nil (state : Option Pending) : gather state [] [] = leftOver state := by
  cases state <;> rfl

theorem gather_cons (state : Option Pending) (byte : UInt8) (rest : Bytes) :
    gather state [] (byte :: rest) =
      (advance state byte).1 ++ gather (advance state byte).2 [] rest := by
  rw [gather_step, gather_done _ ((advance state byte).1.reverse ++ [])]
  simp

/-! ## Characters of the first 128 -/

theorem toNat_ofNat_or (number : Nat) :
    (Char.ofNat number).toNat = number ∨ (Char.ofNat number).toNat = 0 := by
  by_cases valid : number.isValidChar
  · left
    rw [Char.ofNat, dif_pos valid]
    rfl
  · right
    rw [Char.ofNat, dif_neg valid]
    rfl

/-- A character of the first 128 other than the zero character. -/
def Ascii (character : Char) : Prop :=
  0 < character.toNat ∧ character.toNat < 0x80

instance (character : Char) : Decidable (Ascii character) :=
  inferInstanceAs (Decidable (_ ∧ _))

theorem toNat_of_mem_enter {byte : UInt8} {character : Char} (ascii : Ascii character)
    (member : .character character ∈ (enter byte).1) : byte.toNat = character.toNat := by
  rw [enter] at member
  rcases ofByte_cases byte with ⟨-, whole⟩ | malformed | ⟨pending, longer, -⟩
  · rw [whole] at member
    have same : character = Char.ofNat byte.toNat := by simpa using member
    rw [same] at ascii ⊢
    rcases toNat_ofNat_or byte.toNat with own | zero
    · exact own.symm
    · exact absurd ascii.1 (by omega)
  · rw [malformed] at member
    simp at member
  · rw [longer] at member
    simp at member

/-- A byte that completes such a character is that character. -/
theorem toNat_of_mem_advance {state : Option Pending} (beyond : Beyond state) {byte : UInt8}
    {character : Char} (ascii : Ascii character)
    (member : .character character ∈ (advance state byte).1) : byte.toNat = character.toNat := by
  cases state with
  | none => exact toNat_of_mem_enter ascii member
  | some pending =>
    obtain ⟨low, high, bits⟩ := beyond pending rfl
    rw [advance] at member
    split at member
    · rename_i within
      have least : pending.low.toNat ≤ byte.toNat := UInt8.le_iff_toNat_le.1 within.1
      have most : byte.toNat ≤ pending.high.toNat := UInt8.le_iff_toNat_le.1 within.2
      cases count : pending.later with
      | succ later => simp [count] at member
      | zero =>
        have same : character = Char.ofNat (pending.bits * 64 + byte.toNat % 64) := by
          simpa [count] using member
        rw [count] at bits
        rw [same] at ascii
        obtain ⟨positive, small⟩ := ascii
        rcases toNat_ofNat_or (pending.bits * 64 + byte.toNat % 64) with whole | zero <;> omega
    · have later : .character character ∈ (enter byte).1 := by simpa using member
      exact toNat_of_mem_enter ascii later

theorem exists_byte_of_mem_gather {state : Option Pending} (beyond : Beyond state) {bytes : Bytes}
    {character : Char} (ascii : Ascii character)
    (member : .character character ∈ gather state [] bytes) :
    ∃ byte ∈ bytes, byte.toNat = character.toNat := by
  induction bytes generalizing state with
  | nil =>
    rw [gather_nil] at member
    cases state <;> simp [leftOver] at member
  | cons byte rest ih =>
    rw [gather_cons] at member
    rcases List.mem_append.1 member with completed | later
    · exact ⟨byte, List.mem_cons_self, toNat_of_mem_advance beyond ascii completed⟩
    · obtain ⟨found, listed, same⟩ := ih (beyond_advance beyond byte) later
      exact ⟨found, List.mem_cons_of_mem _ listed, same⟩

/-- A character of the first 128 is only read where its byte stands. -/
theorem exists_byte_of_mem_lossy {bytes : Bytes} {character : Char} (ascii : Ascii character)
    (member : character ∈ (lossy bytes).toList) : ∃ byte ∈ bytes, byte.toNat = character.toNat := by
  rw [lossy, String.toList_ofList] at member
  obtain ⟨piece, read, spelled⟩ := List.mem_map.1 member
  cases piece with
  | character other =>
    have same : other = character := spelled
    rw [same] at read
    exact exists_byte_of_mem_gather beyond_none ascii read
  | malformed bytes =>
    have replacement : '\uFFFD' = character := spelled
    rw [← replacement] at ascii
    exact absurd ascii.2 (by decide)

/-! ## Bytes of the first 128 -/

theorem enter_ascii {byte : UInt8} (small : byte.toNat < 0x80) :
    enter byte = ([.character (Char.ofNat byte.toNat)], none) := by
  rw [enter, ofByte_ascii byte small]

/-- A byte of the first 128 ends whatever is pending. -/
theorem advance_ascii {state : Option Pending} (beyond : Beyond state) {byte : UInt8}
    (small : byte.toNat < 0x80) :
    advance state byte = (leftOver state ++ [.character (Char.ofNat byte.toNat)], none) := by
  cases state with
  | none => exact enter_ascii small
  | some pending =>
    have low := (beyond pending rfl).low
    have outside : ¬(pending.low ≤ byte ∧ byte ≤ pending.high) := by
      rintro ⟨least, -⟩
      rw [UInt8.le_iff_toNat_le] at least
      omega
    rw [advance, if_neg outside, enter_ascii small]
    rfl

theorem gather_append_ascii {state : Option Pending} (beyond : Beyond state) (front : Bytes)
    {byte : UInt8} (small : byte.toNat < 0x80) (rest : Bytes) :
    gather state [] (front ++ byte :: rest) =
      gather state [] front ++ gather none [] (byte :: rest) := by
  induction front generalizing state with
  | nil =>
    rw [List.nil_append, gather_cons, gather_cons, advance_ascii beyond small,
      advance_ascii beyond_none small, gather_nil, List.append_assoc]
    rfl
  | cons first front ih =>
    rw [List.cons_append, gather_cons, gather_cons, ih (beyond_advance beyond first),
      List.append_assoc]

/-- What begins with a byte of the first 128 is read on its own. -/
theorem lossy_append (front : Bytes) {byte : UInt8} (small : byte.toNat < 0x80) (rest : Bytes) :
    lossy (front ++ byte :: rest) = lossy front ++ lossy (byte :: rest) := by
  rw [lossy, lossy, lossy, pieces, gather_append_ascii beyond_none front small, List.map_append,
    String.ofList_append]
  rfl

/-- A byte of the first 128 is read as its character, and what follows it on its own. -/
theorem lossy_cons_ascii {byte : UInt8} (small : byte.toNat < 0x80) (rest : Bytes) :
    lossy (byte :: rest) = String.ofList [Char.ofNat byte.toNat] ++ lossy rest := by
  rw [lossy, lossy, pieces, pieces, gather_cons, advance_ascii beyond_none small, ← String.ofList_append]
  rfl

/-! ## Bytes are never read as nothing -/

/-- A byte completes a piece or leaves one pending. -/
theorem advance_completes (state : Option Pending) (byte : UInt8)
    (completed : (advance state byte).1 = []) : (advance state byte).2 ≠ none := by
  have entered : (enter byte).1 = [] → (enter byte).2 ≠ none := by
    rw [enter]
    cases Lead.ofByte byte <;> simp
  cases state with
  | none => exact entered completed
  | some pending =>
    rw [advance] at completed ⊢
    split at completed
    · rename_i within
      rw [if_pos within]
      cases count : pending.later with
      | zero => simp [count] at completed
      | succ later => simp
    · simp at completed

theorem gather_eq_nil_iff {state : Option Pending} {bytes : Bytes} :
    gather state [] bytes = [] ↔ state = none ∧ bytes = [] := by
  induction bytes generalizing state with
  | nil =>
    rw [gather_nil]
    cases state <;> simp [leftOver]
  | cons byte rest ih =>
    rw [gather_cons, List.append_eq_nil_iff, ih]
    constructor
    · rintro ⟨completed, waiting, -⟩
      exact absurd waiting (advance_completes state byte completed)
    · rintro ⟨-, empty⟩
      cases empty

theorem lossy_eq_empty_iff {bytes : Bytes} : lossy bytes = "" ↔ bytes = [] := by
  rw [← String.toList_inj, lossy, String.toList_ofList, String.toList_empty, List.map_eq_nil_iff,
    pieces, gather_eq_nil_iff, and_iff_right rfl]

/-! ## Bytes that spell a text -/

/-- Bytes that spell a text are read as that text. -/
theorem lossy_of_decode? {bytes : Bytes} {text : String} (spelled : decode? bytes = some text) :
    lossy bytes = text := by
  rw [decode?] at spelled
  split at spelled
  · rename_i whole
    have each : ∀ found ∈ (pieces bytes).map Piece.character?,
        id found = some (found.getD '\uFFFD') := by
      intro found member
      obtain ⟨character, same⟩ := Option.isSome_iff_exists.1 (List.all_eq_true.1 whole found member)
      rw [same]
      rfl
    rw [List.filterMap_eq_map_iff_forall_eq_some.2 each, List.map_map] at spelled
    exact Option.some.inj spelled
  · cases spelled

theorem gather_flatMap_append (text : List Char) (rest : Bytes) :
    gather none [] (text.flatMap String.utf8EncodeChar ++ rest) =
      text.map .character ++ gather none [] rest := by
  induction text with
  | nil => rfl
  | cons character text ih =>
    rw [List.flatMap_cons, List.append_assoc, gather_utf8EncodeChar, gather_done, ih]
    rfl

/-- What stands behind a text is read on its own. -/
theorem lossy_encode_append (text : String) (rest : Bytes) :
    lossy (encode text ++ rest) = text ++ lossy rest := by
  rw [lossy, lossy, pieces, pieces, encode, gather_flatMap_append, List.map_append,
    String.ofList_append, List.map_map]
  simp [Function.comp_def, Piece.character?]

/-- A byte of the first 128 in the spelling of a text is one of its characters. -/
theorem mem_of_mem_encode {text : String} {byte : UInt8} (small : byte.toNat < 0x80)
    (member : byte ∈ encode text) : Char.ofNat byte.toNat ∈ text.toList := by
  obtain ⟨front, rest, spelled⟩ := List.append_of_mem member
  have read : text = lossy front ++ (String.ofList [Char.ofNat byte.toNat] ++ lossy rest) := by
    rw [← lossy_cons_ascii small, ← lossy_append front small, ← spelled, lossy_encode]
  rw [read]
  simp

/-- Bytes that begin with a text are read as a text that begins with it. -/
theorem prefix_lossy {text : String} {bytes : Bytes} (begins : encode text <+: bytes) :
    text.toList <+: (lossy bytes).toList := by
  obtain ⟨rest, rfl⟩ := begins
  rw [lossy_encode_append, String.toList_append]
  exact List.prefix_append _ _

end Utf8

end CompilerLauncher
