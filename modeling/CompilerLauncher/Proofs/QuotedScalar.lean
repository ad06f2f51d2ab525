import CompilerLauncher.Yaml.Scalar
import Mathlib.Algebra.Group.Nat.Defs

/-!
# Scalars between quotes

A text can be written between quotes on one line. Between single quotes stands any text of one line,
with its own quotes doubled. Between double quotes stands any text at all, since a character that a
line cannot hold is escaped by its number (`spell`). What is read is the text that was written, and
reading stops right behind the closing quote (`readQuoted_quoted`).
-/

namespace CompilerLauncher

namespace Yaml

/-! ## Positions on a line -/

/-- A character that a line may hold. -/
def isInline (character : Char) : Bool :=
  isAllowed character && !isLineFeed character && !isBreak character

theorem isBreak_of_isInline {character : Char} (inline : isInline character = true) :
    isBreak character = false := by
  simp only [isInline, Bool.and_eq_true, Bool.not_eq_true'] at inline
  exact inline.2

/-- The number of bytes that spell characters. -/
def spanOf : List Char → Nat
  | [] => 0
  | character :: text => character.utf8Size + spanOf text

namespace Position

/-- The position behind characters. -/
def after (position : Position) (text : List Char) : Position :=
  text.foldl behind position

@[simp] theorem after_nil (position : Position) : position.after [] = position := rfl

@[simp] theorem after_cons (position : Position) (character : Char) (text : List Char) :
    position.after (character :: text) = (position.behind character).after text := rfl

theorem after_append (position : Position) (first second : List Char) :
    position.after (first ++ second) = (position.after first).after second :=
  List.foldl_append

theorem behind_of_isInline (position : Position) {character : Char}
    (inline : isInline character = true) : position.behind character =
      ⟨position.line, position.column + 1, position.offset + character.utf8Size⟩ := by
  rw [behind, isBreak_of_isInline inline]
  rfl

/-- On a line the column counts the characters, and the offset their bytes. -/
theorem after_of_inline (position : Position) {text : List Char}
    (inline : ∀ character ∈ text, isInline character = true) : position.after text =
      ⟨position.line, position.column + text.length, position.offset + spanOf text⟩ := by
  induction text generalizing position with
  | nil => rfl
  | cons character text ih =>
    obtain ⟨first, later⟩ := List.forall_mem_cons.1 inline
    rw [after_cons, behind_of_isInline position first, ih _ later]
    simp only [spanOf, List.length_cons]
    congr 1 <;> omega

end Position

/-! ## Characters between quotes -/

namespace Folding

variable {folding : Folding}

/-- Takes a character that is no break. -/
def keep (folding : Folding) (character : Char) : Folding :=
  if isGap character then folding.blank character else folding.push character

theorem broken_keep (unbroken : folding.broken = false) (character : Char) :
    (folding.keep character).broken = false := by
  rw [keep]
  split
  · simp [blank, unbroken]
  · rfl

theorem joined_keep (unbroken : folding.broken = false) (character : Char) :
    (folding.keep character).joined = character :: folding.joined := by
  rw [keep]
  split
  · simp [blank, joined, unbroken]
  · simp [push, joined]

theorem joined_foldl_keep (unbroken : folding.broken = false) (text : List Char) :
    (text.foldl keep folding).joined = text.reverse ++ folding.joined := by
  induction text generalizing folding with
  | nil => rfl
  | cons character text ih =>
    rw [List.foldl_cons, ih (broken_keep unbroken character), joined_keep unbroken]
    simp

end Folding

/-- The last hexadecimal digits of a number. -/
def hexDigits : Nat → Nat → List Char
  | 0, _ => []
  | count + 1, number => Nat.digitChar (number / 16 ^ count % 16) :: hexDigits count number

theorem hexValue?_digitChar {digit : Nat} (small : digit < 16) :
    hexValue? (Nat.digitChar digit) = some digit := by
  decide +revert

theorem isInline_digitChar {digit : Nat} (small : digit < 16) :
    isInline (Nat.digitChar digit) = true := by
  decide +revert

theorem isInline_of_mem_hexDigits {count number : Nat} :
    ∀ digit ∈ hexDigits count number, isInline digit = true := by
  induction count with
  | zero => nofun
  | succ count ih =>
    exact List.forall_mem_cons.2 ⟨isInline_digitChar (Nat.mod_lt _ (by decide)), ih⟩

/-- The digits of a number are read as the number. -/
theorem quotedFrom_hexDigits (single : Bool) (folding : Folding) (count number value : Nat)
    (position : Position) (rest : List Char) :
    quotedFrom single folding (some (count + 1, value)) position
        (hexDigits (count + 1) number ++ rest) =
      (characterOf? (value * 16 ^ (count + 1) + number % 16 ^ (count + 1))).bind fun found =>
        quotedFrom single (folding.push found) none
          (position.after (hexDigits (count + 1) number)) rest := by
  induction count generalizing value position with
  | zero =>
    rw [hexDigits, List.cons_append, quotedFrom, hexValue?_digitChar (Nat.mod_lt _ (by decide))]
    simp only [hexDigits, Nat.pow_zero, Nat.div_one, Nat.zero_add, Nat.pow_one, List.nil_append]
    cases characterOf? (value * 16 + number % 16) <;> rfl
  | succ count ih =>
    -- The first digit joins the value that was read before it.
    have parts : value * 16 ^ (count + 2) + number % 16 ^ (count + 2) =
        (value * 16 + number / 16 ^ (count + 1) % 16) * 16 ^ (count + 1) +
          number % 16 ^ (count + 1) := by
      rw [Nat.mod_pow_succ, Nat.pow_succ 16 (count + 1), Nat.add_mul, Nat.mul_assoc,
        Nat.mul_comm 16 (16 ^ (count + 1)), Nat.mul_comm (number / _ % _), Nat.add_assoc,
        Nat.add_comm (_ * _) (number % _)]
    rw [hexDigits, List.cons_append, quotedFrom, hexValue?_digitChar (Nat.mod_lt _ (by decide)),
      parts]
    exact ih _ _

/-- The quotes of a style. -/
def quote (single : Bool) : Char :=
  if single then '\'' else '"'

/-- A character as it is written between quotes. Between double quotes a character that a line cannot
hold is written by its number. -/
def spell (single : Bool) (character : Char) : List Char :=
  if single then if character = '\'' then ['\'', '\''] else [character]
  else if character = '"' ∨ character = '\\' then ['\\', character]
  else if isInline character then [character]
  else '\\' :: 'U' :: hexDigits 8 character.toNat

theorem isInline_of_mem_spell {single : Bool} {character : Char}
    (holds : single = true → isInline character = true) :
    ∀ written ∈ spell single character, isInline written = true := by
  have escape : isInline '\\' = true := by decide
  unfold spell
  split
  · have inline := holds ‹_›
    split <;> simp_all
  · split
    · have marked : isInline character = true := by
        rcases ‹_ ∨ _› with rfl | rfl <;> decide
      exact List.forall_mem_cons.2 ⟨escape, List.forall_mem_singleton.2 marked⟩
    · split
      · exact List.forall_mem_singleton.2 ‹_›
      · exact List.forall_mem_cons.2 ⟨escape, List.forall_mem_cons.2
          ⟨by decide, isInline_of_mem_hexDigits⟩⟩

theorem toNat_valid (character : Char) :
    character.toNat < 0xD800 ∨ (0xDFFF < character.toNat ∧ character.toNat ≤ 0x10FFFF) := by
  have valid := character.valid
  have same : character.toNat = character.val.toNat := rfl
  simp only [UInt32.isValidChar, Nat.isValidChar] at valid
  omega

theorem characterOf?_toNat (character : Char) : characterOf? character.toNat = some character := by
  rw [characterOf?, if_pos (toNat_valid character), Char.ofNat_toNat]

section Quoted

variable {single : Bool} {folding : Folding} {position : Position}

theorem Position.column_after_pos (inside : 0 < position.column) {text : List Char}
    (inline : ∀ character ∈ text, isInline character = true) :
    0 < (position.after text).column := by
  rw [position.after_of_inline inline]
  exact Nat.add_pos_left inside _

/-- Between quotes a character that is written as it is. -/
theorem quotedFrom_cons {character : Char} (inline : isInline character = true)
    (unquoted : character ≠ quote single) (unescaped : single = false → character ≠ '\\')
    (inside : 0 < position.column) (rest : List Char) :
    quotedFrom single folding none position (character :: rest) =
      quotedFrom single (folding.keep character) none (position.behind character) rest := by
  have column : (position.column == 0) = false := beq_eq_false_iff_ne.2 (Nat.ne_of_gt inside)
  rw [quotedFrom.eq_def, Folding.keep]
  dsimp only
  rw [isBreak_of_isInline inline, column]
  split
  · rfl
  · cases single with
    | true => simp_all [quote]
    | false => simp_all [quote]

/-- Between quotes a character is read as it was written. -/
theorem quotedFrom_spell {character : Char} (holds : single = true → isInline character = true)
    (inside : 0 < position.column) (rest : List Char) :
    quotedFrom single folding none position (spell single character ++ rest) =
      quotedFrom single (folding.keep character) none
        (position.after (spell single character)) rest := by
  have column : (position.column == 0) = false := beq_eq_false_iff_ne.2 (Nat.ne_of_gt inside)
  cases single with
  | true =>
    rw [spell, if_pos rfl]
    by_cases quoted : character = '\''
    · subst quoted
      rw [if_pos rfl, quotedFrom.eq_def]
      simp [column, isGap, isBreak, Folding.keep]
    · have unquoted : character ≠ quote true := quoted
      rw [if_neg quoted]
      exact quotedFrom_cons (holds rfl) unquoted nofun inside rest
  | false =>
    rw [spell, if_neg Bool.false_ne_true]
    by_cases marked : character = '"' ∨ character = '\\'
    · rw [if_pos marked, quotedFrom.eq_def]
      rcases marked with rfl | rfl <;>
        simp [column, isGap, isBreak, Folding.keep, announcedDigits?, escaped?]
    · rw [if_neg marked]
      have unquoted : character ≠ quote false := (not_or.1 marked).1
      have unescaped : character ≠ '\\' := (not_or.1 marked).2
      by_cases inline : isInline character = true
      · rw [if_pos inline]
        exact quotedFrom_cons inline unquoted (fun _ => unescaped) inside rest
      · have gapless : isGap character = false := by
          refine Bool.eq_false_iff.2 fun gap => inline ?_
          simp only [isGap, Bool.or_eq_true, beq_iff_eq] at gap
          rcases gap with rfl | rfl <;> decide
        have small : 0 * 16 ^ 8 + character.toNat % 16 ^ 8 = character.toNat := by
          rw [Nat.zero_mul, Nat.zero_add]
          have valid := toNat_valid character
          exact Nat.mod_eq_of_lt (by omega)
        have digits := quotedFrom_hexDigits false folding 7 character.toNat 0
          ((position.behind '\\').behind 'U') rest
        rw [small, characterOf?_toNat] at digits
        rw [if_neg inline, quotedFrom.eq_def]
        rw [Folding.keep, gapless]
        simpa [column, isGap, isBreak, announcedDigits?] using digits

/-- Between quotes a text is read as it was written. -/
theorem quotedFrom_append {text : List Char}
    (holds : single = true → ∀ character ∈ text, isInline character = true)
    (inside : 0 < position.column) (rest : List Char) :
    quotedFrom single folding none position (text.flatMap (spell single) ++ rest) =
      quotedFrom single (text.foldl Folding.keep folding) none
        (position.after (text.flatMap (spell single))) rest := by
  induction text generalizing folding position with
  | nil => rfl
  | cons character text ih =>
    have first : single = true → isInline character = true := fun isSingle =>
      holds isSingle character List.mem_cons_self
    have later : single = true → ∀ character ∈ text, isInline character = true :=
      fun isSingle character member => holds isSingle character (List.mem_cons_of_mem _ member)
    rw [List.flatMap_cons, List.append_assoc, quotedFrom_spell first inside,
      ih later (Position.column_after_pos inside (isInline_of_mem_spell first)),
      Position.after_append]
    rfl

/-- The closing quote ends the scalar, unless it is one of two single ones. -/
theorem quotedFrom_quote (inside : 0 < position.column) {rest : List Char}
    (alone : single = true → rest.head? ≠ some '\'') :
    quotedFrom single folding none position (quote single :: rest) =
      some ⟨textOf folding.joined, ⟨rest, position.behind (quote single)⟩, false⟩ := by
  have column : (position.column == 0) = false := beq_eq_false_iff_ne.2 (Nat.ne_of_gt inside)
  rw [quotedFrom.eq_def]
  cases single with
  | true =>
    cases rest with
    | nil => simp [quote, column, isGap, isBreak]
    | cons next rest =>
      have other : next ≠ '\'' := fun same => alone rfl (congrArg some same)
      simp [quote, column, isGap, isBreak, other]
  | false => simp [quote, column, isGap, isBreak]

end Quoted

/-- A text between quotes. -/
def quoted (single : Bool) (text : List Char) : List Char :=
  quote single :: (text.flatMap (spell single) ++ [quote single])

theorem isInline_quote (single : Bool) : isInline (quote single) = true := by
  cases single <;> decide

section QuotedText

variable {single : Bool} {text : List Char}
  (holds : single = true → ∀ character ∈ text, isInline character = true)

include holds

theorem isInline_of_mem_flatMap_spell :
    ∀ written ∈ text.flatMap (spell single), isInline written = true := by
  intro written member
  obtain ⟨character, listed, here⟩ := List.mem_flatMap.1 member
  exact isInline_of_mem_spell (fun isSingle => holds isSingle character listed) written here

theorem isInline_of_mem_quoted : ∀ written ∈ quoted single text, isInline written = true := by
  refine List.forall_mem_cons.2 ⟨isInline_quote single, List.forall_mem_append.2 ⟨?_, ?_⟩⟩
  · exact isInline_of_mem_flatMap_spell holds
  · exact List.forall_mem_singleton.2 (isInline_quote single)

/-- A text between quotes is read as it was written. -/
theorem readQuoted_quoted (position : Position) {rest : List Char}
    (alone : single = true → rest.head? ≠ some '\'') :
    readQuoted single ⟨quoted single text ++ rest, position⟩ =
      some ⟨String.ofList text, ⟨rest, position.after (quoted single text)⟩, false⟩ := by
  have inside : 0 < (position.behind (quote single)).column := by
    rw [position.behind_of_isInline (isInline_quote single)]
    exact Nat.succ_pos _
  rw [readQuoted, quoted, List.cons_append, List.append_assoc, Cursor.next,
    quotedFrom_append holds inside, List.singleton_append,
    quotedFrom_quote (Position.column_after_pos inside (isInline_of_mem_flatMap_spell holds)) alone,
    textOf, Folding.joined_foldl_keep rfl, Position.after_cons, Position.after_append]
  simp [Folding.joined]

end QuotedText

end Yaml

end CompilerLauncher
