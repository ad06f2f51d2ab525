import CompilerLauncher.Proofs.FlatDocument
import CompilerLauncher.Proofs.QuotedScalar

/-!
# Scalars written on one line

A scalar fits a line if it is plain and looks like nothing else (`isPlain`), or stands between quotes.
It is read as it was written, before the colon of a key (`FitsLine.read_key`) and at the end of a line
(`FitsLine.read_value`), where a plain scalar takes in the line break to see whether it goes on.
-/

namespace CompilerLauncher

namespace Yaml

/-! ## Plain scalars -/

/-- A text that does not begin with what is skipped between tokens. -/
def isSolid (text : List Char) : Bool :=
  !text.head?.any fun character => isGap character || isBreak character || character == '#'

/-- The rest of a plain scalar: it does not end in a gap, and neither a comment nor the end of a key
begins in it. -/
def isPlainRest (behindGap : Bool) : List Char → Bool
  | [] => !behindGap
  | character :: rest =>
    isInline character &&
      if isGap character then isPlainRest true rest
      else !(behindGap && character == '#') && !(character == ':' && atGapOrEnd rest) &&
        isPlainRest false rest

theorem isInline_of_isPlainRest {behindGap : Bool} {text : List Char}
    (plain : isPlainRest behindGap text = true) : ∀ character ∈ text, isInline character = true := by
  induction text generalizing behindGap with
  | nil => nofun
  | cons character text ih =>
    rw [isPlainRest, Bool.and_eq_true] at plain
    refine List.forall_mem_cons.2 ⟨plain.1, ?_⟩
    have later := plain.2
    split at later
    · exact ih later
    · exact ih (Bool.and_eq_true_iff.1 later).2

/-- The reader of plain scalars takes the rest of one, character by character. -/
theorem plainFrom_append {indent : Nat} (least : indent ≤ 1) {text : List Char}
    (backward blanks : List Char) (plain : isPlainRest (blanks != []) text = true)
    (position : Position) (inside : blanks ≠ [] → 0 < position.column) (rest : List Char) :
    plainFrom false indent { backward, blanks } position (text ++ rest) =
      plainFrom false indent { backward := text.reverse ++ blanks ++ backward }
        (position.after text) rest := by
  -- The gap that was met last waits in the folding until it is known what follows.
  induction text generalizing backward blanks position with
  | nil =>
    have none : blanks = [] := by simpa [isPlainRest] using plain
    rw [none]
    rfl
  | cons character text ih =>
    rw [isPlainRest, Bool.and_eq_true] at plain
    obtain ⟨inline, later⟩ := plain
    have column : 0 < (position.behind character).column := by
      rw [Position.behind_of_isInline position inline]
      exact Nat.succ_pos _
    rw [List.cons_append, plainFrom]
    by_cases gap : isGap character = true
    · rw [if_pos gap] at later ⊢
      have next := ih backward (character :: blanks) later (position.behind character)
        fun _ => column
      simpa [Folding.blank] using next
    · rw [if_neg gap] at later ⊢
      simp only [Bool.and_eq_true, Bool.not_eq_true'] at later
      obtain ⟨⟨uncommented, unended⟩, later⟩ := later
      have goesOn : (({ backward, blanks } : Folding).inGap &&
          endsBehindGap false indent position.column (character :: (text ++ rest))) = false := by
        by_cases gapless : blanks = []
        · simp [Folding.inGap, gapless]
        · have placed := inside gapless
          have behindGap : (blanks != []) = true := by simpa using gapless
          rw [behindGap, Bool.true_and] at uncommented
          simp [endsBehindGap, show ¬position.column < indent by omega,
            show position.column ≠ 0 by omega, beq_eq_false_iff_ne.1 uncommented]
      have unended : endsPlain false character (text ++ rest) = false := by
        cases text with
        | nil =>
          have other : character ≠ ':' := by simpa [atGapOrEnd] using unended
          simp [endsPlain, other]
        | cons next text => simpa [endsPlain, atGapOrEnd] using unended
      have next := ih (character :: (blanks ++ backward)) [] later (position.behind character)
        fun filled => absurd rfl filled
      rw [isBreak_of_isInline inline, goesOn, unended]
      simpa [isStrayColon, Folding.push, Folding.joined] using next

theorem plainFrom_text {indent : Nat} (least : indent ≤ 1) {text : List Char}
    (plain : isPlainRest false text = true) (position : Position) (rest : List Char) :
    plainFrom false indent {} position (text ++ rest) =
      plainFrom false indent { backward := text.reverse } (position.after text) rest := by
  have taken := plainFrom_append least [] [] plain position (fun filled => absurd rfl filled) rest
  rwa [List.append_nil, List.append_nil] at taken

/-- A plain scalar ends before the end of a key. -/
theorem readPlain_key {indent : Nat} (least : indent ≤ 1) {text : List Char}
    (plain : isPlainRest false text = true) (position : Position) (rest : List Char) :
    readPlain false indent ⟨text ++ ':' :: ' ' :: rest, position⟩ =
      some ⟨String.ofList text, ⟨':' :: ' ' :: rest, position.after text⟩, false⟩ := by
  rw [readPlain, plainFrom_text least plain]
  simp [plainFrom, isGap, isBreak, Folding.inGap, isStrayColon, endsPlain, atGapOrEnd, textOf]

/-- A plain scalar ends with its line, if the next line is not indented. -/
theorem readPlain_value {text rest : List Char} (plain : isPlainRest false text = true)
    (position : Position) (solid : isSolid rest = true) :
    readPlain false 1 ⟨text ++ '\n' :: rest, position⟩ =
      some ⟨String.ofList text, ⟨rest, (position.after text).behind '\n'⟩, true⟩ := by
  rw [readPlain, plainFrom_text (Nat.le_refl 1) plain, plainFrom, if_neg (by decide),
    if_pos (by decide)]
  cases rest with
  | nil => simp [plainFrom, Folding.lineBreak, textOf]
  | cons character rest =>
    have column : ((position.after text).behind '\n').column = 0 := rfl
    simp only [isSolid, List.head?_cons, Option.any_some, Bool.not_eq_true', Bool.or_eq_false_iff]
      at solid
    simp [plainFrom, Folding.lineBreak, Folding.inGap, endsBehindGap, textOf, solid, column]

/-! ## Scalars of each style -/

/-- A plain scalar on one line. -/
def isPlain : List Char → Bool
  | [] => false
  | character :: rest =>
    Scanner.startsPlain false character rest && !(character == '-' && atGapOrEnd rest) &&
      isPlainRest false (character :: rest)

section Plain

variable {text : List Char}

theorem exists_cons_of_isPlain (plain : isPlain text = true) :
    ∃ character more, text = character :: more :=
  List.exists_cons_of_ne_nil fun empty => by
    rw [empty] at plain
    cases plain

theorem isPlainRest_of_isPlain (plain : isPlain text = true) : isPlainRest false text = true := by
  obtain ⟨character, more, rfl⟩ := exists_cons_of_isPlain plain
  exact (Bool.and_eq_true_iff.1 plain).2

/-- What may begin a plain scalar may do so whatever follows the scalar. -/
theorem startsPlain_append {character : Char} (plain : isPlain (character :: text) = true)
    (rest : List Char) :
    Scanner.startsPlain false character (text ++ rest) = true ∧
      (character = '-' → atGapOrEnd (text ++ rest) = false) := by
  simp only [isPlain, Bool.and_eq_true, Bool.not_eq_true'] at plain
  obtain ⟨⟨starts, dashed⟩, -⟩ := plain
  cases text with
  | nil =>
    have dashless : character ≠ '-' := by simpa [atGapOrEnd] using dashed
    simp [Scanner.startsPlain, atGapOrEnd, dashless] at starts
    simp [Scanner.startsPlain, dashless, starts]
  | cons next text =>
    refine ⟨by simpa [Scanner.startsPlain, atGapOrEnd] using starts, fun dash => ?_⟩
    simpa [dash, atGapOrEnd] using dashed

theorem isSolid_of_isPlain (plain : isPlain text = true) (rest : List Char) :
    isSolid (text ++ rest) = true := by
  obtain ⟨character, more, rfl⟩ := exists_cons_of_isPlain plain
  obtain ⟨starts, -⟩ := startsPlain_append plain []
  have apart : isGap character = false ∧ isBreak character = false ∧ character ≠ '#' := by
    by_cases joint : character = '-' ∨ character = '?' ∨ character = ':'
    · rcases joint with rfl | rfl | rfl <;> decide
    · simp [Scanner.startsPlain, not_or.1 joint, isFlowIndicator] at starts
      simp [starts]
  simp [isSolid, apart]

end Plain

/-- The style of a scalar between quotes. -/
def quotedStyle (single : Bool) : Style :=
  if single then .singleQuoted else .doubleQuoted

namespace Scalar

/-- A scalar that can be written on one line. -/
inductive FitsLine : Scalar → Prop
  | plain {text : String} (plain : isPlain text.toList = true) : FitsLine { text }
  | quoted (single : Bool) {text : String}
      (holds : single = true → ∀ character ∈ text.toList, isInline character = true) :
      FitsLine { style := quotedStyle single, text }

/-- The scalar as it is written on one line. -/
def written (scalar : Scalar) : List Char :=
  match scalar.style with
  | .singleQuoted => quoted true scalar.text.toList
  | .doubleQuoted => quoted false scalar.text.toList
  | .plain | .literal | .folded => scalar.text.toList

/-- Reads a plain or quoted scalar in block context. -/
def read (style : Style) (indent : Nat) (cursor : Cursor) : Option ScalarRead :=
  match style with
  | .singleQuoted => readQuoted true cursor
  | .doubleQuoted => readQuoted false cursor
  | .plain | .literal | .folded => readPlain false indent cursor

@[simp] theorem written_plain (text : String) : ({ text } : Scalar).written = text.toList := rfl

@[simp] theorem written_quoted (single : Bool) (text : String) :
    ({ style := quotedStyle single, text } : Scalar).written = quoted single text.toList := by
  cases single <;> rfl

@[simp] theorem read_plain (indent : Nat) (cursor : Cursor) :
    read .plain indent cursor = readPlain false indent cursor := rfl

@[simp] theorem read_quoted (single : Bool) (indent : Nat) (cursor : Cursor) :
    read (quotedStyle single) indent cursor = readQuoted single cursor := by
  cases single <;> rfl

variable {scalar : Scalar}

theorem FitsLine.isSimple (fits : scalar.FitsLine) : scalar.IsSimple := by
  cases fits with
  | plain => exact ⟨rfl, .inl rfl⟩
  | quoted single => exact ⟨rfl, by cases single <;> simp [quotedStyle]⟩

theorem FitsLine.inline (fits : scalar.FitsLine) :
    ∀ character ∈ scalar.written, isInline character = true := by
  cases fits with
  | plain plain => exact isInline_of_isPlainRest (isPlainRest_of_isPlain plain)
  | quoted single holds =>
    rw [written_quoted]
    exact isInline_of_mem_quoted holds

theorem FitsLine.written_ne_nil (fits : scalar.FitsLine) : scalar.written ≠ [] := by
  cases fits with
  | plain plain =>
    obtain ⟨character, more, made⟩ := exists_cons_of_isPlain plain
    rw [written_plain, made]
    exact List.cons_ne_nil _ _
  | quoted single =>
    rw [written_quoted]
    exact List.cons_ne_nil _ _

theorem FitsLine.solid (fits : scalar.FitsLine) (rest : List Char) :
    isSolid (scalar.written ++ rest) = true := by
  cases fits with
  | plain plain => exact isSolid_of_isPlain plain rest
  | quoted single => cases single <;> rfl

/-- A scalar is read as it was written, up to the end of a key. -/
theorem FitsLine.read_key (fits : scalar.FitsLine) {indent : Nat} (least : indent ≤ 1)
    (position : Position) (rest : List Char) :
    read scalar.style indent ⟨scalar.written ++ ':' :: ' ' :: rest, position⟩ =
      some ⟨scalar.text, ⟨':' :: ' ' :: rest, position.after scalar.written⟩, false⟩ := by
  cases fits with
  | plain plain => simp [readPlain_key least (isPlainRest_of_isPlain plain)]
  | quoted single holds =>
    rw [written_quoted, read_quoted, readQuoted_quoted holds position fun _ => by simp,
      String.ofList_toList]

/-- A scalar is read as it was written, up to the end of its line, which a plain one takes in. -/
theorem FitsLine.read_value (fits : scalar.FitsLine) (position : Position) {rest : List Char}
    (solid : isSolid rest = true) :
    read scalar.style 1 ⟨scalar.written ++ '\n' :: rest, position⟩ =
        some ⟨scalar.text, ⟨rest, (position.after scalar.written).behind '\n'⟩, true⟩ ∨
      read scalar.style 1 ⟨scalar.written ++ '\n' :: rest, position⟩ =
        some ⟨scalar.text, ⟨'\n' :: rest, position.after scalar.written⟩, false⟩ := by
  cases fits with
  | plain plain =>
    left
    simp [readPlain_value (isPlainRest_of_isPlain plain) position solid]
  | quoted single holds =>
    right
    rw [written_quoted, read_quoted, readQuoted_quoted holds position fun _ => by simp,
      String.ofList_toList]

end Scalar

end Yaml

end CompilerLauncher
