import CompilerLauncher.Proofs.WrittenScalar

/-!
# Scanning lines of keys and values

The scanner makes an entry of a block mapping in three rounds: one for the key, one for the colon,
which shows that a key began and so puts the tokens that announce it where it did, and one for the
value. Behind these rounds it stands at the next line, as it stood at this one (`run_line`), so that
lines follow each other as the entries do (`run_lines`).
-/

namespace CompilerLauncher

namespace Yaml

namespace Scanner

/-- The scanner where a line begins outside of flow collections, behind some tokens. -/
def atLine (backward : List Token) (indents : List Nat) (cursor : Cursor) : Scanner :=
  { cursor, backward, count := backward.length, indents }

/-- A text that a line may begin with. -/
structure BeginsLine (text : List Char) : Prop where
  solid : isSolid text = true
  unmarked : text.head? ≠ some orderMark

/-! ## Between tokens -/

theorem beginsLine_nil : BeginsLine [] :=
  ⟨rfl, nofun⟩

/-- Nothing is skipped before a text that a line may begin with. -/
theorem skipBlank_begins {fuel : Nat} {scanner : Scanner}
    (begins : BeginsLine scanner.cursor.rest) : scanner.skipBlank fuel = scanner := by
  obtain ⟨⟨rest, position⟩, backward, count, key, outerKeys, indents, keyAllowed⟩ := scanner
  obtain ⟨solid, unmarked⟩ := begins
  cases fuel with
  | zero => rfl
  | succ fuel =>
    cases rest with
    | nil => simp [skipBlank, behindMark, Cursor.isAt, Cursor.dropWhile, Cursor.takeWhile]
    | cons character rest =>
      have unmarked : character ≠ orderMark := fun same => unmarked (congrArg some same)
      simp [isSolid, isGap] at solid
      simp [skipBlank, behindMark, Cursor.isAt, Cursor.dropWhile, Cursor.takeWhile, solid, unmarked]

/-- A blank before the text is skipped. -/
theorem skipBlank_space {fuel : Nat} {scanner : Scanner} {rest : List Char}
    (here : scanner.cursor.rest = ' ' :: rest) (solid : isSolid rest = true) :
    scanner.skipBlank (fuel + 1) =
      { scanner with cursor := ⟨rest, scanner.cursor.position.behind ' '⟩ } := by
  obtain ⟨⟨_, position⟩, backward, count, key, outerKeys, indents, keyAllowed⟩ := scanner
  subst here
  have unmarked : (some ' ' == some orderMark) = false := by decide
  have unbroken : isBreak ' ' = false := by decide
  cases rest with
  | nil =>
    simp [skipBlank, behindMark, Cursor.isAt, Cursor.dropWhile, Cursor.takeWhile, unmarked,
      unbroken]
  | cons character rest =>
    simp [isSolid, isGap] at solid
    simp [skipBlank, behindMark, Cursor.isAt, Cursor.dropWhile, Cursor.takeWhile, unmarked,
      unbroken, solid]

/-- A line break before the text is skipped. -/
theorem skipBlank_break {fuel : Nat} {scanner : Scanner} {rest : List Char}
    (here : scanner.cursor.rest = '\n' :: rest) (begins : BeginsLine rest) :
    scanner.skipBlank (fuel + 1) =
      { scanner with
        cursor := ⟨rest, scanner.cursor.position.behind '\n'⟩,
        keyAllowed := scanner.keyAllowed || !scanner.inFlow } := by
  obtain ⟨⟨_, position⟩, backward, count, key, outerKeys, indents, keyAllowed⟩ := scanner
  subst here
  have unmarked : (some '\n' == some orderMark) = false := by decide
  rw [skipBlank]
  simp [behindMark, Cursor.isAt, Cursor.dropWhile, Cursor.takeWhile, unmarked, isBreak, Cursor.next,
    skipBlank_begins, begins]

/-! ## Rounds -/

/-- The scanner goes on alike from where it stands after blanks. -/
theorem run_congr {fuel : Nat} {scanner other : Scanner}
    (same : scanner.skipBlank (fuel + 1) = other.skipBlank (fuel + 1)) :
    run (fuel + 1) scanner = run (fuel + 1) other := by
  rw [run, run, same]

theorem unroll_outermost {scanner : Scanner} (outermost : ∀ indent ∈ scanner.indents, indent = 0)
    (column : Nat) : scanner.unroll (some column) = scanner := by
  have none : endedBy (some column) scanner.indents = 0 := by
    cases indents : scanner.indents with
    | nil => rfl
    | cons indent outer =>
      rw [indents] at outermost
      simp [endedBy, outermost indent List.mem_cons_self]
  simp [unroll, none]

section Round

variable {fuel : Nat} {scanner settled : Scanner} (skipped : scanner.skipBlank (fuel + 1) = settled)
  (fresh : settled.dropStale = some settled) (outermost : ∀ indent ∈ settled.indents, indent = 0)

include skipped fresh outermost

/-- One round of the scanner, from where it stands after blanks. -/
theorem run_settled : run (fuel + 1) scanner =
    match settled.cursor.rest with
    | [] => settled.finish
    | character :: rest => (settled.take character rest).bind (run fuel) := by
  rw [run]
  cases here : settled.cursor.rest <;>
    simp only [skipped, fresh, Option.bind_eq_bind, Option.bind_some, unroll_outermost outermost,
      here]

theorem run_take {character : Char} {rest : List Char}
    (here : settled.cursor.rest = character :: rest) :
    run (fuel + 1) scanner = (settled.take character rest).bind (run fuel) := by
  rw [run_settled skipped fresh outermost, here]

theorem run_end (here : settled.cursor.rest = []) : run (fuel + 1) scanner = settled.finish := by
  rw [run_settled skipped fresh outermost, here]

end Round

theorem isTriple_cons_of_ne {mark character : Char} (differ : character ≠ mark) (rest : List Char) :
    isTriple mark (character :: rest) = false := by
  match rest with
  | [] | [_] => rfl
  | second :: third :: rest => simp [isTriple, differ]

/-- What begins a plain scalar begins nothing else. -/
theorem take_plain {scanner : Scanner} {character : Char} {rest : List Char}
    (block : scanner.outerKeys = []) (starts : startsPlain false character rest = true)
    (filled : character = '-' → atGapOrEnd rest = false)
    (unmarked : scanner.cursor.column = 0 → isDocumentMark scanner.cursor.rest = false) :
    scanner.take character rest =
      scanner.takeScalar .plain (readPlain false scanner.inner scanner.cursor) := by
  have inBlock : scanner.inFlow = false := by simp [inFlow, block]
  have unmarked : (scanner.cursor.column == 0 && isTriple '-' scanner.cursor.rest) = false ∧
      (scanner.cursor.column == 0 && isTriple '.' scanner.cursor.rest) = false := by
    simpa [isDocumentMark, imp_and] using unmarked
  rw [take, unmarked.1, unmarked.2, inBlock, starts]
  by_cases dash : character = '-'
  · subst dash
    simp [filled rfl]
  · by_cases asked : character = '?'
    · subst asked
      simp [startsPlain] at starts
      simp [starts]
    · by_cases valued : character = ':'
      · subst valued
        simp [startsPlain] at starts
        simp [starts]
      · simp [startsPlain, dash, asked, valued, isFlowIndicator] at starts
        simp [starts, dash, asked, valued]

/-- A quote begins a scalar between quotes. -/
theorem take_quote {scanner : Scanner} (single : Bool) {rest : List Char}
    (here : scanner.cursor.rest = quote single :: rest) :
    scanner.take (quote single) rest =
      scanner.takeScalar (quotedStyle single) (readQuoted single scanner.cursor) := by
  rw [take, here]
  cases single <;> simp [quote, quotedStyle, isTriple_cons_of_ne]

variable {scalar : Scalar} {fuel : Nat} {scanner settled : Scanner} {rest : List Char}

/-- The scanner takes a scalar that it meets in block context. -/
theorem run_scalar (fits : scalar.FitsLine) (skipped : scanner.skipBlank (fuel + 1) = settled)
    (fresh : settled.dropStale = some settled) (outermost : ∀ indent ∈ settled.indents, indent = 0)
    (block : settled.outerKeys = []) (here : settled.cursor.rest = scalar.written ++ rest)
    (unmarked : settled.cursor.column = 0 → isDocumentMark settled.cursor.rest = false) :
    run (fuel + 1) scanner =
      (settled.takeScalar scalar.style
        (Scalar.read scalar.style settled.inner settled.cursor)).bind (run fuel) := by
  cases fits with
  | plain plain =>
    obtain ⟨character, more, made⟩ := exists_cons_of_isPlain plain
    rw [Scalar.written_plain, made, List.cons_append] at here
    rw [made] at plain
    obtain ⟨starts, filled⟩ := startsPlain_append plain rest
    rw [run_take skipped fresh outermost here, take_plain block starts filled unmarked]
    rfl
  | quoted single holds =>
    rw [Scalar.written_quoted, quoted, List.cons_append] at here
    rw [run_take skipped fresh outermost here, take_quote single here, Scalar.read_quoted]

end Scanner

/-! ## Lines -/

/-- The token of a scalar. -/
def Scalar.token (scalar : Scalar) : Token :=
  .scalar scalar.style scalar.text

namespace Assignment

/-- The line of an entry. -/
def written (entry : Assignment) : List Char :=
  entry.1.written ++ ':' :: ' ' :: (entry.2.written ++ ['\n'])

/-- The tokens of an entry. -/
def tokens (entry : Assignment) : List Token :=
  [.key, entry.1.token, .value, entry.2.token]

/-- An entry that can be written on a line of its own. -/
structure FitsLine (entry : Assignment) : Prop where
  key : entry.1.FitsLine
  value : entry.2.FitsLine
  short : spanOf entry.1.written ≤ Scanner.keySpan
  unmarked : isDocumentMark entry.1.written = false
  started : entry.1.written.head? ≠ some Scanner.orderMark

end Assignment

namespace Scanner

/-- The tokens with the start of the mapping, if it has not begun. -/
def opened (backward : List Token) (indents : List Nat) : List Token :=
  if indents = [] then .blockMappingStart :: backward else backward

/-- The scanner behind a key that began at a position. -/
def atColon (backward : List Token) (indents : List Nat) (start : Position) (key : Scalar)
    (cursor : Cursor) : Scanner where
  cursor := cursor
  backward := key.token :: backward
  count := backward.length + 1
  key := some ⟨backward.length, start, indents.head? == some start.column⟩
  indents := indents
  keyAllowed := false

/-- The scanner behind the colon of an entry. -/
def atValue (backward : List Token) (cursor : Cursor) : Scanner where
  cursor := cursor
  backward := backward
  count := backward.length
  indents := [0]
  keyAllowed := false

variable {entry : Assignment} {backward : List Token} {indents : List Nat} {position : Position}

theorem beginsLine_written (fits : entry.FitsLine) (rest : List Char) :
    BeginsLine (entry.written ++ rest) := by
  rw [Assignment.written, List.append_assoc]
  refine ⟨fits.key.solid _, ?_⟩
  obtain ⟨first, more, made⟩ := List.exists_cons_of_ne_nil fits.key.written_ne_nil
  have started := fits.started
  rw [made] at started ⊢
  exact started

theorem isTriple_append_colon {mark : Char} (other : ':' ≠ mark) {text : List Char}
    (unmarked : isTriple mark text = false) (rest : List Char) :
    isTriple mark (text ++ ':' :: rest) = false := by
  match text with
  | [] => exact isTriple_cons_of_ne other rest
  | [first] => cases rest <;> simp [isTriple, other]
  | [first, second] => simp [isTriple, other]
  | first :: second :: third :: text =>
    cases text with
    | nil => simp [isTriple, atGapOrEnd, isGap, isBreak]
    | cons next text => simpa [isTriple, atGapOrEnd] using unmarked

/-- The outermost column is the only one where a collection may have begun. -/
theorem inner_le {scanner : Scanner} (outermost : ∀ indent ∈ scanner.indents, indent = 0) :
    scanner.inner ≤ 1 := by
  rw [inner, indent]
  cases indents : scanner.indents with
  | nil => exact Nat.zero_le 1
  | cons indent outer =>
    rw [indents] at outermost
    rw [outermost indent List.mem_cons_self]
    exact Nat.le_refl 1

theorem skipBlank_atLine (begins : BeginsLine rest) (backward : List Token) (indents : List Nat)
    (position : Position) : (atLine backward indents ⟨rest, position⟩).skipBlank fuel =
      atLine backward indents ⟨rest, position⟩ :=
  skipBlank_begins begins

/-- A line begins with its key. -/
theorem run_key (fits : entry.FitsLine) (outermost : ∀ indent ∈ indents, indent = 0)
    (rest : List Char) :
    run (fuel + 1) (atLine backward indents ⟨entry.written ++ rest, position⟩) =
      run fuel (atColon backward indents position entry.1
        ⟨':' :: ' ' :: (entry.2.written ++ '\n' :: rest), position.after entry.1.written⟩) := by
  have here : entry.written ++ rest =
      entry.1.written ++ ':' :: ' ' :: (entry.2.written ++ '\n' :: rest) := by
    simp [Assignment.written]
  have begins := beginsLine_written fits rest
  have unmarked : isDocumentMark (entry.written ++ rest) = false := by
    have unmarked := fits.unmarked
    rw [isDocumentMark, Bool.or_eq_false_iff] at unmarked
    rw [here, isDocumentMark, isTriple_append_colon (by decide) unmarked.1,
      isTriple_append_colon (by decide) unmarked.2]
    rfl
  have least : (atLine backward indents ⟨entry.written ++ rest, position⟩).inner ≤ 1 :=
    inner_le outermost
  have read := fits.key.read_key least position (entry.2.written ++ '\n' :: rest)
  rw [← here] at read
  rw [run_scalar fits.key (skipBlank_atLine begins _ _ _) rfl outermost rfl here fun _ => unmarked]
  change (takeScalar _ _ (Scalar.read _ _ ⟨entry.written ++ rest, position⟩)).bind _ = _
  rw [read]
  rfl

theorem take_colon {scanner : Scanner} (block : scanner.outerKeys = [])
    (inside : scanner.cursor.column ≠ 0) (rest : List Char) :
    scanner.take ':' (' ' :: rest) = scanner.takeValue := by
  simp [take, inFlow, block, inside, atGapOrEnd, isGap]

/-- The colon shows that a key began, and the first one that a mapping did. -/
theorem takeValue_atColon (outermost : indents = [] ∨ indents = [0]) {start : Position}
    (begun : start.column = 0) (key : Scalar) (cursor : Cursor) :
    (atColon backward indents start key cursor).takeValue =
      some (atValue (.value :: key.token :: .key :: opened backward indents) cursor.next) := by
  -- Only the key stands behind the place where its announcements are put.
  have one : backward.length + 1 - backward.length = 1 := by omega
  have two : backward.length + 1 + 1 - backward.length = 2 := by omega
  rcases outermost with rfl | rfl <;>
    simp [atColon, takeValue, insert, roll, inFlow, indent, emitTo, atValue, opened, begun, one,
      two]

theorem beginsLine_colon {rest : List Char} : BeginsLine (':' :: rest) :=
  ⟨rfl, fun marked => absurd (Option.some.inj marked) (by decide)⟩

/-- The colon behind a key is met before it is too late. -/
theorem run_colon (outermost : indents = [] ∨ indents = [0]) {start behind : Position}
    (begun : start.column = 0) (same : behind.line = start.line)
    (near : behind.offset ≤ start.offset + keySpan) (inside : behind.column ≠ 0) (key : Scalar)
    (rest : List Char) :
    run (fuel + 1) (atColon backward indents start key ⟨':' :: ' ' :: rest, behind⟩) =
      run fuel (atValue (.value :: key.token :: .key :: opened backward indents)
        ⟨' ' :: rest, behind.behind ':'⟩) := by
  -- The place of the key is on the same line and near enough, so that it is still remembered.
  have fresh : (atColon backward indents start key ⟨':' :: ' ' :: rest, behind⟩).dropStale =
      some (atColon backward indents start key ⟨':' :: ' ' :: rest, behind⟩) := by
    have early : ¬start.offset + keySpan < behind.offset := Nat.not_lt.2 near
    simp [dropStale, freshKey, isStale, atColon, Cursor.line, same, early]
  have zero : ∀ indent ∈ indents, indent = 0 := by
    rcases outermost with rfl | rfl <;> simp
  rw [run_take (skipBlank_begins beginsLine_colon) fresh zero rfl, take_colon rfl (by exact inside),
    takeValue_atColon outermost begun]
  rfl

/-- Behind a colon comes the value, and then the next line. -/
theorem run_value {value : Scalar} (fits : value.FitsLine) (begins : BeginsLine rest)
    (position : Position) :
    ∃ next : Position, next.column = 0 ∧ ∀ fuel backward,
      run (fuel + 3) (atValue backward ⟨' ' :: (value.written ++ '\n' :: rest), position⟩) =
        run (fuel + 2) (atLine (value.token :: backward) [0] ⟨rest, next⟩) := by
  have inside : (position.behind ' ').column ≠ 0 := by
    rw [position.behind_of_isInline (by decide)]
    exact Nat.succ_ne_zero _
  have taken (fuel : Nat) (backward : List Token) :
      run (fuel + 3) (atValue backward ⟨' ' :: (value.written ++ '\n' :: rest), position⟩) =
        (takeScalar (atValue backward ⟨value.written ++ '\n' :: rest, position.behind ' '⟩)
          value.style (Scalar.read value.style 1
            ⟨value.written ++ '\n' :: rest, position.behind ' '⟩)).bind (run (fuel + 2)) :=
    run_scalar fits (skipBlank_space rfl (fits.solid _)) rfl (by simp [atValue]) rfl rfl
      fun zero => absurd zero inside
  refine ⟨((position.behind ' ').after value.written).behind '\n', rfl, fun fuel backward => ?_⟩
  rw [taken]
  rcases fits.read_value (position.behind ' ') begins.solid with read | read
  · rw [read]
    rfl
  · rw [read]
    exact run_congr ((skipBlank_break rfl begins).trans (skipBlank_atLine begins _ _ _).symm)

/-- The scanner takes an entry with its line. -/
theorem run_line (fits : entry.FitsLine) (outermost : indents = [] ∨ indents = [0])
    (begun : position.column = 0) (begins : BeginsLine rest) :
    ∃ next : Position, next.column = 0 ∧ ∀ fuel backward,
      run (fuel + 5) (atLine backward indents ⟨entry.written ++ rest, position⟩) =
        run (fuel + 2)
          (atLine (entry.tokens.reverse ++ opened backward indents) [0] ⟨rest, next⟩) := by
  have zero : ∀ indent ∈ indents, indent = 0 := by
    rcases outermost with rfl | rfl <;> simp
  have behind := position.after_of_inline fits.key.inline
  have inside : (position.after entry.1.written).column ≠ 0 := by
    have filled := List.length_pos_iff.2 fits.key.written_ne_nil
    rw [behind]
    dsimp only
    omega
  have near : (position.after entry.1.written).offset ≤ position.offset + keySpan := by
    rw [behind]
    exact Nat.add_le_add_left fits.short _
  have same : (position.after entry.1.written).line = position.line := by
    rw [behind]
  obtain ⟨next, start, valued⟩ := run_value fits.value begins
    ((position.after entry.1.written).behind ':')
  refine ⟨next, start, fun fuel backward => ?_⟩
  rw [run_key fits zero, run_colon outermost begun same near inside, valued]
  rfl

end Scanner

/-- The lines of a mapping. -/
def writtenMapping (entries : List Assignment) : List Char :=
  entries.flatMap Assignment.written

namespace Scanner

variable {entries : List Assignment} {position : Position}

theorem beginsLine_writtenMapping (fits : ∀ entry ∈ entries, entry.FitsLine) :
    BeginsLine (writtenMapping entries) := by
  cases entries with
  | nil => exact beginsLine_nil
  | cons entry entries => exact beginsLine_written (fits entry List.mem_cons_self) _

/-- The end of the text ends the mapping. -/
theorem finish_atLine (backward : List Token) (cursor : Cursor) :
    (atLine backward [0] cursor).finish = some (backward.reverse ++ [.blockEnd]) := by
  simp [finish, atLine, unroll, inFlow, endedBy, forgetKey]

/-- The scanner takes the lines of a mapping that has begun. -/
theorem run_lines (fuel : Nat) (backward : List Token)
    (fits : ∀ entry ∈ entries, entry.FitsLine) (begun : position.column = 0) :
    run (3 * entries.length + (fuel + 2)) (atLine backward [0] ⟨writtenMapping entries, position⟩) =
      some (backward.reverse ++ (entries.flatMap Assignment.tokens ++ [.blockEnd])) := by
  induction entries generalizing backward position with
  | nil =>
    rw [List.length_nil, Nat.mul_zero, Nat.zero_add]
    exact (run_end (skipBlank_atLine beginsLine_nil _ _ _) rfl (by simp [atLine]) rfl).trans
      (finish_atLine backward _)
  | cons entry entries ih =>
    obtain ⟨first, later⟩ := List.forall_mem_cons.1 fits
    obtain ⟨next, start, taken⟩ := run_line first (.inr rfl) begun (beginsLine_writtenMapping later)
    have fuelled : 3 * (entry :: entries).length + (fuel + 2) = 3 * entries.length + fuel + 5 := by
      rw [List.length_cons]
      omega
    have opening : opened backward [0] = backward := rfl
    rw [fuelled, writtenMapping, List.flatMap_cons]
    change run _ (atLine _ _ ⟨entry.written ++ writtenMapping entries, position⟩) = _
    rw [taken, opening, Nat.add_assoc, ih _ later start]
    simp

end Scanner

end Yaml

end CompilerLauncher
