import CompilerLauncher.Proofs.ResponseSplitting

/-!
# Leads of response files

What leads the text of a response file stands there unescaped. A lead without double quotes may
still hold an apostrophe, which opens a quote too. If none is left open at its end, the lead is
split like a text of its own. If one is left open, the double quotes that were meant to open
arguments no longer do, and written arguments and the stretches between them trade places: `Gap`
holds of the state in front of a written argument, `Body` of the states within one.

Two counts are kept over the whole text. No written apostrophe is ever taken over, so none of the
arguments that end in the text can be one that was written with an apostrophe; and without an
apostrophe nothing ends at all. Every written double quote is taken over, and one more that was
meant to open an argument. So the text never gives one piece and then the arguments that were
written (`pieces_led_ne`).
-/

namespace CompilerLauncher

open CommandLine (quoted)

namespace ResponseFile

/-- The quote that is left open at the end of a text, if one is. -/
def openQuote (text : String) : Option Char :=
  (splitter.after none text.toList).bind Piece.quote

/-! ## Counting what is taken over -/

/-- How often a character stands in the argument that is being read. -/
def held (character : Char) : Option Piece → Nat
  | none => 0
  | some piece => piece.backward.count character

/-- A text leads from one state to another, and brings in a character that often. -/
structure Brings (character : Char) (before : Option Piece) (text : List Char)
    (last : Option Piece) (count : Nat) : Prop where
  after : splitter.after before text = last
  count : (splitter.completed before text).flatten.count character + held character last =
    held character before + count

theorem Brings.nil (character : Char) (state : Option Piece) :
    Brings character state [] state 0 :=
  ⟨rfl, by simp⟩

theorem Brings.append {character : Char} {before middle last : Option Piece}
    {left right : List Char} {leftCount rightCount : Nat}
    (first : Brings character before left middle leftCount)
    (second : Brings character middle right last rightCount) :
    Brings character before (left ++ right) last (leftCount + rightCount) where
  after := by rw [Splitter.after_append, first.after, second.after]
  count := by
    have counted := first.count
    have counted' := second.count
    rw [Splitter.completed_append, first.after, List.flatten_append, List.count_append]
    omega

/-- A text within one argument brings in what that argument grows by. -/
theorem Brings.of_reads {character : Char} {before : Option Piece} {text : List Char}
    {last : Piece} {count : Nat} (reads : splitter.Reads before text last)
    (grown : last.backward.count character = held character before + count) :
    Brings character before text (some last) count where
  after := reads.after
  count := by simpa [reads.completed, held] using grown

/-- The pieces of a text hold what was held before it and what it brings in. -/
theorem Brings.count_pieces {character : Char} {before last : Option Piece} {text : List Char}
    {count : Nat} (brings : Brings character before text last count) :
    (splitter.pieces before text).flatten.count character = held character before + count := by
  rw [← brings.count, Splitter.pieces, brings.after, List.flatten_append, List.count_append]
  cases last <;> simp [held, splitter]

/-! ## Written arguments out of place -/

/-- Within a written argument: no double quote is open, and no character waits to be taken over. -/
def Body (state : Option Piece) : Prop :=
  ∀ piece, state = some piece →
    piece.literal = false ∧ (piece.quote = none ∨ piece.quote = some '\'')

/-- In front of a written argument: some quote is open, and no character waits. -/
def Gap (piece : Piece) : Prop :=
  piece.literal = false ∧ (piece.quote = some '"' ∨ piece.quote = some '\'')

/-- How often a written argument brings a quote in: a double quote as often as it stands there, an
apostrophe never. -/
def brought (quote : Char) (argument : List Char) : Nat :=
  if quote = '"' then argument.count '"' else 0

theorem brought_append (quote : Char) (left right : List Char) :
    brought quote (left ++ right) = brought quote left + brought quote right := by
  unfold brought
  split
  · exact List.count_append
  · rfl

theorem body_none : Body none := by
  intro piece found
  cases found

/-- A character that is none of the two quotes is taken over without bringing one in. -/
theorem count_cons_brought {character : Char} (apostrophe : character ≠ '\'')
    (backward : List Char) {quote : Char} (either : quote = '"' ∨ quote = '\'') :
    (character :: backward).count quote = backward.count quote + brought quote [character] := by
  rcases either with rfl | rfl
  · simp [brought, List.count_cons]
  · simp [brought, apostrophe]

/-- Within a written argument, a character that does not end the piece leaves it within one. -/
theorem body_reads {quote : Option Char} (unquoted : quote = none ∨ quote = some '\'')
    (backward : List Char) {character : Char}
    (goesOn : quote = some '\'' ∨ isBlank character = false) :
    ∃ next, splitter.Reads (some ⟨quote, false, backward⟩) (escaped character) next ∧
      Body (some next) ∧ ∀ mark, mark = '"' ∨ mark = '\'' →
        next.backward.count mark = backward.count mark + brought mark [character] := by
  have body : ∀ quote backward, quote = none ∨ quote = some '\'' →
      Body (some ⟨quote, false, backward⟩) := by
    intro quote backward unquoted piece found
    cases found
    exact ⟨rfl, unquoted⟩
  rw [escaped]
  split
  · rename_i written
    have apostrophe : character ≠ '\'' := by rintro rfl; simp at written
    exact ⟨_, reads_escape quote backward character, body _ _ unquoted,
      fun mark => count_cons_brought apostrophe backward⟩
  · rename_i plain
    have backslash : character ≠ '\\' := fun same => plain (.inl same)
    have double : character ≠ '"' := fun same => plain (.inr same)
    by_cases apostrophe : character = '\''
    · subst apostrophe
      -- An apostrophe is dropped: it closes the quote that is open, or opens one.
      rcases unquoted with rfl | rfl
      · exact ⟨_, .cons (next?_open (.inr rfl) backward) (.nil _), body _ _ (.inr rfl),
          fun mark either => by rcases either with rfl | rfl <;> simp [brought]⟩
      · exact ⟨_, .cons (next?_close '\'' backward (by decide)) (.nil _), body _ _ (.inl rfl),
          fun mark either => by rcases either with rfl | rfl <;> simp [brought]⟩
    · refine ⟨⟨quote, false, character :: backward⟩, .cons ?_ (.nil _), body _ _ unquoted,
        fun mark => count_cons_brought apostrophe backward⟩
      rcases unquoted with rfl | rfl
      · have blank : isBlank character = false := by simpa using goesOn
        simp [splitter, Piece.next?, backslash, double, apostrophe, blank]
      · exact next?_inside '\'' character backward backslash apostrophe

/-- A blank is written as it stands and is no quote. -/
theorem escaped_blank {character : Char} (blank : isBlank character = true) :
    escaped character = [character] ∧ ∀ quote, brought quote [character] = 0 := by
  have backslash : character ≠ '\\' := by rintro rfl; cases blank
  have double : character ≠ '"' := by rintro rfl; cases blank
  exact ⟨by simp [escaped, backslash, double], fun quote => by simp [brought, double]⟩

theorem reads_escaped_of_start {character : Char} (blank : isBlank character = false) {last : Piece}
    (reads : splitter.Reads (some splitter.start) (escaped character) last) :
    splitter.Reads none (escaped character) last := by
  unfold escaped at reads ⊢
  split
  · rename_i written
    rw [if_pos written] at reads
    exact .of_start (by decide) reads
  · rename_i plain
    rw [if_neg plain] at reads
    exact .of_start blank reads

/-- Within a written argument no apostrophe is taken over, and every double quote is. -/
theorem Body.escaped {state : Option Piece} (body : Body state) (character : Char) :
    ∃ last, Body last ∧ ∀ quote, quote = '"' ∨ quote = '\'' →
      Brings quote state (ResponseFile.escaped character) last (brought quote [character]) := by
  cases state with
  | none =>
    cases blank : isBlank character with
    | true =>
      obtain ⟨alone, nothing⟩ := escaped_blank blank
      refine ⟨none, body_none, fun quote _ => ?_⟩
      rw [alone, nothing]
      exact ⟨by simp [Splitter.advance, splitter, blank],
        by simp [Splitter.completed_cons, Splitter.ended, held]⟩
    | false =>
      obtain ⟨next, reads, body', counts⟩ := body_reads (.inl rfl) [] (.inr blank)
      exact ⟨some next, body', fun quote either =>
        .of_reads (reads_escaped_of_start blank reads) (by simpa [held] using counts quote either)⟩
  | some piece =>
    obtain ⟨quote, literal, backward⟩ := piece
    obtain ⟨rfl, unquoted⟩ : literal = false ∧ (quote = none ∨ quote = some '\'') := body _ rfl
    by_cases goesOn : quote = some '\'' ∨ isBlank character = false
    · obtain ⟨next, reads, body', counts⟩ := body_reads unquoted backward goesOn
      exact ⟨some next, body', fun mark either => .of_reads reads (counts mark either)⟩
    · obtain ⟨outside, blank⟩ := not_or.1 goesOn
      obtain rfl : quote = none := unquoted.resolve_right outside
      have blank : isBlank character = true := by simpa using blank
      obtain ⟨alone, nothing⟩ := escaped_blank blank
      have ends := next?_blank character blank backward
      refine ⟨none, body_none, fun mark _ => ?_⟩
      rw [alone, nothing]
      exact ⟨by simp [Splitter.advance, splitter, ends],
        by simp [Splitter.completed_cons, Splitter.ended, splitter, ends, held]⟩

theorem Body.argument {state : Option Piece} (body : Body state) (argument : List Char) :
    ∃ last, Body last ∧ ∀ quote, quote = '"' ∨ quote = '\'' →
      Brings quote state (argument.flatMap ResponseFile.escaped) last (brought quote argument) := by
  induction argument generalizing state with
  | nil => exact ⟨state, body, fun quote _ => by simpa [brought] using Brings.nil quote state⟩
  | cons character rest ih =>
    obtain ⟨middle, body', first⟩ := body.escaped character
    obtain ⟨last, body'', second⟩ := ih body'
    refine ⟨last, body'', fun quote either => ?_⟩
    rw [List.flatMap_cons, ← List.singleton_append, brought_append]
    exact (first quote either).append (second quote either)

/-! ## Stretches between written arguments -/

/-- The space and the double quote in front of a written argument. Where an apostrophe has opened
the quote, the double quote is taken over. -/
theorem Gap.opening {piece : Piece} (gap : Gap piece) :
    ∃ last, Body (some last) ∧ Brings '\'' (some piece) [' ', '"'] (some last) 0 ∧
      Brings '"' (some piece) [' ', '"'] (some last)
        (if piece.quote = some '\'' then 1 else 0) := by
  obtain ⟨quote, literal, backward⟩ := piece
  obtain ⟨rfl, rfl | rfl⟩ :
      literal = false ∧ (quote = some '"' ∨ quote = some '\'') := gap
  · have reads : splitter.Reads (some ⟨some '"', false, backward⟩) [' ', '"']
        ⟨none, false, ' ' :: backward⟩ :=
      .cons (next?_inside '"' ' ' backward (by decide) (by decide))
        (.cons (next?_close '"' (' ' :: backward) (by decide)) (.nil _))
    exact ⟨_, fun _ found => by cases found; exact ⟨rfl, .inl rfl⟩,
      .of_reads reads (by simp [held]), .of_reads reads (by simp [held])⟩
  · have reads : splitter.Reads (some ⟨some '\'', false, backward⟩) [' ', '"']
        ⟨some '\'', false, '"' :: ' ' :: backward⟩ :=
      .cons (next?_inside '\'' ' ' backward (by decide) (by decide))
        (.cons (next?_inside '\'' '"' (' ' :: backward) (by decide) (by decide)) (.nil _))
    exact ⟨_, fun _ found => by cases found; exact ⟨rfl, .inr rfl⟩,
      .of_reads reads (by simp [held]), .of_reads reads (by simp [held])⟩

/-- The double quote after a written argument. -/
theorem Body.closing {state : Option Piece} (body : Body state) :
    ∃ last, Gap last ∧ Brings '\'' state ['"'] (some last) 0 ∧
      ∃ count, Brings '"' state ['"'] (some last) count := by
  have opened : ∀ before backward, held '"' before = backward.count '"' →
      held '\'' before = backward.count '\'' →
      splitter.Reads before ['"'] ⟨some '"', false, backward⟩ →
      ∃ last, Gap last ∧ Brings '\'' before ['"'] (some last) 0 ∧
        ∃ count, Brings '"' before ['"'] (some last) count :=
    fun _ _ double apostrophe reads => ⟨_, ⟨rfl, .inl rfl⟩,
      .of_reads reads apostrophe.symm, 0, .of_reads reads double.symm⟩
  cases state with
  | none =>
    exact opened none [] rfl rfl (.of_start (by decide) (.cons (next?_open (.inl rfl) []) (.nil _)))
  | some piece =>
    obtain ⟨quote, literal, backward⟩ := piece
    obtain ⟨rfl, rfl | rfl⟩ :
        literal = false ∧ (quote = none ∨ quote = some '\'') := body _ rfl
    · exact opened _ backward rfl rfl (.cons (next?_open (.inl rfl) backward) (.nil _))
    · have reads : splitter.Reads (some ⟨some '\'', false, backward⟩) ['"']
          ⟨some '\'', false, '"' :: backward⟩ :=
        .cons (next?_inside '\'' '"' backward (by decide) (by decide)) (.nil _)
      exact ⟨_, ⟨rfl, .inr rfl⟩, .of_reads reads (by simp [held]), 1,
        .of_reads reads (by simp [held])⟩

/-- A written argument with the space in front of it. -/
theorem Gap.quoted {piece : Piece} (gap : Gap piece) (argument : List Char) :
    ∃ last, Gap last ∧ Brings '\'' (some piece) (' ' :: quoted .escapes argument) (some last) 0 ∧
      ∃ count, (if piece.quote = some '\'' then 1 else 0) + argument.count '"' ≤ count ∧
        Brings '"' (some piece) (' ' :: quoted .escapes argument) (some last) count := by
  have written : ' ' :: CommandLine.quoted .escapes argument =
      [' ', '"'] ++ argument.flatMap escaped ++ ['"'] := by
    rw [CommandLine.quoted, quotedFrom_escapes]
    simp
  rw [written]
  obtain ⟨first, body, apostrophes, doubles⟩ := gap.opening
  obtain ⟨second, body', marks⟩ := body.argument argument
  obtain ⟨last, gap', apostrophes', count, doubles'⟩ := body'.closing
  refine ⟨last, gap', ?_, _, ?_, (doubles.append (marks '"' (.inl rfl))).append doubles'⟩
  · exact (apostrophes.append (marks '\'' (.inr rfl))).append apostrophes'
  · simp only [brought, if_true]
    omega

/-- Written arguments, each with a space in front of it. -/
def spaced (arguments : List (List Char)) : List Char :=
  arguments.flatMap fun argument => ' ' :: quoted .escapes argument

/-- After an open quote, written arguments bring in no apostrophe, all of their double quotes, and
one more of those if the quote is an apostrophe. -/
theorem Gap.spaced {piece : Piece} (gap : Gap piece) (arguments : List (List Char)) :
    ∃ last, Gap last ∧ Brings '\'' (some piece) (spaced arguments) (some last) 0 ∧
      ∃ count, arguments.flatten.count '"' ≤ count ∧
        (piece.quote = some '\'' → arguments ≠ [] → arguments.flatten.count '"' < count) ∧
        Brings '"' (some piece) (spaced arguments) (some last) count := by
  induction arguments generalizing piece with
  | nil => exact ⟨piece, gap, .nil _ _, 0, by simp, by simp, .nil _ _⟩
  | cons argument rest ih =>
    obtain ⟨middle, gap', apostrophes, first, enough, doubles⟩ := gap.quoted argument
    obtain ⟨last, gap'', apostrophes', second, enough', -, doubles'⟩ := ih gap'
    refine ⟨last, gap'', apostrophes.append apostrophes', first + second, ?_, ?_,
      doubles.append doubles'⟩
    · rw [List.flatten_cons, List.count_append]
      omega
    · intro open? _
      rw [if_pos open?] at enough
      rw [List.flatten_cons, List.count_append]
      omega

/-! ## The end of a lead -/

theorem quote_of_next? {piece next : Piece} {character : Char}
    (unquoted : piece.quote = none ∨ piece.quote = some '\'') (double : character ≠ '"')
    (step : piece.next? character = some next) :
    next.quote = none ∨ next.quote = some '\'' := by
  unfold Piece.next? at step
  split_ifs at step with literal backslash closes opens blank
  · cases step; exact unquoted
  · cases step; exact unquoted
  · cases step; exact .inl rfl
  · cases step
    exact .inr (by rw [opens.2.resolve_left double])
  · cases step; exact unquoted

/-- A text without double quotes leaves no quote open but an apostrophe. -/
theorem quote_of_after {state : Option Piece} {text : List Char} {last : Piece}
    (unquoted : ∀ piece, state = some piece → piece.quote = none ∨ piece.quote = some '\'')
    (double : '"' ∉ text) (found : splitter.after state text = some last) :
    last.quote = none ∨ last.quote = some '\'' := by
  induction text generalizing state with
  | nil => exact unquoted last found
  | cons character rest ih =>
    obtain ⟨head, tail⟩ := List.ne_and_not_mem_of_not_mem_cons double
    refine ih ?_ tail found
    intro next step
    cases state with
    | some piece => exact quote_of_next? (unquoted piece rfl) (Ne.symm head) step
    | none =>
      rw [Splitter.advance] at step
      split at step
      · cases step
      · have begun : Piece.next? {} character = some next := step
        exact quote_of_next? (.inl rfl) (Ne.symm head) begun

theorem literal_of_next? {piece next : Piece} {character : Char} (backslash : character ≠ '\\')
    (step : piece.next? character = some next) : next.literal = false := by
  unfold Piece.next? at step
  split_ifs at step with literal closes opens blank
  all_goals cases step
  all_goals first | rfl | simpa using literal

/-- A text that ends in an ordinary character ends within an argument, and nothing waits there. -/
theorem after_concat (text : List Char) {character : Char} (backslash : character ≠ '\\')
    (blank : isBlank character = false) :
    ∃ last, splitter.after none (text ++ [character]) = some last ∧ last.literal = false := by
  have goesOn : ∀ piece : Piece, ∃ next, piece.next? character = some next := by
    intro piece
    rw [← Option.isSome_iff_exists]
    unfold Piece.next?
    split_ifs <;> simp_all
  rw [Splitter.after_append]
  have step : ∃ last, splitter.advance (splitter.after none text) character = some last ∧
      last.literal = false := by
    cases splitter.after none text with
    | some piece =>
      obtain ⟨next, step⟩ := goesOn piece
      exact ⟨next, step, literal_of_next? backslash step⟩
    | none =>
      obtain ⟨next, step⟩ := goesOn splitter.start
      refine ⟨next, ?_, literal_of_next? backslash step⟩
      rw [Splitter.advance, if_neg (by simpa [splitter] using blank)]
      exact step
  exact step

/-! ## Leads that leave an apostrophe open -/

theorem backward_of_next? {piece next : Piece} {character : Char}
    (step : piece.next? character = some next) :
    ∃ more, next.backward.reverse = piece.backward.reverse ++ more := by
  unfold Piece.next? at step
  split_ifs at step with literal backslash closes opens blank
  · cases step; exact ⟨[character], List.reverse_cons⟩
  · cases step; exact ⟨[], (List.append_nil _).symm⟩
  · cases step; exact ⟨[], (List.append_nil _).symm⟩
  · cases step; exact ⟨[], (List.append_nil _).symm⟩
  · cases step; exact ⟨[character], List.reverse_cons⟩

/-- What an argument holds already it begins with in the end. -/
theorem pieces_some (piece : Piece) (text : List Char) :
    ∃ more later, splitter.pieces (some piece) text =
      (piece.backward.reverse ++ more) :: later := by
  induction text generalizing piece with
  | nil => exact ⟨[], [], by simp [Splitter.pieces, splitter]⟩
  | cons character rest ih =>
    rw [Splitter.pieces_cons]
    cases step : piece.next? character with
    | none =>
      exact ⟨[], splitter.pieces none rest,
        by simp [Splitter.ended, Splitter.advance, splitter, step]⟩
    | some next =>
      obtain ⟨more, later, whole⟩ := ih next
      obtain ⟨grown, longer⟩ := backward_of_next? step
      rw [longer, List.append_assoc] at whole
      refine ⟨grown ++ more, later, ?_⟩
      simpa [Splitter.ended, Splitter.advance, splitter, step] using whole

/-- Without an apostrophe a quote that an apostrophe opened is never closed. -/
theorem reads_apostrophe {text : List Char} (absent : '\'' ∉ text) (literal : Bool)
    (backward : List Char) :
    ∃ last, splitter.Reads (some ⟨some '\'', literal, backward⟩) text last := by
  induction text generalizing literal backward with
  | nil => exact ⟨_, .nil _⟩
  | cons character rest ih =>
    obtain ⟨head, tail⟩ := List.ne_and_not_mem_of_not_mem_cons absent
    have step : ∃ literal' backward', Piece.next? ⟨some '\'', literal, backward⟩ character =
        some ⟨some '\'', literal', backward'⟩ := by
      unfold Piece.next?
      split_ifs <;> simp_all
    obtain ⟨literal', backward', step⟩ := step
    obtain ⟨last, reads⟩ := ih tail literal' backward'
    exact ⟨last, .cons step reads⟩

/-- Writing an argument adds no apostrophe. -/
theorem mem_of_mem_escaped {character written : Char} (apostrophe : written = '\'')
    (member : written ∈ escaped character) : written = character := by
  subst apostrophe
  rw [escaped] at member
  split at member <;> simpa using member

theorem apostrophe_mem_flatten {arguments : List (List Char)} (member : '\'' ∈ spaced arguments) :
    '\'' ∈ arguments.flatten := by
  obtain ⟨argument, listed, written⟩ := List.mem_flatMap.1 member
  rw [CommandLine.quoted, quotedFrom_escapes] at written
  have inner : '\'' ∈ argument.flatMap escaped := by simpa using written
  obtain ⟨character, stands, escaped⟩ := List.mem_flatMap.1 inner
  rw [← mem_of_mem_escaped rfl escaped] at stands
  exact List.mem_flatten.2 ⟨argument, listed, stands⟩

/-- After a lead that leaves an apostrophe open, the text does not give one piece and then the
arguments that were written. -/
theorem pieces_led_ne {lead script : List Char} {piece : Piece} {arguments : List (List Char)}
    (found : splitter.after none lead = some piece) (literal : piece.literal = false)
    (apostrophe : piece.quote = some '\'') (nonempty : arguments ≠ []) :
    splitter.pieces none (lead ++ spaced arguments) ≠ script :: arguments := by
  intro same
  have gap : Gap piece := ⟨literal, .inr apostrophe⟩
  obtain ⟨last, -, apostrophes, count, -, more, doubles⟩ := gap.spaced arguments
  rw [Splitter.pieces_append, found] at same
  cases completed : splitter.completed none lead with
  | cons first others =>
    -- The written arguments hold one double quote more than they do.
    have tail : others ++ splitter.pieces (some piece) (spaced arguments) = arguments := by
      rw [completed] at same
      exact (List.cons.inj same).2
    have counted := doubles.count_pieces
    have exceeds := more apostrophe nonempty
    have total := congrArg (fun pieces => pieces.flatten.count '"') tail
    simp only [List.flatten_append, List.count_append] at total
    omega
  | nil =>
    rw [completed, List.nil_append] at same
    obtain ⟨grown, later, whole⟩ := pieces_some piece (spaced arguments)
    -- All apostrophes stand in what was held before, so none is left for the arguments.
    have counted := apostrophes.count_pieces
    obtain ⟨rfl, rfl⟩ := List.cons.inj (whole.symm.trans same)
    rw [same] at counted
    simp only [List.flatten_cons, List.count_append, List.count_reverse, held] at counted
    have absent : '\'' ∉ later.flatten := List.count_eq_zero.1 (by omega)
    have unread : '\'' ∉ spaced later := fun member => absent (apostrophe_mem_flatten member)
    obtain ⟨end', reads⟩ := reads_apostrophe unread false piece.backward
    have start : piece = ⟨some '\'', false, piece.backward⟩ := by
      rw [← literal, ← apostrophe]
    rw [start, reads.pieces] at same
    exact nonempty (List.cons.inj same).2.symm

/-! ## Texts with a lead -/

theorem intercalate_cons (part : List Char) (parts : List (List Char)) :
    [' '].intercalate (part :: parts) = part ++ parts.flatMap (' ' :: ·) := by
  induction parts generalizing part with
  | nil => simp
  | cons next parts ih =>
    rw [List.intercalate_cons_cons, ih, List.flatMap_cons]
    simp

/-- The text of a response file that has a lead. -/
theorem toList_render_lead {lead : String} (nonempty : lead ≠ "") (arguments : List String) :
    (CommandLine.render (some lead) .escapes arguments).toList =
      lead.toList ++ spaced (arguments.map String.toList) := by
  rw [CommandLine.toList_render, CommandLine.parts, CommandLine.leading_some nonempty,
    List.singleton_append, intercalate_cons, spaced, List.flatMap_map, List.flatMap_map]

/-- Where a lead that ends in an ordinary character leaves no quote open, a space closes it. -/
theorem closedBy_of_openQuote {lead : String} {front : List Char} {character : Char}
    (ends : lead.toList = front ++ [character]) (backslash : character ≠ '\\')
    (blank : isBlank character = false) (closed : openQuote lead = none) :
    splitter.ClosedBy lead.toList ' ' := by
  intro last found
  obtain ⟨last', found', literal⟩ := after_concat front backslash blank
  rw [← ends, found] at found'
  cases found'
  have quote : last.quote = none := by simpa [openQuote, found] using closed
  have start : last = ⟨none, false, last.backward⟩ := by rw [← literal, ← quote]
  rw [start]
  exact next?_blank ' ' (by decide) last.backward

/-- A lead that ends in an ordinary character and leaves no quote open is split like a text of its
own. -/
theorem split_render_lead {lead : String} {front : List Char} {character : Char}
    (ends : lead.toList = front ++ [character]) (backslash : character ≠ '\\')
    (blank : isBlank character = false) (closed : openQuote lead = none)
    (arguments : List String) :
    split (CommandLine.render (some lead) .escapes arguments) = split lead ++ arguments := by
  have nonempty : lead ≠ "" := by rintro rfl; simp at ends
  rw [split_render_of_closedBy, CommandLine.leading_some nonempty, split_eq_pieces]
  · simp
  · intro part member
    rw [CommandLine.leading_some nonempty] at member
    rw [List.mem_singleton.1 member]
    exact closedBy_of_openQuote ends backslash blank closed

/-- A response file led by a text that ends in an ordinary character is split into one given piece
and then its arguments exactly if the lead alone is split into that piece and, unless there are no
arguments, leaves no quote open. -/
theorem split_render_lead_eq_iff {lead : String} {front : List Char} {character : Char}
    (ends : lead.toList = front ++ [character]) (backslash : character ≠ '\\')
    (blank : isBlank character = false) (double : '"' ∉ lead.toList) (script : String)
    (arguments : List String) :
    split (CommandLine.render (some lead) .escapes arguments) = script :: arguments ↔
      split lead = [script] ∧ (arguments = [] ∨ openQuote lead = none) := by
  have nonempty : lead ≠ "" := by rintro rfl; simp at ends
  by_cases closed : openQuote lead = none
  · rw [split_render_lead ends backslash blank closed, ← List.singleton_append,
      List.append_left_inj]
    simp [closed]
  · have whole : split (CommandLine.render (some lead) .escapes []) = split lead := by
      rw [split_eq_pieces, split_eq_pieces, toList_render_lead nonempty]
      simp [spaced]
    by_cases none? : arguments = []
    · subst none?
      simp [whole]
    · simp only [none?, closed, or_self, and_false, iff_false]
      intro same
      obtain ⟨last, found, literal⟩ := after_concat front backslash blank
      rw [← ends] at found
      have unquoted := quote_of_after (fun _ none' => by cases none') double found
      have apostrophe : last.quote = some '\'' := by
        refine unquoted.resolve_left fun outside => closed ?_
        simp [openQuote, found, outside]
      have pieces := congrArg (List.map String.toList) same
      rw [split_eq_pieces, toList_render_lead nonempty] at pieces
      have differs : splitter.pieces none (lead.toList ++ spaced (arguments.map String.toList)) ≠
          script.toList :: arguments.map String.toList :=
        pieces_led_ne found literal apostrophe (by simpa using none?)
      exact differs (by simpa [Function.comp_def] using pieces)

end ResponseFile

end CompilerLauncher
