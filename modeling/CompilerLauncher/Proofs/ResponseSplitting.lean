import CompilerLauncher.CommandLine.Split
import CompilerLauncher.Proofs.Splitter

/-!
# Response files split by their own rules

In a response file a backslash makes the next character literal, wherever it stands, so an argument
whose backslashes and double quotes are each escaped is read back between double quotes
(`reads_quoted`).
-/

namespace CompilerLauncher

open CommandLine (quoted quotedFrom backslashes)

namespace ResponseFile

/-- The rules of response files as a splitter. -/
def splitter : Splitter Piece where
  separates := isBlank
  start := {}
  next? := Piece.next?
  text piece := piece.backward.reverse

theorem splitFrom_eq_pieces (state : Option Piece) (text : List Char) :
    splitFrom state text = splitter.pieces state text := by
  induction text generalizing state with
  | nil => cases state <;> rfl
  | cons character rest ih =>
    rw [Splitter.pieces_cons, ← ih]
    cases state with
    | none =>
      rw [splitFrom]
      split <;> simp_all [Splitter.ended, Splitter.advance, splitter]
    | some piece =>
      rw [splitFrom]
      cases found : piece.next? character <;>
        simp [Splitter.ended, Splitter.advance, splitter, found]

theorem split_eq_pieces (text : String) :
    split text = (splitter.pieces none text.toList).map String.ofList := by
  rw [split, splitFrom_eq_pieces]

theorem splitter_separates_space : splitter.separates ' ' = true := by decide

/-! ## Single characters -/

theorem next?_literal (quote : Option Char) (backward : List Char) (character : Char) :
    Piece.next? ⟨quote, true, backward⟩ character =
      some ⟨quote, false, character :: backward⟩ := by
  simp [Piece.next?]

theorem next?_backslash (quote : Option Char) (backward : List Char) :
    Piece.next? ⟨quote, false, backward⟩ '\\' = some ⟨quote, true, backward⟩ := by
  simp [Piece.next?]

/-- A quote closes the stretch that it opened. -/
theorem next?_close (quote : Char) (backward : List Char) (backslash : quote ≠ '\\') :
    Piece.next? ⟨some quote, false, backward⟩ quote = some ⟨none, false, backward⟩ := by
  simp [Piece.next?, backslash]

theorem next?_open {quote : Char} (either : quote = '"' ∨ quote = '\'') (backward : List Char) :
    Piece.next? ⟨none, false, backward⟩ quote = some ⟨some quote, false, backward⟩ := by
  rcases either with rfl | rfl <;> simp [Piece.next?]

/-- In a quoted stretch every other character is taken over. -/
theorem next?_inside (quote character : Char) (backward : List Char)
    (backslash : character ≠ '\\') (other : character ≠ quote) :
    Piece.next? ⟨some quote, false, backward⟩ character =
      some ⟨some quote, false, character :: backward⟩ := by
  simp [Piece.next?, backslash, Ne.symm other]

/-- A blank ends an argument if no quote is open. -/
theorem next?_blank (character : Char) (blank : isBlank character = true) (backward : List Char) :
    Piece.next? ⟨none, false, backward⟩ character = none := by
  have backslash : character ≠ '\\' := by rintro rfl; cases blank
  have double : character ≠ '"' := by rintro rfl; cases blank
  have apostrophe : character ≠ '\'' := by rintro rfl; cases blank
  simp [Piece.next?, backslash, double, apostrophe, blank]

/-! ## Quoted arguments -/

/-- A character as it is written in an argument. -/
def escaped (character : Char) : List Char :=
  if character = '\\' ∨ character = '"' then ['\\', character] else [character]

theorem quotedFrom_escapes (argument : List Char) :
    quotedFrom .escapes 0 argument = argument.flatMap escaped := by
  induction argument with
  | nil => rfl
  | cons character rest ih =>
    rw [List.flatMap_cons, ← ih, quotedFrom, escaped]
    by_cases backslash : character = '\\'
    · simp [backslash]
    · by_cases quote : character = '"' <;> simp [backslash, quote, backslashes]

/-- An escaped character is taken over in every state. -/
theorem reads_escape (quote : Option Char) (backward : List Char) (character : Char) :
    splitter.Reads (some ⟨quote, false, backward⟩) ['\\', character]
      ⟨quote, false, character :: backward⟩ :=
  .cons (next?_backslash quote backward) (.cons (next?_literal quote backward character) (.nil _))

/-- Between double quotes every written character is read as itself. -/
theorem reads_escaped (backward : List Char) (character : Char) :
    splitter.Reads (some ⟨some '"', false, backward⟩) (escaped character)
      ⟨some '"', false, character :: backward⟩ := by
  rw [escaped]
  split
  · exact reads_escape _ backward character
  · rename_i plain
    have backslash : character ≠ '\\' := fun same => plain (.inl same)
    have quote : character ≠ '"' := fun same => plain (.inr same)
    exact .cons (next?_inside '"' character backward backslash quote) (.nil _)

theorem reads_flatMap_escaped (argument backward : List Char) :
    splitter.Reads (some ⟨some '"', false, backward⟩) (argument.flatMap escaped)
      ⟨some '"', false, argument.reverse ++ backward⟩ := by
  induction argument generalizing backward with
  | nil => exact .nil _
  | cons character rest ih =>
    have later := ih (character :: backward)
    rw [List.flatMap_cons]
    refine (reads_escaped backward character).append ?_
    simpa using later

/-- A quoted argument is read as that argument, and the closing quote leaves nothing open. -/
theorem reads_quoted (argument : List Char) :
    splitter.Reads none (quoted .escapes argument) ⟨none, false, argument.reverse⟩ := by
  rw [quoted, quotedFrom_escapes]
  have inner := reads_flatMap_escaped argument []
  rw [List.append_nil] at inner
  have closing : splitter.Reads (some ⟨some '"', false, argument.reverse⟩) ['"']
      ⟨none, false, argument.reverse⟩ :=
    .cons (next?_close '"' argument.reverse (by decide)) (.nil _)
  exact .of_start (by decide) (.cons (next?_open (.inl rfl) []) (inner.append closing))

theorem pieces_quoted (argument : List Char) :
    splitter.pieces none (quoted .escapes argument) = [argument] := by
  rw [(reads_quoted argument).pieces]
  simp [splitter]

theorem closedBy_quoted (argument : List Char) :
    splitter.ClosedBy (quoted .escapes argument) ' ' :=
  (reads_quoted argument).closedBy (next?_blank ' ' (by decide) argument.reverse)

/-- The text of a response file gives what its lead gives, and then the arguments. -/
theorem split_render_of_closedBy {lead : Option String} (arguments : List String)
    (closed : ∀ part ∈ CommandLine.leading lead, splitter.ClosedBy part ' ') :
    split (CommandLine.render lead .escapes arguments) =
      ((CommandLine.leading lead).flatMap (splitter.pieces none)).map String.ofList ++
        arguments := by
  have line := Splitter.pieces_line (fun argument => quoted .escapes argument.toList) String.toList
    splitter_separates_space closed (fun argument => pieces_quoted argument.toList)
    (fun argument => closedBy_quoted argument.toList) arguments
  rw [split_eq_pieces, CommandLine.toList_render, CommandLine.parts, line, List.map_append,
    List.map_map]
  simp

/-- **The text of an argument vector is split into that vector, whatever the arguments hold.** -/
theorem split_render_escapes (arguments : List String) :
    split (CommandLine.render none .escapes arguments) = arguments := by
  have unled : ∀ part ∈ CommandLine.leading none, splitter.ClosedBy part ' ' := by simp
  rw [split_render_of_closedBy arguments unled]
  simp

end ResponseFile

end CompilerLauncher
