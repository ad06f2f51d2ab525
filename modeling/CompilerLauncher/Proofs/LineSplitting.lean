import CompilerLauncher.CommandLine.Split
import CompilerLauncher.Proofs.Splitter

/-!
# Lines split by the platform's rules

The encoder holds back the backslashes it has read until it knows what follows them, and the
splitter holds back those it has read for the same reason. `reads_quotedFrom` ties the two together:
whatever the encoder still owes, the splitter ends up with the argument's own characters, and the
closing quote is the one that closes. From there a quoted argument is one argument, and a rendered
line is split into what leads it and the arguments.

What leads a line stands there as it is. Without a double quote it is cut at its blanks and nowhere
else, so it stays whole exactly if it has none.
-/

namespace CompilerLauncher

namespace CommandLine

/-- The platform's rules as a splitter. -/
def splitter : Splitter Piece where
  separates := separates
  start := {}
  next? := Piece.next?
  text := Piece.text

theorem splitFrom_eq_pieces (state : Option Piece) (text : List Char) :
    splitFrom state text = splitter.pieces state text := by
  induction text generalizing state with
  | nil => cases state <;> rfl
  | cons character rest ih =>
    rw [Splitter.pieces_cons, ← ih]
    cases state with
    | none =>
      rw [splitFrom]
      split <;> simp_all [Splitter.ended, Splitter.advance, splitter]
    | some piece =>
      rw [splitFrom]
      cases found : piece.next? character <;>
        simp [Splitter.ended, Splitter.advance, splitter, found]

theorem split_eq_pieces (line : String) :
    split line = (splitter.pieces none line.toList).map String.ofList := by
  rw [split, splitFrom_eq_pieces]

theorem splitter_separates_space : splitter.separates ' ' = true := by decide

/-! ## Quoted arguments -/

theorem next?_backslash (piece : Piece) :
    piece.next? '\\' = some { piece with run := piece.run + 1 } := rfl

theorem next?_quote (piece : Piece) : piece.next? '"' = some piece.quote := rfl

/-- Every character other than a backslash or a double quote is taken over inside quotes. -/
theorem next?_inside {piece : Piece} {character : Char} (inside : piece.inside = true)
    (backslash : character ≠ '\\') (quote : character ≠ '"') :
    piece.next? character = some (piece.push character) := by
  simp [Piece.next?, inside, backslash, quote]

theorem reads_backslashes (piece : Piece) (count : Nat) :
    splitter.Reads (some piece) (backslashes count)
      { piece with run := piece.run + count } := by
  induction count generalizing piece with
  | zero => exact .nil piece
  | succ count ih =>
    have rest := ih { piece with run := piece.run + 1 }
    rw [Nat.add_assoc, Nat.add_comm 1 count] at rest
    exact .cons (next?_backslash piece) rest

/-- A run of an even length in front of a double quote: half of it stays, and the quote counts. -/
theorem quote_even (inside : Bool) (half : Nat) (backward : List Char) :
    Piece.quote ⟨inside, 2 * half, backward⟩ =
      ⟨!inside, 0, backslashes half ++ backward⟩ := by
  simp [Piece.quote]

/-- A run of an odd length in front of a double quote: half of it stays, and the quote is literal.
-/
theorem quote_odd (inside : Bool) (half : Nat) (backward : List Char) :
    Piece.quote ⟨inside, 2 * half + 1, backward⟩ =
      ⟨inside, 0, '"' :: (backslashes half ++ backward)⟩ := by
  have halved : (2 * half + 1) / 2 = half := by omega
  have odd : (2 * half + 1) % 2 = 1 := by omega
  simp [Piece.quote, halved, odd]

theorem reverse_append_backslashes (argument backward : List Char) (run : Nat) :
    argument.reverse ++ backslashes (run + 1) ++ backward =
      ('\\' :: argument).reverse ++ backslashes run ++ backward := by
  simp [backslashes, List.replicate_succ]

/-- The inside of a quoted argument up to the closing quote is read as the argument, after the
backslashes that were still to be written. -/
theorem reads_quotedFrom (run : Nat) (argument backward : List Char) :
    splitter.Reads (some ⟨true, 0, backward⟩) (quotedFrom .runs run argument ++ ['"'])
      ⟨false, 0, argument.reverse ++ backslashes run ++ backward⟩ := by
  induction argument generalizing run backward with
  | nil =>
    have doubled := reads_backslashes ⟨true, 0, backward⟩ (2 * run)
    rw [Nat.zero_add] at doubled
    refine doubled.append (.cons (next?_quote _) ?_)
    rw [quote_even]
    exact .nil _
  | cons character rest ih =>
    by_cases backslash : character = '\\'
    · subst backslash
      rw [← reverse_append_backslashes]
      exact ih (run + 1) backward
    by_cases quote : character = '"'
    · subst quote
      have doubled := reads_backslashes ⟨true, 0, backward⟩ (2 * run + 1)
      rw [Nat.zero_add] at doubled
      have later := ih 0 ('"' :: (backslashes run ++ backward))
      simp only [quotedFrom, backslash, if_false, if_true, List.append_assoc, List.cons_append]
      refine doubled.append (.cons (next?_quote _) ?_)
      rw [quote_odd]
      simpa [backslashes] using later
    · have held := reads_backslashes ⟨true, 0, backward⟩ run
      rw [Nat.zero_add] at held
      have later := ih 0 (character :: (backslashes run ++ backward))
      simp only [quotedFrom, backslash, quote, if_false, List.append_assoc, List.cons_append]
      refine held.append (.cons (next?_inside rfl backslash quote) ?_)
      simpa [Piece.push, backslashes] using later

/-- A quoted argument is read as that argument, and the closing quote leaves nothing open. -/
theorem reads_quoted (argument : List Char) :
    splitter.Reads none (quoted .runs argument) ⟨false, 0, argument.reverse⟩ := by
  have inner := reads_quotedFrom 0 argument []
  simp only [backslashes, List.replicate_zero, List.append_nil] at inner
  exact .of_start (by decide) (.cons (next?_quote _) inner)

theorem pieces_quoted (argument : List Char) :
    splitter.pieces none (quoted .runs argument) = [argument] := by
  rw [(reads_quoted argument).pieces]
  simp [splitter, Piece.text, backslashes]

theorem closedBy_quoted (argument : List Char) :
    splitter.ClosedBy (quoted .runs argument) ' ' :=
  (reads_quoted argument).closedBy rfl

/-! ## Texts without double quotes -/

/-- No quoted stretch is open, and the argument that is being read holds no blank. -/
def Bare (state : Option Piece) : Prop :=
  ∀ piece, state = some piece →
    piece.inside = false ∧ ∀ character ∈ piece.text, separates character = false

theorem bare_none : Bare none := by
  intro piece found
  cases found

/-- Outside quotes a blank ends the argument. -/
theorem next?_blank {piece : Piece} {character : Char} (inside : piece.inside = false)
    (blank : separates character = true) : piece.next? character = none := by
  have backslash : character ≠ '\\' := by rintro rfl; cases blank
  have quote : character ≠ '"' := by rintro rfl; cases blank
  simp [Piece.next?, inside, blank, backslash, quote]

/-- Outside quotes every other character is taken over, a backslash as one that waits. -/
theorem next?_bare {piece : Piece} {character : Char} (inside : piece.inside = false)
    (quote : character ≠ '"') (blank : separates character = false) :
    ∃ next, piece.next? character = some next ∧ next.inside = false ∧
      next.text = piece.text ++ [character] := by
  by_cases backslash : character = '\\'
  · subst backslash
    refine ⟨_, next?_backslash piece, inside, ?_⟩
    simp [Piece.text, backslashes, List.replicate_succ]
  · refine ⟨piece.push character, ?_, inside, ?_⟩
    · simp [Piece.next?, blank, backslash, quote]
    · simp [Piece.text, Piece.push, backslashes]

theorem Bare.of_next? {piece next : Piece} {character : Char} (bare : Bare (some piece))
    (quote : character ≠ '"') (step : piece.next? character = some next) :
    Bare (some next) := by
  obtain ⟨inside, clear⟩ := bare piece rfl
  cases blank : separates character with
  | true => rw [next?_blank inside blank] at step; cases step
  | false =>
    obtain ⟨other, step', inside', text⟩ := next?_bare inside quote blank
    rw [step'] at step
    cases step
    intro last found
    cases found
    refine ⟨inside', fun read member => ?_⟩
    rw [text] at member
    rcases List.mem_append.1 member with member | member
    · exact clear read member
    · rw [List.mem_singleton.1 member]
      exact blank

theorem bare_start : Bare (some splitter.start) := by
  intro piece found
  cases found
  exact ⟨rfl, fun character member => absurd member List.not_mem_nil⟩

theorem Bare.advance {state : Option Piece} {character : Char} (bare : Bare state)
    (quote : character ≠ '"') : Bare (splitter.advance state character) := by
  have step : ∀ piece, Bare (some piece) → Bare (splitter.next? piece character) := by
    intro piece bare
    cases found : splitter.next? piece character with
    | none => exact bare_none
    | some next => exact bare.of_next? quote found
  cases state with
  | some piece => exact step piece bare
  | none =>
    rw [Splitter.advance]
    split
    · exact bare_none
    · exact step _ bare_start

theorem Bare.after {state : Option Piece} {text : List Char} (bare : Bare state)
    (quote : '"' ∉ text) : Bare (splitter.after state text) := by
  induction text generalizing state with
  | nil => exact bare
  | cons character rest ih =>
    obtain ⟨head, tail⟩ := List.ne_and_not_mem_of_not_mem_cons quote
    exact ih (bare.advance (Ne.symm head)) tail

/-- A text without double quotes is closed by a blank. -/
theorem closedBy_bare {text : List Char} {blank : Char} (quote : '"' ∉ text)
    (separator : separates blank = true) : splitter.ClosedBy text blank := by
  intro last found
  have inside := (bare_none.after quote last found).1
  exact next?_blank inside separator

/-- The arguments of a text without double quotes hold no blanks. -/
theorem separates_of_mem_pieces {state : Option Piece} {text argument : List Char}
    (bare : Bare state) (quote : '"' ∉ text) (member : argument ∈ splitter.pieces state text) :
    ∀ character ∈ argument, separates character = false := by
  induction text generalizing state with
  | nil =>
    cases state with
    | none => cases member
    | some piece =>
      rw [List.mem_singleton.1 member]
      exact (bare piece rfl).2
  | cons character rest ih =>
    obtain ⟨head, tail⟩ := List.ne_and_not_mem_of_not_mem_cons quote
    rw [Splitter.pieces_cons] at member
    rcases List.mem_append.1 member with ended | later
    · cases state with
      | none => cases ended
      | some piece =>
        rw [Splitter.ended] at ended
        split at ended
        · rw [List.mem_singleton.1 ended]
          exact (bare piece rfl).2
        · cases ended
    · exact ih (bare.advance (Ne.symm head)) tail later

/-- A text without double quotes and blanks is all within one argument. -/
theorem reads_bare {text : List Char} (piece : Piece) (inside : piece.inside = false)
    (quote : '"' ∉ text) (blank : ∀ character ∈ text, separates character = false) :
    ∃ last, splitter.Reads (some piece) text last ∧ last.text = piece.text ++ text := by
  induction text generalizing piece with
  | nil => exact ⟨piece, .nil piece, (List.append_nil _).symm⟩
  | cons character rest ih =>
    obtain ⟨head, tail⟩ := List.ne_and_not_mem_of_not_mem_cons quote
    obtain ⟨next, step, inside', text⟩ :=
      next?_bare inside (Ne.symm head) (blank character List.mem_cons_self)
    obtain ⟨last, reads, text'⟩ :=
      ih next inside' tail fun other member => blank other (List.mem_cons_of_mem _ member)
    exact ⟨last, .cons step reads, by rw [text', text, List.append_assoc]; rfl⟩

/-- A text without double quotes is one argument exactly if it says something and has no blanks. -/
theorem pieces_eq_singleton_iff {text : List Char} (quote : '"' ∉ text) (nonempty : text ≠ []) :
    splitter.pieces none text = [text] ↔
      ∀ character ∈ text, separates character = false := by
  constructor
  · intro single
    have member : text ∈ splitter.pieces none text := by
      rw [single]
      exact List.mem_singleton_self text
    exact separates_of_mem_pieces bare_none quote member
  · intro blank
    cases text with
    | nil => cases nonempty rfl
    | cons character rest =>
      obtain ⟨last, reads, read⟩ := reads_bare splitter.start rfl quote blank
      have whole := Splitter.Reads.of_start (blank character List.mem_cons_self) reads
      rw [whole.pieces]
      exact congrArg ([·]) read

/-! ## Rendered lines -/

/-- A rendered line gives what its lead gives, and then the arguments. -/
theorem split_render_of_closedBy {lead : Option String} (arguments : List String)
    (closed : ∀ part ∈ leading lead, splitter.ClosedBy part ' ') :
    split (render lead .runs arguments) =
      ((leading lead).flatMap (splitter.pieces none)).map String.ofList ++ arguments := by
  have line := Splitter.pieces_line (fun argument => quoted .runs argument.toList) String.toList
    splitter_separates_space closed (fun argument => pieces_quoted argument.toList)
    (fun argument => closedBy_quoted argument.toList) arguments
  rw [split_eq_pieces, toList_render, parts, line, List.map_append, List.map_map]
  simp

/-- The line of an argument vector is split into that vector, whatever the arguments hold. An empty
lead is none. -/
theorem split_render_arguments (arguments : List String) :
    split (render none .runs arguments) = arguments ∧
      split (render (some "") .runs arguments) = arguments := by
  constructor
  · rw [split_render_of_closedBy arguments (by simp)]
    simp
  · rw [split_render_of_closedBy arguments (by simp)]
    simp

/-- A lead without double quotes is split like a line of its own. -/
theorem split_render_lead {lead : String} (nonempty : lead ≠ "") (quote : '"' ∉ lead.toList)
    (arguments : List String) :
    split (render (some lead) .runs arguments) = split lead ++ arguments := by
  rw [split_render_of_closedBy, leading_some nonempty, split_eq_pieces]
  · simp
  · intro part member
    rw [leading_some nonempty] at member
    rw [List.mem_singleton.1 member]
    exact closedBy_bare quote (by decide)

theorem split_eq_singleton_iff {text : String} (nonempty : text ≠ "") (quote : '"' ∉ text.toList) :
    split text = [text] ↔ ∀ character ∈ text.toList, separates character = false := by
  have single : [text] = [text.toList].map String.ofList := by simp
  rw [← pieces_eq_singleton_iff quote (by simpa using nonempty), split_eq_pieces, single]
  exact (List.map_injective_iff.2 fun _ _ => String.ofList_injective).eq_iff

/-- A line led by an interpreter is split into the pieces of the interpreter's path, cut at its
blanks, and then the arguments; so the boundary of the path stays exactly if it has no blank. -/
theorem split_render_interpreter (interpreter : String) (arguments : List String)
    (nonempty : interpreter ≠ "") (quote : '"' ∉ interpreter.toList) :
    split (render (some interpreter) .runs arguments) = split interpreter ++ arguments ∧
      (split (render (some interpreter) .runs arguments) = interpreter :: arguments ↔
        ∀ character ∈ interpreter.toList, separates character = false) := by
  have whole := split_render_lead nonempty quote arguments
  refine ⟨whole, ?_⟩
  rw [whole, ← split_eq_singleton_iff nonempty quote, ← List.singleton_append,
    List.append_left_inj]

theorem split_render_interpreter_msys :
    "C:\\msys\\bin\\sh.exe" ≠ "" ∧ '"' ∉ "C:\\msys\\bin\\sh.exe".toList ∧
      split (render (some "C:\\msys\\bin\\sh.exe") .runs ["build.sh", "a b"]) =
        ["C:\\msys\\bin\\sh.exe", "build.sh", "a b"] := by
  have nonempty : "C:\\msys\\bin\\sh.exe" ≠ "" := by decide
  have quote : '"' ∉ "C:\\msys\\bin\\sh.exe".toList := by decide
  have unbroken :
      "C:\\msys\\bin\\sh.exe".toList.all (fun character => !separates character) = true := by
    decide
  refine ⟨nonempty, quote, (split_render_interpreter _ _ nonempty quote).2.2 ?_⟩
  simpa using List.all_eq_true.1 unbroken

/-- A path with a space is torn at it, and the program that starts takes the rest of it for its
first argument. -/
theorem split_render_torn :
    "C:\\Program Files\\Git\\bin\\sh.exe" ≠ "" ∧
      '"' ∉ "C:\\Program Files\\Git\\bin\\sh.exe".toList ∧
      split (render (some "C:\\Program Files\\Git\\bin\\sh.exe") .runs ["build.sh"]) =
        ["C:\\Program", "Files\\Git\\bin\\sh.exe", "build.sh"] ∧
      split (render (some "C:\\Program Files\\Git\\bin\\sh.exe") .runs ["build.sh"]) ≠
        "C:\\Program Files\\Git\\bin\\sh.exe" :: ["build.sh"] := by
  decide

end CommandLine

end CompilerLauncher
