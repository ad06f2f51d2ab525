import CompilerLauncher.Proofs.LineSplitting

/-!
# The runtime library's own reading

The runtime library differs from the platform's rules in two points. Two double quotes inside a
quoted stretch stand for one, and the program's name is read apart, without escapes.

The first makes no difference to a line on which no closing quote is doubled
(`splitStrictFrom_eq_splitFrom`), and on a rendered line none is: inside a quoted argument every
double quote stands behind an odd run of backslashes, and behind the closing one comes a space or
the end (`not_doubles_quoted`, `not_doubles_intercalate`).

The second matters for what the encoder adds to the name. Without a double quote in it that is only
the doubling of its last backslashes (`quotedFrom_of_quote_notMem`), so the name is read back
exactly if it has neither a double quote nor a backslash at its end.
-/

namespace CompilerLauncher

namespace CommandLine

/-! ## Doubled closing quotes -/

/-- A double quote closes the quoted stretch here. -/
def closes (state : Option Piece) : Bool :=
  state.any fun piece => piece.inside && piece.run % 2 == 0

/-- Somewhere in the text a double quote that closes a quoted stretch is followed by another one. -/
def doubles : Option Piece → List Char → Bool
  | _, [] => false
  | state, character :: rest =>
    (character == '"' && closes state && rest.head? == some '"') ||
      doubles (splitter.advance state character) rest

theorem doubles_cons (state : Option Piece) (character : Char) (rest : List Char) :
    doubles state (character :: rest) =
      ((character == '"' && closes state && rest.head? == some '"') ||
        doubles (splitter.advance state character) rest) := rfl

/-- Only at a double quote that closes can the next one be its double. -/
theorem doubles_cons_of_open {state : Option Piece} {character : Char}
    (keeps : character ≠ '"' ∨ closes state = false) (rest : List Char) :
    doubles state (character :: rest) = doubles (splitter.advance state character) rest := by
  rw [doubles_cons]
  rcases keeps with other | open_
  · simp [other]
  · simp [open_]

/-- The strict reading takes a character as the platform's rules do, unless that is a closing quote
with a double. -/
theorem splitStrictFrom_cons {piece : Piece} {character : Char} {rest : List Char}
    (single : (character == '"' && closes (some piece) && rest.head? == some '"') = false) :
    splitStrictFrom (some piece) (character :: rest) =
      match piece.next? character with
      | some next => splitStrictFrom (some next) rest
      | none => piece.text :: splitStrictFrom none rest := by
  -- Only here do the two readings differ, and by what comes next.
  by_cases closing : character = '"' ∧ piece.inside ∧ piece.run % 2 = 0
  · obtain ⟨rfl, inside, even⟩ := closing
    cases rest with
    | nil => simp [splitStrictFrom, next?_quote, inside, even]
    | cons next later =>
      have other : next ≠ '"' := by
        rintro rfl
        simp [closes, inside, even] at single
      simp [splitStrictFrom, next?_quote, inside, even, other]
  · rw [splitStrictFrom.eq_def]
    dsimp only
    exact if_neg closing

/-- **Where no closing quote is doubled the two readings agree.** -/
theorem splitStrictFrom_eq_splitFrom {state : Option Piece} {text : List Char}
    (single : doubles state text = false) : splitStrictFrom state text = splitFrom state text := by
  induction text generalizing state with
  | nil => cases state <;> rfl
  | cons character rest ih =>
    obtain ⟨here, later⟩ := Bool.or_eq_false_iff.1 single
    have agree := ih later
    cases state with
    | none =>
      rw [splitStrictFrom, splitFrom]
      rw [Splitter.advance] at agree
      split <;> simp_all [splitter]
    | some piece =>
      change splitStrictFrom (piece.next? character) rest = splitFrom (piece.next? character) rest
        at agree
      rw [splitStrictFrom_cons here, splitFrom]
      cases taken : piece.next? character with
      | some next =>
        rw [taken] at agree
        exact agree
      | none =>
        rw [taken] at agree
        exact congrArg (piece.text :: ·) agree

/-! ## Rendered lines double no closing quote -/

/-- A text whose next one does not begin with a double quote doubles only within itself. -/
theorem doubles_append {state : Option Piece} (left : List Char) {right : List Char}
    (other : right.head? ≠ some '"') :
    doubles state (left ++ right) =
      (doubles state left || doubles (splitter.after state left) right) := by
  induction left generalizing state with
  | nil => simp [doubles]
  | cons character left ih =>
    have head : (left ++ right).head? = some '"' ↔ left.head? = some '"' := by
      cases left with
      | nil => simpa using other
      | cons next left => rfl
    have same : ((left ++ right).head? == some '"') = (left.head? == some '"') := by
      rw [Bool.eq_iff_iff, beq_iff_eq, beq_iff_eq, head]
    rw [List.cons_append, doubles_cons, doubles_cons, ih, same, Splitter.after_cons, Bool.or_assoc]

/-- Backslashes double nothing; they wait. -/
theorem doubles_backslashes (piece : Piece) (count : Nat) (rest : List Char) :
    doubles (some piece) (backslashes count ++ rest) =
      doubles (some { piece with run := piece.run + count }) rest := by
  induction count generalizing piece with
  | zero => rfl
  | succ count ih =>
    have first : doubles (some piece) (backslashes (count + 1) ++ rest) =
        doubles (some { piece with run := piece.run + 1 }) (backslashes count ++ rest) :=
      doubles_cons_of_open (.inl (by decide)) _
    rw [first, ih]
    simp only [Nat.add_assoc, Nat.add_comm 1]

/-- Inside a quoted argument no double quote closes, up to the last one. -/
theorem not_doubles_quotedFrom (run : Nat) (argument backward : List Char) :
    doubles (some ⟨true, 0, backward⟩) (quotedFrom .runs run argument ++ ['"']) = false := by
  -- The encoder holds `run` backslashes back until it knows whether a double quote follows them.
  induction argument generalizing run backward with
  | nil =>
    rw [quotedFrom, doubles_backslashes, doubles_cons]
    simp [doubles]
  | cons character rest ih =>
    by_cases backslash : character = '\\'
    · subst backslash
      exact ih (run + 1) backward
    by_cases quote : character = '"'
    · subst quote
      have literal : closes (some ⟨true, 2 * run + 1, backward⟩) = false := by
        simp [closes]
      have step : splitter.advance (some ⟨true, 2 * run + 1, backward⟩) '"' =
          some ⟨true, 0, '"' :: (backslashes run ++ backward)⟩ :=
        congrArg some (quote_odd true run backward)
      simp only [quotedFrom, backslash, if_false, if_true, List.append_assoc, List.cons_append]
      rw [doubles_backslashes, Nat.zero_add, doubles_cons_of_open (.inr literal), step]
      exact ih 0 _
    · have step : splitter.advance (some ⟨true, run, backward⟩) character =
          some ⟨true, 0, character :: (backslashes run ++ backward)⟩ :=
        next?_inside rfl backslash quote
      simp only [quotedFrom, backslash, quote, if_false, List.append_assoc, List.cons_append]
      rw [doubles_backslashes, Nat.zero_add, doubles_cons_of_open (.inl quote), step]
      exact ih 0 _

/-- The opening quote of an argument is not a closing one, even if the argument is empty. -/
theorem not_doubles_quoted (argument : List Char) :
    doubles none (quoted .runs argument) = false := by
  rw [quoted, doubles_cons_of_open (.inr rfl)]
  exact not_doubles_quotedFrom 0 argument []

/-- Between two arguments stands a space. -/
theorem not_doubles_intercalate (arguments : List (List Char)) :
    doubles none ([' '].intercalate (arguments.map (quoted .runs))) = false := by
  induction arguments with
  | nil => rfl
  | cons argument arguments ih =>
    cases arguments with
    | nil => simpa using not_doubles_quoted argument
    | cons next arguments =>
      have between : splitter.after none (quoted .runs argument) =
          some ⟨false, 0, argument.reverse⟩ := (reads_quoted argument).after
      have ended : splitter.advance (some ⟨false, 0, argument.reverse⟩) ' ' = none := rfl
      rw [List.map_cons, List.map_cons, List.intercalate_cons_cons, List.append_assoc,
        List.singleton_append, doubles_append _ (by simp), not_doubles_quoted, between,
        doubles_cons_of_open (.inr rfl), ended]
      exact ih

/-- After the program's name a rendered line is read as the arguments. -/
theorem splitStrictFrom_intercalate (arguments : List (List Char)) :
    splitStrictFrom none ([' '].intercalate (arguments.map (quoted .runs))) = arguments := by
  rw [splitStrictFrom_eq_splitFrom (not_doubles_intercalate arguments), splitFrom_eq_pieces]
  have unled : ∀ part ∈ ([] : List (List Char)), splitter.ClosedBy part ' ' := by simp
  have line := Splitter.pieces_line (quoted .runs) id splitter_separates_space unled
    pieces_quoted closedBy_quoted arguments
  simpa using line

/-! ## The program's name -/

theorem programName_quote (inside : Bool) (rest : List Char) :
    programName inside ('"' :: rest) = programName (!inside) rest := by
  simp [programName]

/-- Inside quotes everything else belongs to the name. -/
theorem programName_inside {text : List Char} (quote : '"' ∉ text) (rest : List Char) :
    programName true (text ++ rest) =
      (text ++ (programName true rest).1, (programName true rest).2) := by
  induction text with
  | nil => rfl
  | cons character text ih =>
    obtain ⟨head, tail⟩ := List.ne_and_not_mem_of_not_mem_cons quote
    rw [List.cons_append, programName, ih tail]
    simp [Ne.symm head]

/-- A name as it is read holds no double quote. -/
theorem quote_notMem_programName (inside : Bool) (text : List Char) :
    '"' ∉ (programName inside text).1 := by
  induction text generalizing inside with
  | nil => simp [programName]
  | cons character rest ih =>
    rw [programName]
    split
    · exact ih _
    · split
      · simp
      · rename_i other _
        simpa [Ne.symm other] using ih inside

/-- Without double quotes only the last backslashes are written twice. -/
theorem quotedFrom_of_quote_notMem (run : Nat) {argument : List Char} (quote : '"' ∉ argument) :
    ∃ count, quotedFrom .runs run argument = backslashes run ++ argument ++ backslashes count ∧
      (count = 0 ↔ (backslashes run ++ argument).getLast? ≠ some '\\') := by
  induction argument generalizing run with
  | nil =>
    refine ⟨run, ?_, ?_⟩
    · simp [quotedFrom, backslashes, Nat.two_mul]
    · simp [backslashes, List.getLast?_replicate]
  | cons character rest ih =>
    obtain ⟨head, tail⟩ := List.ne_and_not_mem_of_not_mem_cons quote
    by_cases backslash : character = '\\'
    · subst backslash
      obtain ⟨count, written, none_⟩ := ih (run + 1) tail
      have moved : backslashes (run + 1) ++ rest = backslashes run ++ '\\' :: rest := by
        simp [backslashes, List.replicate_succ']
      rw [moved] at written none_
      exact ⟨count, written, none_⟩
    · obtain ⟨count, written, none_⟩ := ih 0 tail
      refine ⟨count, ?_, ?_⟩
      · simp [quotedFrom, backslash, Ne.symm head, written, backslashes]
      · rw [none_]
        cases rest with
        | nil => simp [backslashes, backslash]
        | cons next rest => simp [backslashes, List.getLast?_append]

/-- A quoted name without double quotes is read with the backslashes at its end doubled. -/
theorem programName_quoted {program : List Char} (quote : '"' ∉ program) (rest : List Char) :
    ∃ count, programName false (quoted .runs program ++ rest) =
        (program ++ backslashes count ++ (programName false rest).1, (programName false rest).2) ∧
      (count = 0 ↔ program.getLast? ≠ some '\\') := by
  obtain ⟨count, written, none_⟩ := quotedFrom_of_quote_notMem 0 quote
  have same : backslashes 0 ++ program = program := rfl
  rw [same] at written none_
  have clear : '"' ∉ program ++ backslashes count := by
    simp [backslashes, quote]
  have whole : quoted .runs program ++ rest =
      '"' :: (program ++ backslashes count ++ '"' :: rest) := by
    simp [quoted, written]
  refine ⟨count, ?_, none_⟩
  rw [whole, programName_quote, Bool.not_false, programName_inside clear, programName_quote,
    Bool.not_true]

/-! ## Whole lines -/

/-- What a line of quoted arguments holds after the first of them. -/
theorem intercalate_quoted (program : List Char) (arguments : List (List Char)) :
    ∃ rest, [' '].intercalate ((program :: arguments).map (quoted .runs)) =
        quoted .runs program ++ rest ∧
      (programName false rest).1 = [] ∧
      splitStrictFrom none (programName false rest).2 = arguments := by
  cases arguments with
  | nil => exact ⟨[], by simp, rfl, rfl⟩
  | cons next arguments =>
    refine ⟨' ' :: [' '].intercalate ((next :: arguments).map (quoted .runs)), ?_, rfl, ?_⟩
    · simp [List.intercalate_cons_cons]
    · exact splitStrictFrom_intercalate (next :: arguments)

/-- A name without double quotes is read with its last backslashes doubled, and the arguments as they
are. -/
theorem splitStrict_render {program : String} (quote : '"' ∉ program.toList)
    (arguments : List String) :
    ∃ count, splitStrict (render none .runs (program :: arguments)) =
        String.ofList (program.toList ++ backslashes count) :: arguments ∧
      (count = 0 ↔ program.toList.getLast? ≠ some '\\') := by
  obtain ⟨rest, line, bare, later⟩ :=
    intercalate_quoted program.toList (arguments.map String.toList)
  have written : (render none .runs (program :: arguments)).toList =
      quoted .runs program.toList ++ rest := by
    rw [toList_render, ← line]
    simp [parts, Function.comp_def]
  obtain ⟨count, name, none_⟩ := programName_quoted quote rest
  refine ⟨count, ?_, none_⟩
  rw [splitStrict, written, name, bare]
  simp [later]

/-- The first argument of a line holds no double quote. -/
theorem quote_notMem_of_splitStrict {line program : String} {arguments : List String}
    (read : splitStrict line = program :: arguments) : '"' ∉ program.toList := by
  have first : String.ofList (programName false line.toList).1 = program :=
    (List.cons.inj read).1
  rw [← first, String.toList_ofList]
  exact quote_notMem_programName false line.toList

/-- **The runtime library reads the line of an argument vector back as that vector exactly if the
program's name holds no double quote and does not end in a backslash.** The other arguments may hold
anything. -/
theorem splitStrict_render_iff (program : String) (arguments : List String) :
    splitStrict (render none .runs (program :: arguments)) = program :: arguments ↔
      '"' ∉ program.toList ∧ program.toList.getLast? ≠ some '\\' := by
  constructor
  · intro same
    have quote := quote_notMem_of_splitStrict same
    obtain ⟨count, read, none_⟩ := splitStrict_render quote arguments
    have name : String.ofList (program.toList ++ backslashes count) = program :=
      (List.cons.inj (read.symm.trans same)).1
    have added : program.toList ++ backslashes count = program.toList := by
      simpa using congrArg String.toList name
    have nothing : backslashes count = [] := List.append_right_eq_self.1 added
    exact ⟨quote, none_.1 (by simpa [backslashes] using nothing)⟩
  · rintro ⟨quote, last⟩
    obtain ⟨count, read, none_⟩ := splitStrict_render quote arguments
    rw [read, none_.2 last]
    simp [backslashes]

example : splitStrict (render none .runs ["C:\\bin\\", "", "a\""]) = ["C:\\bin\\\\", "", "a\""] := by
  cbv

end CommandLine

end CompilerLauncher
