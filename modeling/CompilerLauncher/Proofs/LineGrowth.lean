import CompilerLauncher.Proofs.Overflow

/-!
# The lines of longer vectors

A line is written in one pass: what leads it, then one argument after the other, each with a space
behind it, and in the end the last space is taken away. The backslashes of an argument are counted
and written once it is known what they stand in front of, and the count starts anew with each
argument (`Draft`). So what an argument adds to a line does not depend on what stands there
(`writeOn_eq`), and the line of two vectors, one after the other, is the line of the first, a space
and the line of the second without a lead (`render_append`).

A longer vector therefore has a longer line. Whether a response file is made is a question of the
line's length alone (`Invocation.isSome_responseFile_iff`), so more arguments never bring a vector
back onto the line, and fewer never take it off.
-/

namespace CompilerLauncher

namespace CommandLine

/-! ## One pass -/

/-- A line on which an argument is being written: what stands there, and how many backslashes of the
argument wait for the character after them. -/
structure Draft where
  line : List Char
  waiting : Nat

namespace Draft

/-- The draft after one more character of the argument. -/
def push (quoting : Quoting) (draft : Draft) (character : Char) : Draft :=
  if character = '\\' ∧ quoting = .runs then { draft with waiting := draft.waiting + 1 }
  else
    let due :=
      if character = '\\' ∨ character = '"' then 2 * draft.waiting + 1 else draft.waiting
    ⟨draft.line ++ backslashes due ++ [character], 0⟩

/-- The line after the argument, with a space behind the closing quote. -/
def close (draft : Draft) : List Char :=
  draft.line ++ backslashes (2 * draft.waiting) ++ ['"', ' ']

end Draft

/-- Writes an argument on a line, behind what stands there. -/
def writeOn (quoting : Quoting) (line : List Char) (argument : String) : List Char :=
  (argument.toList.foldl (Draft.push quoting) ⟨line ++ ['"'], 0⟩).close

/-- What stands on a line before its first argument. -/
def opening (lead : Option String) : List Char :=
  (leading lead).flatMap (· ++ [' '])

/-- The line that one pass over the arguments writes, less the space behind the last. -/
def inOnePass (lead : Option String) (quoting : Quoting) (arguments : List String) : List Char :=
  (arguments.foldl (writeOn quoting) (opening lead)).dropLast

section Writing

variable {quoting : Quoting}

/-- The characters of an argument add what its quoted form says, after the backslashes that wait. -/
theorem close_foldl_push (argument line : List Char) {waiting : Nat}
    (unowed : quoting = .escapes → waiting = 0) :
    (argument.foldl (Draft.push quoting) ⟨line, waiting⟩).close =
      line ++ quotedFrom quoting waiting argument ++ ['"', ' '] := by
  induction argument generalizing line waiting with
  | nil => rfl
  | cons character rest ih =>
    rw [List.foldl_cons, Draft.push]
    by_cases backslash : character = '\\'
    · subst backslash
      cases quoting with
      | runs =>
        simp only [and_self, if_true, quotedFrom]
        exact ih line (by simp)
      | escapes =>
        -- A backslash that escapes never waits, so there is none to double.
        rw [unowed rfl]
        simp [ih, quotedFrom, backslashes]
    · by_cases quote : character = '"'
      · simp [ih, quotedFrom, quote]
      · simp [ih, quotedFrom, backslash, quote]

/-- An argument adds its quoted form and a space, whatever stands on the line. -/
theorem writeOn_eq (line : List Char) (argument : String) :
    writeOn quoting line argument = line ++ quoted quoting argument.toList ++ [' '] := by
  rw [writeOn, close_foldl_push argument.toList (line ++ ['"']) fun _ => rfl, quoted]
  simp

variable {left right arguments : List String}

theorem toList_render_cons (argument : String) (nonempty : arguments ≠ []) :
    (render none quoting (argument :: arguments)).toList =
      quoted quoting argument.toList ++ [' '] ++ (render none quoting arguments).toList := by
  rw [toList_render, toList_render, parts, parts, leading_none, List.nil_append, List.nil_append,
    List.map_cons, List.intercalate_cons_of_ne_nil (by simpa using nonempty)]

/-- Arguments add the line that they make on their own and a space. -/
theorem foldl_writeOn (line : List Char) (nonempty : arguments ≠ []) :
    arguments.foldl (writeOn quoting) line =
      line ++ (render none quoting arguments).toList ++ [' '] := by
  induction arguments generalizing line with
  | nil => exact absurd rfl nonempty
  | cons argument rest ih =>
    rw [List.foldl_cons, writeOn_eq]
    cases rest with
    | nil => simp [toList_render, parts]
    | cons next rest =>
      have more : next :: rest ≠ [] := List.cons_ne_nil next rest
      rw [ih _ more, toList_render_cons argument more]
      simp

/-- A lead stands in front of the line that the arguments make without it. -/
theorem toList_render_opening (lead : Option String) (nonempty : arguments ≠ []) :
    (render lead quoting arguments).toList =
      opening lead ++ (render none quoting arguments).toList := by
  have quotations : (arguments.map fun argument => quoted quoting argument.toList) ≠ [] := by
    simpa using nonempty
  rw [toList_render, toList_render, parts, parts, leading_none, List.nil_append, opening]
  cases lead with
  | none => simp
  | some interpreter =>
    by_cases empty : interpreter = ""
    · simp [empty]
    · rw [leading_some empty, List.singleton_append, List.intercalate_cons_of_ne_nil quotations]
      simp

/-- The pass over the arguments leaves the line with a space behind it. -/
theorem foldl_writeOn_opening (lead : Option String) (nonempty : arguments ≠ []) :
    arguments.foldl (writeOn quoting) (opening lead) =
      (render lead quoting arguments).toList ++ [' '] := by
  rw [foldl_writeOn _ nonempty, toList_render_opening lead nonempty]

theorem toList_render_eq_inOnePass (lead : Option String) (arguments : List String) :
    (render lead quoting arguments).toList = inOnePass lead quoting arguments := by
  cases arguments with
  | cons argument rest =>
    rw [inOnePass, foldl_writeOn_opening lead (List.cons_ne_nil argument rest),
      List.dropLast_concat]
  | nil =>
    rw [toList_render, parts, inOnePass, opening, List.map_nil, List.append_nil, List.foldl_nil]
    cases lead with
    | none => rfl
    | some interpreter =>
      by_cases empty : interpreter = ""
      · simp [empty]
      · simp [leading_some empty]

/-! ## Two vectors on one line -/

/-- The pass goes on behind the first vector as it would on any line. -/
theorem render_append (lead : Option String) (left_nonempty : left ≠ [])
    (right_nonempty : right ≠ []) :
    render lead quoting (left ++ right) =
      render lead quoting left ++ " " ++ render none quoting right := by
  have both : left ++ right ≠ [] := List.append_ne_nil_of_left_ne_nil left_nonempty right
  have pass : (render lead quoting (left ++ right)).toList ++ [' '] =
      (render lead quoting left).toList ++ [' '] ++ (render none quoting right).toList ++ [' '] :=
    calc (render lead quoting (left ++ right)).toList ++ [' ']
      _ = (left ++ right).foldl (writeOn quoting) (opening lead) :=
        (foldl_writeOn_opening lead both).symm
      _ = right.foldl (writeOn quoting) (left.foldl (writeOn quoting) (opening lead)) :=
        List.foldl_append
      _ = right.foldl (writeOn quoting) ((render lead quoting left).toList ++ [' ']) := by
        rw [foldl_writeOn_opening lead left_nonempty]
      _ = _ := foldl_writeOn _ right_nonempty
  apply String.toList_injective
  rw [List.append_cancel_right pass]
  simp

theorem length_render_append (lead : Option String) (left_nonempty : left ≠ [])
    (right_nonempty : right ≠ []) :
    length (render lead quoting (left ++ right)) =
      length (render lead quoting left) + 1 + length (render none quoting right) := by
  have space : length " " = 1 := by decide
  rw [render_append lead left_nonempty right_nonempty, length_append, length_append, space]

/-- What a vector begins with has no longer line than the vector. -/
theorem length_render_le (lead : Option String) (nonempty : left ≠ [])
    (begins : left <+: arguments) :
    length (render lead quoting left) ≤ length (render lead quoting arguments) := by
  obtain ⟨more, rfl⟩ := begins
  by_cases whole : more = []
  · simp [whole]
  · rw [length_render_append lead nonempty whole]
    omega

end Writing

end CommandLine

namespace Invocation

open CommandLine (Quoting inOnePass length limit render)

/-! ## Vectors that stay on the line, and vectors that do not -/

/-- The arguments stay on the line: no response file is made for them, whatever could make one. -/
def Inline (program : String) (shell : Option String) (arguments : List String) : Prop :=
  ∀ (write : String → StateT FileTree (Except LaunchError) Bytes) (tree : FileTree),
    (build write program arguments shell).run tree =
      .ok (⟨CommandLine.application program, render shell .runs arguments, none⟩, tree)

/-- The arguments go into a response file, whatever makes it; where it cannot be made, there is no
invocation. -/
structure Spills (program : String) (shell : Option String) (arguments : List String) : Prop where
  refers : ∀ (write : String → StateT FileTree (Except LaunchError) Bytes) (tree made : FileTree)
    (path : Bytes),
    (write (render shell .escapes arguments.tail)).run tree = .ok (path, made) →
      (build write program arguments shell).run tree =
        .ok (⟨CommandLine.application program, referring (CommandLine.application program) path,
          some ⟨path, render shell .escapes arguments.tail⟩⟩, made)
  fails : ∀ (write : String → StateT FileTree (Except LaunchError) Bytes) (tree : FileTree)
    (error : LaunchError),
    (write (render shell .escapes arguments.tail)).run tree = .error error →
      (build write program arguments shell).run tree = .error error

variable {write : String → StateT FileTree (Except LaunchError) Bytes} {program : String}
  {shell : Option String} {arguments : List String} {tree made : FileTree}
  {invocation : Invocation}

theorem inline_of_le (short : length (render shell .runs arguments) ≤ limit) :
    Inline program shell arguments :=
  fun write tree => run_build_of_fits program write short tree

theorem spills_of_lt (long : limit < length (render shell .runs arguments)) :
    Spills program shell arguments where
  refers _ _ _ _ written := run_build_of_overflow program long written
  fails _ _ _ fails := run_build_of_unwritten program long fails

/-- The length of the line alone decides whether there is a response file. -/
theorem isSome_responseFile_iff
    (built : (build write program arguments shell).run tree = .ok (invocation, made)) :
    invocation.responseFile.isSome = true ↔ limit < length (render shell .runs arguments) := by
  by_cases long : limit < length (render shell .runs arguments)
  · cases written : (write (render shell .escapes arguments.tail)).run tree with
    | error error =>
      rw [run_build_of_unwritten program long written] at built
      cases built
    | ok result =>
      rw [run_build_of_overflow program long written] at built
      cases built
      simp [long]
  · rw [run_build_of_fits program write (Nat.le_of_not_lt long)] at built
    cases built
    simp [long]

/-- **The line of two vectors is the two lines with a space between them, and lengths add up.** So
what spills also spills with more arguments behind it, and what stays on the line does so too when
it is cut short. -/
theorem render_append_spills_monotone :
    (∀ (lead : Option String) (quoting : Quoting) (arguments : List String),
      (render lead quoting arguments).toList = inOnePass lead quoting arguments) ∧
    (∀ (lead : Option String) (quoting : Quoting) (left right : List String),
      left ≠ [] → right ≠ [] →
        render lead quoting (left ++ right) =
            render lead quoting left ++ " " ++ render none quoting right ∧
          length (render lead quoting (left ++ right)) =
            length (render lead quoting left) + 1 + length (render none quoting right)) ∧
    ∀ (write : String → StateT FileTree (Except LaunchError) Bytes) (program : String)
      (shell : Option String) (arguments : List String) (tree made : FileTree)
      (invocation : Invocation), arguments ≠ [] →
      (build write program arguments shell).run tree = .ok (invocation, made) →
        (invocation.responseFile.isSome = true →
          ∀ more, Spills program shell (arguments ++ more)) ∧
        (invocation.responseFile = none →
          ∀ initial, initial ≠ [] → initial <+: arguments → Inline program shell initial) := by
  refine ⟨fun lead _ => CommandLine.toList_render_eq_inOnePass lead, ?_, ?_⟩
  · intro lead quoting left right left_nonempty right_nonempty
    exact ⟨CommandLine.render_append lead left_nonempty right_nonempty,
      CommandLine.length_render_append lead left_nonempty right_nonempty⟩
  · intro write program shell arguments tree made invocation nonempty built
    have decided := isSome_responseFile_iff built
    constructor
    · intro spilled more
      have grown : length (render shell .runs arguments) ≤
          length (render shell .runs (arguments ++ more)) :=
        CommandLine.length_render_le shell nonempty (List.prefix_append arguments more)
      exact spills_of_lt (Nat.lt_of_lt_of_le (decided.1 spilled) grown)
    · intro unspilled initial initial_nonempty begins
      have short : ¬limit < length (render shell .runs arguments) := by
        rw [← decided, unspilled]
        simp
      have shorter : length (render shell .runs initial) ≤ length (render shell .runs arguments) :=
        CommandLine.length_render_le shell initial_nonempty begins
      exact inline_of_le (Nat.le_trans shorter (Nat.le_of_not_lt short))

/-- Backslashes stand at the end of one vector and a quote at the beginning of the next. -/
theorem render_append_spills_monotone_msys :
    render (some "C:\\msys\\bin\\sh.exe") .runs (["build.sh", "C:\\"] ++ ["\"𝄞\""]) =
        "C:\\msys\\bin\\sh.exe \"build.sh\" \"C:\\\\\"" ++ " " ++ "\"\\\"𝄞\\\"\"" ∧
      length (render (some "C:\\msys\\bin\\sh.exe") .runs (["build.sh", "C:\\"] ++ ["\"𝄞\""])) =
        36 + 1 + 8 ∧
      Spills "cc" none (["cc", filler] ++ ["-c"]) ∧
      Inline "cc" none ["cc"] := by
  obtain ⟨-, joined, grows⟩ := render_append_spills_monotone
  obtain ⟨line, added⟩ := joined (some "C:\\msys\\bin\\sh.exe") .runs ["build.sh", "C:\\"]
    ["\"𝄞\""] (by simp) (by simp)
  have clear : '"' ∉ "cc".toList := by decide
  obtain ⟨long, made, file, overflows, -, refers, -⟩ :=
    exists_refers room_scratch clear (limit_lt_length_filled none "cc")
  have spills := (grows _ _ _ _ _ _ _ (by simp) overflows).1 (by simp [refers.held]) ["-c"]
  have short : length (render none .runs ["cc", "-c"]) ≤ limit := by decide
  have fits := run_build_of_fits "cc"
    (ResponseFile.writeIn (Utf8.encode "/tmp") (Utf8.encode "a1b2c3")) short scratch
  have inline := (grows _ _ _ _ _ _ _ (by simp) fits).2 rfl ["cc"] (by simp) ⟨["-c"], rfl⟩
  refine ⟨?_, ?_, spills, inline⟩
  · rw [line]
    decide
  · rw [added]
    decide

end Invocation

end CompilerLauncher
