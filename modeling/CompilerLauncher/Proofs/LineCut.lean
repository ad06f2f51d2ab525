import CompilerLauncher.Launch.JobTrace
import CompilerLauncher.Proofs.LineSplitting
import Mathlib.Data.List.TakeWhile

/-!
# Lines that are cut at a NUL

The system reads a line up to its first NUL. Quoting adds double quotes, backslashes and spaces and
takes nothing away, so a rendered line holds a NUL exactly if one of its arguments does, or what
leads it (`mem_render_iff`); a line is read whole exactly if it holds none
(`asRead_eq_self_iff`).

A line that is cut ends inside the quotes of the first argument that holds a NUL. What the splitter
has read of that argument is what stands before the NUL, since the backslashes that wait at the end
of a text are literal (`exists_cut_quotedFrom`). So the arguments before it come through, of itself
only its beginning does, and of those behind it nothing (`split_cut_line`).
-/

namespace CompilerLauncher

open JobLaunch (asRead)

/-- The character at which the system ends a text. -/
def nul : Char := '\x00'

theorem asRead_eq_self_iff {text : String} : asRead text = text ↔ nul ∉ text.toList := by
  have spelled : asRead text = text ↔ text.toList.takeWhile (· != nul) = text.toList := by
    rw [← String.toList_inj]
    unfold asRead
    rw [String.toList_ofList]
    rfl
  rw [spelled, List.takeWhile_eq_self_iff]
  constructor
  · intro clear member
    have other := clear nul member
    cases other
  · intro absent character member
    rw [bne_iff_ne]
    rintro rfl
    exact absent member

/-- What is read of a text that goes on after a NUL. -/
theorem asRead_ofList {front : List Char} (clear : nul ∉ front) (back : List Char) :
    asRead (String.ofList (front ++ nul :: back)) = String.ofList front := by
  have whole : ∀ character ∈ front, (character != nul) = true := by
    intro character member
    rw [bne_iff_ne]
    rintro rfl
    exact clear member
  have stops : (nul :: back).takeWhile (· != nul) = [] := rfl
  unfold asRead
  change String.ofList (List.takeWhile (· != nul) _) = _
  rw [String.toList_ofList, List.takeWhile_append_of_pos whole, stops, List.append_nil]

namespace CommandLine

/-! ## Where a rendered line holds a NUL -/

/-- A character that quoting does not use. -/
def Plain (character : Char) : Prop :=
  character ≠ '\\' ∧ character ≠ '"' ∧ character ≠ ' '

theorem plain_nul : Plain nul := by
  unfold Plain
  decide

section Membership

variable {character : Char} {quoting : Quoting}

theorem notMem_backslashes (plain : Plain character) (count : Nat) :
    character ∉ backslashes count := by
  intro member
  exact plain.1 (List.eq_of_mem_replicate member)

theorem mem_quotedFrom_iff (plain : Plain character) {run : Nat} {argument : List Char} :
    character ∈ quotedFrom quoting run argument ↔ character ∈ argument := by
  have none := notMem_backslashes plain
  obtain ⟨backslash, quote, -⟩ := plain
  induction argument generalizing run with
  | nil => simpa [quotedFrom] using none (2 * run)
  | cons first rest ih =>
    by_cases slash : first = '\\'
    · subst slash
      cases quoting with
      | runs => simp [quotedFrom, ih, backslash]
      | escapes => simp [quotedFrom, ih, backslash]
    by_cases double : first = '"'
    · subst double
      simp [quotedFrom, ih, quote, none]
    · simp [quotedFrom, slash, double, ih, none]

theorem mem_quoted_iff (plain : Plain character) {argument : List Char} :
    character ∈ quoted quoting argument ↔ character ∈ argument := by
  unfold quoted
  simp [mem_quotedFrom_iff plain, plain.2.1]

theorem mem_intercalate_iff (plain : Plain character) {parts : List (List Char)} :
    character ∈ [' '].intercalate parts ↔ ∃ part ∈ parts, character ∈ part := by
  induction parts with
  | nil => simp
  | cons part rest ih =>
    cases rest with
    | nil => simp
    | cons next rest =>
      rw [List.intercalate_cons_cons, List.append_assoc, List.mem_append, List.mem_append, ih]
      simp [plain.2.2]

/-- A line holds a character that quoting does not use exactly if an argument or the lead does. -/
theorem mem_render_iff (plain : Plain character) {lead : Option String} {arguments : List String} :
    character ∈ (render lead quoting arguments).toList ↔
      (∃ shell, lead = some shell ∧ character ∈ shell.toList) ∨
        ∃ argument ∈ arguments, character ∈ argument.toList := by
  have led : (∃ part ∈ leading lead, character ∈ part) ↔
      ∃ shell, lead = some shell ∧ character ∈ shell.toList := by
    cases lead with
    | none => simp
    | some shell =>
      by_cases empty : shell = ""
      · subst empty
        simp
      · simp [leading_some empty]
  rw [toList_render, mem_intercalate_iff plain, ← led]
  unfold parts
  simp [or_and_right, exists_or, mem_quoted_iff plain]

end Membership

/-! ## What is read of a line that is cut -/

/-- Backslashes wait for what follows them. -/
theorem reads_waiting (backward : List Char) (count : Nat) :
    splitter.Reads (some ⟨true, 0, backward⟩) (backslashes count) ⟨true, count, backward⟩ := by
  have reads := reads_backslashes ⟨true, 0, backward⟩ count
  rwa [Nat.zero_add] at reads

/-- Inside quotes an argument is written without a NUL up to its own first one, and what has been
read then is what stands before it, after the backslashes that were still to be written. -/
theorem exists_cut_quotedFrom {front : List Char} (clear : nul ∉ front) (back : List Char)
    (run : Nat) (backward : List Char) :
    ∃ written later last, quotedFrom .runs run (front ++ nul :: back) = written ++ nul :: later ∧
      nul ∉ written ∧ splitter.Reads (some ⟨true, 0, backward⟩) written last ∧
      last.text = backward.reverse ++ backslashes run ++ front := by
  have none := notMem_backslashes plain_nul
  induction front generalizing run backward with
  | nil =>
    have slash : nul ≠ '\\' := plain_nul.1
    have quote : nul ≠ '"' := plain_nul.2.1
    refine ⟨backslashes run, quotedFrom .runs 0 back, ⟨true, run, backward⟩, ?_, none run,
      reads_waiting backward run, ?_⟩
    · rw [List.nil_append, quotedFrom, if_neg slash, if_neg quote]
    · simp [Piece.text, backslashes]
  | cons character front ih =>
    obtain ⟨other, free⟩ := List.ne_and_not_mem_of_not_mem_cons clear
    by_cases slash : character = '\\'
    · subst slash
      obtain ⟨written, later, last, parts, absent, reads, text⟩ := ih free (run + 1) backward
      refine ⟨written, later, last, parts, absent, reads, ?_⟩
      rw [text]
      simp [backslashes, List.replicate_succ']
    by_cases quote : character = '"'
    · subst quote
      obtain ⟨written, later, last, parts, absent, reads, text⟩ :=
        ih free 0 ('"' :: (backslashes run ++ backward))
      refine ⟨backslashes (2 * run + 1) ++ '"' :: written, later, last, ?_, ?_, ?_, ?_⟩
      · rw [List.cons_append, quotedFrom, if_neg slash, if_pos rfl, parts, List.append_assoc,
          List.cons_append]
      · simp [none, absent, plain_nul.2.1]
      · refine (reads_waiting backward _).append (.cons (next?_quote _) ?_)
        rw [quote_odd]
        exact reads
      · rw [text]
        simp [backslashes]
    · obtain ⟨written, later, last, parts, absent, reads, text⟩ :=
        ih free 0 (character :: (backslashes run ++ backward))
      refine ⟨backslashes run ++ character :: written, later, last, ?_, ?_, ?_, ?_⟩
      · rw [List.cons_append, quotedFrom, if_neg slash, if_neg quote, parts, List.append_assoc,
          List.cons_append]
      · simp [none, absent, other]
      · refine (reads_waiting backward _).append (.cons (next?_inside rfl slash quote) ?_)
        exact reads
      · rw [text]
        simp [backslashes]

/-- A quoted argument that is cut at its first NUL gives what stands before it. -/
theorem exists_cut_quoted {front : List Char} (clear : nul ∉ front) (back : List Char) :
    ∃ written later, quoted .runs (front ++ nul :: back) = written ++ nul :: later ∧
      nul ∉ written ∧ splitter.pieces none written = [front] := by
  obtain ⟨written, later, last, parts, absent, reads, text⟩ :=
    exists_cut_quotedFrom clear back 0 []
  refine ⟨'"' :: written, later ++ ['"'], ?_, ?_, ?_⟩
  · unfold quoted
    rw [parts, List.append_assoc, List.cons_append, List.cons_append]
  · simp [absent, plain_nul.2.1]
  · have whole : splitter.Reads none ('"' :: written) last :=
      .of_start (by decide) (.cons (next?_quote _) reads)
    rw [whole.pieces]
    exact congrArg ([·]) text

/-- A line of parts is cut within the first of them that is cut. -/
theorem exists_cut_intercalate {separator : Char} (parts : List (List Char))
    (written later : List Char) (rest : List (List Char)) :
    ∃ onward, [separator].intercalate (parts ++ (written ++ nul :: later) :: rest) =
      [separator].intercalate (parts ++ [written]) ++ nul :: onward := by
  induction parts with
  | nil =>
    cases rest with
    | nil => exact ⟨later, by simp⟩
    | cons next rest =>
      refine ⟨later ++ [separator] ++ [separator].intercalate (next :: rest), ?_⟩
      simp [List.intercalate_cons_cons]
  | cons part parts ih =>
    obtain ⟨onward, same⟩ := ih
    have nonempty : parts ++ (written ++ nul :: later) :: rest ≠ [] := by simp
    have closed : parts ++ [written] ≠ [] := by simp
    refine ⟨onward, ?_⟩
    rw [List.cons_append, List.intercalate_cons_of_ne_nil nonempty, same, List.cons_append,
      List.intercalate_cons_of_ne_nil closed, List.append_assoc, List.append_assoc,
      List.append_assoc]

/-- A lead without double quotes and quoted arguments are each closed by a space. -/
theorem closedBy_of_mem_parts {lead : Option String}
    (unquoted : ∀ shell, lead = some shell → '"' ∉ shell.toList) {arguments : List String}
    {part : List Char} (member : part ∈ parts lead .runs arguments) :
    splitter.ClosedBy part ' ' := by
  rcases List.mem_append.1 member with led | quoted
  · cases lead with
    | none => cases led
    | some shell =>
      by_cases empty : shell = ""
      · subst empty
        cases led
      · rw [leading_some empty, List.mem_singleton] at led
        rw [led]
        exact closedBy_bare (unquoted shell rfl) (by decide)
  · obtain ⟨argument, -, rfl⟩ := List.mem_map.1 quoted
    exact closedBy_quoted argument.toList

/-- A line that is cut at a NUL is split like a line of the arguments before the first that holds
one, and then comes the beginning of that argument; what comes behind is lost. -/
theorem split_cut_line {lead : Option String}
    (unquoted : ∀ shell, lead = some shell → '"' ∉ shell.toList)
    {before : List String} (clear : nul ∉ (render lead .runs before).toList)
    {cut : String} (holds : nul ∈ cut.toList) (after : List String) :
    split (asRead (render lead .runs (before ++ cut :: after))) =
      split (render lead .runs before) ++ [asRead cut] := by
  obtain ⟨front, back, spelled, free⟩ := List.eq_append_cons_of_mem holds
  obtain ⟨written, later, quotation, absent, gives⟩ := exists_cut_quoted free back
  obtain ⟨onward, line⟩ := exists_cut_intercalate (parts lead .runs before) written later
    (after.map fun argument => quoted .runs argument.toList)
  have whole : (render lead .runs (before ++ cut :: after)).toList =
      [' '].intercalate (parts lead .runs before ++ [written]) ++ nul :: onward := by
    rw [toList_render, ← line, ← quotation, ← spelled]
    simp [parts]
  have kept : nul ∉ [' '].intercalate (parts lead .runs before ++ [written]) := by
    rw [mem_intercalate_iff plain_nul]
    rintro ⟨part, member, holds⟩
    rcases List.mem_append.1 member with early | last
    · apply clear
      rw [toList_render, mem_intercalate_iff plain_nul]
      exact ⟨part, early, holds⟩
    · rw [List.mem_singleton.1 last] at holds
      exact absent holds
  have read : asRead (render lead .runs (before ++ cut :: after)) =
      String.ofList ([' '].intercalate (parts lead .runs before ++ [written])) := by
    rw [← asRead_ofList kept onward, ← whole, String.ofList_toList]
  have begins : asRead cut = String.ofList front := by
    rw [← asRead_ofList free back, ← spelled, String.ofList_toList]
  have closed : ∀ part ∈ parts lead .runs before, splitter.ClosedBy part ' ' :=
    fun part member => closedBy_of_mem_parts unquoted member
  have uncut : split (render lead .runs before) =
      ((parts lead .runs before).flatMap (splitter.pieces none)).map String.ofList := by
    rw [split_eq_pieces, toList_render,
      Splitter.pieces_intercalate splitter_separates_space _ closed]
  rw [read, begins, uncut, split_eq_pieces, String.toList_ofList,
    Splitter.pieces_intercalate_concat splitter_separates_space _ closed, gives, List.map_append]
  rfl

end CommandLine

end CompilerLauncher
