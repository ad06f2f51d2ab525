import CompilerLauncher.Proofs.ApplicationPath
import CompilerLauncher.Proofs.LineSplitting
import CompilerLauncher.Proofs.ResponseFileMaking
import CompilerLauncher.Proofs.UnescapedLead

/-!
# Invocations whose line is too long

A line that does not fit is replaced by one that names the application and a response file. Neither
name is escaped there; but a text without double quotes that does not end in a backslash needs no
escapes between double quotes (`quotedFrom_clear`), so the line is the one of those two names
(`referring_eq_render`) and is split into them.

Without a shell the file holds the arguments after the first, and is read back as these
(`build_delivers`). With a shell it holds no first argument, the script, and begins with the path of
the shell, which is read with the backslash as an escape; what is delivered is seldom what was meant
(`build_through_shell`).
-/

namespace CompilerLauncher

namespace CommandLine

/-! ## Lengths -/

theorem unitCount_replicate (count : Nat) (character : Char) :
    unitCount (List.replicate count character) = count * units character := by
  induction count with
  | zero => simp
  | succ count ih => rw [List.replicate_succ, unitCount_cons, ih, Nat.succ_mul, Nat.add_comm]

theorem unitCount_backslashes (count : Nat) : unitCount (backslashes count) = count := by
  have one : units '\\' = 1 := by decide
  rw [backslashes, unitCount_replicate, one, Nat.mul_one]

/-- What is written of an argument is no shorter than the argument and the backslashes owed. -/
theorem unitCount_le_quotedFrom (run : Nat) (argument : List Char) :
    run + unitCount argument ≤ unitCount (quotedFrom .runs run argument) := by
  induction argument generalizing run with
  | nil =>
    rw [quotedFrom, unitCount_backslashes, unitCount_nil]
    omega
  | cons character rest ih =>
    by_cases backslash : character = '\\'
    · have later := ih (run + 1)
      have one : units '\\' = 1 := by decide
      simp only [quotedFrom, backslash, if_true, unitCount_cons]
      omega
    have later := ih 0
    by_cases quote : character = '"'
    · subst quote
      simp only [quotedFrom, backslash, if_false, if_true, unitCount_append, unitCount_cons,
        unitCount_backslashes]
      omega
    · simp only [quotedFrom, backslash, quote, if_false, unitCount_append, unitCount_cons,
        unitCount_backslashes]
      omega

/-- A part of a line is no longer than the line. -/
theorem unitCount_le_intercalate {part : List Char} {parts : List (List Char)}
    (member : part ∈ parts) : unitCount part ≤ unitCount ([' '].intercalate parts) := by
  induction parts with
  | nil => cases member
  | cons first parts ih =>
    cases parts with
    | nil => simp_all
    | cons next parts =>
      rw [List.intercalate_cons_cons, unitCount_append, unitCount_append]
      rcases List.mem_cons.1 member with rfl | later
      · omega
      · have shorter := ih later
        omega

/-- A line is longer than each of its arguments. -/
theorem length_lt_render (lead : Option String) {argument : String} {arguments : List String}
    (member : argument ∈ arguments) :
    length argument < length (render lead .runs arguments) := by
  have written : quoted .runs argument.toList ∈ parts lead .runs arguments :=
    List.mem_append_right _ (List.mem_map.2 ⟨argument, member, rfl⟩)
  have part := unitCount_le_intercalate written
  have inner := unitCount_le_quotedFrom 0 argument.toList
  have quote : units '"' = 1 := by decide
  rw [quoted, unitCount_cons, unitCount_append] at part
  rw [length, length, toList_render]
  omega

/-! ## Names that need no escapes -/

/-- Between double quotes a text without any that does not end in a backslash stands as it is. -/
theorem quotedFrom_clear (run : Nat) {text : List Char} (quote : '"' ∉ text)
    (ends : text.getLast? ≠ some '\\') (owed : text = [] → run = 0) :
    quotedFrom .runs run text = backslashes run ++ text := by
  induction text generalizing run with
  | nil =>
    rw [owed rfl]
    rfl
  | cons character rest ih =>
    obtain ⟨head, tail⟩ := List.ne_and_not_mem_of_not_mem_cons quote
    have later : rest.getLast? ≠ some '\\' := by
      cases rest with
      | nil => simp
      | cons next rest => simpa [List.getLast?_cons_cons] using ends
    rw [quotedFrom]
    by_cases backslash : character = '\\'
    · have more : rest ≠ [] := by
        rintro rfl
        simp [backslash] at ends
      simp only [backslash, if_true]
      rw [ih (run + 1) tail later fun none => absurd none more]
      simp [backslashes, List.replicate_succ']
    · simp only [backslash, Ne.symm head, if_false]
      rw [ih 0 tail later fun _ => rfl]
      rfl

theorem quoted_clear {text : List Char} (quote : '"' ∉ text) (ends : text.getLast? ≠ some '\\') :
    quoted .runs text = '"' :: (text ++ ['"']) := by
  rw [quoted, quotedFrom_clear 0 quote ends fun _ => rfl]
  rfl

end CommandLine

namespace Invocation

open CommandLine (render limit length)
open ResponseFile (Room)

/-! ## The line that names a response file -/

section Naming

variable {application : String} {file : Bytes} (application_quote : '"' ∉ application.toList)
  (application_ends : application.toList.getLast? ≠ some '\\')
  (file_quote : '"' ∉ (Utf8.lossy file).toList)
  (file_ends : (Utf8.lossy file).toList.getLast? ≠ some '\\')

include application_quote application_ends file_quote file_ends

theorem referring_eq_render :
    referring application file = render none .runs [application, "@" ++ Utf8.lossy file] := by
  have quote : '"' ∉ ("@" ++ Utf8.lossy file).toList := by simpa using file_quote
  have ends : ("@" ++ Utf8.lossy file).toList.getLast? ≠ some '\\' := by
    rw [String.toList_append, List.getLast?_append]
    cases last : (Utf8.lossy file).toList.getLast? with
    | none => simp
    | some character => simpa [last] using file_ends
  have spelled : referring application file =
      "\"" ++ application ++ "\" \"@" ++ Utf8.lossy file ++ "\"" := rfl
  apply String.toList_injective
  rw [spelled, CommandLine.toList_render, CommandLine.parts, List.map_cons, List.map_singleton,
    CommandLine.quoted_clear application_quote application_ends,
    CommandLine.quoted_clear quote ends]
  simp

/-- The line gives the two names that it is made of. -/
theorem split_referring :
    CommandLine.split (referring application file) = [application, "@" ++ Utf8.lossy file] := by
  rw [referring_eq_render application_quote application_ends file_quote file_ends,
    CommandLine.split_render_of_closedBy]
  · simp
  · simp

end Naming

/-! ## What is built -/

section Building

variable (program : String) {arguments : List String} {shell : Option String}

/-- Arguments whose line fits stay on it, and nothing is written. -/
theorem build_of_le {m : Type → Type} [Monad m] (write : String → m Bytes)
    (short : length (render shell .runs arguments) ≤ limit) :
    build write program arguments shell =
      pure ⟨CommandLine.application program, render shell .runs arguments, none⟩ :=
  if_pos (CommandLine.fits_iff.2 short)

/-- Arguments whose line does not fit go into a file, except for the first of them. -/
theorem build_of_lt {m : Type → Type} [Monad m] (write : String → m Bytes)
    (long : limit < length (render shell .runs arguments)) :
    build write program arguments shell =
      (write (render shell .escapes arguments.tail) >>= fun path =>
        pure ⟨CommandLine.application program, referring (CommandLine.application program) path,
          some ⟨path, render shell .escapes arguments.tail⟩⟩) :=
  if_neg (CommandLine.fits_iff.not.2 (Nat.not_le_of_lt long))

theorem run_build_of_fits (write : String → StateT FileTree (Except LaunchError) Bytes)
    (short : length (render shell .runs arguments) ≤ limit) (tree : FileTree) :
    (build write program arguments shell).run tree =
      .ok (⟨CommandLine.application program, render shell .runs arguments, none⟩, tree) := by
  rw [build_of_le program write short]
  rfl

theorem run_build_of_overflow {write : String → StateT FileTree (Except LaunchError) Bytes}
    (long : limit < length (render shell .runs arguments)) {tree made : FileTree} {path : Bytes}
    (written : (write (render shell .escapes arguments.tail)).run tree = .ok (path, made)) :
    (build write program arguments shell).run tree =
      .ok (⟨CommandLine.application program, referring (CommandLine.application program) path,
        some ⟨path, render shell .escapes arguments.tail⟩⟩, made) := by
  rw [build_of_lt program write long, StateT.run_bind, written]
  rfl

theorem run_build_of_unwritten {write : String → StateT FileTree (Except LaunchError) Bytes}
    (long : limit < length (render shell .runs arguments)) {tree : FileTree} {error : LaunchError}
    (fails : (write (render shell .escapes arguments.tail)).run tree = .error error) :
    (build write program arguments shell).run tree = .error error := by
  rw [build_of_lt program write long, StateT.run_bind, fails]
  rfl

end Building

/-- The invocation names its application and a response file, and the file stands in the tree with
the text that it is said to have. -/
structure Refers (invocation : Invocation) (made : FileTree) (file : ResponseFile) : Prop where
  held : invocation.responseFile = some file
  line : CommandLine.split invocation.line = [invocation.application, "@" ++ Utf8.lossy file.path]
  stored : made.read file.path = .ok (Utf8.encode file.text)

variable {tree : FileTree} {directory : Bytes} {suffix : String}

/-- Where there is room for a response file, an invocation that overflows refers to one. -/
theorem exists_refers (room : Room tree directory suffix) {program : String}
    (clear : '"' ∉ program.toList) {arguments : List String} {shell : Option String}
    (long : limit < length (render shell .runs arguments)) :
    ∃ invocation made file,
      (build (ResponseFile.writeIn directory (Utf8.encode suffix)) program arguments
        shell).run tree = .ok (invocation, made) ∧
      invocation.application = CommandLine.application program ∧
      invocation.Refers made file ∧
      file = ⟨ResponseFile.pathIn tree directory (Utf8.encode suffix),
        render shell .escapes arguments.tail⟩ := by
  obtain ⟨made, written, read⟩ := room.run_writeIn (render shell .escapes arguments.tail)
  have built := run_build_of_overflow program long written
  have line := split_referring (CommandLine.quote_notMem_application clear)
    (CommandLine.getLast?_application program) room.quotable.1 room.quotable.2
  exact ⟨_, made, _, built, rfl, ⟨rfl, line, read⟩, rfl⟩

/-- A tree with a directory for scratch files and nothing else. -/
def scratch : FileTree where
  entries := [([Utf8.encode "tmp"], .directory 0o777)]

theorem room_scratch : Room scratch (Utf8.encode "/tmp") "a1b2c3" where
  clear := by unfold Path.Quotefree; decide
  below := .inl (by decide)
  plain := List.all_eq_true.1 (by decide)
  short := by decide
  vacant := ⟨[Utf8.encode "tmp", Utf8.encode "cmd_argsa1b2c3"], by decide⟩

/-- An argument that fills a line. -/
def filler : String := String.ofList (List.replicate limit 'x')

theorem length_filler : length filler = limit := by
  have one : CommandLine.units 'x' = 1 := by decide
  rw [filler, length, String.toList_ofList, CommandLine.unitCount_replicate, one, Nat.mul_one]

theorem limit_lt_length_filled (shell : Option String) (first : String) :
    limit < length (render shell .runs [first, filler]) := by
  rw [← length_filler]
  exact CommandLine.length_lt_render shell (.tail first (.head []))

/-- The arguments that an invocation stands for: those of its line, with the reference to its
response file replaced by the arguments that the file holds. -/
def delivered (invocation : Invocation) : List String :=
  match invocation.responseFile with
  | none => CommandLine.split invocation.line
  | some file =>
    (CommandLine.split invocation.line).flatMap fun argument =>
      if argument = "@" ++ Utf8.lossy file.path then ResponseFile.split file.text else [argument]

theorem Refers.delivered {invocation : Invocation} {made : FileTree} {file : ResponseFile}
    (refers : invocation.Refers made file)
    (other : invocation.application ≠ "@" ++ Utf8.lossy file.path) :
    invocation.delivered = invocation.application :: ResponseFile.split file.text := by
  rw [Invocation.delivered, refers.held]
  simp [refers.line, other]

/-- A shell is not the name of a response file, which has no dot so near its end. -/
theorem shell_ne_reference (room : Room tree directory suffix) {shell : String} {front : List Char}
    (ends : shell.toList = front ++ "sh.exe".toList) :
    shell ≠ "@" ++ Utf8.lossy (ResponseFile.pathIn tree directory (Utf8.encode suffix)) := by
  obtain ⟨path, -, read⟩ := room.lossy_pathIn
  rw [read]
  rintro rfl
  have name : ("cmd_args" ++ suffix).toList <:+ front ++ "sh.exe".toList := by
    have spelled : ("@" ++ (path ++ ("cmd_args" ++ suffix))).toList =
        ("@" ++ path).toList ++ ("cmd_args" ++ suffix).toList := by simp
    rw [← ends, spelled]
    exact List.suffix_append _ _
  have extension : ".exe".toList <:+ front ++ "sh.exe".toList :=
    ⟨front ++ "sh".toList, by simp⟩
  have shorter : ".exe".toList.length ≤ ("cmd_args" ++ suffix).toList.length := by simp
  have inside := List.suffix_of_suffix_length_le extension name shorter
  have dotted : '.' ∈ ("cmd_args" ++ suffix).toList := inside.subset (by decide)
  rcases room.ordinary_of_mem_name dotted with other | other <;> cases other

/-- Through a shell the line that is too long becomes the shell and a response file that is led by
the shell's path. What is delivered is the shell, what its path gives when it is read with the
backslash as an escape, and the arguments after the script; the script itself is not there. -/
theorem delivered_of_overflow (room : Room tree directory suffix) {shell : String}
    {front : List Char} (ends : shell.toList = front ++ "sh.exe".toList)
    (clear : '"' ∉ shell.toList) {script : String} {rest : List String}
    (long : limit < length (render (some shell) .runs (script :: rest))) :
    ∃ invocation made file,
      (build (ResponseFile.writeIn directory (Utf8.encode suffix)) shell (script :: rest)
        (some shell)).run tree = .ok (invocation, made) ∧
      invocation.Refers made file ∧
      invocation.delivered = shell :: ResponseFile.split (render (some shell) .escapes rest) := by
  obtain ⟨invocation, made, file, built, application, refers, rfl⟩ :=
    exists_refers room clear long
  have other := shell_ne_reference room ends
  rw [CommandLine.application_shell ends] at application
  rw [← application] at other
  refine ⟨invocation, made, _, built, refers, ?_⟩
  rw [refers.delivered other, application, List.tail_cons]

/-- Through a shell the arguments of a line that is too long arrive exactly if the script's name is
what the shell's path gives when the response file's rules read it, and that path leaves no quote
open before further arguments. -/
theorem build_through_shell (tree : FileTree) (shell script : String) (rest : List String)
    (front : List Char) (directory : Bytes) (suffix : String)
    (ends : shell.toList = front ++ "sh.exe".toList) (clear : '"' ∉ shell.toList)
    (room : Room tree directory suffix)
    (long : limit < length (render (some shell) .runs (script :: rest))) :
    ∃ invocation made file,
      (build (ResponseFile.writeIn directory (Utf8.encode suffix)) shell (script :: rest)
        (some shell)).run tree = .ok (invocation, made) ∧
      invocation.Refers made file ∧
      (invocation.delivered = shell :: script :: rest ↔
        ResponseFile.split shell = [script] ∧
          (rest = [] ∨ ResponseFile.openQuote shell = none)) := by
  obtain ⟨invocation, made, file, built, refers, delivered⟩ :=
    delivered_of_overflow room ends clear long
  have last : shell.toList = (front ++ "sh.ex".toList) ++ ['e'] := by
    rw [ends]
    simp
  refine ⟨invocation, made, file, built, refers, ?_⟩
  rw [delivered, List.cons_inj_right]
  exact ResponseFile.split_render_lead_eq_iff last (by decide) (by decide) clear script rest

theorem build_through_shell_filled :
    "C:/msys/bin/sh.exe".toList = "C:/msys/bin/".toList ++ "sh.exe".toList ∧
      '"' ∉ "C:/msys/bin/sh.exe".toList ∧ Room scratch (Utf8.encode "/tmp") "a1b2c3" ∧
      limit < length (render (some "C:/msys/bin/sh.exe") .runs ["C:/msys/bin/sh.exe", filler]) ∧
      ∃ invocation made,
        (build (ResponseFile.writeIn (Utf8.encode "/tmp") (Utf8.encode "a1b2c3"))
          "C:/msys/bin/sh.exe" ["C:/msys/bin/sh.exe", filler]
          (some "C:/msys/bin/sh.exe")).run scratch = .ok (invocation, made) ∧
        invocation.delivered = ["C:/msys/bin/sh.exe", "C:/msys/bin/sh.exe", filler] := by
  have ends : "C:/msys/bin/sh.exe".toList = "C:/msys/bin/".toList ++ "sh.exe".toList := by decide
  have clear : '"' ∉ "C:/msys/bin/sh.exe".toList := by decide
  have long := limit_lt_length_filled (some "C:/msys/bin/sh.exe") "C:/msys/bin/sh.exe"
  obtain ⟨invocation, made, -, built, -, delivers⟩ :=
    build_through_shell scratch "C:/msys/bin/sh.exe" "C:/msys/bin/sh.exe" [filler]
      "C:/msys/bin/".toList (Utf8.encode "/tmp") "a1b2c3" ends clear room_scratch long
  exact ⟨ends, clear, room_scratch, long, invocation, made, built,
    delivers.2 ⟨by decide, .inr (by decide)⟩⟩

/-- A script behind a shell is lost: in its place the shell is given its own path without the
backslashes. -/
theorem build_through_shell_lossy :
    "C:\\msys\\bin\\sh.exe".toList = "C:\\msys\\bin\\".toList ++ "sh.exe".toList ∧
      '"' ∉ "C:\\msys\\bin\\sh.exe".toList ∧ Room scratch (Utf8.encode "/tmp") "a1b2c3" ∧
      limit < length (render (some "C:\\msys\\bin\\sh.exe") .runs ["build.sh", filler]) ∧
      ∃ invocation made,
        (build (ResponseFile.writeIn (Utf8.encode "/tmp") (Utf8.encode "a1b2c3"))
          "C:\\msys\\bin\\sh.exe" ["build.sh", filler]
          (some "C:\\msys\\bin\\sh.exe")).run scratch = .ok (invocation, made) ∧
        invocation.delivered = ["C:\\msys\\bin\\sh.exe", "C:msysbinsh.exe", filler] ∧
        invocation.delivered ≠ ["C:\\msys\\bin\\sh.exe", "build.sh", filler] := by
  have ends : "C:\\msys\\bin\\sh.exe".toList = "C:\\msys\\bin\\".toList ++ "sh.exe".toList := by
    decide
  have last : "C:\\msys\\bin\\sh.exe".toList = "C:\\msys\\bin\\sh.ex".toList ++ ['e'] := by decide
  have clear : '"' ∉ "C:\\msys\\bin\\sh.exe".toList := by decide
  have long := limit_lt_length_filled (some "C:\\msys\\bin\\sh.exe") "build.sh"
  have path : ResponseFile.split "C:\\msys\\bin\\sh.exe" = ["C:msysbinsh.exe"] := by decide
  obtain ⟨invocation, made, -, built, -, delivered⟩ :=
    delivered_of_overflow room_scratch ends clear long
  rw [ResponseFile.split_render_lead last (by decide) (by decide) (by decide), path] at delivered
  refine ⟨ends, clear, room_scratch, long, invocation, made, built, delivered, ?_⟩
  rw [delivered]
  simp

end Invocation

end CompilerLauncher
