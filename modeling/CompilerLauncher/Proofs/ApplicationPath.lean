import CompilerLauncher.CommandLine.Invocation
import CompilerLauncher.Proofs.Utf8Spelling

/-!
# The name of the application

The application of an invocation is named between double quotes that are not escaped, so its path
must not end in a backslash. It never does: a program's path that ends in one has no extension that
can be started, and gets the usual one (`getLast?_application`). A shell's path has that extension
already and stays as it is (`application_shell`).

Both rest on what the last name of a path is, and its extension, when the path ends in bytes that
belong to a name (`fileName?_append`, `extension?_append`).
-/

namespace CompilerLauncher

namespace Path

/-- Bytes without a separator belong to the last field. -/
theorem fields_append {separator : UInt8} {tail : Bytes} (absent : separator ∉ tail)
    (front : Bytes) :
    ∃ others last, fields separator front = others ++ [last] ∧
      fields separator (front ++ tail) = others ++ [last ++ tail] := by
  induction front with
  | nil =>
    refine ⟨[], [], rfl, ?_⟩
    induction tail with
    | nil => rfl
    | cons byte rest ih =>
      obtain ⟨head, absent⟩ := List.ne_and_not_mem_of_not_mem_cons absent
      have later := ih absent
      simp only [List.nil_append] at later ⊢
      rw [fields_cons, later, fieldsStep, if_neg (Ne.symm head)]
  | cons byte front ih =>
    obtain ⟨others, last, before, after⟩ := ih
    rw [List.cons_append, fields_cons, fields_cons, before, after]
    by_cases cut : byte = separator
    · exact ⟨[] :: others, last, by simp [fieldsStep, cut], by simp [fieldsStep, cut]⟩
    · cases others with
      | nil => exact ⟨[], byte :: last, by simp [fieldsStep, cut], by simp [fieldsStep, cut]⟩
      | cons first others =>
        exact ⟨(byte :: first) :: others, last, by simp [fieldsStep, cut],
          by simp [fieldsStep, cut]⟩

/-- A path that ends in bytes of a name, the last of them not a dot, has a last name that ends in
them. -/
theorem fileName?_append {tail : Bytes} {last : UInt8} (absent : slash ∉ tail)
    (ends : tail.getLast? = some last) (nodot : last ≠ dot) (front : Bytes) :
    ∃ head, fileName? (front ++ tail) = some (head ++ tail) := by
  obtain ⟨others, field, -, cut⟩ := fields_append absent front
  have final : (field ++ tail).getLast? = some last := by
    rw [List.getLast?_append, ends]
    rfl
  have nonempty : field ++ tail ≠ [] := by
    intro empty
    rw [empty] at final
    cases final
  have dotted : ∀ name : Bytes, name.getLast? = some dot → field ++ tail ≠ name := by
    rintro name dots rfl
    rw [final] at dots
    exact nodot (Option.some.inj dots)
  have kept : [field ++ tail].filter (fun name => name != [] && name != here) =
      [field ++ tail] := by
    refine List.filter_cons_of_pos ?_
    rw [Bool.and_eq_true, bne_iff_ne, bne_iff_ne]
    exact ⟨nonempty, dotted here rfl⟩
  refine ⟨field, ?_⟩
  rw [fileName?, names, cut, List.filter_append, kept, List.getLast?_concat]
  simpa using dotted above rfl

/-- The extension of a path that ends in a dot and bytes of a name, if the name does not begin with
that dot. -/
theorem extension?_append {before last : UInt8} {suffix : Bytes} (slashless : slash ∉ suffix)
    (dotless : dot ∉ suffix) (ends : suffix.getLast? = some last) (named : before ≠ slash)
    (front : Bytes) :
    extension? (front ++ before :: dot :: suffix) = some suffix := by
  have absent : slash ∉ before :: dot :: suffix := by
    simpa [slashless] using ⟨Ne.symm named, (by decide : slash ≠ dot)⟩
  have final : (before :: dot :: suffix).getLast? = some last := by
    simp [List.getLast?_cons, ends]
  have nodot : last ≠ dot := by
    rintro rfl
    exact dotless (List.mem_of_getLast? ends)
  obtain ⟨head, name⟩ := fileName?_append absent final nodot front
  have others : ∀ byte ∈ suffix.reverse, (byte != dot) = true := by
    intro byte member
    simpa using fun same : byte = dot => dotless (same ▸ List.mem_reverse.1 member)
  have backward : (head ++ before :: dot :: suffix).reverse =
      suffix.reverse ++ dot :: before :: head.reverse := by simp
  rw [extension?, name, Option.bind_some]
  dsimp only
  rw [backward, List.dropWhile_append_of_pos others, List.takeWhile_append_of_pos others]
  simp

/-- The extension of a path ends as the path does, unless the path ends in a slash or a dot. -/
theorem getLast?_extension? {last : UInt8} {front found : Bytes} (slashless : last ≠ slash)
    (dotless : last ≠ dot) (extension : extension? (front ++ [last]) = some found) :
    found.getLast? = some last := by
  have absent : slash ∉ [last] := by simpa using Ne.symm slashless
  obtain ⟨head, name⟩ := fileName?_append absent rfl dotless front
  have other : (last != dot) = true := by simpa using dotless
  rw [extension?, name, Option.bind_some] at extension
  dsimp only at extension
  split at extension
  · cases extension
    simp [other]
  · cases extension

end Path

namespace CommandLine

/-- A path that ends in one of the extensions that can be started is its own application. -/
theorem application_of_extension {extension path : String} (startable : extension ∈ startable)
    (has : Path.hasExtension (Utf8.encode path) extension = true) : application path = path := by
  have any : CommandLine.startable.any (Path.hasExtension (Utf8.encode path)) = true :=
    List.any_eq_true.2 ⟨extension, startable, has⟩
  rw [application, if_pos any]

/-- A shell is started under the path it was found at. -/
theorem application_shell {shell : String} {front : List Char}
    (ends : shell.toList = front ++ "sh.exe".toList) : application shell = shell := by
  have spelled : shell = String.ofList front ++ "s" ++ "h.exe" := by
    apply String.toList_injective
    simpa using ends
  have bytes : Utf8.encode shell =
      Utf8.encode (String.ofList front ++ "s") ++ 104 :: Path.dot :: [101, 120, 101] := by
    rw [spelled, Utf8.encode_append]
    rfl
  have found : Path.extension? (Utf8.encode shell) = some [101, 120, 101] := by
    rw [bytes]
    exact Path.extension?_append (by decide) (by decide) rfl (by decide) _
  refine application_of_extension (by decide : "exe" ∈ startable) ?_
  rw [Path.hasExtension, found]
  decide

/-- A backslash is spelled by one byte. -/
theorem encode_concat_backslash {path : String} {front : List Char}
    (ends : path.toList = front ++ ['\\']) :
    Utf8.encode path = Utf8.encode (String.ofList front) ++ [92] := by
  have spelled : path = String.ofList front ++ "\\" := by
    apply String.toList_injective
    simpa using ends
  rw [spelled, Utf8.encode_append]
  rfl

/-- No extension that can be started ends in a backslash. -/
theorem hasExtension_concat_backslash (front : Bytes) {extension : String}
    (startable : extension ∈ startable) : Path.hasExtension (front ++ [92]) extension = false := by
  have ends : (Utf8.encode extension).getLast? ≠ some 92 := by
    revert extension
    decide
  rw [Path.hasExtension, Option.any_eq_false]
  intro found extension'
  have last := Path.getLast?_extension? (by decide) (by decide) extension'
  rw [beq_eq_false_iff_ne]
  intro same
  apply ends
  rw [← same, List.getLast?_map, last]
  rfl

/-- The application's path does not end in a backslash: one that does has no extension that can be
started, so the usual one is added. -/
theorem getLast?_application (program : String) :
    (application program).toList.getLast? ≠ some '\\' := by
  rw [application]
  split
  · rename_i has
    intro last
    obtain ⟨front, ends⟩ := List.getLast?_eq_some_iff.1 last
    obtain ⟨extension, startable, has⟩ := List.any_eq_true.1 has
    rw [encode_concat_backslash ends, hasExtension_concat_backslash _ startable] at has
    cases has
  · simp

/-- The application's path has no double quote if the program's has none. -/
theorem quote_notMem_application {program : String} (quote : '"' ∉ program.toList) :
    '"' ∉ (application program).toList := by
  rw [application]
  split
  · exact quote
  · simpa using quote

end CommandLine

end CompilerLauncher
