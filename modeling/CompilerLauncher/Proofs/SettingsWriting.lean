import CompilerLauncher.Proofs.SettingsDocument
import CompilerLauncher.Proofs.WrittenMapping

/-!
# Settings as a document

What a document of settings says can be written as a document again, with one line for each field of
which something is said (`Said.document`). What is read from it is what was to be said
(`said?_document`). So the settings that documents give are all the valid ones whose directory is a
text or the one that the environment gives (`exists_load_iff`).
-/

namespace CompilerLauncher

namespace Settings

open Utf8 (encode)
open Yaml (Assignment Scalar IsFlat writtenMapping)

namespace Field

/-- A value that says something about a field. Texts stand between double quotes, where any character
can be written. -/
def spell : (field : Field) → field.Content → Scalar
  | path, some text => { style := .doubleQuoted, text }
  | path, none => { text := "~" }
  | temporaryDir, text | toolName, text => { style := .doubleQuoted, text }
  | detectShebang, detects => { text := if detects then "true" else "false" }

theorem read_spell (field : Field) (content : field.Content) :
    field.read (field.spell content) = some content := by
  cases field with
  | path => cases content <;> rfl
  | temporaryDir | toolName => rfl
  | detectShebang => cases content <;> rfl

/-- The entry that says something about a field. -/
def entry (field : Field) (content : field.Content) : Assignment :=
  ({ text := field.key }, field.spell content)

/-- The keys can be written plainly. -/
theorem key_plain (field : Field) : Yaml.isPlain field.key.toList = true ∧
    Yaml.spanOf field.key.toList ≤ Yaml.Scanner.keySpan ∧
    Yaml.isDocumentMark field.key.toList = false ∧
    field.key.toList.head? ≠ some Yaml.Scanner.orderMark := by
  cases field <;> decide

theorem fitsLine_spell (field : Field) (content : field.Content) :
    (field.spell content).FitsLine := by
  cases field with
  | path =>
    cases content with
    | none => exact .plain (by decide)
    | some text => exact .quoted false nofun
  | temporaryDir | toolName => exact .quoted false nofun
  | detectShebang => cases content <;> exact .plain (by decide)

theorem fitsLine_entry (field : Field) (content : field.Content) :
    (field.entry content).FitsLine :=
  let ⟨plain, short, unmarked, started⟩ := field.key_plain
  ⟨.plain plain, field.fitsLine_spell content, short, unmarked, started⟩

end Field

namespace Said

/-- The entry of a field, if something is said about it. -/
def entry? (said : Said) (field : Field) : Option Assignment :=
  (said.get field).map field.entry

/-- The entries that say what is said. -/
def entries (said : Said) : List Assignment :=
  [.path, .temporaryDir, .detectShebang, .toolName].filterMap said.entry?

/-- What is said as a document. -/
def document (said : Said) : String :=
  String.ofList (writtenMapping said.entries)

theorem fitsLine_of_mem_entries (said : Said) : ∀ entry ∈ said.entries, entry.FitsLine := by
  intro entry listed
  obtain ⟨field, -, given⟩ := List.mem_filterMap.1 listed
  obtain ⟨content, -, rfl⟩ := Option.map_eq_some_iff.1 given
  exact field.fitsLine_entry content

/-- The entries give each field what is said about it. -/
theorem given_entries (said : Said) (field : Field) :
    given field said.entries = ((said.get field).map field.spell).toList := by
  obtain ⟨path, temporaryDir, detectShebang, toolName⟩ := said
  cases path <;> cases temporaryDir <;> cases detectShebang <;> cases toolName <;>
    cases field <;> rfl

end Said

/-- What is read from a document is what it was to say. -/
theorem said?_document (said : Said) :
    (Yaml.document? said.document).bind said? = some said := by
  by_cases filled : said.entries = []
  -- A document without lines holds no mapping, but it says nothing as well.
  · have silent : said = {} := by
      refine Said.eq_of_get fun field => ?_
      have none : ((said.get field).map field.spell).toList = [] := by
        rw [← said.given_entries, filled]
        rfl
      rw [Option.toList_eq_nil_iff, Option.map_eq_none_iff] at none
      rw [none]
      cases field <;> rfl
    have empty : (Yaml.document? "").bind said? = some {} := by decide +kernel
    rw [silent]
    exact empty
  · have flat := Yaml.isFlat_writtenMapping filled said.fitsLine_of_mem_entries
    rw [Said.document, said?_of_isFlat flat]
    intro field
    rw [said.given_entries]
    cases content : said.get field with
    | none => rfl
    | some content => simp [tell, sayOnce, field.read_spell]

section Loading

variable {environment : Environment} {settings : Settings}

/-- A document gives the settings that it was to give, if they pass the check. -/
theorem load_document (environment : Environment) (said : Said) :
    load environment said.document =
      (ofSaid environment said).validate.map fun _ => ofSaid environment said := by
  rw [load, said?_document]

/-- What a document says to give the settings, where the directory can be left out. -/
def toSaid (settings : Settings) (temporaryDir : Option String) : Said where
  path := some settings.path
  temporaryDir := temporaryDir
  detectShebang := some settings.detectShebang
  toolName := some settings.toolName

/-- **Documents give exactly the valid settings whose directory is a text or is left to the
environment.** -/
theorem exists_load_iff : (∃ text, load environment text = .ok settings) ↔
    settings.Valid ∧ (settings.temporaryDir = defaultTemporaryDir environment ∨
      ∃ directory, settings.temporaryDir = encode directory) := by
  constructor
  · rintro ⟨text, loaded⟩
    obtain ⟨said, -, valid, rfl⟩ := load_eq_ok_iff.1 loaded
    refine ⟨valid, ?_⟩
    cases placed : said.temporaryDir with
    | none =>
      left
      rw [ofSaid, placed]
    | some directory =>
      right
      exact ⟨directory, by rw [ofSaid, placed]⟩
  · rintro ⟨valid, placed⟩
    obtain ⟨directory, made⟩ : ∃ directory,
        ofSaid environment (settings.toSaid directory) = settings := by
      obtain ⟨path, temporaryDir, detectShebang, toolName⟩ := settings
      rcases placed with rfl | ⟨directory, rfl⟩
      · exact ⟨none, rfl⟩
      · exact ⟨some directory, rfl⟩
    have loaded := load_document environment (settings.toSaid directory)
    rw [made, validate_eq_ok_iff.2 valid] at loaded
    exact ⟨_, loaded⟩

end Loading

end Settings

end CompilerLauncher
