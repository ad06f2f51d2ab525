import CompilerLauncher.FrontEnd.Run

/-!
# Settings that pass the check

The check lets settings pass whose name says something and whose directory is named
(`validate_eq_ok_iff`). Overrides cannot undo that: they leave the name alone, and a directory that
they bring is named (`Valid.overrides`).

The check is made of settings that are read from a document. Settings that are made of the
environment alone are not checked, and their directory is the one that the environment names for all
programs. So they pass exactly if that name is not empty or is overridden (`ofEnvironment_valid_iff`).
-/

namespace CompilerLauncher

namespace Settings

open Utf8 (encode)

section Checked

variable {settings : Settings} {environment : Environment}

/-- What the check asks for. -/
structure Valid (settings : Settings) : Prop where
  named : isBlankText settings.toolName = false
  placed : settings.temporaryDir ≠ []

theorem validate_eq_ok_iff : settings.validate = .ok () ↔ settings.Valid := by
  rw [validate]
  split
  · rename_i blank
    exact ⟨nofun, fun valid => absurd valid.named (by simp [blank])⟩
  · rename_i named
    split
    · rename_i empty
      exact ⟨nofun, fun valid => absurd empty valid.placed⟩
    · rename_i placed
      exact ⟨fun _ => ⟨by simpa using named, placed⟩, fun _ => rfl⟩

theorem validate_eq_emptyTemporaryDir_iff : settings.validate = .error .emptyTemporaryDir ↔
    isBlankText settings.toolName = false ∧ settings.temporaryDir = [] := by
  rw [validate]
  split
  · rename_i blank
    simp [blank]
  · rename_i named
    split
    · rename_i empty
      simp [named, empty]
    · rename_i placed
      simp [placed]

/-! ## Overrides -/

/-- The directory that an environment brings, if it names one. -/
def overridingDir (environment : Environment) : Option Bytes :=
  (environment temporaryDirVariable).filter (· ≠ [])

theorem temporaryDir_override (settings : Settings) (environment : Environment) :
    (settings.override environment).temporaryDir =
      (overridingDir environment).getD settings.temporaryDir := by
  rw [override, overridingDir]
  cases environment temporaryDirVariable with
  | none => rfl
  | some directory => by_cases empty : directory = [] <;> simp [Option.filter, empty]

theorem ne_nil_of_overridingDir {directory : Bytes}
    (brought : overridingDir environment = some directory) : directory ≠ [] := by
  simpa using (Option.filter_eq_some_iff.1 brought).2

/-- Settings that pass the check pass it under any overrides. -/
theorem Valid.override (valid : settings.Valid) (environment : Environment) :
    (settings.override environment).Valid := by
  refine ⟨valid.named, ?_⟩
  rw [temporaryDir_override]
  cases brought : overridingDir environment with
  | none => exact valid.placed
  | some directory => exact ne_nil_of_overridingDir brought

/-- The settings under overrides that come one after the other. -/
def overrides (settings : Settings) (environments : List Environment) : Settings :=
  environments.foldl Settings.override settings

theorem Valid.overrides (valid : settings.Valid) (environments : List Environment) :
    (settings.overrides environments).Valid := by
  induction environments generalizing settings with
  | nil => exact valid
  | cons environment environments ih => exact ih (valid.override environment)

theorem toolName_overrides (settings : Settings) (environments : List Environment) :
    (settings.overrides environments).toolName = settings.toolName := by
  induction environments generalizing settings with
  | nil => rfl
  | cons environment environments ih => exact ih (settings.override environment)

end Checked

/-! ## Settings of the environment alone -/

/-- The environment names an empty directory for temporary files, and no other one instead. -/
def Unplaced (environment : Environment) : Prop :=
  environment "TMPDIR" = some [] ∧
    (environment temporaryDirVariable = none ∨ environment temporaryDirVariable = some [])

theorem overridingDir_eq_none_iff {environment : Environment} :
    overridingDir environment = none ↔
      environment temporaryDirVariable = none ∨ environment temporaryDirVariable = some [] := by
  rw [overridingDir]
  cases environment temporaryDirVariable with
  | none => simp
  | some directory => by_cases empty : directory = [] <;> simp [Option.filter, empty]

theorem defaultTemporaryDir_eq_nil_iff {environment : Environment} :
    defaultTemporaryDir environment = [] ↔ environment "TMPDIR" = some [] := by
  have system : encode "/tmp" ≠ [] := by decide
  rw [defaultTemporaryDir]
  cases environment "TMPDIR" with
  | none => simp [system]
  | some directory => simp

theorem temporaryDir_ofEnvironment_eq_nil_iff {environment : Environment} :
    (ofEnvironment environment).temporaryDir = [] ↔ Unplaced environment := by
  rw [ofEnvironment, temporaryDir_override, Unplaced, ← defaultTemporaryDir_eq_nil_iff,
    ← overridingDir_eq_none_iff]
  cases brought : overridingDir environment with
  | none => simp [defaults]
  | some directory => simp [ne_nil_of_overridingDir brought]

/-- The name of settings of the environment alone is the usual one. -/
theorem named_ofEnvironment (environment : Environment) :
    isBlankText (ofEnvironment environment).toolName = false := by
  have usual : (ofEnvironment environment).toolName = defaultToolName := rfl
  rw [usual]
  decide

/-- **Settings that are made of the environment alone pass the check exactly if the environment does
not name an empty directory.** If it does, and overrides it with none, the settings are used all the
same, without a directory; the name always says something. These are the settings of a launcher that
is told of no document. -/
theorem ofEnvironment_valid_iff (environment : Environment) :
    let settings := ofEnvironment environment
    (settings.validate = .ok () ↔ ¬Unplaced environment) ∧
      (settings.validate = .error .emptyTemporaryDir ↔ Unplaced environment) ∧
      (settings.temporaryDir = [] ↔ Unplaced environment) ∧
      isBlankText settings.toolName = false ∧
      ∀ (host : FrontEnd.Host) (options : Options), host.environment = environment →
        options.config = none → host.settings options = .ok settings := by
  intro settings
  have placed : settings.temporaryDir = [] ↔ Unplaced environment :=
    temporaryDir_ofEnvironment_eq_nil_iff
  have named : isBlankText settings.toolName = false := named_ofEnvironment environment
  refine ⟨?_, ?_, placed, named, ?_⟩
  · rw [validate_eq_ok_iff, ← placed]
    exact ⟨Valid.placed, fun directory => ⟨named, directory⟩⟩
  · rw [validate_eq_emptyTemporaryDir_iff, and_iff_right named]
    exact placed
  · rintro host options rfl undocumented
    rw [FrontEnd.Host.settings, undocumented]
    rfl

/-- A launcher whose environment only names the directory for temporary files, or says that it has no
name. -/
def hostNaming (directory : Bytes) : FrontEnd.Host where
  launcher :=
    { storage := { tree := {} }
      descriptors := []
      environment := [(encode "TMPDIR", directory)]
      self := 1 }
  ownPath := encode "/bin/cc"

theorem ofEnvironment_valid_iff_placed :
    let options : Options := { command := [encode "cc"] }
    let host := hostNaming (encode "/scratch")
    options.config = none ∧ ¬Unplaced host.environment ∧
      (ofEnvironment host.environment).validate = .ok () ∧
      host.settings options = .ok (ofEnvironment host.environment) := by
  intro options host
  have undocumented : options.config = none := rfl
  have placed : ¬Unplaced host.environment := by
    rintro ⟨empty, -⟩
    revert empty
    decide
  obtain ⟨passes, -, -, -, made⟩ := ofEnvironment_valid_iff host.environment
  exact ⟨undocumented, placed, passes.2 placed, made host options rfl undocumented⟩

/-- A directory without a name is used if no document is read, and refused if one is, even if that
says nothing. -/
theorem empty_directory_unchecked :
    (hostNaming []).settings { command := [encode "cc"] } =
        .ok (ofEnvironment (hostNaming []).environment) ∧
      (ofEnvironment (hostNaming []).environment).temporaryDir = [] ∧
      (ofEnvironment (hostNaming []).environment).validate = .error .emptyTemporaryDir ∧
      load (hostNaming []).environment "" = .error .emptyTemporaryDir := by
  have refused : (defaults (hostNaming []).environment).validate = .error .emptyTemporaryDir :=
    validate_eq_emptyTemporaryDir_iff.2 ⟨by decide, by decide⟩
  have silent : (Yaml.document? "").bind said? = some {} := by decide +kernel
  refine ⟨rfl, by decide, refused, ?_⟩
  rw [load, silent]
  change (defaults (hostNaming []).environment).validate.map _ = _
  rw [refused]
  rfl

end Settings

end CompilerLauncher
