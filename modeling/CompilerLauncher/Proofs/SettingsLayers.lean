import CompilerLauncher.Proofs.SettingsValidity
import CompilerLauncher.Proofs.Utf8Pieces

/-!
# Layers of settings

The search list has three sources: the override, what was configured, and the list that the
environment offers to all programs. An override hides what was configured even when it is empty, an
empty text is no list, and the environment's list counts only if it is a text. `InForce` says which
list that makes, and the settings under their overrides give that list and no other
(`searchList?_override_iff`).

Overrides only add to the other settings: they are idempotent, never turn a detection off, and change
the directory to a named one only (`override_layers`).
-/

namespace CompilerLauncher

namespace Settings

open Utf8 (encode lossy decode?)

variable {settings : Settings} {environment : Environment} {list : Option String}

/-! ## The list of all programs -/

/-- The search list that the environment offers to all programs: a text that is not empty, or none. -/
inductive Offers (environment : Environment) : Option String → Prop
  | text {list : String} (spelled : environment "PATH" = some (encode list)) (filled : list ≠ "") :
    Offers environment (some list)
  | nothing (unspelled : ∀ list, environment "PATH" = some (encode list) → list = "") :
    Offers environment none

/-- The offered list as it is read. -/
def offered? (environment : Environment) : Option String :=
  ((environment "PATH").bind decode?).filter (· != "")

theorem offered?_eq_some_iff {list : String} :
    offered? environment = some list ↔ environment "PATH" = some (encode list) ∧ list ≠ "" := by
  simp only [offered?, Option.filter_eq_some_iff, Option.bind_eq_some_iff, Utf8.decode?_eq_some_iff,
    bne_iff_ne]
  constructor
  · rintro ⟨⟨bytes, found, rfl⟩, filled⟩
    exact ⟨found, filled⟩
  · rintro ⟨found, filled⟩
    exact ⟨⟨_, found, rfl⟩, filled⟩

theorem offered?_eq_iff : offered? environment = list ↔ Offers environment list := by
  cases list with
  | some list =>
    rw [offered?_eq_some_iff]
    constructor
    · rintro ⟨spelled, filled⟩
      exact .text spelled filled
    · rintro ⟨spelled, filled⟩
      exact ⟨spelled, filled⟩
  | none =>
    rw [Option.eq_none_iff_forall_ne_some]
    simp only [ne_eq, offered?_eq_some_iff, not_and, not_not]
    constructor
    · exact .nothing
    · intro offers
      cases offers with
      | nothing unspelled => exact unspelled

/-! ## The list in force -/

/-- The search list of settings under the overrides of an environment. -/
inductive InForce (settings : Settings) (environment : Environment) : Option String → Prop
  | overridden {bytes : Bytes} (brought : environment pathVariable = some bytes)
    (filled : bytes ≠ []) : InForce settings environment (some (lossy bytes))
  | hidden {list : Option String} (emptied : environment pathVariable = some [])
    (offers : Offers environment list) : InForce settings environment list
  | configured {list : String} (absent : environment pathVariable = none)
    (own : settings.path = some list) (filled : list ≠ "") :
    InForce settings environment (some list)
  | unset {list : Option String} (absent : environment pathVariable = none)
    (nothing : settings.path = none ∨ settings.path = some "")
    (offers : Offers environment list) : InForce settings environment list

theorem searchList?_eq (settings : Settings) (environment : Environment) :
    settings.searchList? environment =
      (settings.path.filter (· != "")).or (offered? environment) := by
  rw [searchList?]
  cases settings.path.filter (· != "") <;> rfl

theorem path_override (settings : Settings) (environment : Environment) :
    (settings.override environment).path =
      ((environment pathVariable).map lossy).or settings.path := by
  rw [override]
  cases environment pathVariable <;> rfl

theorem searchList?_of_inForce (inForce : InForce settings environment list) :
    (settings.override environment).searchList? environment = list := by
  rw [searchList?_eq, path_override]
  cases inForce with
  | overridden brought filled =>
    have named : lossy _ ≠ "" := mt Utf8.lossy_eq_empty_iff.1 filled
    simp [brought, Option.filter, named]
  | hidden emptied offers =>
    rw [emptied, offered?_eq_iff.2 offers]
    rfl
  | configured absent own filled => simp [absent, own, Option.filter, filled]
  | unset absent nothing offers =>
    rw [absent, offered?_eq_iff.2 offers]
    rcases nothing with own | own <;> rw [own] <;> rfl

/-- One of the sources is in force. -/
theorem exists_inForce (settings : Settings) (environment : Environment) :
    ∃ list, InForce settings environment list := by
  have offers : Offers environment (offered? environment) := offered?_eq_iff.1 rfl
  cases brought : environment pathVariable with
  | some bytes =>
    by_cases empty : bytes = []
    · exact ⟨_, .hidden (empty ▸ brought) offers⟩
    · exact ⟨_, .overridden brought empty⟩
  | none =>
    cases own : settings.path with
    | none => exact ⟨_, .unset brought (.inl own) offers⟩
    | some list =>
      by_cases empty : list = ""
      · exact ⟨_, .unset brought (.inr (empty ▸ own)) offers⟩
      · exact ⟨_, .configured brought own empty⟩

theorem searchList?_override_iff :
    (settings.override environment).searchList? environment = list ↔
      InForce settings environment list := by
  constructor
  · rintro rfl
    obtain ⟨list, inForce⟩ := exists_inForce settings environment
    rwa [searchList?_of_inForce inForce]
  · exact searchList?_of_inForce

/-! ## Overrides -/

theorem eq_of_fields {first second : Settings} (path : first.path = second.path)
    (directory : first.temporaryDir = second.temporaryDir)
    (detection : first.detectShebang = second.detectShebang)
    (name : first.toolName = second.toolName) : first = second := by
  cases first
  cases second
  simp_all

theorem detectShebang_override (settings : Settings) (environment : Environment) :
    (settings.override environment).detectShebang =
      (settings.detectShebang || (environment detectShebangVariable).isSome) := rfl

/-- Overriding once more with the same environment changes nothing. -/
theorem override_override (settings : Settings) (environment : Environment) :
    (settings.override environment).override environment = settings.override environment := by
  refine eq_of_fields ?_ ?_ ?_ rfl
  · rw [path_override, path_override]
    cases environment pathVariable <;> rfl
  · rw [temporaryDir_override, temporaryDir_override]
    cases overridingDir environment <;> rfl
  · rw [detectShebang_override, detectShebang_override, Bool.or_assoc, Bool.or_self]

/-- **Settings under overrides are layered.** The search list is the one in force; the same overrides
once more change nothing; a detection that is on stays on; and the directory changes to a named one
only. -/
theorem override_layers (settings : Settings) (environment : Environment) :
    let final := settings.override environment
    (∀ list, final.searchList? environment = list ↔ InForce settings environment list) ∧
      final.override environment = final ∧
      (settings.detectShebang = true → final.detectShebang = true) ∧
      (final.temporaryDir ≠ settings.temporaryDir → final.temporaryDir ≠ []) := by
  intro final
  refine ⟨fun list => searchList?_override_iff, override_override settings environment, ?_, ?_⟩
  · intro detects
    rw [detectShebang_override, detects, Bool.true_or]
  · rw [temporaryDir_override]
    cases brought : overridingDir environment with
    | none => exact fun changed => absurd rfl changed
    | some directory => exact fun _ => ne_nil_of_overridingDir brought

/-- Settings with a search list of their own, under which marks are looked for. -/
def ownList : Settings where
  path := some "/opt/bin"
  temporaryDir := encode "/tmp"
  detectShebang := true
  toolName := defaultToolName

/-- An environment whose override of the search list is empty. -/
def emptying : Environment
  | "COMPCACHE_PATH" => some []
  | "COMPCACHE_TEMPDIR" => some (encode "/scratch")
  | "PATH" => some (encode "/usr/bin")
  | _ => none

/-- The empty override hides the configured list, and the one of all programs is searched. -/
theorem override_layers_hidden :
    let final := ownList.override emptying
    ownList.detectShebang = true ∧ final.temporaryDir ≠ ownList.temporaryDir ∧
      final.searchList? emptying = some "/usr/bin" ∧ final.override emptying = final ∧
      final.detectShebang = true ∧ final.temporaryDir ≠ [] := by
  intro final
  have changed : final.temporaryDir ≠ ownList.temporaryDir := by decide
  have inForce : InForce ownList emptying (some "/usr/bin") :=
    .hidden rfl (.text rfl (by decide))
  obtain ⟨searched, idempotent, kept, placed⟩ := override_layers ownList emptying
  exact ⟨rfl, changed, (searched _).2 inForce, idempotent, kept rfl, placed changed⟩

end Settings

end CompilerLauncher
