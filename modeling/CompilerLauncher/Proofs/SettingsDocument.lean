import CompilerLauncher.Proofs.FlatDocument
import CompilerLauncher.Proofs.SettingsValidity
import Mathlib.Data.List.Basic

/-!
# Settings from a flat document

A document of settings is read entry by entry, and each known key can be said once. What is said about
one key depends on the values of this key alone (`foldlM_say_iff`), and not on their order, since
there is one of them at most. So the settings of a flat document do not depend on the order of its
entries, nor on entries with other keys, and it is accepted exactly if no known key is repeated, every
value has its type, and what is made of them passes the check (`load_of_isFlat`).
-/

namespace CompilerLauncher

namespace Settings

open Utf8 (encode)
open Yaml (Assignment Scalar IsFlat)

/-! ## Fields -/

/-- What a document of settings may say something about. -/
inductive Field
  | path
  | temporaryDir
  | detectShebang
  | toolName
  deriving DecidableEq, Repr

namespace Field

/-- The key of a field. -/
def key : Field → String
  | path => "path"
  | temporaryDir => "temporary_dir"
  | detectShebang => "detect_shebang"
  | toolName => "tool_name"

/-- The field that a key names. -/
def ofKey? : String → Option Field
  | "path" => some path
  | "temporary_dir" => some temporaryDir
  | "detect_shebang" => some detectShebang
  | "tool_name" => some toolName
  | _ => none

/-- What can be said about a field. -/
abbrev Content : Field → Type
  | path => Option String
  | temporaryDir | toolName => String
  | detectShebang => Bool

/-- What a value says about a field, if it has the right type. -/
def read : (field : Field) → Scalar → Option field.Content
  | path, value => Yaml.optionalText? value
  | temporaryDir, value | toolName, value => some value.text
  | detectShebang, value => Yaml.truthOf? value

/-- The value has the type of the field: a truth value is one of six plain words, and every scalar is
a text. -/
def Accepts : Field → Scalar → Prop
  | detectShebang, value => value.style = .plain ∧
    value.text ∈ ["true", "True", "TRUE", "false", "False", "FALSE"]
  | path, _ | temporaryDir, _ | toolName, _ => True

instance : (field : Field) → (value : Scalar) → Decidable (field.Accepts value)
  | detectShebang, _ => inferInstanceAs (Decidable (_ ∧ _))
  | path, _ | temporaryDir, _ | toolName, _ => instDecidableTrue

theorem ofKey?_eq_some_iff {name : String} {field : Field} :
    ofKey? name = some field ↔ name = field.key := by
  constructor
  · intro named
    unfold ofKey? at named
    split at named <;> cases named <;> rfl
  · rintro rfl
    cases field <;> rfl

theorem isSome_truth?_iff {text : String} : (Yaml.truth? text).isSome = true ↔
    text ∈ ["true", "True", "TRUE", "false", "False", "FALSE"] := by
  unfold Yaml.truth?
  split
  · rename_i affirmed
    have listed : text ∈ ["true", "True", "TRUE"] := by simpa using affirmed
    simpa using List.mem_append_left ["false", "False", "FALSE"] listed
  · rename_i unaffirmed
    split
    · rename_i denied
      have listed : text ∈ ["false", "False", "FALSE"] := by simpa using denied
      simpa using List.mem_append_right ["true", "True", "TRUE"] listed
    · rename_i undenied
      simp_all

theorem isSome_optionalText? {value : Scalar} (untagged : value.tag = none) :
    (Yaml.optionalText? value).isSome = true := by
  rw [Yaml.optionalText?, untagged]
  split
  · rfl
  · dsimp only
    split <;> rfl

theorem isSome_read_iff {value : Scalar} (simple : value.IsSimple) (field : Field) :
    (field.read value).isSome = true ↔ field.Accepts value := by
  cases field with
  | path => exact iff_of_true (isSome_optionalText? simple.untagged) trivial
  | temporaryDir | toolName => exact iff_of_true rfl trivial
  | detectShebang =>
    rcases simple.inline with plain | quoted | quoted
    · rw [read, Yaml.truthOf?, plain, Accepts, isSome_truth?_iff, and_iff_right plain]
    · simp [read, Yaml.truthOf?, quoted, Accepts]
    · simp [read, Yaml.truthOf?, quoted, Accepts]

end Field

namespace Said

/-- What has been said about a field. -/
def get (said : Said) : (field : Field) → Option field.Content
  | .path => said.path
  | .temporaryDir => said.temporaryDir
  | .detectShebang => said.detectShebang
  | .toolName => said.toolName

/-- What has been said, with something else about one field. -/
def put (said : Said) : (field : Field) → Option field.Content → Said
  | .path, path => { said with path }
  | .temporaryDir, temporaryDir => { said with temporaryDir }
  | .detectShebang, detectShebang => { said with detectShebang }
  | .toolName, toolName => { said with toolName }

/-- What is said about each field. -/
def ofGet (content : (field : Field) → Option field.Content) : Said where
  path := content .path
  temporaryDir := content .temporaryDir
  detectShebang := content .detectShebang
  toolName := content .toolName

theorem get_ofGet (content : (field : Field) → Option field.Content) (field : Field) :
    (ofGet content).get field = content field := by
  cases field <;> rfl

theorem eq_of_get {first second : Said} (same : ∀ field, first.get field = second.get field) :
    first = second := by
  have path := same .path
  have temporaryDir := same .temporaryDir
  have detectShebang := same .detectShebang
  have toolName := same .toolName
  cases first
  cases second
  simp_all [get]

theorem get_put_self (said : Said) (field : Field) (content : Option field.Content) :
    (said.put field content).get field = content := by
  cases field <;> rfl

theorem get_put_of_ne (said : Said) {field other : Field} (differ : other ≠ field)
    (content : Option field.Content) : (said.put field content).get other = said.get other := by
  cases field <;> cases other <;> first | rfl | exact absurd rfl differ

end Said

/-! ## Entries -/

section Entries

variable {document : Yaml.Document} {said final : Said} {entry : Assignment}
  {entries : List Assignment} {field : Field}

/-- An entry says something about the field that its key names, and about none if it names none. -/
theorem say_pair (document : Yaml.Document) (said : Said) (entry : Assignment) :
    say document said entry.pair =
      match Field.ofKey? entry.1.text with
      | some field =>
        (sayOnce (said.get field) (field.read entry.2)).map fun content => said.put field content
      | none => some said := by
  rw [say]
  simp only [Assignment.pair, Yaml.Document.scalar?, Option.bind_eq_bind, Option.bind_some]
  cases named : Field.ofKey? entry.1.text with
  | some field =>
    rw [Field.ofKey?_eq_some_iff.1 named]
    simp only [Option.map_eq_bind]
    cases field <;> rfl
  | none =>
    have unknown (field : Field) : entry.1.text ≠ field.key := by
      intro same
      rw [Field.ofKey?_eq_some_iff.2 same] at named
      cases named
    split
    · exact absurd ‹_› (unknown .path)
    · exact absurd ‹_› (unknown .temporaryDir)
    · exact absurd ‹_› (unknown .detectShebang)
    · exact absurd ‹_› (unknown .toolName)
    · rfl

/-- The values that are given to a field, in order. -/
def given (field : Field) (entries : List Assignment) : List Scalar :=
  (entries.filter (·.1.text = field.key)).map Prod.snd

theorem given_cons (field : Field) (entry : Assignment) (entries : List Assignment) :
    given field (entry :: entries) =
      if Field.ofKey? entry.1.text = some field then entry.2 :: given field entries
      else given field entries := by
  rw [given, List.filter_cons]
  simp only [Field.ofKey?_eq_some_iff, decide_eq_true_eq]
  split <;> rfl

/-- What values say about a field of which something may have been said. -/
def tell (field : Field) (values : List Scalar) (said : Option field.Content) :
    Option (Option field.Content) :=
  values.foldlM (fun said value => sayOnce said (field.read value)) said

/-- A value of another field does not count. -/
theorem given_cons_of_ne {other : Field} (named : Field.ofKey? entry.1.text = some field)
    (differ : other ≠ field) : given other (entry :: entries) = given other entries := by
  rw [given_cons, named, if_neg fun same => differ (Option.some.inj same).symm]

theorem tell_given_cons (named : Field.ofKey? entry.1.text = some field)
    (entries : List Assignment) (said : Option field.Content) :
    tell field (given field (entry :: entries)) said =
      (sayOnce said (field.read entry.2)).bind (tell field (given field entries)) := by
  rw [given_cons, if_pos named]
  rfl

/-- **What is said about a field depends on the values of this field alone.** -/
theorem foldlM_say_iff : (entries.map Assignment.pair).foldlM (say document) said = some final ↔
    ∀ field, tell field (given field entries) (said.get field) = some (final.get field) := by
  induction entries generalizing said with
  | nil =>
    constructor
    · rintro ⟨⟩ field
      rfl
    · intro same
      exact congrArg some (Said.eq_of_get fun field => Option.some.inj (same field))
  | cons entry entries ih =>
    rw [List.map_cons, List.foldlM_cons, say_pair]
    cases named : Field.ofKey? entry.1.text with
    | none =>
      simp only [given_cons, named, reduceCtorEq, if_false]
      exact ih
    | some field =>
      have told := tell_given_cons named entries (said.get field)
      dsimp only
      cases taken : sayOnce (said.get field) (field.read entry.2) with
      | none =>
        rw [taken] at told
        refine ⟨nofun, fun all => ?_⟩
        have own := all field
        rw [told] at own
        cases own
      | some content =>
        rw [taken] at told
        refine ih.trans (forall_congr' fun other => ?_)
        by_cases same : other = field
        · subst same
          rw [Said.get_put_self, told, Option.bind_some]
        · rw [Said.get_put_of_ne said same, given_cons_of_ne named same]

/-- The values of one field say something together if there is one of them at most and that has the
right type. -/
theorem tell_eq_some_iff {values : List Scalar} {content : Option field.Content} :
    tell field values none = some content ↔ values.length ≤ 1 ∧
      (∀ value ∈ values, (field.read value).isSome = true) ∧
      content = values.head?.bind field.read := by
  match values with
  | [] =>
    rw [eq_comm (a := content)]
    simp [tell]
  | [value] =>
    rw [eq_comm (a := content)]
    cases taken : field.read value <;> simp [tell, sayOnce, taken]
  | first :: second :: rest => cases taken : field.read first <;> simp [tell, sayOnce, taken]

/-- The order of a field's values makes no difference. -/
theorem tell_perm {values others : List Scalar} (perm : values.Perm others) :
    tell field values none = tell field others none := by
  refine Option.ext fun content => ?_
  rw [tell_eq_some_iff, tell_eq_some_iff, ← perm.length_eq]
  by_cases few : values.length ≤ 1
  · have same : values = others := by
      match values with
      | [] => exact perm.nil_eq
      | [value] => exact List.singleton_perm.1 perm
      | first :: second :: rest => simp at few
    rw [same]
  · simp [few]

/-- The entries with known keys, however these are written. -/
def known (entries : List Assignment) : List (String × Scalar) :=
  (entries.filter fun entry => (Field.ofKey? entry.1.text).isSome).map fun entry =>
    (entry.1.text, entry.2)

/-- Entries with other keys give no value. -/
theorem given_eq_known (field : Field) (entries : List Assignment) :
    given field entries = ((known entries).filter (·.1 = field.key)).map Prod.snd := by
  rw [given, known, List.filter_map, List.map_map, List.filter_filter]
  refine congrArg _ (List.filter_congr fun entry _ => ?_)
  by_cases named : entry.1.text = field.key
  · simp [named, Field.ofKey?_eq_some_iff.2 rfl]
  · simp [named]

end Entries

/-! ## Flat documents -/

section Documents

variable {environment : Environment} {text other : String} {entries others : List Assignment}
  {settings : Settings}

/-- What the entries say, where no field is said twice. -/
def saidBy (entries : List Assignment) : Said :=
  .ofGet fun field => (given field entries).head?.bind field.read

theorem get_saidBy (field : Field) (entries : List Assignment) :
    (saidBy entries).get field = (given field entries).head?.bind field.read :=
  Said.get_ofGet _ field

theorem said?_of_isFlat (flat : IsFlat text entries) {said : Said} :
    (Yaml.document? text).bind said? = some said ↔
      ∀ field, tell field (given field entries) none = some (said.get field) := by
  have silent (field : Field) : ({} : Said).get field = none := by
    cases field <;> rfl
  rw [Yaml.document?_of_isFlat flat, Option.bind_some, said?]
  simp only [foldlM_say_iff, silent]

/-- A document of settings gives what it says, with the defaults, if that passes the check. -/
theorem load_eq_ok_iff : load environment text = .ok settings ↔
    ∃ said, (Yaml.document? text).bind said? = some said ∧ (ofSaid environment said).Valid ∧
      ofSaid environment said = settings := by
  rw [load]
  cases (Yaml.document? text).bind said? with
  | none => simp
  | some said =>
    have checked : (ofSaid environment said).validate = .ok () ↔ (ofSaid environment said).Valid :=
      validate_eq_ok_iff
    simp only [Option.some.injEq, exists_eq_left']
    cases passes : (ofSaid environment said).validate with
    | ok =>
      rw [passes] at checked
      simp [Except.map, checked.1 rfl]
    | error error =>
      rw [passes] at checked
      simp [Except.map, ← checked]

/-- The entries make settings: no known key is repeated, every value has the type of its field, the
name, given or not, is not blank, and the directory, given or not, is not empty. -/
structure Acceptable (environment : Environment) (entries : List Assignment) : Prop where
  once : ∀ field, (given field entries).length ≤ 1
  typed : ∀ field, ∀ value ∈ given field entries, field.Accepts value
  named : isBlankText (((given .toolName entries).head?.map (·.text)).getD defaultToolName) = false
  placed : ((given .temporaryDir entries).head?.map (encode ·.text)).getD
    (defaultTemporaryDir environment) ≠ []

theorem toolName_saidBy (environment : Environment) (entries : List Assignment) :
    (ofSaid environment (saidBy entries)).toolName =
      ((given .toolName entries).head?.map (·.text)).getD defaultToolName := by
  change ((given .toolName entries).head?.bind (Field.read .toolName)).getD _ = _
  cases (given .toolName entries).head? <;> rfl

theorem temporaryDir_saidBy (environment : Environment) (entries : List Assignment) :
    (ofSaid environment (saidBy entries)).temporaryDir =
      ((given .temporaryDir entries).head?.map (encode ·.text)).getD
        (defaultTemporaryDir environment) := by
  rw [ofSaid]
  change (match (given .temporaryDir entries).head?.bind (Field.read .temporaryDir) with
    | some directory => encode directory
    | none => defaultTemporaryDir environment) = _
  cases (given .temporaryDir entries).head? <;> rfl

theorem isSimple_of_mem_given (flat : IsFlat text entries) {field : Field} {value : Scalar}
    (member : value ∈ given field entries) : value.IsSimple := by
  obtain ⟨entry, listed, rfl⟩ := List.mem_map.1 member
  exact (flat.simple entry (List.mem_of_mem_filter listed)).2

/-- A flat document is read as what its entries say, if no known key is repeated and every value has
its type. -/
theorem said?_eq_some_iff (flat : IsFlat text entries) {said : Said} :
    (Yaml.document? text).bind said? = some said ↔
      (∀ field, (given field entries).length ≤ 1) ∧
        (∀ field, ∀ value ∈ given field entries, field.Accepts value) ∧ said = saidBy entries := by
  have typed (field : Field) : (∀ value ∈ given field entries, (field.read value).isSome = true) ↔
      ∀ value ∈ given field entries, field.Accepts value :=
    forall₂_congr fun value member =>
      Field.isSome_read_iff (isSimple_of_mem_given flat member) field
  have same : said = saidBy entries ↔
      ∀ field, said.get field = (given field entries).head?.bind field.read := by
    constructor
    · rintro rfl field
      exact get_saidBy field entries
    · exact fun fields => Said.eq_of_get fun field =>
        (fields field).trans (get_saidBy field entries).symm
  rw [said?_of_isFlat flat, same]
  simp only [tell_eq_some_iff, typed, forall_and]

theorem load_of_isFlat_eq_ok_iff (flat : IsFlat text entries) :
    load environment text = .ok settings ↔
      Acceptable environment entries ∧ settings = ofSaid environment (saidBy entries) := by
  rw [load_eq_ok_iff]
  simp only [said?_eq_some_iff flat]
  constructor
  · rintro ⟨_, ⟨once, typed, rfl⟩, ⟨named, placed⟩, rfl⟩
    rw [toolName_saidBy] at named
    rw [temporaryDir_saidBy] at placed
    exact ⟨⟨once, typed, named, placed⟩, rfl⟩
  · rintro ⟨⟨once, typed, named, placed⟩, rfl⟩
    rw [← toolName_saidBy environment entries] at named
    rw [← temporaryDir_saidBy] at placed
    exact ⟨_, ⟨once, typed, rfl⟩, ⟨named, placed⟩, rfl⟩

/-- The order of the entries and entries with other keys make no difference. -/
theorem load_of_perm (environment : Environment) (flat : IsFlat text entries)
    (flat' : IsFlat other others)
    (perm : (known others).Perm (known entries)) :
    load environment other = load environment text := by
  have values (field : Field) : (given field others).Perm (given field entries) := by
    rw [given_eq_known field others, given_eq_known field entries]
    exact (perm.filter _).map _
  have said : (Yaml.document? other).bind said? = (Yaml.document? text).bind said? := by
    refine Option.ext fun said => ?_
    rw [said?_of_isFlat flat', said?_of_isFlat flat]
    exact forall_congr' fun field => by rw [tell_perm (values field)]
  rw [load, load, said]

/-- **The settings of a flat document are valid and do not depend on the order of its entries.** It is
accepted exactly if no known key is repeated, every value has the type of its field, the name is not
blank and the directory not empty. Its entries can be put into another order, and entries with other
keys added or left out, and the same comes of it. What comes of it is what the entries say, with the
defaults, and it stays valid and keeps its name under all overrides. -/
theorem load_of_isFlat (environment : Environment) (flat : IsFlat text entries) :
    ((∃ settings, load environment text = .ok settings) ↔ Acceptable environment entries) ∧
      (∀ other others, IsFlat other others → (known others).Perm (known entries) →
        load environment other = load environment text) ∧
      ∀ settings, load environment text = .ok settings →
        settings = ofSaid environment (saidBy entries) ∧
          ∀ environments, (settings.overrides environments).validate = .ok () ∧
            (settings.overrides environments).toolName = settings.toolName := by
  refine ⟨?_, fun other others flat' perm => load_of_perm environment flat flat' perm, ?_⟩
  · simp only [load_of_isFlat_eq_ok_iff flat, exists_and_left, exists_eq, and_true]
  · intro settings loaded
    obtain ⟨said, -, valid, made⟩ := load_eq_ok_iff.1 loaded
    rw [made] at valid
    refine ⟨((load_of_isFlat_eq_ok_iff flat).1 loaded).2, fun environments => ⟨?_, ?_⟩⟩
    · exact validate_eq_ok_iff.2 (valid.overrides environments)
    · exact toolName_overrides settings environments

end Documents

/-- A document with a comment and a key that is not known. -/
def listed : String := "# build host\npath: \"/opt/bin\"\nowner: ~\n'detect_shebang': TRUE\n"

/-- The entries of this document. -/
def listedEntries : List Assignment :=
  [({ text := "path" }, { style := .doubleQuoted, text := "/opt/bin" }),
    ({ text := "owner" }, { text := "~" }),
    ({ style := .singleQuoted, text := "detect_shebang" }, { text := "TRUE" })]

/-- A document with the same known entries in another order, and written in another way. -/
def relisted : String := "? \"detect_shebang\"\n: TRUE\npath:\n  \"/opt/bin\""

/-- The entries of this document. -/
def relistedEntries : List Assignment :=
  [({ style := .doubleQuoted, text := "detect_shebang" }, { text := "TRUE" }),
    ({ text := "path" }, { style := .doubleQuoted, text := "/opt/bin" })]

theorem isFlat_listed : IsFlat listed listedEntries :=
  ⟨by decide +kernel, by decide⟩

theorem isFlat_relisted : IsFlat relisted relistedEntries :=
  ⟨by decide +kernel, by decide⟩

theorem load_of_isFlat_relisted :
    let environment : Environment := fun _ => none
    IsFlat listed listedEntries ∧ IsFlat relisted relistedEntries ∧
      (known relistedEntries).Perm (known listedEntries) ∧
      Acceptable environment listedEntries ∧
      ∃ settings, load environment listed = .ok settings ∧
        load environment relisted = .ok settings ∧ settings.path = some "/opt/bin" ∧
        (settings.overrides [(hostNaming []).environment, environment]).validate = .ok () := by
  intro environment
  have perm : (known relistedEntries).Perm (known listedEntries) := by decide
  have acceptable : Acceptable environment listedEntries :=
    ⟨fun field => by cases field <;> decide, fun field => by cases field <;> decide, by decide,
      by decide⟩
  obtain ⟨accepted, alike, made⟩ := load_of_isFlat environment isFlat_listed
  obtain ⟨settings, loaded⟩ := accepted.2 acceptable
  obtain ⟨same, kept⟩ := made settings loaded
  refine ⟨isFlat_listed, isFlat_relisted, perm, acceptable, settings, loaded, ?_, ?_, ?_⟩
  · rw [alike relisted relistedEntries isFlat_relisted perm, loaded]
  · rw [same]
    decide
  · exact (kept _).1

end Settings

end CompilerLauncher
