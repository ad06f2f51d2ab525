import CompilerLauncher.Proofs.Forwarding

/-!
# Which options go together

Each of the front end's own options says one thing (`Setting`), and one with a value can be written in
two ways (`Written`). The reader takes settings in, one after the other, and refuses one of a kind
that it has already (`take_flatMap_tokens`, `give_eq`). Settings of different kinds can be taken in
either order, so a whole list of them can be reordered (`foldlM_give_perm`), and each of them is kept
(`field_of_foldlM`). So a command line is accepted exactly if its settings are `Compatible`, and what
is read of it depends neither on the order of its options nor on how they are written
(`read_written_iff`).
-/

namespace CompilerLauncher

namespace Options

/-! ## Settings and how they are written -/

/-- An option of the front end's own, without its value. -/
inductive Kind
  | debug
  | replace
  | valued (option : Valued)
  deriving DecidableEq, Repr

/-- What one of the front end's own options says. -/
inductive Setting
  | debug
  | replace
  | value (option : Valued) (value : Bytes) (filled : value ≠ [])
  deriving DecidableEq

/-- The option that a setting is about. -/
def Setting.kind : Setting → Kind
  | debug => .debug
  | replace => .replace
  | value option _ _ => .valued option

/-- A setting as it is written: as one token, or with its value as a token of its own, which must not
look like an option. -/
inductive Written
  | together (setting : Setting)
  | apart (option : Valued) (value : Bytes) (filled : value ≠ [])
    (plain : value.head? ≠ some dash)

/-- What is written. -/
def Written.setting : Written → Setting
  | together setting => setting
  | apart option value filled _ => .value option value filled

/-- The token of an option that takes a value. -/
def Valued.token : Valued → Bytes
  | config => Utf8.encode "--config"
  | output => Utf8.encode "--stdout"
  | errors => Utf8.encode "--stderr"

/-- The tokens of a setting. -/
def Written.tokens : Written → List Bytes
  | together .debug => [Utf8.encode "--debug"]
  | together .replace => [Utf8.encode "--exec"]
  | together (.value option value _) => [option.token ++ equals :: value]
  | apart option value _ _ => [option.token, value]

theorem classify_debug : classify (Utf8.encode "--debug") = .flag .debug none := by
  decide

theorem classify_replace : classify (Utf8.encode "--exec") = .flag .replace none := by
  decide

theorem classify_token (option : Valued) : classify option.token = .valued option none := by
  cases option <;> decide

theorem classify_together (option : Valued) (value : Bytes) :
    classify (option.token ++ equals :: value) = .valued option (some value) := by
  cases option <;> rfl

/-! ## One setting -/

/-- What a setting says about its option; that a flag is set is all that it says. -/
def Setting.content : Setting → Bytes
  | .debug | .replace => []
  | .value _ content _ => content

theorem Setting.eq_of_content {first second : Setting} (kind : first.kind = second.kind)
    (content : first.content = second.content) : first = second := by
  cases first <;> cases second <;> simp_all [Setting.kind, Setting.content]

/-- What the options say about one of them. -/
def field (options : Options) : Kind → Option Bytes
  | .debug => if options.debug then some [] else none
  | .replace => if options.replace then some [] else none
  | .valued option => options.value? option

/-- Takes a setting in. -/
def give (options : Options) : Setting → Except UsageError Options
  | .debug => options.raise .debug
  | .replace => options.raise .replace
  | .value option value _ => options.store option value

/-- The options with a setting, whatever they have said about it. -/
def put (options : Options) : Setting → Options
  | .debug => { options with debug := true }
  | .replace => { options with replace := true }
  | .value option value _ => options.withValue value option

section Settings

variable {options final : Options} {setting other : Setting} {settings others : List Setting}
  {kind : Kind} {content : Bytes}

/-- A setting is refused exactly if the options say something about its option. -/
theorem give_eq (options : Options) (setting : Setting) :
    options.give setting =
      if (options.field setting.kind).isSome then .error .conflict
      else .ok (options.put setting) := by
  cases setting with
  | debug => cases raised : options.debug <;> simp [give, raise, field, Setting.kind, put, raised]
  | replace =>
    cases raised : options.replace <;> simp [give, raise, field, Setting.kind, put, raised]
  | value option value filled =>
    rw [give, store, if_neg filled]
    rfl

/-- A setting changes what the options say about its option, and nothing else. -/
theorem field_put : (options.put setting).field kind =
    if kind = setting.kind then some setting.content else options.field kind := by
  cases setting with
  | debug | replace => cases kind <;> rfl
  | value option =>
    cases kind with
    | debug | replace => cases option <;> rfl
    | valued other => cases option <;> cases other <;> rfl

theorem command_put : (options.put setting).command = options.command := by
  cases setting with
  | debug | replace => rfl
  | value option => cases option <;> rfl

theorem eq_of_field {first second : Options} (command : first.command = second.command)
    (same : ∀ kind, first.field kind = second.field kind) : first = second := by
  have config := same (.valued .config)
  have output := same (.valued .output)
  have errors := same (.valued .errors)
  have debug := same .debug
  have replace := same .replace
  cases first with
  | mk config' output' errors' debug' replace' command' =>
    cases second
    simp only [field, value?] at *
    cases debug' <;> cases replace' <;> simp_all

/-- Settings about different options do not overwrite one another. -/
theorem put_comm (differ : setting.kind ≠ other.kind) :
    (options.put setting).put other = (options.put other).put setting := by
  refine eq_of_field (by simp only [command_put]) fun kind => ?_
  simp only [field_put]
  by_cases same : kind = setting.kind
  · rw [if_pos same, if_pos same, if_neg fun also => differ (same.symm.trans also)]
  · rw [if_neg same, if_neg same]

/-- Of two settings one is refused exactly if the options say something about one of their options
already, or both are about one. -/
theorem give_give (options : Options) (setting other : Setting) :
    (options.give setting >>= fun given => given.give other) =
      if (options.field setting.kind).isSome ∨ (options.field other.kind).isSome ∨
        other.kind = setting.kind
      then .error .conflict
      else .ok ((options.put setting).put other) := by
  rw [give_eq]
  by_cases had : (options.field setting.kind).isSome
  · rw [if_pos had, if_pos (.inl had)]
    rfl
  · rw [if_neg had]
    change (options.put setting).give other = _
    rw [give_eq, field_put]
    by_cases same : other.kind = setting.kind
    · simp [same]
    · simp [same, had]

/-- Two settings can be taken in in either order. -/
theorem give_comm (options : Options) (setting other : Setting) :
    (options.give setting >>= fun given => given.give other) =
      (options.give other >>= fun given => given.give setting) := by
  rw [give_give, give_give]
  by_cases same : setting.kind = other.kind
  · rw [if_pos (.inr (.inr same.symm)), if_pos (.inr (.inr same))]
  · rw [put_comm same]
    refine if_congr ?_ rfl rfl
    rw [or_left_comm, eq_comm (a := other.kind)]

/-! ## All settings -/

theorem foldlM_give_cons : (setting :: settings).foldlM give options = .ok final ↔
    options.field setting.kind = none ∧ settings.foldlM give (options.put setting) = .ok final := by
  rw [List.foldlM_cons, give_eq]
  cases options.field setting.kind with
  | some content => exact ⟨nofun, nofun⟩
  | none => exact ⟨fun taken => ⟨rfl, taken⟩, fun taken => taken.2⟩

/-- Settings are taken in exactly if they are about different options, of which the options have said
nothing. -/
theorem exists_foldlM_give_iff : (∃ final, settings.foldlM give options = .ok final) ↔
    (∀ setting ∈ settings, options.field setting.kind = none) ∧
      (settings.map Setting.kind).Nodup := by
  induction settings generalizing options with
  | nil => exact ⟨fun _ => ⟨nofun, List.nodup_nil⟩, fun _ => ⟨options, rfl⟩⟩
  | cons setting settings ih =>
    have later (one : Setting) : (options.put setting).field one.kind = none ↔
        options.field one.kind = none ∧ one.kind ≠ setting.kind := by
      rw [field_put]
      split <;> simp_all
    simp only [foldlM_give_cons, exists_and_left, ih, later, List.forall_mem_cons, List.map_cons,
      List.nodup_cons, List.mem_map, not_exists, not_and, forall_and]
    tauto

/-- The options say what they have said, and what the settings say that were taken in. -/
theorem field_of_foldlM (taken : settings.foldlM give options = .ok final) :
    final.field kind = some content ↔ options.field kind = some content ∨
      ∃ setting ∈ settings, setting.kind = kind ∧ setting.content = content := by
  induction settings generalizing options with
  | nil =>
    cases taken
    simp
  | cons setting settings ih =>
    obtain ⟨fresh, taken⟩ := foldlM_give_cons.1 taken
    simp only [ih taken, field_put, List.mem_cons, or_and_right, exists_or, exists_eq_left]
    by_cases same : kind = setting.kind
    · subst same
      simp [fresh]
    · simp [same, Ne.symm same]

/-- Settings can be taken in in any order. -/
theorem foldlM_give_perm (perm : settings.Perm others) (options : Options) :
    settings.foldlM give options = others.foldlM give options := by
  induction perm generalizing options with
  | nil => rfl
  | cons setting _ ih => simp only [List.foldlM_cons, ih]
  | swap setting other settings =>
    simp only [List.foldlM_cons, ← bind_assoc, give_comm options setting other]
  | trans _ _ ih ih' => rw [ih, ih']

end Settings

/-! ## A whole command line -/

/-- A setting that is written as one token is taken in when the reader has settled what is pending. -/
theorem take_together (reading : Reading) (setting : Setting) (rest : List Bytes) :
    reading.take ((Written.together setting).tokens ++ rest) =
      (reading.settle.bind fun options => options.give setting).bind
        fun options => Reading.take { options } rest := by
  cases setting with
  | debug => exact Reading.take_flag classify_debug rest
  | replace => exact Reading.take_flag classify_replace rest
  | value option value _ => exact Reading.take_attached (classify_together option value) rest

/-- The reader makes of options that are written what it makes of their settings. -/
theorem take_flatMap_tokens {name : Bytes} (plain : classify name = .other) (rest : List Bytes)
    (written : List Written) {reading : Reading} (idle : reading.awaits = none) :
    reading.take (written.flatMap Written.tokens ++ name :: rest) =
      (reading.settle.bind fun options => (written.map Written.setting).foldlM give options).map
        fun options => { options with command := name :: rest } := by
  induction written generalizing reading with
  | nil =>
    rw [List.flatMap_nil, List.nil_append, Reading.take_other plain idle, Reading.finish]
    cases reading.settle <;> rfl
  | cons first written ih =>
    rw [List.flatMap_cons, List.append_assoc]
    cases first with
    | together setting =>
      rw [take_together]
      cases reading.settle with
      | error error => rfl
      | ok options =>
        rw [List.map_cons]
        dsimp only [Except.bind, Written.setting]
        rw [List.foldlM_cons]
        cases options.give setting with
        | error error => rfl
        | ok options => exact ih rfl
    | apart option value filled plainValue =>
      refine (Reading.take_pending (classify_token option) _).trans ?_
      cases reading.settle with
      | error error => rfl
      | ok options =>
        -- The value waits until the next token, and is stored when that has been looked at.
        refine (Reading.take_value (classify_of_head? plainValue) rfl _).trans ?_
        exact ih rfl

/-- A command line with written options is read by taking in their settings and looking at what they
say together. -/
theorem read_written {name : Bytes} (plain : classify name = .other) (rest : List Bytes)
    (written : List Written) :
    read (written.flatMap Written.tokens ++ name :: rest) =
      ((written.map Written.setting).foldlM give {}).bind
        fun options => check { options with command := name :: rest } := by
  rw [read, take_flatMap_tokens plain rest written rfl]
  change (Except.map _ ((written.map Written.setting).foldlM give {})).bind check = _
  cases (written.map Written.setting).foldlM give {} <;> rfl

/-- The options go together: none is given twice, both files are named or neither is, and the image is
not replaced while output goes to files. -/
structure Compatible (settings : List Setting) : Prop where
  once : (settings.map Setting.kind).Nodup
  paired : .valued .output ∈ settings.map Setting.kind ↔
    .valued .errors ∈ settings.map Setting.kind
  exclusive : .replace ∈ settings.map Setting.kind →
    .valued .output ∉ settings.map Setting.kind ∧ .valued .errors ∉ settings.map Setting.kind

/-- Options that name a command are right together exactly if both files are named or neither is, and
the image is not replaced while output goes to files. -/
theorem exists_check_iff (options : Options) (name : Bytes) (rest : List Bytes) :
    (∃ checked, check { options with command := name :: rest } = .ok checked) ↔
      ((options.field (.valued .output)).isSome ↔ (options.field (.valued .errors)).isSome) ∧
        ((options.field .replace).isSome →
          ¬(options.field (.valued .output)).isSome ∧
            ¬(options.field (.valued .errors)).isSome) := by
  simp only [field, value?, check]
  cases options.replace <;> cases options.output <;> cases options.errors <;> simp

theorem field_bare (kind : Kind) : field {} kind = none := by
  cases kind with
  | debug | replace => rfl
  | valued option => cases option <;> rfl

/-- Where settings have been taken in alone, the options say something about the settings' options. -/
theorem isSome_field_iff {settings : List Setting} {options : Options}
    (taken : settings.foldlM give {} = .ok options) (kind : Kind) :
    (options.field kind).isSome ↔ kind ∈ settings.map Setting.kind := by
  rw [Option.isSome_iff_exists]
  simp only [field_of_foldlM taken, field_bare, reduceCtorEq, false_or, List.mem_map]
  exact ⟨fun ⟨_, setting, member, same, _⟩ => ⟨setting, member, same⟩,
    fun ⟨setting, member, same⟩ => ⟨_, setting, member, same, rfl⟩⟩

/-- Settings are accepted exactly if they go together. -/
theorem accepted_iff_compatible (settings : List Setting) (name : Bytes) (rest : List Bytes) :
    (∃ options, (settings.foldlM give {}).bind
        (fun options => check { options with command := name :: rest }) = .ok options) ↔
      Compatible settings := by
  constructor
  · rintro ⟨options, done⟩
    obtain ⟨taken, given, checked⟩ := ok_of_bind done
    obtain ⟨-, once⟩ := exists_foldlM_give_iff.1 ⟨taken, given⟩
    have together := (exists_check_iff taken name rest).1 ⟨options, checked⟩
    simp only [isSome_field_iff given] at together
    exact ⟨once, together.1, together.2⟩
  · rintro ⟨once, paired, exclusive⟩
    obtain ⟨taken, given⟩ :=
      exists_foldlM_give_iff.2 ⟨fun setting _ => field_bare setting.kind, once⟩
    have together := exists_check_iff taken name rest
    simp only [isSome_field_iff given] at together
    obtain ⟨checked, done⟩ := together.2 ⟨paired, exclusive⟩
    exact ⟨checked, by rw [given]; exact done⟩

/-- Where settings have been taken in alone, the options say just what the settings say. -/
theorem field_eq_content_iff {settings : List Setting} {options : Options}
    (taken : settings.foldlM give {} = .ok options) (setting : Setting) :
    options.field setting.kind = some setting.content ↔ setting ∈ settings := by
  rw [field_of_foldlM taken, field_bare, or_iff_right nofun]
  constructor
  · rintro ⟨other, member, kind, content⟩
    exact Setting.eq_of_content kind content ▸ member
  · exact fun member => ⟨setting, member, rfl, rfl⟩

/-- Where settings have been taken in alone, an option has the value that is given for it. -/
theorem value?_eq_some_iff {settings : List Setting} {options : Options}
    (taken : settings.foldlM give {} = .ok options) (option : Valued) (value : Bytes) :
    options.value? option = some value ↔ ∃ filled, .value option value filled ∈ settings := by
  constructor
  · intro stored
    have told : options.field (.valued option) = some value := stored
    rw [field_of_foldlM taken, field_bare, or_iff_right nofun] at told
    obtain ⟨setting, member, kind, content⟩ := told
    cases setting with
    | debug | replace => cases kind
    | value _ _ filled =>
      cases kind
      cases content
      exact ⟨filled, member⟩
  · exact fun ⟨filled, member⟩ => (field_eq_content_iff taken (.value option value filled)).2 member

/-- **The front end's own options are accepted exactly if they go together,** whatever they are, how
often, and however they are written. Then every field holds what its option says, and it does so for
any order of the options and for either way to write a value. -/
theorem read_written_iff (written : List Written) {name : Bytes} (plain : name.head? ≠ some dash)
    (rest : List Bytes) :
    let settings := written.map Written.setting
    let result := read (written.flatMap Written.tokens ++ name :: rest)
    ((∃ options, result = .ok options) ↔ Compatible settings) ∧
      (∀ options, result = .ok options →
        options.command = name :: rest ∧
          (∀ option value, options.value? option = some value ↔
            ∃ filled, .value option value filled ∈ settings) ∧
          (options.debug = true ↔ .debug ∈ settings) ∧
          (options.replace = true ↔ .replace ∈ settings)) ∧
      ∀ others : List Written, (others.map Written.setting).Perm settings →
        read (others.flatMap Written.tokens ++ name :: rest) = result := by
  intro settings result
  have word := classify_of_head? plain
  have parts : result = (settings.foldlM give {}).bind
      fun options => check { options with command := name :: rest } :=
    read_written word rest written
  refine ⟨?_, ?_, ?_⟩
  · rw [parts]
    exact accepted_iff_compatible settings name rest
  · intro options done
    rw [parts] at done
    obtain ⟨taken, given, checked⟩ := ok_of_bind done
    obtain rfl := eq_of_check checked
    have flag (setting : Setting) := field_eq_content_iff given setting
    refine ⟨rfl, fun option value => ?_, ?_, ?_⟩
    · rw [← value?_eq_some_iff given]
      cases option <;> rfl
    · rw [← flag]
      simp [field, Setting.kind, Setting.content]
    · rw [← flag]
      simp [field, Setting.kind, Setting.content]
  · intro others perm
    rw [parts, read_written word rest others, foldlM_give_perm perm]

/-- Both files and a flag. -/
def filed : List Written :=
  [.apart .output (Utf8.encode "out") (by decide) (by decide), .together .debug,
    .together (.value .errors (Utf8.encode "err") (by decide))]

/-- The same settings, in another order and with the values written in the other way. -/
def refiled : List Written :=
  [.apart .errors (Utf8.encode "err") (by decide) (by decide),
    .together (.value .output (Utf8.encode "out") (by decide)), .together .debug]

theorem read_written_iff_refiled :
    let command := ["gcc", "--debug"].map Utf8.encode
    (Utf8.encode "gcc").head? ≠ some dash ∧
      (∃ options, read (filed.flatMap Written.tokens ++ command) = .ok options ∧
        options.value? .output = some (Utf8.encode "out") ∧ options.command = command) ∧
      read (refiled.flatMap Written.tokens ++ command) =
        read (filed.flatMap Written.tokens ++ command) := by
  have plain : (Utf8.encode "gcc").head? ≠ some dash := by decide
  obtain ⟨accepted, kept, alike⟩ := read_written_iff filed plain [Utf8.encode "--debug"]
  have compatible : Compatible (filed.map Written.setting) :=
    ⟨by decide, by decide, by decide⟩
  obtain ⟨options, done⟩ := accepted.2 compatible
  obtain ⟨command, values, -⟩ := kept options done
  exact ⟨plain, ⟨options, done, (values .output _).2 ⟨by decide, by decide⟩, command⟩,
    alike refiled (by decide)⟩

end Options

end CompilerLauncher
