import CompilerLauncher.Proofs.StartedProcess

/-!
# What follows the compiler's name is passed on

The reader of a command line has two modes. As long as it finds options of the front end's own
(`Options.Own`), what it makes of them does not depend on the command behind them
(`take_append_of_own`); at the first token that is none of them it takes that token and all the
others as they stand. So a command line that is accepted with the compiler's name alone is accepted
with any arguments behind the name, and with the same options (`read_append_of_own`). Which tokens
may stand before the name can be told from the command that is read (`own_iff`).

A run then looks up the same name under the same settings, and starts the same program in the same
tree, with the arguments behind its path (`start?_append_of_own`). The image that the program is
loaded as, directly or by way of interpreters, has path and arguments at the end of its own argument
vector (`suffix_of_load`).
-/

namespace CompilerLauncher

namespace Options

/-- The tokens are options of the front end's own, with their values, and perhaps the separator
behind them. -/
inductive Own : List Bytes → Prop
  | nil : Own []
  | separator {token : Bytes} : classify token = .separator → Own [token]
  | flag {token : Bytes} {rest : List Bytes} (flag : Flag) :
    classify token = .flag flag none → Own rest → Own (token :: rest)
  | attached {token : Bytes} {rest : List Bytes} (option : Valued) (value : Bytes) :
    classify token = .valued option (some value) → Own rest → Own (token :: rest)
  | separate {token value : Bytes} {rest : List Bytes} (option : Valued) :
    classify token = .valued option none → classify value = .other → Own rest →
    Own (token :: value :: rest)

/-- A token that does not start with a dash is no option. -/
theorem classify_of_head? {token : Bytes} (plain : token.head? ≠ some dash) :
    classify token = .other := by
  cases token with
  | nil => rfl
  | cons first rest =>
    have other : first ≠ dash := fun same => plain (congrArg some same)
    exact if_neg other

theorem ok_of_bind {α β : Type} {first : Except UsageError α} {next : α → Except UsageError β}
    {result : β} (done : first.bind next = .ok result) :
    ∃ value, first = .ok value ∧ next value = .ok result := by
  cases first with
  | error error => cases done
  | ok value => exact ⟨value, rfl, done⟩

namespace Reading

variable {reading : Reading} {token name : Bytes} {tokens : List Bytes}

/-! ## One token -/

theorem take_separator (classified : classify token = .separator) (rest : List Bytes) :
    reading.take (token :: rest) = reading.finish rest := by
  rw [take, classified]

theorem take_pending {option : Valued} (classified : classify token = .valued option none)
    (rest : List Bytes) :
    reading.take (token :: rest) =
      reading.settle.bind fun options => take { options, pending := some (option, none) } rest := by
  rw [take, classified]
  cases reading.settle <;> rfl

theorem take_attached {option : Valued} {value : Bytes}
    (classified : classify token = .valued option (some value)) (rest : List Bytes) :
    reading.take (token :: rest) =
      (reading.settle.bind fun options => options.store option value).bind
        fun options => take { options } rest := by
  rw [take, classified]
  dsimp only
  cases reading.settle.bind fun options => options.store option value <;> rfl

theorem take_flag {flag : Flag} (classified : classify token = .flag flag none)
    (rest : List Bytes) :
    reading.take (token :: rest) =
      (reading.settle.bind fun options => options.raise flag).bind
        fun options => take { options } rest := by
  rw [take, classified]
  dsimp only
  cases reading.settle.bind fun options => options.raise flag <;> rfl

/-- A token that is no option ends the options, unless the last of them waits for its value. -/
theorem take_other (classified : classify token = .other) (idle : reading.awaits = none)
    (rest : List Bytes) : reading.take (token :: rest) = reading.finish (token :: rest) := by
  rw [take, classified]
  dsimp only
  rw [idle]

/-- A token that is no option is the value that the last option waits for. -/
theorem take_value {option : Valued} (classified : classify token = .other)
    (awaiting : reading.awaits = some option) (rest : List Bytes) :
    reading.take (token :: rest) =
      take { reading with pending := some (option, some token) } rest := by
  rw [take, classified]
  dsimp only
  rw [awaiting]

/-! ## What the options leave -/

/-- A reader that waits for a value has nothing to go on with. -/
theorem awaits_of_settle {options : Options} (settled : reading.settle = .ok options) :
    reading.awaits = none := by
  rw [settle] at settled
  rw [awaits]
  split at settled
  · rename_i idle
    rw [idle]
  · cases settled
  · rename_i found
    rw [found]

theorem command_of_store {options stored : Options} {option : Valued} {value : Bytes}
    (done : options.store option value = .ok stored) : stored.command = options.command := by
  rw [store] at done
  split at done
  · cases done
  split at done
  · cases done
  · cases done
    cases option <;> rfl

theorem command_of_raise {options raised : Options} {flag : Flag}
    (done : options.raise flag = .ok raised) : raised.command = options.command := by
  cases flag with
  | debug | replace =>
    rw [raise] at done
    split at done
    · cases done
    · cases done
      rfl
  | help | version => cases done

/-- Options do not make a command. -/
theorem command_of_settle {options : Options} (settled : reading.settle = .ok options) :
    options.command = reading.options.command := by
  rw [settle] at settled
  split at settled
  · cases settled
    rfl
  · cases settled
  · exact command_of_store settled

theorem of_finish {command : List Bytes} {options : Options}
    (finished : reading.finish command = .ok options) :
    reading.awaits = none ∧ options.command = command := by
  rw [finish] at finished
  cases settled : reading.settle with
  | error error =>
    rw [settled] at finished
    cases finished
  | ok before =>
    rw [settled] at finished
    cases finished
    exact ⟨awaits_of_settle settled, rfl⟩

/-! ## All tokens before the compiler's name -/

theorem finish_cons (reading : Reading) (name : Bytes) (rest : List Bytes) :
    reading.finish (name :: rest) =
      (reading.finish [name]).map fun options => { options with command := name :: rest } := by
  rw [finish, finish]
  cases reading.settle <;> rfl

/-- What the reader makes of options of its own does not depend on what follows the name behind
them. -/
theorem take_append_of_own (own : Own tokens) (idle : reading.awaits = none)
    (plain : classify name = .other) (rest : List Bytes) :
    reading.take (tokens ++ name :: rest) =
      (reading.take (tokens ++ [name])).map
        fun options => { options with command := name :: rest } := by
  induction own generalizing reading with
  | nil =>
    rw [List.nil_append, List.nil_append, take_other plain idle, take_other plain idle]
    exact finish_cons reading name rest
  | separator ends =>
    rw [List.singleton_append, List.singleton_append, take_separator ends, take_separator ends]
    exact finish_cons reading name rest
  | flag flag classified _ ih =>
    rw [List.cons_append, List.cons_append, take_flag classified, take_flag classified]
    cases reading.settle.bind fun options => options.raise flag with
    | error error => rfl
    | ok options => exact ih rfl
  | attached option value classified _ ih =>
    rw [List.cons_append, List.cons_append, take_attached classified, take_attached classified]
    cases reading.settle.bind fun options => options.store option value with
    | error error => rfl
    | ok options => exact ih rfl
  | separate option classified plainValue _ ih =>
    simp only [List.cons_append]
    rw [take_pending classified, take_pending classified]
    cases reading.settle with
    | error error => rfl
    | ok options =>
      dsimp only [Except.bind]
      rw [take_value plainValue rfl, take_value plainValue rfl]
      exact ih rfl

/-- If the reader finds no command but the name behind some tokens, those are options of its own,
behind the value that it waits for. -/
theorem own_of_take {options : Options} (plain : classify name = .other)
    (bare : reading.options.command = []) (taken : reading.take (tokens ++ [name]) = .ok options)
    (command : options.command = [name]) :
    match reading.awaits with
    | none => Own tokens
    | some _ => ∃ value rest, tokens = value :: rest ∧ classify value = .other ∧ Own rest := by
  induction tokens generalizing reading with
  | nil =>
    cases awaiting : reading.awaits with
    | none => exact .nil
    | some option =>
      -- The name would be taken for the value, and there would be no command.
      rw [List.nil_append, take_value plain awaiting, take] at taken
      have none := command_of_settle taken
      rw [command, bare] at none
      cases none
  | cons token tokens ih =>
    rw [List.cons_append] at taken
    cases classified : classify token with
    | separator =>
      rw [take_separator classified] at taken
      obtain ⟨idle, same⟩ := of_finish taken
      rw [command] at same
      have none : tokens = [] := by simpa using same
      rw [idle, none]
      exact .separator classified
    | unreadable =>
      rw [take, classified] at taken
      cases taken
    | flag flag attached =>
      cases attached with
      | some value =>
        rw [take, classified] at taken
        cases taken
      | none =>
        rw [take_flag classified] at taken
        obtain ⟨after, done, taken⟩ := ok_of_bind taken
        obtain ⟨before, settled, raised⟩ := ok_of_bind done
        have kept := (command_of_raise raised).trans ((command_of_settle settled).trans bare)
        rw [awaits_of_settle settled]
        exact .flag flag classified (@ih { options := after } kept taken)
    | valued option attached =>
      cases attached with
      | none =>
        rw [take_pending classified] at taken
        obtain ⟨before, settled, taken⟩ := ok_of_bind taken
        have kept := (command_of_settle settled).trans bare
        obtain ⟨value, rest, rfl, plainValue, own⟩ :=
          @ih { options := before, pending := some (option, none) } kept taken
        rw [awaits_of_settle settled]
        exact .separate option classified plainValue own
      | some value =>
        rw [take_attached classified] at taken
        obtain ⟨after, done, taken⟩ := ok_of_bind taken
        obtain ⟨before, settled, stored⟩ := ok_of_bind done
        have kept := (command_of_store stored).trans ((command_of_settle settled).trans bare)
        rw [awaits_of_settle settled]
        exact .attached option value classified (@ih { options := after } kept taken)
    | other =>
      cases awaiting : reading.awaits with
      | none =>
        rw [take_other classified awaiting] at taken
        have same := (of_finish taken).2
        rw [command] at same
        simp at same
      | some option =>
        rw [take_value classified awaiting] at taken
        exact ⟨token, tokens, rfl, classified,
          @ih { reading with pending := some (option, some token) } bare taken⟩

end Reading

/-! ## A whole command line -/

/-- What options say together is right or wrong whatever the command's arguments. -/
theorem check_withArguments (options : Options) (name : Bytes) (rest : List Bytes) :
    check { options with command := name :: rest } =
      (check { options with command := [name] }).map
        fun checked => { checked with command := name :: rest } := by
  simp only [check, reduceCtorEq, if_false]
  split
  · rfl
  · split <;> rfl

theorem eq_of_check {options checked : Options} (done : check options = .ok checked) :
    checked = options := by
  rw [check] at done
  split at done
  · cases done
  split at done
  · cases done
  split at done
  · cases done
  · cases done
    rfl

variable {own : List Bytes} {name : Bytes} {options : Options}

/-- The tokens before the name are options of the front end's own exactly if the name alone is the
command. -/
theorem own_iff (plain : classify name = .other) (accepted : read (own ++ [name]) = .ok options) :
    Own own ↔ options.command = [name] := by
  obtain ⟨taken, reading, checked⟩ := ok_of_bind accepted
  obtain rfl := eq_of_check checked
  constructor
  · intro tokens
    have parts := @Reading.take_append_of_own {} name own tokens rfl plain []
    rw [reading] at parts
    exact congrArg Options.command (Except.ok.inj parts)
  · intro command
    exact @Reading.own_of_take {} name own options plain rfl reading command

/-- Arguments behind the name change nothing but the command. -/
theorem read_append_of_own (tokens : Own own) (plain : classify name = .other)
    (accepted : read (own ++ [name]) = .ok options) (rest : List Bytes) :
    read (own ++ name :: rest) = .ok { options with command := name :: rest } := by
  have command := (own_iff plain accepted).1 tokens
  obtain ⟨taken, reading, checked⟩ := ok_of_bind accepted
  obtain rfl := eq_of_check checked
  have bare : { options with command := [name] } = options := by rw [← command]
  rw [read, Reading.take_append_of_own tokens rfl plain, reading]
  change check { options with command := name :: rest } = _
  rw [check_withArguments, bare, checked]
  rfl

end Options

/-! ## The program that is started -/

namespace Image

/-- An image has the vector that it is loaded with at the end of its own, behind the interpreters
that it takes. -/
theorem suffix_of_loadThrough {tree : FileTree} {files : Nat} {path : Bytes} {rest : List Bytes}
    {image : Image} (loaded : loadThrough tree files path (path :: rest) = .ok image) :
    path :: rest <:+ image.arguments := by
  induction files generalizing path rest with
  | zero => cases loaded
  | succ files ih =>
    rw [loadThrough] at loaded
    split at loaded
    · cases loaded
    split at loaded
    · cases loaded
      exact List.suffix_rfl
    split at loaded
    · split at loaded
      · cases loaded
      · rename_i name argument _
        have behind : path :: rest <:+ name :: argument.toList ++ path :: rest :=
          List.suffix_append _ _
        exact behind.trans (ih loaded)
    · cases loaded

theorem suffix_of_load {tree : FileTree} {path : Bytes} {rest : List Bytes} {image : Image}
    (loaded : load tree path (path :: rest) = .ok image) : path :: rest <:+ image.arguments := by
  rw [load] at loaded
  split at loaded
  · cases loaded
  split at loaded
  · cases loaded
  · exact suffix_of_loadThrough loaded

end Image

namespace FrontEnd.Host

open Forked (Process)

variable {host : Host} {own : List Bytes} {name : Bytes} {options : Options}

theorem start?_outcomeOf_append (host : Host) (options : Options) (path : Bytes)
    (rest command : List Bytes) :
    (host.outcomeOf { options with command } (path :: rest)).start? =
      (host.outcomeOf options [path]).start?.map fun begun => (begun.1, begun.2 ++ rest) := by
  simp only [outcomeOf]
  split
  · rfl
  split
  · split
    · rfl
    split
    · rfl
    · rfl
  · rfl

/-- Arguments behind the compiler's name are put behind the path of the program that is started, and
decide nothing else about it. -/
theorem start?_append_of_own (tokens : Options.Own own) (plain : Options.classify name = .other)
    (spelled : (Utf8.decode? name).isSome = true)
    (accepted : Options.read (own ++ [name]) = .ok options) (rest : List Bytes) :
    (host.outcome (own ++ name :: rest)).start? =
      (host.outcome (own ++ [name])).start?.map fun begun => (begun.1, begun.2 ++ rest) := by
  have command := (Options.own_iff plain accepted).1 tokens
  have bare : options.compiler = .ok (name, []) := by
    rw [Options.compiler, command]
    exact if_pos spelled
  have whole : Options.compiler { options with command := name :: rest } = .ok (name, rest) :=
    if_pos spelled
  have same : host.settings { options with command := name :: rest } = host.settings options := rfl
  simp only [outcome, accepted, Options.read_append_of_own tokens plain accepted rest, bare, whole,
    same]
  split
  · rfl
  split
  · rfl
  · exact host.start?_outcomeOf_append options _ rest _

/-- Whatever follows the compiler's name, the options before it are read as they are with the name
alone, and the name stands for the same program. A program that is found is started if its arguments
can be carried, with its path and what follows the name as its argument vector, which an interpreter
finds behind its own arguments. -/
theorem what_follows_is_forwarded (host : Host) (own : List Bytes) (name : Bytes)
    (options : Options) (spelled : (Utf8.decode? name).isSome = true)
    (undashed : name.head? ≠ some Options.dash)
    (accepted : Options.read (own ++ [name]) = .ok options) :
    (Options.Own own ↔ options.command = [name]) ∧
      (Options.Own own → ∀ rest,
        let tokens := own ++ name :: rest
        let given := { options with command := name :: rest }
        Options.read tokens = .ok given ∧ given.compiler = .ok (name, rest) ∧
          (host.outcome tokens).start? =
            (host.outcome (own ++ [name])).start?.map (fun begun => (begun.1, begun.2 ++ rest)) ∧
          (∀ tree vector, (host.outcome tokens).start? = some (tree, vector) →
            ArgumentVector.check vector = .ok () →
              ∃ process, (host.outcome tokens).process? = some process) ∧
          ∀ process, (host.outcome tokens).process? = some process →
            ∃ settings path, host.settings options = .ok settings ∧
              Search.program? host.launcher.storage.tree settings host.environment name
                (some host.ownPath) = some path ∧
              process.start.arguments = path :: rest ∧
              (host.run tokens).storage = process.finish.2 ∧
              ∀ image, process.image = .ok image → path :: rest <:+ image.arguments) := by
  have plain := Options.classify_of_head? undashed
  refine ⟨Options.own_iff plain accepted, ?_⟩
  intro tokens rest
  have given := Options.read_append_of_own tokens plain accepted rest
  have command : Options.compiler { options with command := name :: rest } = .ok (name, rest) :=
    if_pos spelled
  refine ⟨given, command, start?_append_of_own tokens plain spelled accepted rest, ?_, ?_⟩
  · intro tree vector started fit
    obtain ⟨process, found, -⟩ := Outcome.process?_of_start started fit
    exact ⟨process, found⟩
  intro process found
  have started := Outcome.start?_of_process found
  obtain ⟨settings, loaded⟩ : ∃ settings, host.settings options = .ok settings := by
    have same : host.settings { options with command := name :: rest } = host.settings options :=
      rfl
    cases loaded : host.settings options with
    | ok settings => exact ⟨settings, rfl⟩
    | error error =>
      simp only [outcome, given, same, loaded] at started
      cases started
  obtain ⟨path, program, vector, -⟩ := exists_program_of_start given loaded command started
  refine ⟨settings, path, loaded, program, vector, ?_, ?_⟩
  · rw [run_eq]
    exact Outcome.storage_finish found
  · intro image carried
    rw [Process.image, vector] at carried
    exact Image.suffix_of_load carried

/-- Behind the name stand options, a separator, an empty argument and one that is no text. -/
theorem what_follows_is_forwarded_scripted :
    let own := ["--stdout=/tmp/o", "--stderr", "/tmp/e", "--debug", "--"].map Utf8.encode
    let name := Utf8.encode "gcc"
    let rest := ["--config", "-h", "--", "", "--version"].map Utf8.encode ++ [[0xff]]
    let options : Options :=
      { output := some (Utf8.encode "/tmp/o"), errors := some (Utf8.encode "/tmp/e"), debug := true
        command := [name] }
    Options.Own own ∧ Options.read (own ++ [name]) = .ok options ∧
      Options.read (own ++ name :: rest) = .ok { options with command := name :: rest } ∧
      ∃ process image, (scripted.outcome (own ++ name :: rest)).process? = some process ∧
        process.start.arguments = Utf8.encode "/bin/gcc" :: rest ∧
        process.image = .ok image ∧ Utf8.encode "/bin/gcc" :: rest <:+ image.arguments := by
  intro own name rest options
  have accepted : Options.read (own ++ [name]) = .ok options := by decide +kernel
  have loads : (scripted.outcome (own ++ name :: rest)).process?.map Process.image =
      some (.ok ⟨Utf8.encode "sh", ["/bin/sh", "-e", "/bin/gcc"].map Utf8.encode ++ rest⟩) := by
    decide +kernel
  have named : Search.program? scripted.launcher.storage.tree
      (Settings.defaults scripted.environment) scripted.environment name (some scripted.ownPath) =
        some (Utf8.encode "/bin/gcc") := by decide +kernel
  obtain ⟨process, found, loaded⟩ := Option.map_eq_some_iff.1 loads
  obtain ⟨tokens, forwarded⟩ :=
    what_follows_is_forwarded scripted own name options (by decide +kernel) (by decide +kernel)
      accepted
  obtain ⟨given, -, -, -, carried⟩ := forwarded (tokens.2 rfl) rest
  obtain ⟨_, path, defaults, program, vector, -, behind⟩ := carried process found
  cases defaults
  obtain rfl : Utf8.encode "/bin/gcc" = path := Option.some.inj (named.symm.trans program)
  exact ⟨tokens.2 rfl, accepted, given, process, _, found, vector, loaded, behind _ loaded⟩

end FrontEnd.Host

end CompilerLauncher
