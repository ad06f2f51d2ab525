import CompilerLauncher.Proofs.LaunchStatus

/-!
# The status with which a run exits

`Host.Ends` lists the ways in which a run of the front end can end that is not replaced, with the
status of each. `Outcome.status?` is the status of a run under any answers of the kernel to its fork
and its waits. The two agree (`Host.ends_of_status`, `Host.status?_of_ends`), and the run that the
front end makes is the one whose waits are answered with the end of its own child
(`Host.exists_status`). So a run exits with 0 only if nothing was to be launched, or if what was
launched has exited with 0 (`Host.status?_zero_iff`).
-/

namespace CompilerLauncher

/-- The status of a process that has exited. -/
def Ending.status? : Ending → Option Nat
  | exited code => some code
  | killed _ => none

namespace FrontEnd

open Forked (ForkAnswer LaunchEnds Process)

/-- The command line does not ask for a replacement, if it can be read. -/
def Stays (tokens : List Bytes) : Prop :=
  ∀ options, Options.read tokens = .ok options → options.replace = false

namespace Outcome

/-- The status with which a run exits that comes to this, under the kernel's answers to its fork and
its waits. A run that is replaced has none of its own. -/
def status? (fork : ForkAnswer) (waits : List WaitAnswer) : Outcome → Option Nat
  | ended finish => finish.ending.status?
  | launched _ vector _ => (Forked.result? vector fork waits).map statusOf
  | replaced _ _ => none

/-- What the kernel answers to the waits of a run: how the process ends that runs the program. -/
def waits (outcome : Outcome) : List WaitAnswer :=
  outcome.process?.toList.map fun process => .ok process.finish.1.word

end Outcome

namespace Host

variable {host : Host} {tokens : List Bytes} {options : Options} {vector : List Bytes}
  {fork : ForkAnswer} {waits : List WaitAnswer} {status : Nat}

/-! ## How a run can end -/

/-- The command line is read, the settings are loaded, and the compiler's name is a text and stands
for a program. -/
def Finds (host : Host) (tokens : List Bytes) (options : Options) (vector : List Bytes) : Prop :=
  ∃ settings name arguments path, Options.read tokens = .ok options ∧
    host.settings options = .ok settings ∧ options.compiler = .ok (name, arguments) ∧
    Search.program? host.launcher.storage.tree settings host.environment name
      (some host.ownPath) = some path ∧ vector = path :: arguments

/-- One of the two files for the output cannot be made. -/
def Unwritable (host : Host) (options : Options) : Prop :=
  ∃ output errors, options.output = some output ∧ options.errors = some errors ∧
    ((∃ cause, host.createSink output = .error cause) ∨
      ∃ later descriptor cause, host.createSink output = .ok (later, descriptor) ∧
        later.createSink errors = .error cause)

/-- The ways in which a run ends that is not replaced, with the status of each. -/
inductive Ends (host : Host) (tokens : List Bytes) (fork : ForkAnswer) (waits : List WaitAnswer) :
    Nat → Prop
  | shown {request : UsageError} (asked : Options.read tokens = .error request)
    (shows : request = .displayHelp ∨ request = .displayVersion) : Ends host tokens fork waits 0
  | misused {error : UsageError} (misread : Options.read tokens = .error error)
    (wrong : ¬(error = .displayHelp ∨ error = .displayVersion)) : Ends host tokens fork waits 2
  | unconfigured {options : Options} {error : SettingsError}
    (read : Options.read tokens = .ok options) (fails : host.settings options = .error error) :
    Ends host tokens fork waits 1
  | unnamed {options : Options} {settings : Settings} {name : Bytes}
    (read : Options.read tokens = .ok options) (loaded : host.settings options = .ok settings)
    (unreadable : options.compiler = .error name) : Ends host tokens fork waits 1
  | unfound {options : Options} {settings : Settings} {name : Bytes} {arguments : List Bytes}
    (read : Options.read tokens = .ok options) (loaded : host.settings options = .ok settings)
    (command : options.compiler = .ok (name, arguments))
    (none : Search.program? host.launcher.storage.tree settings host.environment name
      (some host.ownPath) = none) : Ends host tokens fork waits 1
  | unwritable {options : Options} {vector : List Bytes} (finds : host.Finds tokens options vector)
    (stays : options.replace = false) (fails : host.Unwritable options) :
    Ends host tokens fork waits 1
  | launched {options : Options} {vector : List Bytes} {status : Nat}
    (finds : host.Finds tokens options vector) (stays : options.replace = false)
    (writable : ¬host.Unwritable options) (ends : LaunchEnds vector fork waits status) :
    Ends host tokens fork waits status

/-! ## What each step makes of a run -/

theorem outcome_of_finds (finds : host.Finds tokens options vector) :
    host.outcome tokens = host.outcomeOf options vector := by
  obtain ⟨settings, name, arguments, path, read, loaded, command, program, rfl⟩ := finds
  unfold outcome
  simp only [read, loaded, command, program]

theorem status?_refuse (host : Host) (error : UsageError) :
    (host.refuse error).ending.status? =
      some (if error = .displayHelp ∨ error = .displayVersion then 0 else 2) := by
  cases error <;> rfl

theorem not_unwritable_of_unnamed (unnamed : options.output = none ∨ options.errors = none) :
    ¬host.Unwritable options := by
  rintro ⟨output, errors, outNamed, errNamed, -⟩
  rcases unnamed with none | none
  · rw [none] at outNamed
    cases outNamed
  · rw [none] at errNamed
    cases errNamed

/-- A run that has found its compiler and is not replaced launches it, unless a file for the output
cannot be made. -/
theorem outcomeOf_cases (stays : options.replace = false) :
    (host.Unwritable options ∧
        ∃ finish, host.outcomeOf options vector = .ended finish ∧ finish.ending = .exited 1) ∨
      (¬host.Unwritable options ∧
        ∃ later sinks, host.outcomeOf options vector = .launched later vector sinks) := by
  have waits : ¬options.replace = true := by simp [stays]
  unfold outcomeOf
  rw [if_neg waits]
  cases outNamed : options.output with
  | none => exact .inr ⟨not_unwritable_of_unnamed (.inl outNamed), _, _, rfl⟩
  | some output =>
    cases errNamed : options.errors with
    | none => exact .inr ⟨not_unwritable_of_unnamed (.inr errNamed), _, _, rfl⟩
    | some errors =>
      dsimp only
      cases first : host.createSink output with
      | error cause =>
        exact .inl ⟨⟨output, errors, outNamed, errNamed, .inl ⟨cause, first⟩⟩, _, rfl, rfl⟩
      | ok made =>
        obtain ⟨later, out⟩ := made
        dsimp only
        cases second : later.createSink errors with
        | error cause =>
          exact .inl ⟨⟨output, errors, outNamed, errNamed,
            .inr ⟨later, out, cause, first, second⟩⟩, _, rfl, rfl⟩
        | ok last =>
          right
          refine ⟨?_, _, _, rfl⟩
          rintro ⟨_, _, outSame, errSame, fails⟩
          cases outNamed.symm.trans outSame
          cases errNamed.symm.trans errSame
          rcases fails with ⟨cause, fails⟩ | ⟨_, _, cause, made, fails⟩
          · cases first.symm.trans fails
          · cases first.symm.trans made
            cases second.symm.trans fails

/-- What a run comes to that has found its compiler. -/
theorem status?_of_finds (finds : host.Finds tokens options vector)
    (stays : options.replace = false) :
    (host.outcome tokens).status? fork waits = some status ↔
      (host.Unwritable options ∧ status = 1) ∨
        (¬host.Unwritable options ∧ LaunchEnds vector fork waits status) := by
  rw [outcome_of_finds finds]
  rcases outcomeOf_cases stays with ⟨fails, finish, same, ends⟩ | ⟨writable, later, sinks, same⟩
  · have one : (host.outcomeOf options vector).status? fork waits = some 1 := by
      rw [same, Outcome.status?, ends]
      rfl
    rw [one]
    simp [fails, eq_comm]
  · rw [same]
    simp only [writable, false_and, false_or, not_false_eq_true, true_and]
    exact Forked.status_result?_iff

/-- A run ends because of the command line, or before the compiler's name stands for a program, or it
has found its compiler. -/
theorem ended_or_finds (host : Host) (tokens : List Bytes) :
    (∃ error, Options.read tokens = .error error ∧
        host.outcome tokens = .ended (host.refuse error)) ∨
      (∃ finish, host.outcome tokens = .ended finish ∧ finish.ending = .exited 1 ∧
        ∀ fork waits, host.Ends tokens fork waits 1) ∨
      ∃ options vector, host.Finds tokens options vector := by
  unfold outcome
  cases read : Options.read tokens with
  | error error => exact .inl ⟨error, rfl, rfl⟩
  | ok options =>
    right
    dsimp only
    cases loaded : host.settings options with
    | error error => exact .inl ⟨_, rfl, rfl, fun _ _ => .unconfigured read loaded⟩
    | ok settings =>
      cases command : options.compiler with
      | error name => exact .inl ⟨_, rfl, rfl, fun _ _ => .unnamed read loaded command⟩
      | ok found =>
        obtain ⟨name, arguments⟩ := found
        dsimp only
        cases program : Search.program? host.launcher.storage.tree settings host.environment
          name (some host.ownPath) with
        | none => exact .inl ⟨_, rfl, rfl, fun _ _ => .unfound read loaded command program⟩
        | some path =>
          exact .inr ⟨options, path :: arguments, settings, name, arguments, path, read, loaded,
            command, program, rfl⟩

/-- A run that exits with a status ends in one of the ways. -/
theorem ends_of_status (exits : (host.outcome tokens).status? fork waits = some status) :
    host.Ends tokens fork waits status := by
  rcases host.ended_or_finds tokens with
    ⟨error, unread, same⟩ | ⟨finish, same, ends, way⟩ | ⟨options, vector, finds⟩
  · rw [same] at exits
    have answered := (host.status?_refuse error).symm.trans exits
    by_cases shows : error = .displayHelp ∨ error = .displayVersion
    · rw [if_pos shows] at answered
      cases answered
      exact .shown unread shows
    · rw [if_neg shows] at answered
      cases answered
      exact .misused unread shows
  · rw [same, Outcome.status?, ends] at exits
    cases exits
    exact way fork waits
  · cases stays : options.replace with
    | true =>
      rw [outcome_of_finds finds, outcomeOf, if_pos stays] at exits
      cases exits
    | false =>
      rcases (status?_of_finds finds stays).1 exits with ⟨fails, rfl⟩ | ⟨writable, ends⟩
      · exact .unwritable finds stays fails
      · exact .launched finds stays writable ends

/-- A run that ends in one of the ways exits with its status. -/
theorem status?_of_ends (ends : host.Ends tokens fork waits status) :
    (host.outcome tokens).status? fork waits = some status := by
  cases ends with
  | shown asked shows =>
    unfold outcome
    rw [asked]
    exact (host.status?_refuse _).trans (congrArg some (if_pos shows))
  | misused misread wrong =>
    unfold outcome
    rw [misread]
    exact (host.status?_refuse _).trans (congrArg some (if_neg wrong))
  | unconfigured read fails =>
    unfold outcome
    simp only [read, fails]
    rfl
  | unnamed read loaded unreadable =>
    unfold outcome
    simp only [read, loaded, unreadable]
    rfl
  | unfound read loaded command none =>
    unfold outcome
    simp only [read, loaded, command, none]
    rfl
  | unwritable finds stays fails => exact (status?_of_finds finds stays).2 (.inl ⟨fails, rfl⟩)
  | launched finds stays writable ends =>
    exact (status?_of_finds finds stays).2 (.inr ⟨writable, ends⟩)

/-! ## Runs that are not replaced -/

/-- A run that is not replaced exits by itself, or launches a program. -/
theorem outcome_cases (host : Host) (stays : Stays tokens) :
    (∃ finish status, host.outcome tokens = .ended finish ∧ finish.ending = .exited status) ∨
      ∃ later vector sinks, host.outcome tokens = .launched later vector sinks := by
  rcases host.ended_or_finds tokens with
    ⟨error, -, same⟩ | ⟨finish, same, ends, -⟩ | ⟨options, vector, finds⟩
  · left
    rw [same]
    cases error <;> exact ⟨_, _, rfl, rfl⟩
  · exact .inl ⟨finish, 1, same, ends⟩
  · obtain ⟨settings, name, arguments, path, read, -⟩ := id finds
    rw [outcome_of_finds finds]
    rcases @outcomeOf_cases host options vector (stays options read) with
      ⟨-, finish, same, ends⟩ | ⟨-, later, sinks, same⟩
    · exact .inl ⟨finish, 1, same, ends⟩
    · exact .inr ⟨later, vector, sinks, same⟩

/-- A launch ends the front end with the status of its result. -/
theorem ending_launch (host : Host) (sinks : Option (Nat × Nat))
    {result : Except LaunchError ExitOutcome}
    (answered : (host.launcher.execute vector sinks).result = some result) :
    (host.launch vector sinks).ending = .exited (statusOf result) := by
  unfold launch
  dsimp only
  rw [answered]
  cases result <;> rfl

/-- A run that is not replaced exits once the wait for its child is settled. -/
theorem exists_status_of_settles (stays : Stays tokens)
    (settles : ∃ answer ∈ waits, ¬Waiting.Passing answer) :
    ∃ status, (host.outcome tokens).status? fork waits = some status := by
  rcases host.outcome_cases stays with ⟨finish, status, same, ends⟩ | ⟨later, vector, sinks, same⟩
  · refine ⟨status, ?_⟩
    rw [same, Outcome.status?, ends]
    rfl
  · have answers := @Forked.isSome_result? vector fork waits settles
    obtain ⟨result, answered⟩ := Option.isSome_iff_exists.1 answers
    refine ⟨statusOf result, ?_⟩
    rw [same, Outcome.status?, answered]
    rfl

/-- A run that is not replaced exits with the status that its own child's end makes. -/
theorem exists_status (stays : Stays tokens) (pid : Forked.Pid) :
    ∃ status, (host.run tokens).ending = .exited status ∧
      (host.outcome tokens).status? (.ok pid) (host.outcome tokens).waits = some status := by
  rw [run_eq]
  rcases host.outcome_cases stays with ⟨finish, status, same, ends⟩ | ⟨later, vector, sinks, same⟩
  · refine ⟨status, ?_, ?_⟩
    · rw [same]
      exact ends
    · rw [same, Outcome.status?, ends]
      rfl
  · have result := later.launcher.result_execute vector sinks
    rw [same, Outcome.status?, Outcome.waits, Outcome.process?]
    cases fit : ArgumentVector.check vector with
    | error error =>
      rw [Forked.result?_of_refused fit] at result
      refine ⟨_, later.ending_launch sinks result, ?_⟩
      rw [Forked.result?_of_refused fit]
      rfl
    | ok _ =>
      have settles : ∃ answer ∈ [Except.ok (later.launcher.child vector sinks).finish.1.word],
          ¬Waiting.Passing answer := ⟨_, .head _, Forked.not_passing_ending _⟩
      obtain ⟨answer, answered⟩ := Option.isSome_iff_exists.1 (Forked.isSome_result? settles)
      exact ⟨_, later.ending_launch sinks (result.trans answered), congrArg _ answered⟩

/-- The process of a run that is not replaced is the child of a launch. -/
theorem exists_launched (stays : Stays tokens) {process : Process}
    (found : (host.outcome tokens).process? = some process) :
    ∃ later vector sinks, host.outcome tokens = .launched later vector sinks ∧
      ArgumentVector.check vector = .ok () := by
  rcases host.outcome_cases stays with ⟨finish, status, same, -⟩ | ⟨later, vector, sinks, same⟩
  · rw [same] at found
    cases found
  · refine ⟨later, vector, sinks, same, ?_⟩
    rw [same, Outcome.process?] at found
    cases fit : ArgumentVector.check vector with
    | ok _ => rfl
    | error error =>
      rw [fit] at found
      cases found

/-- A launch that has found its compiler makes a process, if its arguments can be carried. -/
theorem exists_process (finds : host.Finds tokens options vector)
    (kept : options.replace = false) (writable : ¬host.Unwritable options)
    (fit : ArgumentVector.check vector = .ok ()) :
    ∃ process, (host.outcome tokens).process? = some process := by
  rcases @outcomeOf_cases host options vector kept with ⟨fails, -⟩ | ⟨-, later, sinks, same⟩
  · exact absurd fails writable
  · refine ⟨later.launcher.child vector sinks, ?_⟩
    rw [outcome_of_finds finds, same, Outcome.process?, fit]

/-- What makes a run exit with 0. -/
theorem status?_zero_iff (stays : Stays tokens)
    (reported : ∀ process, (host.outcome tokens).process? = some process →
      process.Reported waits) :
    (host.outcome tokens).status? fork waits = some 0 ↔
      Options.read tokens = .error .displayHelp ∨ Options.read tokens = .error .displayVersion ∨
        ∃ process image pid word, (host.outcome tokens).process? = some process ∧
          process.image = .ok image ∧ fork = .ok pid ∧ Waiting.SettledBy waits (.ok word) ∧
          word.toNat % 128 = 0 ∧ word.toNat / 256 % 256 = 0 := by
  constructor
  · intro exits
    obtain ⟨status, none⟩ : ∃ status, status = 0 := ⟨0, rfl⟩
    rw [← none] at exits
    cases ends_of_status exits with
    | shown asked shows =>
      rcases shows with rfl | rfl
      · exact .inl asked
      · exact .inr (.inl asked)
    | misused | unconfigured | unnamed | unfound | unwritable => cases none
    | launched finds kept writable ends =>
      rw [none] at ends
      obtain ⟨fit, pid, word, forked, settled, low, code⟩ := Forked.launchEnds_zero_iff.1 ends
      obtain ⟨process, found⟩ := exists_process finds kept writable fit
      cases loaded : process.image with
      | ok image =>
        exact .inr (.inr ⟨process, image, pid, word, found, loaded, forked, settled, low, code⟩)
      | error cause =>
        obtain ⟨early, rest, parts, -, -⟩ := settled
        have member : .ok word ∈ waits := by simp [parts]
        have other := reported process found cause loaded word member low
        rw [code] at other
        cases other
  · rintro (asked | asked | ⟨process, image, pid, word, found, loaded, forked, settled, low, code⟩)
    · exact status?_of_ends (.shown asked (.inl rfl))
    · exact status?_of_ends (.shown asked (.inr rfl))
    · obtain ⟨later, vector, sinks, same, fit⟩ := exists_launched stays found
      rw [same]
      exact Forked.status_result?_iff.2
        (Forked.launchEnds_zero_iff.2 ⟨fit, pid, word, forked, settled, low, code⟩)

/-- A run that is not replaced exits in one of the ways of `Ends`, whatever the kernel answers, and
with 0 only if it was asked for help or its version, or if a program has been started and has exited
with 0. It exits unless its child is still waited for; its own child is waited for to its end. -/
theorem exit_status_exact (host : Host) (tokens : List Bytes) (stays : Stays tokens) :
    let outcome := host.outcome tokens
    (∀ fork waits status,
        outcome.status? fork waits = some status ↔ host.Ends tokens fork waits status) ∧
      (∀ fork waits,
        (∀ process, outcome.process? = some process → process.Reported waits) →
          (outcome.status? fork waits = some 0 ↔
            Options.read tokens = .error .displayHelp ∨
              Options.read tokens = .error .displayVersion ∨
                ∃ process image pid word, outcome.process? = some process ∧
                  process.image = .ok image ∧ fork = .ok pid ∧
                  Waiting.SettledBy waits (.ok word) ∧
                  word.toNat % 128 = 0 ∧ word.toNat / 256 % 256 = 0)) ∧
      (∀ fork waits, (∃ answer ∈ waits, ¬Waiting.Passing answer) →
        ∃ status, outcome.status? fork waits = some status) ∧
      (∀ process, outcome.process? = some process → process.Reported outcome.waits) ∧
      ∀ pid, ∃ status, (host.run tokens).ending = .exited status ∧
        outcome.status? (.ok pid) outcome.waits = some status := by
  intro outcome
  refine ⟨?_, ?_, ?_, ?_, exists_status stays⟩
  · intro fork waits status
    exact ⟨ends_of_status, status?_of_ends⟩
  · intro fork waits reported
    exact status?_zero_iff stays reported
  · intro fork waits settles
    exact exists_status_of_settles stays settles
  · intro process found
    have own : outcome.waits = [.ok process.finish.1.word] := by
      rw [Outcome.waits, found]
      rfl
    rw [own]
    exact process.reported_finish

/-- The wait is interrupted and the compiler is stopped before it exits, and another time it is killed
and leaves a dump of itself behind. -/
theorem exit_status_exact_scripted :
    let tokens := [Utf8.encode "gcc", Utf8.encode "-c"]
    let stopped : List WaitAnswer := [.error .interrupted, .ok 0x137f]
    Stays tokens ∧
      (scripted.outcome tokens).status? (.ok 7) (stopped ++ [.ok 0]) = some 0 ∧
      (scripted.outcome tokens).status? (.ok 7) (stopped ++ [.ok 0x0700]) = some 7 ∧
      (scripted.outcome tokens).status? (.ok 7) [.ok 0x8b] = some 255 ∧
      ∃ status, (scripted.run tokens).ending = .exited status ∧
        (scripted.outcome tokens).status? (.ok 7) (scripted.outcome tokens).waits =
          some status := by
  intro tokens stopped
  have read : Options.read tokens = .ok { command := tokens } := by decide +kernel
  have stays : Stays tokens := by
    intro options other
    cases read.symm.trans other
    rfl
  have loads : (scripted.outcome tokens).process?.map Process.image =
      some (.ok ⟨Utf8.encode "sh", ["/bin/sh", "-e", "/bin/gcc", "-c"].map Utf8.encode⟩) := by
    decide +kernel
  obtain ⟨process, found, loaded⟩ := Option.map_eq_some_iff.1 loads
  have finds : scripted.Finds tokens { command := tokens }
      (Utf8.encode "/bin/gcc" :: tokens.tail) :=
    ⟨Settings.defaults scripted.environment, Utf8.encode "gcc", tokens.tail,
      Utf8.encode "/bin/gcc", read, rfl, by decide +kernel, by decide +kernel, rfl⟩
  have fit : ArgumentVector.check (Utf8.encode "/bin/gcc" :: tokens.tail) = .ok () := by
    decide +kernel
  have writable : ¬scripted.Unwritable { command := tokens } := not_unwritable_of_unnamed (.inl rfl)
  have passing : ∀ earlier ∈ stopped, Waiting.Passing earlier :=
    List.forall_mem_cons.2 ⟨.interrupted, List.forall_mem_singleton.2 (.alive (by decide))⟩
  have settled : ∀ word : UInt32, word.toNat % 128 < 127 →
      Waiting.SettledBy (stopped ++ [.ok word]) (.ok word) := by
    intro word low
    exact ⟨stopped, [], rfl, passing, Waiting.not_passing_of_low low⟩
  have killed : Waiting.SettledBy [.ok 0x8b] (.ok 0x8b) :=
    ⟨[], [], rfl, by simp, Waiting.not_passing_of_low (by decide)⟩
  obtain ⟨ways, success, -, -, own⟩ := exit_status_exact scripted tokens stays
  refine ⟨stays, ?_, ?_, ?_, own 7⟩
  · refine (success _ _ ?_).2 (.inr (.inr ⟨process, _, 7, 0, found, loaded, rfl,
      settled 0 (by decide), by decide, by decide⟩))
    intro other same cause fails
    obtain rfl : process = other := Option.some.inj (found.symm.trans same)
    cases loaded.symm.trans fails
  · exact (ways _ _ _).2 (.launched finds rfl writable
      (.exited fit rfl (settled 0x0700 (by decide)) (by decide)))
  · exact (ways _ _ _).2 (.launched finds rfl writable
      (.killed fit rfl killed (by decide) (by decide)))

end Host

end FrontEnd

end CompilerLauncher
