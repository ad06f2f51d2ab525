import CompilerLauncher.Proofs.ExitStatus

/-!
# Replacing the launcher and waiting for a child

A program can be run in two ways: a child takes on its image and is waited for, or the launcher
itself takes it on. What the program then does is a `Conduct`, and the launches that are carried out
are those under the conduct of the programs that there are (`Launcher.replace_eq`,
`Launcher.result_eq`).

A child whose output is not redirected and a launcher that is replaced have the same, except for
their numbers (`Launcher.child_alike`). So under a conduct that does not go by the number both ways
come to the same status, which is 255 if the program cannot be started at all
(`Launcher.statuses_agree`).
-/

namespace CompilerLauncher

namespace Forked

/-! ## What programs do -/

/-- What programs do: how a process ends that has taken on an image. -/
abbrev Conduct := Process → Image → Ending

/-- The processes agree on all that a program may go by: its arguments, its variables, its mask, its
descriptors and the open files behind them. Their numbers may differ. -/
structure Process.Alike (process other : Process) : Prop where
  arguments : process.start.arguments = other.start.arguments
  environment : process.launcher.environment = other.launcher.environment
  mask : process.start.mask = other.start.mask
  descriptors : process.start.descriptors = other.start.descriptors
  storage : process.launcher.storage = other.launcher.storage

/-- A conduct that does not tell processes apart that are alike. -/
def Conduct.Impartial (conduct : Conduct) : Prop :=
  ∀ process other image, Process.Alike process other → conduct process image = conduct other image

/-- How a process ends under a conduct. One that cannot take on its image ends at once. -/
def Process.ending (process : Process) (conduct : Conduct) : Ending :=
  match process.image with
  | .error _ => .exited notStarted
  | .ok image => conduct process image

/-- What the programs do that there are. -/
def ownConduct : Conduct := fun process _ => process.finish.1

theorem Process.ending_own (process : Process) : process.ending ownConduct = process.finish.1 := by
  unfold ending
  cases loaded : process.image with
  | ok image => rfl
  | error cause =>
    rw [finish_of_unloadable loaded]

theorem Process.Alike.image {process other : Process} (alike : process.Alike other) :
    process.image = other.image := by
  unfold Process.image
  rw [alike.storage, alike.arguments]

/-! ## The two ways -/

namespace Launcher

variable (launcher : Launcher) (arguments : List Bytes) (conduct : Conduct)

/-- How a launcher ends that is replaced by a program. -/
def replaced : Ending :=
  match ArgumentVector.check arguments with
  | .error _ => .exited notStarted
  | .ok _ => (launcher.successor arguments).ending conduct

/-- What a launch answers that waits for its child, when the waits are first answered otherwise. -/
def waited? (pid : Pid) (early : List WaitAnswer) : Option (Except LaunchError ExitOutcome) :=
  result? arguments (.ok pid) (early ++ [.ok ((launcher.child arguments none).ending conduct).word])

/-- The program is started: its arguments can be carried, and it is loaded as an image. -/
def Starts (image : Image) : Prop :=
  ArgumentVector.check arguments = .ok () ∧ (launcher.child arguments none).image = .ok image

theorem replace_eq : (launcher.replace arguments).1 = launcher.replaced arguments ownConduct := by
  unfold replace replaced
  cases ArgumentVector.check arguments with
  | error error => rfl
  | ok _ => exact ((launcher.successor arguments).ending_own).symm

theorem result_eq :
    (launcher.execute arguments none).result =
      launcher.waited? arguments ownConduct launcher.childPid [] := by
  rw [result_execute, waited?, Process.ending_own, List.nil_append]

theorem child_alike : (launcher.child arguments none).Alike (launcher.successor arguments) :=
  ⟨rfl, rfl, rfl, rfl, rfl⟩

variable {launcher arguments conduct} {pid : Pid} {early : List WaitAnswer}

/-- Arguments that cannot be carried are a fatal error. -/
theorem isFatal_of_check {error : LaunchError}
    (fails : ArgumentVector.check arguments = .error error) :
    error.isFatal = true := by
  unfold ArgumentVector.check at fails
  split at fails
  · cases fails
    rfl
  · split at fails
    · cases fails
      rfl
    · cases fails

/-- A launch that cannot carry its arguments has the status of one that is replaced. -/
theorem status_of_check {error : LaunchError}
    (fails : ArgumentVector.check arguments = .error error) :
    launcher.replaced arguments conduct = .exited notStarted ∧
      launcher.waited? arguments conduct pid early = some (.error error) ∧
      statusOf (.error error) = 255 := by
  refine ⟨?_, ?_, ?_⟩
  · unfold replaced
    rw [fails]
  · exact result?_of_refused fails _ _
  · rw [statusOf_error, isFatal_of_check fails]
    rfl

/-- A launch whose child exits has its code as its status, as far as eight bits go. -/
theorem waited?_of_exited {code : Nat} (fit : ArgumentVector.check arguments = .ok ())
    (passing : ∀ answer ∈ early, Waiting.Passing answer)
    (exits : (launcher.child arguments none).ending conduct = .exited code) :
    ∃ result, launcher.waited? arguments conduct pid early = some result ∧
      statusOf result = code % 256 := by
  have number := Ending.toNat_word_exited code
  have low : (Ending.exited code).word.toNat % 128 = 0 := by omega
  have settled : Waiting.SettledBy (early ++ [.ok (Ending.exited code).word])
      (.ok (Ending.exited code).word) :=
    ⟨early, [], rfl, passing, not_passing_ending _⟩
  obtain ⟨result, answered, same⟩ :=
    Option.map_eq_some_iff.1 (status_result?_iff.2 (.exited fit rfl settled low))
  refine ⟨result, ?_, ?_⟩
  · unfold waited?
    rw [exits]
    exact answered
  · rw [same]
    omega

/-- A child that exits if it starts, exits; if it does not start, with `notStarted`. -/
theorem exists_code (fit : ArgumentVector.check arguments = .ok ())
    (exits : ∀ image, launcher.Starts arguments image → ∃ code,
      conduct (launcher.child arguments none) image = .exited code ∧
        conduct (launcher.successor arguments) image = .exited code) :
    ∃ code, (launcher.child arguments none).ending conduct = .exited code ∧
      (launcher.successor arguments).ending conduct = .exited code ∧
      ((∀ image, ¬launcher.Starts arguments image) → code = notStarted) := by
  unfold Process.ending
  rw [← (launcher.child_alike arguments).image]
  cases loaded : (launcher.child arguments none).image with
  | error cause => exact ⟨notStarted, rfl, rfl, fun _ => rfl⟩
  | ok image =>
    obtain ⟨code, child, successor⟩ := exits image ⟨fit, loaded⟩
    refine ⟨code, child, successor, ?_⟩
    intro unstartable
    exact absurd ⟨fit, loaded⟩ (unstartable image)

/-- If the child and the launcher itself would exit with one code, both ways come to the same
status. It is 255 if the program cannot be started. -/
theorem statuses_agree (passing : ∀ answer ∈ early, Waiting.Passing answer)
    (exits : ∀ image, launcher.Starts arguments image → ∃ code,
      conduct (launcher.child arguments none) image = .exited code ∧
        conduct (launcher.successor arguments) image = .exited code) :
    ∃ code result, launcher.replaced arguments conduct = .exited code ∧
      launcher.waited? arguments conduct pid early = some result ∧
      statusOf result = code % 256 ∧
      ((∀ image, ¬launcher.Starts arguments image) → code % 256 = 255) := by
  cases fit : ArgumentVector.check arguments with
  | error error =>
    obtain ⟨ends, answered, status⟩ :=
      @status_of_check launcher arguments conduct pid early error fit
    exact ⟨notStarted, .error error, ends, answered, status, fun _ => rfl⟩
  | ok _ =>
    obtain ⟨code, child, successor, unstarted⟩ := exists_code fit exits
    obtain ⟨result, answered, status⟩ :=
      @waited?_of_exited launcher arguments conduct pid early code fit passing child
    refine ⟨code, result, ?_, answered, status, ?_⟩
    · unfold replaced
      rw [fit]
      exact successor
    · intro unstartable
      rw [unstarted unstartable]
      rfl

end Launcher

end Forked

namespace FrontEnd.Host

open Forked (Conduct Launcher ownConduct)

/-- Replacing the launcher by a program and waiting for it as a child come to one status: the code
that the program exits with, whatever it does, or 255 if it cannot be started. This holds for the
programs that there are, as long as they exit with the same code in both ways. -/
theorem replacing_agrees_with_waiting (host : Host) (arguments : List Bytes) :
    (∀ (conduct : Conduct) pid early, conduct.Impartial →
      (∀ image, host.launcher.Starts arguments image →
        ∃ code, conduct (host.launcher.child arguments none) image = .exited code) →
      (∀ answer ∈ early, Waiting.Passing answer) →
        ∃ code result, host.launcher.replaced arguments conduct = .exited code ∧
          host.launcher.waited? arguments conduct pid early = some result ∧
          statusOf result = code % 256 ∧
          ((∀ image, ¬host.launcher.Starts arguments image) → code % 256 = 255)) ∧
      (host.launcher.replace arguments).1 = host.launcher.replaced arguments ownConduct ∧
      (host.launcher.execute arguments none).result =
        host.launcher.waited? arguments ownConduct host.launcher.childPid [] ∧
      ((∀ image, host.launcher.Starts arguments image →
          ∃ code, (host.launcher.child arguments none).finish.1 = .exited code ∧
            (host.launcher.successor arguments).finish.1 = .exited code) →
        ∃ code, (host.launcher.replace arguments).1 = .exited code ∧
          (host.launch arguments none).ending = .exited (code % 256) ∧
          ((∀ image, ¬host.launcher.Starts arguments image) → code % 256 = 255)) := by
  have replaced := host.launcher.replace_eq arguments
  have waited := host.launcher.result_eq arguments
  refine ⟨?_, replaced, waited, ?_⟩
  · intro conduct pid early impartial exits passing
    apply Launcher.statuses_agree passing
    intro image starts
    obtain ⟨code, ends⟩ := exits image starts
    have same := impartial _ _ image (host.launcher.child_alike arguments)
    exact ⟨code, ends, same.symm.trans ends⟩
  · intro exits
    have nothing : ∀ answer ∈ ([] : List WaitAnswer), Waiting.Passing answer := by simp
    obtain ⟨code, result, ends, answered, status, unstarted⟩ :=
      @Launcher.statuses_agree host.launcher arguments ownConduct host.launcher.childPid [] nothing
        exits
    refine ⟨code, replaced.trans ends, ?_, unstarted⟩
    rw [host.ending_launch none (waited.trans answered), status]

/-- A program that exits with more than eight bits, and arguments that cannot be carried. -/
theorem replacing_agrees_with_waiting_scripted :
    let compiler := [Utf8.encode "/bin/gcc", Utf8.encode "-c"]
    let cut := [Utf8.encode "/bin/gcc", [0x61, 0]]
    let conduct : Conduct := fun _ image => .exited (image.arguments.length + 256)
    conduct.Impartial ∧
      (∃ result, scripted.launcher.replaced compiler conduct = .exited 260 ∧
        scripted.launcher.waited? compiler conduct 7 [.error .interrupted, .ok 0x137f] =
          some result ∧
        statusOf result = 4) ∧
      (∀ image, ¬scripted.launcher.Starts cut image) ∧
      (scripted.launch cut none).ending = .exited 255 := by
  intro compiler cut conduct
  have impartial : conduct.Impartial := fun _ _ _ _ => rfl
  have loads : (scripted.launcher.child compiler none).image =
      .ok ⟨Utf8.encode "sh", ["/bin/sh", "-e", "/bin/gcc", "-c"].map Utf8.encode⟩ := by
    decide +kernel
  have uncarried : ∀ image, ¬scripted.launcher.Starts cut image := by
    rintro image ⟨fit, -⟩
    have refused : ArgumentVector.check cut ≠ .ok () := by decide +kernel
    exact refused fit
  have passing : ∀ answer ∈ [Except.error Errno.interrupted, .ok (0x137f : UInt32)],
      Waiting.Passing answer :=
    List.forall_mem_cons.2 ⟨.interrupted, List.forall_mem_singleton.2 (.alive (by decide))⟩
  obtain ⟨agree, -⟩ := replacing_agrees_with_waiting scripted compiler
  obtain ⟨-, -, -, own⟩ := replacing_agrees_with_waiting scripted cut
  refine ⟨impartial, ?_, uncarried, ?_⟩
  · obtain ⟨code, result, ends, answered, status, -⟩ :=
      agree conduct 7 _ impartial (fun image _ => ⟨_, rfl⟩) passing
    have known : scripted.launcher.replaced compiler conduct = .exited 260 := by
      have fit : ArgumentVector.check compiler = .ok () := by decide +kernel
      unfold Launcher.replaced Forked.Process.ending
      rw [fit, ← (scripted.launcher.child_alike compiler).image, loads]
      rfl
    cases known.symm.trans ends
    exact ⟨result, known, answered, status⟩
  · obtain ⟨code, -, ends, unstarted⟩ := own fun image starts => absurd starts (uncarried image)
    rw [ends, unstarted uncarried]

end FrontEnd.Host

end CompilerLauncher
