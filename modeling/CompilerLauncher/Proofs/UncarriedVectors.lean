import CompilerLauncher.Proofs.SignalDelivery
import CompilerLauncher.Proofs.StartedProcess
import Mathlib.Data.List.TakeWhile

/-!
# Vectors that cannot be carried

A new image gets its arguments as they lie in memory, each up to its first zero byte
(`ArgumentVector.takenIn`). So a vector arrives as it is exactly if none of its arguments holds a
zero byte (`takenIn_laidOut_eq_iff`), and it names a program only if it is not empty. What a process
has as its arguments is what is taken in of the vector that was handed over (`Outcome.takes_in`).

The vectors that are refused are exactly the others (`check_eq_ok_iff`), each for the first reason
that there is (`Refusal`). A launch refuses before it asks the system for anything, so it leaves
everything as it was; a launch that does not refuse has a child that gets the whole vector
(`refused_iff_uncarried`).
-/

namespace CompilerLauncher

namespace ArgumentVector

/-! ## Reasons to refuse -/

/-- The vector is empty, or one of its arguments holds the byte that would end it. -/
def Uncarried (arguments : List Bytes) : Prop :=
  arguments = [] ∨ ∃ argument ∈ arguments, 0 ∈ argument

/-- The reason for which a vector is refused; of several arguments that hold a zero byte the first is
named. -/
inductive Refusal : List Bytes → String → Prop
  | empty : Refusal [] "empty argument vector"
  | cut {before after : List Bytes} {argument : Bytes}
    (whole : ∀ earlier ∈ before, 0 ∉ earlier) (holds : 0 ∈ argument) :
    Refusal (before ++ argument :: after)
      s!"argument contains a NUL byte: {Utf8.lossy argument}"

variable {arguments : List Bytes} {argument : Bytes}

theorem isCut_iff : isCut argument = true ↔ 0 ∈ argument :=
  List.contains_iff_mem

theorem firstCut?_eq_some_iff : firstCut? arguments = some argument ↔
    0 ∈ argument ∧ ∃ before after, arguments = before ++ argument :: after ∧
      ∀ earlier ∈ before, 0 ∉ earlier := by
  rw [firstCut?, List.find?_eq_some_iff_append, isCut_iff]
  simp only [Bool.not_eq_true', ← Bool.not_eq_true, isCut_iff]

theorem firstCut?_eq_none_iff :
    firstCut? arguments = none ↔ ∀ argument ∈ arguments, 0 ∉ argument := by
  rw [firstCut?, List.find?_eq_none]
  simp only [isCut_iff]

theorem Refusal.uncarried {reason : String} (refusal : Refusal arguments reason) :
    Uncarried arguments := by
  cases refusal with
  | empty => exact .inl rfl
  | cut _ holds => exact .inr ⟨_, List.mem_append_right _ (.head _), holds⟩

/-- A vector that cannot be carried is refused for its reason. -/
theorem exists_refusal (uncarried : Uncarried arguments) :
    ∃ reason, Refusal arguments reason ∧ check arguments = .error (.invalidArgument reason) := by
  by_cases empty : arguments = []
  · subst empty
    exact ⟨_, .empty, rfl⟩
  obtain none | ⟨cut, member, holds⟩ := uncarried
  · exact absurd none empty
  cases first : firstCut? arguments with
  | none => exact absurd holds (firstCut?_eq_none_iff.1 first cut member)
  | some argument =>
    have refused : check arguments =
        .error (.invalidArgument s!"argument contains a NUL byte: {Utf8.lossy argument}") := by
      simp only [check, if_neg empty, first]
    obtain ⟨here, before, after, rfl, whole⟩ := firstCut?_eq_some_iff.1 first
    exact ⟨_, .cut whole here, refused⟩

theorem check_eq_ok_iff : check arguments = .ok () ↔ ¬Uncarried arguments := by
  constructor
  · intro fit uncarried
    obtain ⟨reason, -, refused⟩ := exists_refusal uncarried
    rw [fit] at refused
    cases refused
  · intro carried
    have nonempty : arguments ≠ [] := fun empty => carried (.inl empty)
    have whole : firstCut? arguments = none :=
      firstCut?_eq_none_iff.2 fun argument member holds => carried (.inr ⟨argument, member, holds⟩)
    simp only [check, if_neg nonempty, whole]

/-! ## Vectors in memory -/

/-- A vector in memory: each argument with the byte that ends it, and an empty slot behind them. -/
def laidOut (arguments : List Bytes) : List (Option Bytes) :=
  arguments.map (fun argument => some (argument ++ [0])) ++ [none]

/-- What a new image takes from memory: the slots up to the first empty one, and of each the bytes up
to the first zero. -/
def takenIn : List (Option Bytes) → List Bytes
  | [] | none :: _ => []
  | some bytes :: rest => bytes.takeWhile (· != 0) :: takenIn rest

theorem takenIn_laidOut (arguments : List Bytes) :
    takenIn (laidOut arguments) = arguments.map fun argument => argument.takeWhile (· != 0) := by
  induction arguments with
  | nil => rfl
  | cons argument rest ih =>
    have ended : (argument ++ [0]).takeWhile (· != 0) = argument.takeWhile (· != 0) := by
      induction argument with
      | nil => rfl
      | cons byte later same =>
        rw [List.cons_append, List.takeWhile_cons, List.takeWhile_cons, same]
    rw [List.map_cons, ← ih, ← ended]
    rfl

/-- A vector arrives as it is exactly if none of its arguments holds a zero byte. -/
theorem takenIn_laidOut_eq_iff :
    takenIn (laidOut arguments) = arguments ↔ ∀ argument ∈ arguments, 0 ∉ argument := by
  rw [takenIn_laidOut]
  induction arguments with
  | nil => simp
  | cons argument rest ih =>
    have whole : argument.takeWhile (· != 0) = argument ↔ 0 ∉ argument := by
      rw [List.takeWhile_eq_self_iff]
      simp only [bne_iff_ne]
      exact ⟨fun differs zero => differs 0 zero rfl,
        fun absent byte member zero => absent (zero ▸ member)⟩
    rw [List.map_cons, List.cons.injEq, List.forall_mem_cons, ih, whole]

/-- A vector that is not refused arrives as it is. -/
theorem takenIn_of_check (fit : check arguments = .ok ()) :
    takenIn (laidOut arguments) = arguments :=
  takenIn_laidOut_eq_iff.2 fun argument member holds =>
    check_eq_ok_iff.1 fit (.inr ⟨argument, member, holds⟩)

end ArgumentVector

namespace FrontEnd.Outcome

open ArgumentVector (laidOut takenIn)

/-- A run hands over a vector, and its process has what is taken in of that vector from memory: the
first argument is the path of its image, and all of them are the arguments that the image gets. -/
theorem takes_in {outcome : Outcome} {process : Forked.Process}
    (found : outcome.process? = some process) :
    ∃ vector, outcome.start? = some (process.launcher.storage.tree, vector) ∧
      process.start.arguments = takenIn (laidOut vector) ∧
      process.image = Image.load process.launcher.storage.tree
        ((takenIn (laidOut vector)).headD []) (takenIn (laidOut vector)) := by
  refine ⟨process.start.arguments, start?_of_process found, ?_⟩
  rw [ArgumentVector.takenIn_of_check (check_of_process found)]
  exact ⟨rfl, rfl⟩

end FrontEnd.Outcome

namespace Forked

open ArgumentVector (Uncarried Refusal laidOut takenIn)

variable {arguments : List Bytes}

/-- The child of a launch that does not refuse its vector has what is taken in of it from memory. -/
theorem arguments_childOf (fit : ArgumentVector.check arguments = .ok ()) (state : State)
    (descriptors : Descriptors) (sinks : Option (Nat × Nat)) :
    (childOf state arguments descriptors sinks).arguments = takenIn (laidOut arguments) :=
  (ArgumentVector.takenIn_of_check fit).symm

/-- A launch forks exactly if its vector can be carried. -/
theorem forks_iff (answer : ForkAnswer) (waits : List WaitAnswer) :
    (∃ asked, .fork asked ∈ actions arguments answer waits) ↔ ¬Uncarried arguments := by
  constructor
  · rintro ⟨asked, forked⟩ uncarried
    obtain ⟨reason, -, refused⟩ := ArgumentVector.exists_refusal uncarried
    simp [actions_of_refused refused] at forked
  · intro carried
    refine ⟨answer, ?_⟩
    rw [actions, ArgumentVector.check_eq_ok_iff.2 carried]
    dsimp only
    rw [forking_eq]
    simp

/-- A launch that refuses its vector answers at once, and all that it does is to give up the files
that a child would have written to. -/
theorem refused_of_check {error : LaunchError}
    (refused : ArgumentVector.check arguments = .error error) (launcher : Launcher)
    (sinks : Option (Nat × Nat)) :
    let report := launcher.execute arguments sinks
    report.result = some (.error error) ∧ report.storage = launcher.storage ∧
      ∀ state ∈ report.states, state.mask = launcher.mask ∧ state.recorded = launcher.recorded ∧
        state.child = .none := by
  intro report
  have reported := launcher.execute_of_refused sinks refused
  refine ⟨congrArg _ reported, congrArg _ reported, ?_⟩
  have states : report.states = (launcher.initial sinks).run [.releaseSinks] :=
    congrArg _ reported
  rw [states]
  simp [State.run, State.perform, Launcher.initial]

/-- **A launch refuses without forking exactly if its vector is empty or an argument holds a zero
byte.** It names the first such argument and leaves mask, recorded pid and files as they were. The
child of every other launch whose fork succeeds is given the first argument as its path and all
arguments, and takes them in byte for byte. -/
theorem refused_iff_uncarried (arguments : List Bytes) :
    (∀ answer waits, (∀ asked, .fork asked ∉ actions arguments answer waits) ↔
        Uncarried arguments) ∧
      (Uncarried arguments → ∃ reason, Refusal arguments reason ∧
        (∀ answer waits,
          result? arguments answer waits = some (.error (.invalidArgument reason))) ∧
        ∀ (launcher : Launcher) sinks,
          let report := launcher.execute arguments sinks
          report.result = some (.error (.invalidArgument reason)) ∧
            report.storage = launcher.storage ∧
            ∀ state ∈ report.states, state.mask = launcher.mask ∧
              state.recorded = launcher.recorded ∧ state.child = .none) ∧
      (¬Uncarried arguments → ∃ path rest, arguments = path :: rest ∧
        takenIn (laidOut arguments) = arguments ∧
        (∀ pid waits, .fork (.ok pid) ∈ actions arguments (.ok pid) waits) ∧
        ∀ (launcher : Launcher) sinks,
          let child := launcher.child arguments sinks
          child.start.arguments = arguments ∧
            child.image = Image.load launcher.storage.tree path arguments ∧
            (launcher.execute arguments sinks).storage = child.finish.2) := by
  refine ⟨?_, ?_, ?_⟩
  · intro answer waits
    rw [← not_exists, forks_iff, not_not]
  · intro uncarried
    obtain ⟨reason, refusal, refused⟩ := ArgumentVector.exists_refusal uncarried
    exact ⟨reason, refusal, result?_of_refused refused, refused_of_check refused⟩
  · intro carried
    have fit := ArgumentVector.check_eq_ok_iff.2 carried
    obtain ⟨path, rest, rfl⟩ :=
      List.exists_cons_of_ne_nil fun empty => carried (.inl empty)
    refine ⟨path, rest, rfl, ArgumentVector.takenIn_of_check fit, ?_, ?_⟩
    · intro pid waits
      rw [actions_of_check fit]
      simp [opening]
    · intro launcher sinks child
      exact ⟨rfl, rfl, launcher.storage_execute sinks fit⟩

/-- Of two arguments that hold a zero byte the first is named, which spells no text. Without them
there is an empty argument and one that spells no text. -/
theorem refused_iff_uncarried_scripted :
    let launcher : Launcher :=
      { FrontEnd.Host.scripted.launcher with
        mask := SignalMask.ofList [Signal.terminate, Signal.user1], recorded := 77 }
    let whole := [Utf8.encode "/bin/gcc", [], [0xff]]
    let cut := whole ++ [[0x61, 0xff, 0], [0]]
    let report := launcher.execute cut (some (5, 6))
    Uncarried cut ∧
      report.result =
        some (.error (.invalidArgument "argument contains a NUL byte: a\uFFFD\x00")) ∧
      report.storage = launcher.storage ∧
      (∀ state ∈ report.states, state.mask = launcher.mask ∧ state.recorded = 77 ∧
        state.child = .none) ∧
      ¬Uncarried whole ∧ takenIn (laidOut whole) = whole ∧
      (launcher.child whole none).image =
        Image.load launcher.storage.tree (Utf8.encode "/bin/gcc") whole := by
  intro launcher whole cut report
  have uncarried : Uncarried cut := .inr ⟨[0x61, 0xff, 0], by decide, by decide⟩
  have carried : ¬Uncarried whole := by
    rintro (empty | ⟨argument, member, holds⟩)
    · exact List.cons_ne_nil _ _ empty
    · have none : ∀ argument ∈ whole, 0 ∉ argument := by decide +kernel
      exact none argument member holds
  have answer : result? cut (.ok 1) [] =
      some (.error (.invalidArgument "argument contains a NUL byte: a\uFFFD\x00")) := by
    decide +kernel
  obtain ⟨-, refuses, -⟩ := refused_iff_uncarried cut
  obtain ⟨reason, -, answers, reports⟩ := refuses uncarried
  have named := (answers (.ok 1) []).symm.trans answer
  obtain ⟨result, storage, states⟩ := reports launcher (some (5, 6))
  obtain ⟨-, -, starts⟩ := refused_iff_uncarried whole
  obtain ⟨path, rest, parts, taken, -, child⟩ := starts carried
  obtain ⟨rfl, -⟩ := List.cons.inj parts
  exact ⟨uncarried, result.trans named, storage, states, carried, taken, (child launcher none).2.1⟩

end Forked

end CompilerLauncher
