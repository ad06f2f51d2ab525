import CompilerLauncher.Proofs.LaunchPoints
import Mathlib.Tactic.ByContra

/-!
# Signals that are delivered during a launch

Between two actions of a launch, any number of termination signals may be delivered to the launching
thread, each while it is not held back (`Course`). A handler that runs then reads the recorded pid
and changes nothing, so it finds the state that the actions before it have made (`Course.split`), and
what it can read is read off the points at which a termination signal is not held back.

The pid of a child that is not known to be gone is always recorded there, so that no handler misses
it (`handler_reads_child`). The converse fails at one point, which comes after the wait that has told
the child's end and before the guard under which its pid is cleared: the kernel may have given the
number to another process by then (`never_stale_iff`).
-/

namespace CompilerLauncher

namespace Forked

/-! ## Courses -/

/-- Something that happens in the launching thread: an action of its own, or the delivery of a
signal, whose handler runs. -/
inductive Happening
  | acted (action : Action)
  | delivered (signal : Signal)
  deriving Repr

/-- The action that has happened, if it was one. -/
def Happening.action? : Happening → Option Action
  | acted action => some action
  | delivered _ => none

/-- The actions among what has happened. -/
def performed (happenings : List Happening) : List Action :=
  happenings.filterMap Happening.action?

/-- What happens, up to any moment, from a state in which the given actions are to be done: they are
done in order, and a termination signal is delivered only while it is not held back. -/
inductive Course : State → List Action → List Happening → Prop
  | upToHere (state : State) (actions : List Action) : Course state actions []
  | acted {state : State} {action : Action} {rest : List Action} {later : List Happening}
    (course : Course (state.perform action) rest later) :
    Course state (action :: rest) (.acted action :: later)
  | delivered {state : State} {actions : List Action} {signal : Signal} {later : List Happening}
    (terminates : signal ∈ Signal.termination) (free : state.mask signal = false)
    (course : Course state actions later) :
    Course state actions (.delivered signal :: later)

/-- What a handler reads as the child's pid: 0 is recorded for none. -/
def State.compilerPid? (state : State) : Option Pid :=
  if state.recorded = 0 then none else some state.recorded

@[simp] theorem performed_acted (action : Action) (later : List Happening) :
    performed (.acted action :: later) = action :: performed later := rfl

theorem performed_map_acted (actions : List Action) :
    performed (actions.map .acted) = actions := by
  induction actions with
  | nil => rfl
  | cons action rest ih => rw [List.map_cons, performed_acted, ih]

/-- A course goes on from the state that its actions have made, with those that are left. -/
theorem Course.split {state : State} {actions : List Action} {before later : List Happening}
    (course : Course state actions (before ++ later)) :
    ∃ rest, actions = performed before ++ rest ∧
      Course (state.after (performed before)) rest later := by
  induction before generalizing state actions with
  | nil => exact ⟨actions, rfl, course⟩
  | cons happening before ih =>
    cases course with
    | acted course =>
      obtain ⟨rest, same, onward⟩ := ih course
      exact ⟨rest, congrArg _ same, onward⟩
    | delivered terminates free course =>
      obtain ⟨rest, same, onward⟩ := ih course
      exact ⟨rest, same, onward⟩

/-- Nothing need be delivered before a given moment. -/
theorem Course.of_after {state : State} {rest : List Action} {later : List Happening}
    (done : List Action) (course : Course (state.after done) rest later) :
    Course state (done ++ rest) (done.map .acted ++ later) := by
  induction done generalizing state with
  | nil => exact course
  | cons action done ih => exact .acted (ih course)

/-! ## What a launch waits for -/

theorem actions_of_check {arguments : List Bytes} (fit : ArgumentVector.check arguments = .ok ())
    (pid : Pid) (waits : List WaitAnswer) :
    actions arguments (.ok pid) waits = opening pid ++ waiting waits := by
  rw [actions, fit]
  rfl

theorem mem_waiting {wait : WaitAnswer} {waits : List WaitAnswer} :
    .wait wait ∈ waiting waits ↔ wait ∈ used waits := by
  rw [waiting]
  split <;> simp [closing]

/-- A launch that waits has a child. -/
theorem exists_child_of_wait {arguments : List Bytes} {answer : ForkAnswer}
    {waits : List WaitAnswer} {wait : WaitAnswer}
    (waited : .wait wait ∈ actions arguments answer waits) :
    ArgumentVector.check arguments = .ok () ∧ ∃ pid, answer = .ok pid := by
  cases checked : ArgumentVector.check arguments with
  | error error => simp [actions_of_refused checked] at waited
  | ok _ =>
    cases answer with
    | error cause => simp [actions, checked, forking_eq, following] at waited
    | ok pid => exact ⟨rfl, pid, rfl⟩

/-- A pid that a launch has forked is the one that the fork has answered. -/
theorem eq_of_mem_actions {arguments : List Bytes} {answer : ForkAnswer} {waits : List WaitAnswer}
    {pid : Pid} (forked : .fork (.ok pid) ∈ actions arguments answer waits) : answer = .ok pid := by
  cases checked : ArgumentVector.check arguments with
  | error error => simp [actions_of_refused checked] at forked
  | ok _ =>
    have unforked : .fork (.ok pid) ∉ waiting waits := by
      rw [waiting]
      split <;> simp [closing]
    cases answer with
    | error cause => simp [actions, checked, forking_eq, following] at forked
    | ok other =>
      rw [actions_of_check checked] at forked
      have same : pid = other := by simpa [opening, unforked] using forked
      rw [same]

/-! ## Children that are there -/

/-- Whenever a signal is delivered after the fork and before the child is known to be gone, the
handler reads the child's pid; and the recorded pid is written only while all termination signals are
held back. -/
theorem handler_reads_child (mask : SignalMask) (recorded : Pid) (holds : Bool)
    (arguments : List Bytes) {answer : ForkAnswer} (numbered : ∀ pid, answer = .ok pid → pid ≠ 0)
    (waits : List WaitAnswer) {happenings : List Happening}
    (course : Course ⟨mask, [], recorded, .none, holds⟩ (actions arguments answer waits)
      happenings) :
    (∀ before signal later, happenings = before ++ .delivered signal :: later →
      ∀ pid, .fork (.ok pid) ∈ performed before →
        (∀ wait, .wait wait ∈ performed before → State.ends wait = false) →
        (State.after ⟨mask, [], recorded, .none, holds⟩ (performed before)).compilerPid? =
          some pid) ∧
      ∀ before action later, happenings = before ++ .acted action :: later →
        action.writes = true → ∀ signal ∈ Signal.termination,
          (State.after ⟨mask, [], recorded, .none, holds⟩ (performed before)).mask signal =
            true := by
  constructor
  · rintro before signal later rfl pid forked quiet
    obtain ⟨rest, parts, onward⟩ := course.split
    have point := point_of_actions_eq mask recorded holds parts
    have present := point.child_of_forked forked quiet
    have child : .fork (.ok pid) ∈ actions arguments answer waits := by
      rw [parts]
      exact List.mem_append_left rest forked
    cases onward with
    | delivered terminates free =>
      have read := point.recorded_of_present terminates free present
      rw [State.compilerPid?, read, if_neg (numbered pid (eq_of_mem_actions child))]
  · rintro before action later rfl writes signal terminates
    obtain ⟨rest, parts, onward⟩ := course.split
    have point := point_of_actions_eq mask recorded holds parts
    cases onward with
    | acted =>
      rw [point.mask_of_writes writes]
      exact mask.guarded_of_mem terminates

/-- A signal is delivered between an interrupted wait and the next one. -/
theorem handler_reads_child_interrupted :
    let start : State := ⟨SignalMask.empty, [], 0, .none, true⟩
    let arguments := [Utf8.encode "/bin/true"]
    let done := opening 4242 ++ [.wait (.error .interrupted)]
    (∀ pid, (.ok 4242 : ForkAnswer) = .ok pid → pid ≠ 0) ∧
      Course start (actions arguments (.ok 4242) [.error .interrupted, .ok 0])
        (done.map .acted ++ [.delivered Signal.terminate]) ∧
      (start.after done).compilerPid? = some 4242 ∧
      ∀ signal ∈ Signal.termination,
        (start.after [.block, .fork (.ok 4242)]).mask signal = true := by
  intro start arguments done
  have numbered : ∀ pid, (.ok 4242 : ForkAnswer) = .ok pid → pid ≠ 0 := by
    rintro pid ⟨⟩
    decide
  have fit : ArgumentVector.check arguments = .ok () := rfl
  have course : Course start (actions arguments (.ok 4242) [.error .interrupted, .ok 0])
      (done.map .acted ++ [.delivered Signal.terminate]) := by
    rw [actions_of_check fit, waiting_cons]
    exact Course.of_after done (.delivered (by decide) rfl (.upToHere _ _))
  obtain ⟨reads, writes⟩ := handler_reads_child SignalMask.empty 0 true arguments numbered
    [.error .interrupted, .ok 0] course
  refine ⟨numbered, course, ?_, ?_⟩
  · have read := reads (done.map .acted) Signal.terminate [] rfl 4242
    rw [performed_map_acted] at read
    refine read (by simp [done, opening]) ?_
    intro wait member
    have interrupted : wait = .error .interrupted := by simpa [done, opening] using member
    rw [interrupted]
    rfl
  · exact writes [.acted .block, .acted (.fork (.ok 4242))] (.record 4242) _ rfl rfl

/-! ## Children that are no longer there -/

/-- The kernel hands the child's end over, and the child's number is free from then on. The lowest
seven bits of a word are all set for a child that is still there. -/
def reaps : WaitAnswer → Bool
  | .ok word => word.toNat % 128 != 127
  | .error _ => false

/-- A child whose end has been handed over is known to be gone, even if its end cannot be read. -/
theorem ends_of_reaps {answer : WaitAnswer} (reaped : reaps answer = true) :
    State.ends answer = true := by
  cases answer with
  | error cause => cases reaped
  | ok word =>
    have low : word.toNat % 128 < 127 := by
      have differs : word.toNat % 128 ≠ 127 := by simpa [reaps] using reaped
      omega
    rw [ends_eq_isSome_decision?]
    apply Waiting.isSome_decision?_ok
    rw [WaitStatus.decode]
    by_cases exited : word.toNat % 128 = 0
    · rw [if_pos exited]
      nofun
    · rw [if_neg exited, if_pos low]
      cases WaitStatus.isStandard (word.toNat % 128) <;> nofun

/-- One of the actions is a wait that has handed the child's end over. -/
def Reaped (done : List Action) : Prop :=
  ∃ answer, .wait answer ∈ done ∧ reaps answer = true

/-- In no course does a handler read a pid after its child's end has been handed over. -/
def NeverStale (state : State) (actions : List Action) : Prop :=
  ∀ before signal later, Course state actions (before ++ .delivered signal :: later) →
    ∀ pid, (state.after (performed before)).compilerPid? = some pid → ¬Reaped (performed before)

theorem recorded_ne_zero {state : State} {pid : Pid} (read : state.compilerPid? = some pid) :
    state.recorded ≠ 0 := by
  intro none
  rw [State.compilerPid?, if_pos none] at read
  cases read

/-- The waits that a launch uses leave the child there until one of them ends it. -/
theorem after_used (mask : SignalMask) (pid : Pid) (waits : List WaitAnswer) :
    State.after ⟨mask, [], pid, .present pid, false⟩ ((used waits).map .wait) =
      ⟨mask, [], pid, if (Waiting.untilEnd waits).isSome then .gone pid else .present pid,
        false⟩ := by
  induction waits with
  | nil =>
    rw [used_nil, Waiting.untilEnd_nil]
    rfl
  | cons answer rest ih =>
    rw [used_cons, isSome_untilEnd_cons]
    cases ended : State.ends answer with
    | true =>
      have gone := State.perform_wait mask pid answer
      rw [ended] at gone
      exact gone
    | false =>
      have there := State.perform_wait mask pid answer
      rw [ended] at there
      simp only [Bool.false_eq_true, if_false, List.map_cons, Bool.false_or]
      rw [State.after_cons, there]
      exact ih

theorem isSome_untilEnd_of_mem_used {wait : WaitAnswer} {waits : List WaitAnswer}
    (member : wait ∈ used waits) (ends : State.ends wait = true) :
    (Waiting.untilEnd waits).isSome = true := by
  induction waits with
  | nil => simp at member
  | cons answer rest ih =>
    rw [isSome_untilEnd_cons]
    rw [used_cons] at member
    cases ended : State.ends answer with
    | true => rfl
    | false =>
      rw [ended, if_neg Bool.false_ne_true, List.mem_cons] at member
      rcases member with rfl | later
      · rw [ended] at ends
        cases ends
      · exact ih later

/-- The moment at which everything but the closing has been done. -/
def atWindow (pid : Pid) (waits : List WaitAnswer) : List Action :=
  opening pid ++ (used waits).map .wait

/-- At that moment the caller's mask is in force and the pid is recorded. -/
theorem after_atWindow (mask : SignalMask) (recorded : Pid) (holds : Bool) (pid : Pid)
    {waits : List WaitAnswer} (settled : (Waiting.untilEnd waits).isSome = true) :
    State.after ⟨mask, [], recorded, .none, holds⟩ (atWindow pid waits) =
      ⟨mask, [], pid, .gone pid, false⟩ := by
  rw [atWindow, State.after_append]
  refine (after_used mask pid waits).trans ?_
  rw [if_pos settled]

/-- A signal that the caller does not hold back can be delivered at that moment. -/
theorem course_to_window {mask : SignalMask} {signal : Signal}
    (terminates : signal ∈ Signal.termination) (free : mask signal = false) (recorded : Pid)
    (holds : Bool) {arguments : List Bytes} (fit : ArgumentVector.check arguments = .ok ())
    (pid : Pid) {waits : List WaitAnswer} (settled : (Waiting.untilEnd waits).isSome = true) :
    Course ⟨mask, [], recorded, .none, holds⟩ (actions arguments (.ok pid) waits)
      ((atWindow pid waits).map .acted ++ [.delivered signal]) := by
  have parts : actions arguments (.ok pid) waits = atWindow pid waits ++ closing := by
    rw [actions_of_check fit, waiting, if_pos settled, atWindow, List.append_assoc]
  rw [parts]
  refine Course.of_after _ (.delivered terminates ?_ (.upToHere _ _))
  rw [after_atWindow mask recorded holds pid settled]
  exact free

/-- A pid whose child's end has been handed over can only be read between the last wait and the
closing. -/
theorem closing_of_stale {mask : SignalMask} {holds : Bool} {remaining : List Action}
    {arguments : List Bytes} {answer : ForkAnswer} {waits : List WaitAnswer}
    (same : remaining = actions arguments answer waits) {before later : List Happening}
    {signal : Signal} {pid : Pid}
    (course : Course ⟨mask, [], 0, .none, holds⟩ remaining (before ++ .delivered signal :: later))
    (read : (State.after ⟨mask, [], 0, .none, holds⟩ (performed before)).compilerPid? = some pid)
    (reaped : Reaped (performed before)) : remaining = performed before ++ closing := by
  obtain ⟨rest, parts, onward⟩ := course.split
  have point := point_of_actions_eq mask 0 holds (same.symm.trans parts)
  obtain ⟨wait, waited, reaped⟩ := reaped
  cases onward with
  | delivered terminates free =>
    rw [parts, point.closing_of_ended terminates free (recorded_ne_zero read) waited
      (ends_of_reaps reaped)]

/-- A handler never reads the pid of a child whose end has been handed over, exactly if the caller
holds all termination signals back itself or no end is handed over; and it can only read one between
the last wait and the closing. -/
theorem never_stale_iff (mask : SignalMask) (holds : Bool) (arguments : List Bytes)
    {answer : ForkAnswer} (numbered : ∀ pid, answer = .ok pid → pid ≠ 0)
    (waits : List WaitAnswer) :
    (NeverStale ⟨mask, [], 0, .none, holds⟩ (actions arguments answer waits) ↔
      (∀ signal ∈ Signal.termination, mask signal = true) ∨
        ¬Reaped (actions arguments answer waits)) ∧
      ∀ before signal later pid,
        Course ⟨mask, [], 0, .none, holds⟩ (actions arguments answer waits)
          (before ++ .delivered signal :: later) →
        (State.after ⟨mask, [], 0, .none, holds⟩ (performed before)).compilerPid? = some pid →
        Reaped (performed before) →
        actions arguments answer waits = performed before ++ closing := by
  refine ⟨⟨?_, ?_⟩, fun _ _ _ _ => closing_of_stale rfl⟩
  · intro never
    by_contra failing
    push Not at failing
    obtain ⟨⟨signal, terminates, unheld⟩, wait, waited, reaped⟩ := failing
    have free : mask signal = false := by simpa using unheld
    obtain ⟨fit, pid, rfl⟩ := exists_child_of_wait waited
    have member : wait ∈ used waits := by
      rw [actions_of_check fit] at waited
      exact mem_waiting.1 (by simpa [opening] using waited)
    have settled := isSome_untilEnd_of_mem_used member (ends_of_reaps reaped)
    refine never _ signal [] (course_to_window terminates free 0 holds fit pid settled) pid ?_ ?_
    · rw [performed_map_acted, after_atWindow mask 0 holds pid settled, State.compilerPid?,
        if_neg (numbered pid rfl)]
    · rw [performed_map_acted]
      exact ⟨wait, by simp [atWindow, member], reaped⟩
  · rintro (held | unreaped) before signal later course pid - reaped
    · obtain ⟨rest, parts, onward⟩ := course.split
      have point := point_of_actions_eq mask 0 holds parts
      cases onward with
      | delivered terminates free =>
        rw [point.mask_of_held (held signal terminates)] at free
        cases free
    · obtain ⟨rest, parts, -⟩ := course.split
      obtain ⟨wait, waited, reaps⟩ := reaped
      apply unreaped
      rw [parts]
      exact ⟨wait, List.mem_append_left rest waited, reaps⟩

/-- A child that exits at once, launched by a caller that holds nothing back. -/
theorem never_stale_iff_exited :
    (∀ pid, (.ok 4242 : ForkAnswer) = .ok pid → pid ≠ 0) ∧
      ¬NeverStale ⟨SignalMask.empty, [], 0, .none, false⟩
        (actions [Utf8.encode "/bin/true"] (.ok 4242) [.ok 0]) := by
  have numbered : ∀ pid, (.ok 4242 : ForkAnswer) = .ok pid → pid ≠ 0 := by
    rintro pid ⟨⟩
    decide
  have fit : ArgumentVector.check [Utf8.encode "/bin/true"] = .ok () := rfl
  have reaped : Reaped (actions [Utf8.encode "/bin/true"] (.ok 4242) [.ok 0]) := by
    rw [actions_of_check fit, waiting_cons]
    exact ⟨.ok 0, by simp, rfl⟩
  refine ⟨numbered, fun never => ?_⟩
  rcases (never_stale_iff SignalMask.empty false _ numbered _).1.1 never with held | unreaped
  · cases held Signal.terminate (by decide)
  · exact unreaped reaped

/-- The signal comes after the wait that has told that the child exited, and the handler reads the
child's pid, although the child is no more. -/
theorem exited_child_is_read :
    let start : State := ⟨SignalMask.empty, [], 0, .none, false⟩
    let launch := actions [Utf8.encode "/bin/true"] (.ok 4242) [.ok 0]
    let done := opening 4242 ++ [.wait (.ok 0)]
    Course start launch (done.map .acted ++ [.delivered Signal.terminate]) ∧
      (start.after done).compilerPid? = some 4242 ∧ Reaped done ∧ ¬NeverStale start launch := by
  intro start launch done
  have course : Course start launch (done.map .acted ++ [.delivered Signal.terminate]) := by
    have fit : ArgumentVector.check [Utf8.encode "/bin/true"] = .ok () := rfl
    change Course start (actions _ _ _) _
    rw [actions_of_check fit, waiting_cons]
    exact Course.of_after done (.delivered (by decide) rfl (.upToHere _ _))
  have read : (start.after done).compilerPid? = some 4242 := rfl
  have reaped : Reaped done := ⟨.ok 0, by simp [done], rfl⟩
  refine ⟨course, read, reaped, ?_⟩
  intro never
  have stale := never (done.map .acted) Signal.terminate [] course 4242
  rw [performed_map_acted] at stale
  exact stale read reaped

end Forked

end CompilerLauncher
