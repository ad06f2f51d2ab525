import CompilerLauncher.Proofs.WaitLoop

/-!
# The points of a launch

`Point` lists the moments of a launch: what has been done, the state that this has made of the
launcher, and what is left to do. Every action leads from a point to a point (`Point.step`), so the
launcher is at a point whenever it pauses (`point_of_actions_eq`), and what holds at every point
holds throughout the launch.

Between the first guard and the second the list of actions is as long as the child takes to end; the
points of this stretch differ in the answers that the waits have had, none of which tells an end.
-/

namespace CompilerLauncher

/-- A guard holds every termination signal back. -/
theorem SignalMask.guarded_of_mem (mask : SignalMask) {signal : Signal}
    (terminates : signal ∈ Signal.termination) : mask.guarded signal = true := by
  simp [guarded, terminates]

namespace Forked

/-! ## The actions of a launch -/

/-- What is done from the first guard until the first wait, once there is a child. -/
def opening (pid : Pid) : List Action :=
  [.block, .fork (.ok pid), .record pid, .unblock, .releaseSinks]

/-- What is done once the child is known to be gone. -/
def closing : List Action := [.block, .clear, .unblock]

/-- What is done for a child: the waits, and the closing if they are settled. -/
def waiting (waits : List WaitAnswer) : List Action :=
  (used waits).map .wait ++ if (Waiting.untilEnd waits).isSome then closing else []

/-- What is done after a fork. -/
def following (waits : List WaitAnswer) : ForkAnswer → List Action
  | .error _ => [.unblock, .releaseSinks]
  | .ok pid => .record pid :: .unblock :: .releaseSinks :: waiting waits

theorem forking_eq (answer : ForkAnswer) (waits : List WaitAnswer) :
    forking answer waits = .block :: .fork answer :: following waits answer := by
  cases answer <;> rfl

@[simp] theorem waiting_nil : waiting [] = [] := by
  rw [waiting, used_nil, Waiting.untilEnd_nil]
  rfl

theorem waiting_cons (answer : WaitAnswer) (rest : List WaitAnswer) :
    waiting (answer :: rest) =
      .wait answer :: if State.ends answer then closing else waiting rest := by
  rw [waiting, used_cons, isSome_untilEnd_cons]
  cases State.ends answer <;> simp [waiting]

/-! ## The points of a launch -/

/-- A moment of a launch that began with the given mask and recorded pid: the actions done, the state
that they have made, and the actions left. -/
inductive Point (mask : SignalMask) (recorded : Pid) :
    List Action → State → List Action → Prop
  | refused (holds : Bool) :
    Point mask recorded [] ⟨mask, [], recorded, .none, holds⟩ [.releaseSinks]
  | idle (holds : Bool) (answer : ForkAnswer) (waits : List WaitAnswer) :
    Point mask recorded [] ⟨mask, [], recorded, .none, holds⟩
      (.block :: .fork answer :: following waits answer)
  | guarded (holds : Bool) (answer : ForkAnswer) (waits : List WaitAnswer) :
    Point mask recorded [.block] ⟨mask.guarded, [mask], recorded, .none, holds⟩
      (.fork answer :: following waits answer)
  | unforked (holds : Bool) (cause : Errno) :
    Point mask recorded [.block, .fork (.error cause)]
      ⟨mask.guarded, [mask], recorded, .none, holds⟩ [.unblock, .releaseSinks]
  | childless (holds : Bool) (cause : Errno) :
    Point mask recorded [.block, .fork (.error cause), .unblock]
      ⟨mask, [], recorded, .none, holds⟩ [.releaseSinks]
  | failed {done : List Action} (none : ∀ pid, .fork (.ok pid) ∉ done)
    (unwaited : ∀ answer, .wait answer ∉ done) :
    Point mask recorded done ⟨mask, [], recorded, .none, false⟩ []
  | forked (holds : Bool) (pid : Pid) (waits : List WaitAnswer) :
    Point mask recorded [.block, .fork (.ok pid)]
      ⟨mask.guarded, [mask], recorded, .present pid, holds⟩
      (.record pid :: .unblock :: .releaseSinks :: waiting waits)
  | noted (holds : Bool) (pid : Pid) (waits : List WaitAnswer) :
    Point mask recorded [.block, .fork (.ok pid), .record pid]
      ⟨mask.guarded, [mask], pid, .present pid, holds⟩
      (.unblock :: .releaseSinks :: waiting waits)
  | unguarded (holds : Bool) (pid : Pid) (waits : List WaitAnswer) :
    Point mask recorded [.block, .fork (.ok pid), .record pid, .unblock]
      ⟨mask, [], pid, .present pid, holds⟩ (.releaseSinks :: waiting waits)
  | waits (pid : Pid) {answered : List WaitAnswer}
    (quiet : ∀ answer ∈ answered, State.ends answer = false) (waits : List WaitAnswer) :
    Point mask recorded (opening pid ++ answered.map .wait)
      ⟨mask, [], pid, .present pid, false⟩ (waiting waits)
  | settled (pid : Pid) {answered : List WaitAnswer}
    (ended : ∃ answer ∈ answered, State.ends answer = true) :
    Point mask recorded (opening pid ++ answered.map .wait)
      ⟨mask, [], pid, .gone pid, false⟩ closing
  | reguarded (pid : Pid) {answered : List WaitAnswer}
    (ended : ∃ answer ∈ answered, State.ends answer = true) :
    Point mask recorded (opening pid ++ answered.map .wait ++ [.block])
      ⟨mask.guarded, [mask], pid, .gone pid, false⟩ [.clear, .unblock]
  | cleared (pid : Pid) {answered : List WaitAnswer}
    (ended : ∃ answer ∈ answered, State.ends answer = true) :
    Point mask recorded (opening pid ++ answered.map .wait ++ [.block, .clear])
      ⟨mask.guarded, [mask], 0, .gone pid, false⟩ [.unblock]
  | finished (pid : Pid) {answered : List WaitAnswer}
    (ended : ∃ answer ∈ answered, State.ends answer = true) :
    Point mask recorded (opening pid ++ answered.map .wait ++ closing)
      ⟨mask, [], 0, .gone pid, false⟩ []

variable {mask : SignalMask} {recorded : Pid} {done rest : List Action} {state : State}

theorem point_of_actions (mask : SignalMask) (recorded : Pid) (holds : Bool)
    (arguments : List Bytes) (answer : ForkAnswer) (waits : List WaitAnswer) :
    Point mask recorded [] ⟨mask, [], recorded, .none, holds⟩
      (actions arguments answer waits) := by
  cases checked : ArgumentVector.check arguments with
  | error error =>
    rw [actions_of_refused checked]
    exact .refused holds
  | ok _ =>
    rw [actions, checked]
    dsimp only
    rw [forking_eq]
    exact .idle holds answer waits

theorem State.after_cons (state : State) (action : Action) (rest : List Action) :
    state.after (action :: rest) = (state.perform action).after rest := rfl

theorem State.after_append (state : State) (first second : List Action) :
    state.after (first ++ second) = (state.after first).after second :=
  List.foldl_append

theorem State.perform_wait (mask : SignalMask) (pid : Pid) (answer : WaitAnswer) :
    State.perform ⟨mask, [], pid, .present pid, false⟩ (.wait answer) =
      ⟨mask, [], pid, if State.ends answer then .gone pid else .present pid, false⟩ := by
  rw [State.perform]
  cases State.ends answer <;> rfl

/-- A wait leads on to the next wait, or settles the child's end. -/
theorem Point.step_wait {pid : Pid} {answered : List WaitAnswer}
    (quiet : ∀ answer ∈ answered, State.ends answer = false) (answer : WaitAnswer)
    (waits : List WaitAnswer) :
    Point mask recorded (opening pid ++ answered.map .wait ++ [.wait answer])
      (State.perform ⟨mask, [], pid, .present pid, false⟩ (.wait answer))
      (if State.ends answer then closing else waiting waits) := by
  have spelled : opening pid ++ answered.map .wait ++ [.wait answer] =
      opening pid ++ (answered ++ [answer]).map .wait := by simp
  rw [spelled, State.perform_wait]
  cases ended : State.ends answer with
  | true => exact .settled pid ⟨answer, by simp, ended⟩
  | false =>
    refine .waits pid ?_ waits
    intro other member
    rcases List.mem_append.1 member with earlier | last
    · exact quiet other earlier
    · rwa [List.mem_singleton.1 last]

/-- Every action leads from a point to a point. -/
theorem Point.step {action : Action} (point : Point mask recorded done state (action :: rest)) :
    Point mask recorded (done ++ [action]) (state.perform action) rest := by
  generalize left : action :: rest = remaining at point
  cases point with
  | refused holds =>
    cases left
    exact .failed (by simp) (by simp)
  | idle holds answer waits =>
    cases left
    exact .guarded holds answer waits
  | guarded holds answer waits =>
    cases left
    cases answer with
    | error cause => exact .unforked holds cause
    | ok pid => exact .forked holds pid waits
  | unforked holds cause =>
    cases left
    exact .childless holds cause
  | childless holds cause =>
    cases left
    exact .failed (by simp) (by simp)
  | failed => cases left
  | forked holds pid waits =>
    cases left
    exact .noted holds pid waits
  | noted holds pid waits =>
    cases left
    exact .unguarded holds pid waits
  | unguarded holds pid waits =>
    cases left
    have unanswered : ∀ answer ∈ ([] : List WaitAnswer), State.ends answer = false := by simp
    exact .waits pid unanswered waits
  | @waits pid answered quiet waits =>
    cases waits with
    | nil =>
      rw [waiting_nil] at left
      cases left
    | cons answer waits =>
      rw [waiting_cons] at left
      obtain ⟨rfl, rfl⟩ := List.cons.inj left
      exact Point.step_wait quiet answer waits
  | settled pid ended =>
    cases left
    exact .reguarded pid ended
  | reguarded pid ended =>
    cases left
    rw [List.append_assoc]
    exact .cleared pid ended
  | cleared pid ended =>
    cases left
    rw [List.append_assoc]
    exact .finished pid ended
  | finished => cases left

theorem Point.run {more : List Action}
    (point : Point mask recorded done state (more ++ rest)) :
    Point mask recorded (done ++ more) (state.after more) rest := by
  induction more generalizing done state with
  | nil =>
    rw [List.append_nil]
    exact point
  | cons action more ih =>
    have next := ih point.step
    rwa [List.append_assoc] at next

/-- Whatever part of a launch has been done, the launcher is at a point. -/
theorem point_of_actions_eq (mask : SignalMask) (recorded : Pid) (holds : Bool)
    {arguments : List Bytes} {answer : ForkAnswer} {waits : List WaitAnswer}
    (parts : actions arguments answer waits = done ++ rest) :
    Point mask recorded done
      (State.after ⟨mask, [], recorded, .none, holds⟩ done) rest := by
  have start := point_of_actions mask recorded holds arguments answer waits
  rw [parts] at start
  exact start.run

/-! ## What holds at every point -/

/-- A child that has been made, and of which no wait has told the end, is there. -/
theorem Point.child_of_forked (point : Point mask recorded done state rest) {pid : Pid}
    (forked : .fork (.ok pid) ∈ done)
    (quiet : ∀ answer, .wait answer ∈ done → State.ends answer = false) :
    state.child = .present pid := by
  cases point with
  | refused | idle | guarded | unforked | childless => simp at forked
  | failed none => exact absurd forked (none pid)
  | forked | noted | unguarded => simp_all
  | waits => simp_all [opening]
  | settled other ended | reguarded other ended | cleared other ended | finished other ended =>
    obtain ⟨answer, member, ends⟩ := ended
    rw [quiet answer (by simp [member])] at ends
    cases ends

/-- A signal that the caller holds back is held back throughout. -/
theorem Point.mask_of_held (point : Point mask recorded done state rest) {signal : Signal}
    (held : mask signal = true) : state.mask signal = true := by
  have guarded : mask.guarded signal = true := by
    rw [SignalMask.guarded, held, Bool.true_or]
  cases point <;> assumption

/-- While a termination signal is not held back, no guard is in force, and the pid of a child that is
there is recorded. -/
theorem Point.recorded_of_present (point : Point mask recorded done state rest) {signal : Signal}
    (terminates : signal ∈ Signal.termination) (free : state.mask signal = false) {pid : Pid}
    (present : state.child = .present pid) : state.recorded = pid := by
  have held := mask.guarded_of_mem terminates
  cases point with
  | refused | idle | guarded | unforked | childless | failed => cases present
  | forked | noted =>
    cases held.symm.trans free
  | unguarded | waits =>
    cases present
    rfl
  | settled | reguarded | cleared | finished => cases present

/-- The recorded pid is written. -/
def Action.writes : Action → Bool
  | .record _ | .clear => true
  | .block | .unblock | .fork _ | .releaseSinks | .wait _ => false

/-- The recorded pid is only written while a guard is in force. -/
theorem Point.mask_of_writes {action : Action}
    (point : Point mask recorded done state (action :: rest)) (writes : action.writes = true) :
    state.mask = mask.guarded := by
  generalize left : action :: rest = remaining at point
  cases point with
  | refused | idle | guarded | unforked | childless | noted | unguarded | settled | cleared =>
    cases left
    cases writes
  | failed | finished => cases left
  | forked | reguarded => rfl
  | waits _ _ waits =>
    cases waits with
    | nil =>
      rw [waiting_nil] at left
      cases left
    | cons answer waits =>
      rw [waiting_cons] at left
      obtain ⟨rfl, -⟩ := List.cons.inj left
      cases writes

/-- A pid that is recorded although its child has ended is only to be read before the closing. -/
theorem Point.closing_of_ended (point : Point mask 0 done state rest) {signal : Signal}
    (terminates : signal ∈ Signal.termination) (free : state.mask signal = false)
    (noted : state.recorded ≠ 0) {answer : WaitAnswer} (waited : .wait answer ∈ done)
    (ends : State.ends answer = true) : rest = closing := by
  have held := mask.guarded_of_mem terminates
  cases point with
  | refused | idle | guarded | unforked | childless => simp at waited
  | failed _ unwaited => exact absurd waited (unwaited answer)
  | forked | noted | unguarded => simp at waited
  | @waits pid answered quiet =>
    have member : answer ∈ answered := by simpa [opening] using waited
    rw [quiet answer member] at ends
    cases ends
  | settled => rfl
  | reguarded | cleared =>
    cases held.symm.trans free
  | finished => exact absurd rfl noted

end Forked

end CompilerLauncher
