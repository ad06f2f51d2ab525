import CompilerLauncher.Proofs.SignalDelivery

/-!
# What a launch leaves to its caller

A launch that answers has come to a point where nothing is left to be done. There are two such
points (`Point.final`): without a child, nothing that the caller has is touched; with one, its end
is known and its pid is cleared again. At both of them the caller's mask is in force and the files
that a child writes to have been given up (`launch_restores_caller`).

The child itself takes the mask that the guard remembers, and a fork is done only under the guard
that has remembered the caller's own (`Point.guards_of_fork`).
-/

namespace CompilerLauncher

namespace Forked

variable {mask : SignalMask} {recorded : Pid} {done rest : List Action} {state : State}

/-- When nothing is left to be done, there has been no child, or its pid is cleared, or its end has
not been told and the pid is still recorded. -/
theorem Point.final (point : Point mask recorded done state []) :
    (state = ⟨mask, [], recorded, .none, false⟩ ∧ ∀ pid, .fork (.ok pid) ∉ done) ∨
      ∃ pid, .fork (.ok pid) ∈ done ∧
        (state = ⟨mask, [], 0, .gone pid, false⟩ ∨ .clear ∉ done) := by
  generalize left : ([] : List Action) = remaining at point
  cases point with
  | refused | idle | guarded | unforked | childless => cases left
  | failed none => exact .inl ⟨rfl, none⟩
  | forked | noted | unguarded | settled | reguarded | cleared => cases left
  | waits pid => exact .inr ⟨pid, by simp [opening], .inr (by simp [opening])⟩
  | finished pid => exact .inr ⟨pid, by simp [opening], .inl rfl⟩

/-- The guard under which a child is made has remembered the caller's mask. -/
theorem Point.guards_of_fork {answer : ForkAnswer}
    (point : Point mask recorded done state (.fork answer :: rest)) : state.guards = [mask] := by
  generalize left : Action.fork answer :: rest = remaining at point
  cases point with
  | refused | idle | unforked | childless | failed => cases left
  | guarded => rfl
  | forked | noted | unguarded | settled | reguarded | cleared | finished => cases left
  | waits _ _ waits =>
    cases waits with
    | nil =>
      rw [waiting_nil] at left
      cases left
    | cons answer waits =>
      rw [waiting_cons] at left
      cases left

/-- A child that is made under a guard takes the mask that the guard remembers. -/
theorem mask_childOf (guards : state.guards = [mask]) (pid : Pid) (arguments : List Bytes)
    (descriptors : Descriptors) (sinks : Option (Nat × Nat)) :
    (childOf (state.perform (.fork (.ok pid))) arguments descriptors sinks).mask = mask := by
  have remembered : (childOf (state.perform (.fork (.ok pid))) arguments descriptors sinks).mask =
      state.guards.headD state.mask := rfl
  rw [remembered, guards]
  rfl

/-- A launch that answers although it has made a child clears its pid. -/
theorem clear_mem_actions {arguments : List Bytes} {answer : ForkAnswer} {waits : List WaitAnswer}
    {result : Except LaunchError ExitOutcome}
    (answered : result? arguments answer waits = some result) {pid : Pid}
    (forked : .fork (.ok pid) ∈ actions arguments answer waits) :
    .clear ∈ actions arguments answer waits := by
  obtain rfl := eq_of_mem_actions forked
  rw [result?] at answered
  cases checked : ArgumentVector.check arguments with
  | error error => simp [actions_of_refused checked] at forked
  | ok _ =>
    have settled : (Waiting.untilEnd waits).isSome = true := by
      rw [checked] at answered
      obtain ⟨pair, found, -⟩ := Option.map_eq_some_iff.1 answered
      rw [found]
      rfl
    rw [actions_of_check checked, waiting, if_pos settled]
    simp [closing]

/-- A launch that answers has put back its caller's mask and dropped its guards, it holds none of
the files that its child writes to, and the recorded pid is cleared if a child was made and
untouched if none was. The child replaces its image under the caller's mask. -/
theorem launch_restores_caller (mask : SignalMask) (recorded : Pid) (holds : Bool)
    (arguments : List Bytes) (answer : ForkAnswer) (waits : List WaitAnswer) :
    let start : State := ⟨mask, [], recorded, .none, holds⟩
    let launch := actions arguments answer waits
    (∀ result, result? arguments answer waits = some result →
      let final := start.after launch
      final.mask = mask ∧ final.guards = [] ∧ final.holdsSinks = false ∧
        ((∃ pid, .fork (.ok pid) ∈ launch) → final.compilerPid? = none) ∧
        ((∀ pid, .fork (.ok pid) ∉ launch) → final.recorded = recorded)) ∧
      ∀ done pid rest, launch = done ++ .fork (.ok pid) :: rest →
        ∀ descriptors sinks,
          (childOf (start.after (done ++ [.fork (.ok pid)])) arguments descriptors sinks).mask =
            mask := by
  intro start launch
  constructor
  · intro result answered final
    have parts : actions arguments answer waits = launch ++ [] := (List.append_nil launch).symm
    have point : Point mask recorded launch final [] :=
      point_of_actions_eq mask recorded holds parts
    rcases point.final with ⟨same, none⟩ | ⟨pid, forked, same | uncleared⟩
    · rw [same]
      exact ⟨rfl, rfl, rfl, fun ⟨pid, forked⟩ => absurd forked (none pid), fun _ => rfl⟩
    · rw [same]
      exact ⟨rfl, rfl, rfl, fun _ => rfl, fun none => absurd forked (none pid)⟩
    · exact absurd (clear_mem_actions answered forked) uncleared
  · intro done pid rest parts descriptors sinks
    have point := point_of_actions_eq mask recorded holds parts
    rw [State.after_append]
    exact mask_childOf point.guards_of_fork pid arguments descriptors sinks

/-- The waits are interrupted, then tell of a child that has stopped, then fail. -/
theorem launch_restores_caller_unwaited :
    let mask := SignalMask.ofList [Signal.terminate, Signal.user1]
    let start : State := ⟨mask, [], 77, .none, true⟩
    let arguments := [Utf8.encode "/bin/true"]
    let waits : List WaitAnswer := [.error .interrupted, .ok 0x137f, .error .noChild]
    let launch := actions arguments (.ok 4242) waits
    result? arguments (.ok 4242) waits = some (.error (.wait "No child processes")) ∧
      .fork (.ok 4242) ∈ launch ∧ launch = [.block] ++ .fork (.ok 4242) :: launch.drop 2 ∧
      (start.after launch).mask = mask ∧ (start.after launch).compilerPid? = none ∧
      (start.after launch).holdsSinks = false ∧
      (childOf (start.after [.block, .fork (.ok 4242)]) arguments [] none).mask = mask := by
  intro mask start arguments waits launch
  have fit : ArgumentVector.check arguments = .ok () := rfl
  have settled : Waiting.untilEnd waits = some (.error (.wait "No child processes"), []) := by
    rw [Waiting.untilEnd_cons, Waiting.untilEnd_cons, Waiting.untilEnd_cons]
    rfl
  have answered : result? arguments (.ok 4242) waits =
      some (.error (.wait "No child processes")) := by
    rw [result?, fit]
    exact congrArg (Option.map Prod.fst) settled
  have parts : launch = [.block] ++ .fork (.ok 4242) :: launch.drop 2 := by
    change actions _ _ _ = _ ++ _ :: (actions _ _ _).drop 2
    rw [actions_of_check fit]
    rfl
  have forked : .fork (.ok 4242) ∈ launch := by
    rw [parts]
    simp
  obtain ⟨returns, starts⟩ :=
    launch_restores_caller mask 77 true arguments (.ok 4242) waits
  obtain ⟨masked, -, released, cleared, -⟩ := returns _ answered
  exact ⟨answered, forked, parts, masked, cleared ⟨4242, forked⟩, released,
    starts [.block] 4242 _ parts [] none⟩

end Forked

end CompilerLauncher
