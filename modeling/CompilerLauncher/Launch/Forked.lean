import CompilerLauncher.Descriptors
import CompilerLauncher.Launch.ArgumentVector
import CompilerLauncher.Launch.WaitStatus

/-!
Launching a child by forking.

A launch is a list of actions, fixed by the kernel's answers; what an action does to the launcher is
said by `State.perform`, apart from the list. The recorded pid is what a signal handler in the
launcher goes by, so it is written only while a guard holds the termination signals back: from
before the fork until the pid is recorded, and again while it is cleared.

The child's side is `ChildStart`: what the child has when it replaces its image.
-/

namespace CompilerLauncher

namespace Forked

/-- A process's number; 0 stands for none where a pid is recorded. -/
abbrev Pid := Int32

/-- The answer of the kernel to a fork. -/
abbrev ForkAnswer := Except Errno Pid

/-! ## Actions and states -/

/-- An action of the launcher. -/
inductive Action
  | block
  | unblock
  | fork (answer : ForkAnswer)
  | record (pid : Pid)
  | clear
  | releaseSinks
  | wait (answer : WaitAnswer)
  deriving Repr

/-- The launcher's child: not there yet, not waited for to its end, or gone. -/
inductive Child
  | none
  | present (pid : Pid)
  | gone (pid : Pid)
  deriving DecidableEq, Repr

/-- The launcher between two actions: its mask, the masks that its guards remember, the pid that a
handler reads, its child, and whether it still holds the files that the child writes to. -/
structure State where
  mask : SignalMask
  guards : List SignalMask := []
  recorded : Pid
  child : Child := .none
  holdsSinks : Bool

namespace State

/-- Whether an answer to a wait tells that the child is gone: an end, or a failure other than an
interruption. -/
def ends : WaitAnswer → Bool
  | .error .interrupted => false
  | answer =>
    match Waiting.read answer with
    | .ok status => status.outcome?.isSome
    | .error _ => true

/-- What an action does. -/
def perform (state : State) : Action → State
  | .block =>
    { state with mask := state.mask.guarded, guards := state.mask :: state.guards }
  | .unblock =>
    match state.guards with
    | mask :: guards => { state with mask, guards }
    | [] => state
  | .fork (.ok pid) => { state with child := .present pid }
  | .fork (.error _) => state
  | .record pid => { state with recorded := pid }
  | .clear => { state with recorded := 0 }
  | .releaseSinks => { state with holdsSinks := false }
  | .wait answer =>
    match state.child with
    | .present pid => if ends answer then { state with child := .gone pid } else state
    | _ => state

/-- The states that a launcher goes through, the first one included. -/
def run (state : State) : List Action → List State
  | [] => [state]
  | action :: rest => state :: run (state.perform action) rest

/-- The state after all actions. -/
def after (state : State) (actions : List Action) : State :=
  actions.foldl perform state

end State

/-! ## The launch -/

/-- The answers to waits that a launch uses: those up to the one that settles the child's end. -/
def used (answers : List WaitAnswer) : List WaitAnswer :=
  match Waiting.untilEnd answers with
  | some (_, rest) => answers.take (answers.length - rest.length)
  | none => answers

/-- What a launch does once its vector is found fit to be carried. -/
def forking (answer : ForkAnswer) (waits : List WaitAnswer) : List Action :=
  .block :: .fork answer ::
    match answer with
    | .error _ => [.unblock, .releaseSinks]
    | .ok pid =>
      [.record pid, .unblock, .releaseSinks] ++ (used waits).map .wait ++
        if (Waiting.untilEnd waits).isSome then [.block, .clear, .unblock] else []

/-- What a launch does. -/
def actions (arguments : List Bytes) (answer : ForkAnswer) (waits : List WaitAnswer) :
    List Action :=
  match ArgumentVector.check arguments with
  | .error _ => [.releaseSinks]
  | .ok () => forking answer waits

/-- What a launch answers; there is no answer while the child's end is not settled. -/
def result? (arguments : List Bytes) (answer : ForkAnswer) (waits : List WaitAnswer) :
    Option (Except LaunchError ExitOutcome) :=
  match ArgumentVector.check arguments with
  | .error error => some (.error error)
  | .ok () =>
    match answer with
    | .error cause => some (.error (.fork cause.text))
    | .ok _ => (Waiting.untilEnd waits).map (·.1)

section Refused

variable {arguments : List Bytes} {error : LaunchError}
  (refused : ArgumentVector.check arguments = .error error) (answer : ForkAnswer)
  (waits : List WaitAnswer)
include refused

theorem actions_of_refused : actions arguments answer waits = [.releaseSinks] := by
  rw [actions, refused]

theorem result?_of_refused : result? arguments answer waits = some (.error error) := by
  unfold result?
  rw [refused]

end Refused

/-! ## The child -/

/-- What a child has when it replaces its image: the arguments, of which the first is the path, the
mask and the open descriptors. -/
structure ChildStart where
  arguments : List Bytes
  mask : SignalMask
  descriptors : Descriptors

/-- The child of a launcher: the mask is the launcher's own from before its guard, and the two
files, if there are any, sit on the descriptors for output and errors. -/
def childOf (state : State) (arguments : List Bytes) (descriptors : Descriptors)
    (sinks : Option (Nat × Nat)) : ChildStart :=
  { arguments
    mask := state.guards.headD state.mask
    descriptors :=
      match sinks with
      | none => descriptors.replaced
      | some (out, err) =>
        (descriptors.install out err Descriptors.output Descriptors.errors).replaced }

/-- The status with which a child ends whose image cannot be replaced. -/
def notStarted : Nat := 255

end Forked

end CompilerLauncher
