/-!
Why a launch failed.

A fatal error leaves nothing to go on with: the argument vector cannot be carried, no child could be
made, or the child's end is unknown. The other errors stop this launch only. A front end turns both
into its exit status, `LaunchError.exitStatus`, which is never 0.
-/

namespace CompilerLauncher

/-- The cause of a failed launch. `interface` names the system call that failed, `code` and `text`
are the system's own account of it. -/
inductive LaunchError
  | invalidArgument (reason : String)
  | fork (reason : String)
  | wait (reason : String)
  | processWait (interface : String) (code : Int32) (text : String)
  | jobQuery (interface : String) (code : Int32) (text : String)
  | jobObject (interface : String) (code : Int32) (text : String)
  | invalidHandle (stream text : String)
  | createProcess (path : String) (code : Int32) (text : String)
  | assignToJob (path : String) (code : Int32) (text : String)
  | responseFile (directory reason : String)
  deriving DecidableEq, Repr

namespace LaunchError

/-- The error in words. -/
def message : LaunchError → String
  | invalidArgument reason => s!"Invalid argument vector: {reason}"
  | fork reason => s!"Failed to fork: {reason}"
  | wait reason => s!"waitpid failed: {reason}"
  | processWait interface code text
  | jobQuery interface code text
  | jobObject interface code text => s!"failed to {interface}: {text} ({code.toInt})"
  | invalidHandle stream text => s!"invalid {stream} handle: {text}"
  | createProcess path code text => s!"failed to execute {path}: {text} ({code.toInt})"
  | assignToJob path code text =>
    s!"failed to assign process to job object {path}: {text} ({code.toInt})"
  | responseFile directory reason =>
    s!"failed to write argument file in {directory}: {reason}"

/-- Whether the error must end the program that asked for the launch. -/
def isFatal : LaunchError → Bool
  | invalidArgument _ | fork _ | wait _ | processWait .. => true
  | jobQuery .. | jobObject .. | invalidHandle .. | createProcess .. | assignToJob ..
  | responseFile .. => false

/-- The number that stands for the error where callers expect one: a failed question about job
membership is 0, every other failure -1. -/
def sentinel : LaunchError → Int32
  | jobQuery .. => 0
  | _ => -1

/-- The exit status of a front end whose launch failed. -/
def exitStatus (error : LaunchError) : Int32 :=
  if error.isFatal then -1 else 1

/-- A failed launch never looks like a success. -/
theorem exitStatus_ne_zero (error : LaunchError) : error.exitStatus ≠ 0 := by
  unfold exitStatus
  split <;> decide

end LaunchError

end CompilerLauncher
