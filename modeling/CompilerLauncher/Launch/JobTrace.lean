import CompilerLauncher.CommandLine.Invocation
import CompilerLauncher.Launch.JobPlan

/-!
What a launch in a job asks of the system, and the record of it.

Each request is recorded with its answer and with what the launcher held at that moment; resources
are recorded when they are obtained and when they are given back, and so is what gets into a file.
The system's answers are given beforehand, as `Answers`, so a launch is a function from them to its
record.
-/

namespace CompilerLauncher

namespace JobLaunch

/-- A standard stream. -/
inductive Stream
  | input
  | output
  | error
  deriving DecidableEq, Repr

/-- The name of a stream. -/
def Stream.name : Stream → String
  | input => "stdin"
  | output => "stdout"
  | error => "stderr"

/-- What a child gets for a stream: the launcher's own, a redirect file, nothing, or a handle that
means no stream. -/
inductive Binding
  | own (stream : Stream)
  | redirect (stream : Stream)
  | absent
  | invalid
  deriving DecidableEq, Repr

/-- What the creation of a process is given. -/
structure Creation where
  invocation : Invocation
  flags : UInt32
  input : Binding
  output : Binding
  error : Binding
  deriving DecidableEq, Repr

/-- A text as the system reads it: up to the first NUL. -/
def asRead (text : String) : String :=
  String.ofList (text.toList.takeWhile (· != '\x00'))

/-- A call of the system, without what it is given. -/
inductive Interface
  | isProcessInJob
  | queryInformation
  | createJob
  | setInformation
  | standardHandle (stream : Stream)
  | handleInformation (stream : Stream)
  | makeFile
  | writeFile
  | flushFile
  | createProcess
  | assignProcess
  | terminateProcess
  | resumeThread
  | waitForProcess
  | exitCode
  deriving DecidableEq, Repr

/-- A call of the system with what it is given. -/
inductive Request
  | isProcessInJob
  | queryInformation
  | createJob
  | setInformation (limits : UInt32)
  | standardHandle (stream : Stream)
  | handleInformation (stream : Stream)
  | makeFile (path : Bytes)
  | writeFile (path data : Bytes)
  | flushFile (path : Bytes)
  | createProcess (creation : Creation)
  | assignProcess
  | terminateProcess (code : UInt32)
  | resumeThread
  | waitForProcess
  | exitCode
  deriving DecidableEq, Repr

/-- The call that a request makes. -/
def Request.interface : Request → Interface
  | isProcessInJob => .isProcessInJob
  | queryInformation => .queryInformation
  | createJob => .createJob
  | setInformation _ => .setInformation
  | standardHandle stream => .standardHandle stream
  | handleInformation stream => .handleInformation stream
  | makeFile _ => .makeFile
  | writeFile .. => .writeFile
  | flushFile _ => .flushFile
  | createProcess _ => .createProcess
  | assignProcess => .assignProcess
  | terminateProcess _ => .terminateProcess
  | resumeThread => .resumeThread
  | waitForProcess => .waitForProcess
  | exitCode => .exitCode

/-- The system's account of a failed call. Where no code comes with the text, the code is 0. -/
structure Failure where
  code : Int32
  text : String
  deriving DecidableEq, Repr

/-- All that the system will answer. `file` is the path of a file that is made, and `taken` tells how
many bytes get into it if writing breaks off. -/
structure Answers where
  failure : Interface → Option Failure
  inJob : Bool
  limits : UInt32
  invalidHandle : Stream → Bool
  file : Bytes
  taken : Nat
  pid : UInt32
  exitCode : UInt32

/-- What a launcher can hold and must give back. A response file that is still open for writing has
a handle of its own, the writer. -/
inductive Resource
  | job
  | process
  | thread
  | redirect (stream : Stream)
  | responseFile (path : Bytes)
  | writer
  deriving DecidableEq, Repr

/-- A redirect file that the launcher still holds. -/
def Resource.isRedirect : Resource → Bool
  | redirect _ => true
  | job | process | thread | responseFile _ | writer => false

/-- A response file that is still there. -/
def Resource.isResponseFile : Resource → Bool
  | responseFile _ => true
  | job | process | thread | redirect _ | writer => false

/-- The handle of a response file that is still open. -/
def Resource.isWriter : Resource → Bool
  | writer => true
  | job | process | thread | redirect _ | responseFile _ => false

/-- A response file, or the handle of one. -/
def Resource.isResponse (resource : Resource) : Bool :=
  resource.isResponseFile || resource.isWriter

/-- What the launcher holds, oldest first, and the pid it has recorded, which is 0 for none. -/
structure Holdings where
  resources : List Resource
  pid : Int32
  deriving DecidableEq, Repr

/-- An entry of the record. -/
inductive Event
  | asked (request : Request) (failure : Option Failure) (holdings : Holdings)
  | obtained (resource : Resource)
  | released (resource : Resource)
  | wrote (path data : Bytes)
  | recorded (pid : Int32)
  deriving DecidableEq, Repr

/-- The state of a launch: what is held, and the record so far, newest first. -/
structure Desk where
  holdings : Holdings
  backward : List Event := []
  deriving DecidableEq, Repr

namespace Desk

/-- The record in order. -/
def events (desk : Desk) : List Event :=
  desk.backward.reverse

/-- Records a request and its answer. -/
def ask (desk : Desk) (request : Request) (failure : Option Failure) : Desk :=
  { desk with backward := .asked request failure desk.holdings :: desk.backward }

/-- Records that a resource was obtained. -/
def obtain (desk : Desk) (resource : Resource) : Desk :=
  { holdings :=
      { desk.holdings with resources := desk.holdings.resources ++ [resource] }
    backward := .obtained resource :: desk.backward }

/-- Gives back every held resource of a kind, the newest first. -/
def release (desk : Desk) (kind : Resource → Bool) : Desk :=
  { holdings :=
      { desk.holdings with resources := desk.holdings.resources.filter fun held => !kind held }
    backward :=
      (desk.holdings.resources.filter kind).map Event.released ++ desk.backward }

/-- Records what gets into a file. -/
def write (desk : Desk) (path data : Bytes) : Desk :=
  { desk with backward := .wrote path data :: desk.backward }

/-- Records the child's pid; 0 records that there is none. -/
def record (desk : Desk) (pid : Int32) : Desk :=
  { holdings := { desk.holdings with pid }
    backward := .recorded pid :: desk.backward }

end Desk

end JobLaunch

end CompilerLauncher
