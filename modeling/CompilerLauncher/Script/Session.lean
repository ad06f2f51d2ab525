import CompilerLauncher.Launch.Forked
import CompilerLauncher.Process.Image
import CompilerLauncher.Process.OpenFiles
import CompilerLauncher.Script.Grammar

/-!
The state of a shell that executes a script, and of the system around it.

A command either goes on, leaving its status behind, or changes the course of the script: that is a
`Flow`, which is thrown. The state survives it.
-/

namespace CompilerLauncher

namespace Script

open Forked (Pid)

/-- A variable of a shell. One without a value is only known by what is to become of it. -/
structure Variable where
  value : Option Bytes
  exported : Bool := false
  fixed : Bool := false
  deriving DecidableEq, Repr

/-- A command that runs beside the shell: its number among the shell's jobs, what it started with,
how it ended if it has, and whether the shell has taken note of the end. -/
structure Job where
  number : Nat
  pid : Pid
  body : Command
  bindings : List (Bytes × Variable)
  arguments : List Bytes
  descriptors : Descriptors
  ending : Option Ending := none
  noted : Bool := false

/-- How far the reading of options from arguments has come: the number of the next argument, and
the number of bytes of the one before it that have been read, unless all have. -/
structure OptionPlace where
  next : Nat := 1
  offset : Option Nat := none
  deriving DecidableEq, Repr

/-- A shell. `pid` is what a script takes for the shell's number, `self` the number of the process,
which differs in a subshell. A trap without commands ignores its signal; the trap of number 0 is
for the end of the shell. `locals` holds what the names had before that the running command has
made its own, `localSwitches` the options if they have become its own, and `frames` counts the
commands that can have names of their own. `loops` counts the loops that are open, `calls` the
functions that are running, `substituted` is the status of the last command whose output was used,
`held` the status from before the trap that is running, and `within` the shell's own command that is
running. `line` is the line of the command that is running, `readTo` the line up to which the script
has been read, `switches` are the options that are on, `tracked` the programs that have been found,
`directory` is the working directory as it was gone to, `withheld` the permissions that new files
lack, and `limits` are the limits that have been set, newest first. -/
structure Shell where
  zero : Bytes
  arguments : List Bytes := []
  optionPlace : OptionPlace := {}
  bindings : List (Bytes × Variable) := []
  functions : List (Bytes × Command) := []
  aliases : List (Bytes × Bytes) := []
  tracked : List (Bytes × Bytes) := []
  locals : List (Bytes × Option Variable) := []
  localSwitches : Option (List String) := none
  traps : List (Signal × Bytes) := []
  ignored : List Signal := []
  caught : List Signal := []
  jobs : List Job := []
  pid : Pid
  self : Pid
  parent : Pid := 1
  lastJob : Option Pid := none
  status : Nat := 0
  substituted : Nat := 0
  held : Option Nat := none
  line : Nat := 1
  readTo : Nat := 1
  within : String := ""
  loops : Nat := 0
  calls : Nat := 0
  frames : Nat := 0
  switches : List String := []
  directory : Bytes := []
  withheld : Nat := 18
  limits : List (Char × Option Nat) := []
  inCondition : Bool := false
  mask : SignalMask
  descriptors : Descriptors

/-- Someone who watches the launch from outside: writes the child's pid to one file, and once
another file is there sends the child a signal. -/
structure Watcher where
  child : Pid
  announcement : Bytes
  readiness : Bytes
  signal : Option Signal
  hasAnnounced : Bool := false
  hasSent : Bool := false

/-- A shell and the system around it: storage, the next process's number, signals that were sent to
processes which wait for another one, and the watcher. -/
structure Session where
  storage : Storage
  shell : Shell
  nextPid : Pid
  posted : List (Pid × Signal) := []
  watcher : Option Watcher := none

/-- A change in the course of a script: the shell ends, because that is asked for, because of a
fault, by a signal or because nothing may nest deeper, or something else is left. -/
inductive Flow
  | exit (status : Nat)
  | failed (status : Nat)
  | killed (signal : Signal)
  | exhausted
  | break (levels : Nat)
  | continue (levels : Nat)
  | return
  deriving DecidableEq, Repr

/-- An action of a shell. -/
abbrev Act := ExceptT Flow (StateM Session)

/-- Where the text of a script comes from: from a file or the input, or from arguments. -/
inductive Origin
  | file
  | arguments
  deriving DecidableEq, Repr

/-- Something that is done on behalf of a command: another command (the last thing that the process
does, if `last` says so), the text of a script, or what a program does as the process that the shell
was. -/
inductive Task
  | command (body : Command) (last : Bool)
  | text (script : Bytes) (origin : Origin)
  | image (image : Image)

/-- What does such things. -/
abbrev Runner := Task → Act Unit

/-- The status by which a shell knows an end. -/
def statusOf : Ending → Nat
  | .exited code => code % 256
  | .killed signal => 128 + signal

/-- The options of a shell with their letters, in the order in which they are listed. -/
def switchLetters : List (String × Option Char) :=
  [("errexit", some 'e'), ("noglob", some 'f'), ("ignoreeof", some 'I'), ("interactive", some 'i'),
    ("monitor", some 'm'), ("noexec", some 'n'), ("stdin", some 's'), ("xtrace", some 'x'),
    ("verbose", some 'v'), ("vi", some 'V'), ("emacs", some 'E'), ("noclobber", some 'C'),
    ("allexport", some 'a'), ("notify", some 'b'), ("nounset", some 'u'),
    ("privileged", some 'p'), ("nolog", none), ("debug", none)]

/-- The letters of the options that are on, the last listed first. -/
def Shell.letters (shell : Shell) : String :=
  String.ofList (switchLetters.reverse.filterMap fun (name, letter) =>
    if shell.switches.contains name then letter else none)

/-- Whether an option of a shell is on. -/
def Shell.isOn (shell : Shell) (switch : String) : Bool :=
  shell.switches.contains switch

namespace Session

/-- Changes the shell. -/
def onShell (change : Shell → Shell) : Act Unit :=
  modify fun session => { session with shell := change session.shell }

/-- Leaves a status behind. -/
def setStatus (status : Nat) : Act Unit :=
  onShell fun shell => { shell with status }

/-- Writes to a descriptor; the answer is whether it could be written to. -/
def write (descriptor : Nat) (bytes : Bytes) : Act Bool := do
  let session ← get
  match session.shell.descriptors.lookup descriptor with
  | none => return false
  | some found =>
    let (storage, written) := session.storage.write found.file bytes
    set { session with storage }
    return written

/-- Writes to the output. -/
def print (bytes : Bytes) : Act Unit :=
  discard (write Descriptors.output bytes)

/-- Writes a message to the errors, which begins with the shell's name, the line and the shell's own
command that is running. -/
def complain (message : String) : Act Unit := do
  let shell := (← get).shell
  let within := if shell.within = "" then "" else shell.within ++ ": "
  let start := shell.zero ++ Utf8.encode s!": {shell.line}: {within}"
  discard (write Descriptors.errors (start ++ Utf8.encode message ++ [newline]))

/-- The status of a command that says why it failed. -/
def refuse (status : Nat) (message : String) : Act Nat := do
  complain message
  return status

/-- Ends the shell with a message. -/
def fail {α : Type} (status : Nat) (message : String) : Act α := do
  complain message
  throw (.failed status)

/-! ## Variables -/

/-- The search list of a shell that was given none. -/
def usualPath : Bytes :=
  Utf8.encode "/usr/local/sbin:/usr/local/bin:/usr/sbin:/usr/bin:/sbin:/bin"

/-- The bytes between which a shell cuts fields unless told otherwise. -/
def usualSeparators : Bytes :=
  Utf8.encode " \t\n"

/-- The value of a variable. -/
def valueOf? (shell : Shell) (name : Bytes) : Option Bytes :=
  (shell.bindings.lookup name).bind (·.value)

/-- The value of a variable, or nothing. -/
def value (shell : Shell) (name : String) : Bytes :=
  (valueOf? shell (Utf8.encode name)).getD []

/-- The search list of programs. -/
def searchList (shell : Shell) : Bytes :=
  value shell "PATH"

/-- The entries with another one for a name, in its old place or behind all others, or with
none. -/
def rebind {α : Type} (name : Bytes) (held : Option α) : List (Bytes × α) → List (Bytes × α)
  | [] => held.toList.map fun held => (name, held)
  | (other, value) :: rest =>
    if other = name then (held.toList.map fun held => (name, held)) ++ rest
    else (other, value) :: rebind name held rest

/-- The shell with something else bound to a name. -/
def bind (shell : Shell) (name : Bytes) (held : Option Variable) : Shell :=
  { shell with bindings := rebind name held shell.bindings }

/-- The shelf, out of the given number, on which a shell keeps a name. -/
def shelf (shelves : Nat) (name : Bytes) : Nat :=
  (name.foldl (fun sum byte => sum + byte.toNat) ((name.headD 0).toNat * 16)) % shelves

/-- Entries shelf by shelf. -/
def shelved {α : Type} (shelves : Nat) (entries : List (Bytes × α)) : List (Bytes × α) :=
  entries.mergeSort fun left right => decide (shelf shelves left.1 ≤ shelf shelves right.1)

/-- The number of shelves for variables and aliases. -/
def nameShelves : Nat := 39

/-- The number of shelves for programs. -/
def programShelves : Nat := 31

/-- What else changes when a variable does: programs are searched for again, and options are read
from the argument that is named. -/
def afterChange (name : Bytes) (value : Option Bytes) (shell : Shell) : Shell :=
  if name = Utf8.encode "PATH" then { shell with tracked := [] }
  else if name = Utf8.encode "OPTIND" then
    let number := (wholeNumber? (value.getD [])).getD 1
    { shell with optionPlace := { next := max 1 number.toNat } }
  else shell

/-- Whether a variable can be given a value: the one that says which argument is next must be a
number. -/
def isFitting (name : Bytes) (value : Option Bytes) : Bool :=
  name != Utf8.encode "OPTIND" || (wholeNumber? (value.getD [])).any (0 ≤ ·)

/-- Changes a variable, which must not be fixed. -/
def changeVariable (name : Bytes) (value : Option Bytes) : Act Unit := do
  let shell := (← get).shell
  let old := (shell.bindings.lookup name).getD { value := none }
  if !isName name then fail 2 s!"{Utf8.lossy name}: bad variable name"
  else if old.fixed then fail 2 s!"{Utf8.lossy name}: is read only"
  else if !isFitting name value then fail 2 s!"Illegal number: {Utf8.lossy (value.getD [])}"
  else
    let held := { old with value, exported := old.exported || shell.isOn "allexport" }
    onShell fun shell => afterChange name value (bind shell name (some held))

/-- Sets a variable. -/
def setVariable (name value : Bytes) : Act Unit :=
  changeVariable name (some value)

/-- Changes what is known about a variable, which need not be set. -/
def markVariable (name : Bytes) (change : Variable → Variable) : Act Unit :=
  onShell fun shell =>
    bind shell name (some (change ((shell.bindings.lookup name).getD { value := none })))

/-- Forgets a variable, which must not be fixed. -/
def forgetVariable (name : Bytes) : Act Unit := do
  changeVariable name none
  onShell fun shell => bind shell name none

/-- The variables that a program has been given, in order. -/
def environment (shell : Shell) : List (Bytes × Bytes) :=
  shell.bindings.filterMap fun (name, held) =>
    if held.exported then held.value.map fun value => (name, value) else none

/-- The shell with nothing but the variables that it gives to programs, in the order in which it
gives them. -/
def releasing (shell : Shell) : Shell :=
  let given := environment { shell with bindings := shelved nameShelves shell.bindings }
  { shell with
    bindings := given.map fun (name, value) => (name, { value := some value, exported := true }) }

/-! ## Signals -/

/-- Lets a signal reach the shell's process. A signal that is held back stays away for good, since a
shell never changes its mask. -/
def deliver (signal : Signal) : Act Unit := do
  let shell := (← get).shell
  if signal = Signal.kill then throw (.killed signal)
  else if shell.mask signal || shell.ignored.contains signal then return
  else
    match shell.traps.lookup signal with
    | some [] => return
    | some _ => onShell fun shell => { shell with caught := shell.caught ++ [signal] }
    | none =>
      if Signal.unnoticed.contains signal || Signal.stopping.contains signal then return
      else throw (.killed signal)

/-- Lets the signals that were sent to this process while it waited reach it. -/
def receive : Act Unit := do
  let session ← get
  let self := session.shell.self
  let (mine, others) := session.posted.partition fun entry => entry.1 == self
  set { session with posted := others }
  for entry in mine do
    deliver entry.2

/-- Sends a signal to a process; the answer is whether there is one. -/
def send (pid : Pid) (signal : Signal) : Act Bool := do
  let session ← get
  let shell := session.shell
  if pid = shell.self || pid = 0 then
    if signal != 0 then deliver signal
    return true
  else if pid = shell.pid || pid = shell.parent then
    if signal != 0 then set { session with posted := session.posted ++ [(pid, signal)] }
    return true
  else if shell.jobs.any fun job => job.pid == pid then
    let spared : Bool :=
      signal = 0 || signal != Signal.kill &&
        (shell.mask signal || shell.ignored.contains signal || shell.traps.lookup signal == some []
          || Signal.unnoticed.contains signal || signal = Signal.interrupt
          || signal = Signal.quit)
    let touch (job : Job) : Job :=
      if job.pid = pid && job.ending.isNone && !spared then
        { job with ending := some (.killed signal) }
      else job
    set { session with shell := { shell with jobs := shell.jobs.map touch } }
    return true
  else return false

/-! ## The watcher -/

/-- Lets the watcher do what it is waiting to do. -/
def attend : Act Unit := do
  let session ← get
  match session.watcher with
  | none => return
  | some watcher =>
    if !watcher.hasAnnounced then
      let text := Utf8.encode s!"{watcher.child.toInt}\n"
      let tree := session.storage.tree
      let tree := ((tree.writeFile watcher.announcement text 0o644).toOption).getD tree
      set { session with
        storage := { session.storage with tree }
        watcher := some { watcher with hasAnnounced := true } }
    else if !watcher.hasSent && (session.storage.tree.lookup watcher.readiness).isOk then
      set { session with watcher := some { watcher with hasSent := true } }
      match watcher.signal with
      | none => return
      | some signal =>
        if watcher.child = session.shell.self then deliver signal
        else
          modify fun session =>
            { session with posted := session.posted ++ [(watcher.child, signal)] }

end Session

end Script

end CompilerLauncher
