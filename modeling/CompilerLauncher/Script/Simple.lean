import CompilerLauncher.Script.Intake
import CompilerLauncher.Script.Lookup
import CompilerLauncher.Script.Redirect
import CompilerLauncher.Script.Signalling
import CompilerLauncher.Script.Switch

/-!
Simple commands: a name with arguments, assignments and redirections.

First the words are replaced, then the redirections and the assignments are carried out, and last
what the name stands for is run: a function, one of the shell's own commands or a program.
-/

namespace CompilerLauncher

namespace Script

namespace Simple

open Session

/-! ## Names of a command's own -/

/-- Puts back what a name stood for. -/
def putBack (entry : Bytes × Option Variable) : Act Unit :=
  onShell fun shell =>
    afterChange entry.1 (entry.2.bind (·.value)) (bind shell entry.1 entry.2)

/-- Does something with names and options of its own, which are afterwards what they were. -/
def framed (body : Act Unit) : Act Unit := do
  let before := (← get).shell
  onShell fun shell =>
    { shell with locals := [], localSwitches := none, frames := before.frames + 1 }
  let restore : Act Unit := do
    (← get).shell.locals.forM putBack
    onShell fun shell =>
      { shell with
        switches := shell.localSwitches.getD shell.switches
        locals := before.locals
        localSwitches := before.localSwitches
        frames := before.frames }
  tryCatch
    (do
      body
      restore)
    fun flow => do
      restore
      throw flow

/-! ## Assignments -/

/-- How the assignments of a command work: for the shell, for the shell and its programs, or for the
command alone. -/
inductive Scope
  | lasting
  | exported
  | passing
  deriving DecidableEq, Repr

/-- Carries out an assignment. -/
def assignOne (scope : Scope) (name value : Bytes) : Act Unit := do
  let release : Act Unit := markVariable name ({ · with exported := true })
  match scope with
  | .lasting => setVariable name value
  | .exported =>
    setVariable name value
    release
  | .passing =>
    let old := (← get).shell.bindings.lookup name
    onShell fun shell => { shell with locals := (name, old) :: shell.locals }
    setVariable name value
    release

/-- Carries out assignments in order; the answer is what they assign. -/
def assign (run : Runner) (scope : Scope) : List (Bytes × Word) → Act (List Bytes)
  | [] => return []
  | (name, word) :: rest => do
    let value ← Expand.assigned (substitute run) word
    assignOne scope name value
    let later ← assign run scope rest
    return (name ++ Utf8.encode "=" ++ value) :: later

/-! ## What a command calls -/

/-- The arguments of a command as far as its words have been replaced. -/
structure Arguments where
  found : List Bytes := []
  words : List Word

namespace Arguments

/-- Replaces words until one has made an argument. -/
def next (run : Runner) : List Word → Act (List Bytes × List Word)
  | [] => return ([], [])
  | word :: rest => do
    let found ← Expand.argumentsOf (substitute run) word
    if found = [] then next run rest else return (found, rest)

/-- The argument at a position, for which words may have to be replaced. -/
def reach (run : Runner) (position : Nat) (arguments : Arguments) :
    Act (Option Bytes × Arguments) := do
  match arguments.found[position]? with
  | some argument => return (some argument, arguments)
  | none =>
    let (found, words) ← next run arguments.words
    let arguments := { found := arguments.found ++ found, words }
    return (arguments.found[position]?, arguments)

end Arguments

/-- What a command calls: the position of its name among the arguments, whether functions are left
aside, the search list if it is not the shell's, and whether the call is that of a special
command. -/
structure Callee where
  position : Nat := 0
  isDirect : Bool := false
  path? : Option Bytes := none
  isSpecial : Bool := false

/-- Skips the options of a command that runs its arguments. There is nothing to run if it has no
arguments, or options that ask for something else. -/
def behindOptions (run : Runner) : Nat → Callee → Arguments → Act (Option Callee × Arguments)
  | 0, _, arguments => return (none, arguments)
  | fuel + 1, callee, arguments => do
    let (argument, arguments) ← arguments.reach run callee.position
    match argument with
    | none => return (none, arguments)
    | some argument =>
      let letters := argument.tail
      if !argument.head?.any (isSign '-') || letters = [] then return (some callee, arguments)
      else if letters = Utf8.encode "-" then
        let behind := { callee with position := callee.position + 1 }
        let (argument, arguments) ← arguments.reach run behind.position
        return (argument.map fun _ => behind, arguments)
      else if letters.all (isSign 'p') then
        let behind := { callee with position := callee.position + 1, path? := some usualPath }
        behindOptions run fuel behind arguments
      else return (none, arguments)

/-- Finds out what the arguments call. -/
def callee (run : Runner) : Nat → Callee → Arguments → Act (Callee × Arguments)
  | 0, found, arguments => return (found, arguments)
  | fuel + 1, found, arguments => do
    let name := (arguments.found[found.position]?).getD []
    let isFunction := ((← get).shell.functions.lookup name).isSome
    if (isFunction && !found.isDirect) || name ≠ Utf8.encode "command" then
      return (found, arguments)
    else
      let inner := { found with position := found.position + 1, isDirect := true }
      match ← behindOptions run (fuel + 1) inner arguments with
      | (some inner, arguments) => callee run fuel inner arguments
      | (none, arguments) => return (found, arguments)

/-- The commands among whose arguments are assignments. -/
def assigners : List String := ["alias", "export", "local", "readonly"]

/-- The arguments that further words make, where a word that assigns may be kept in one piece. -/
def furtherArguments (run : Runner) (assigns : Bool) : List Word → Act (List Bytes)
  | [] => return []
  | word :: rest => do
    let here ←
      if assigns && (Word.assignment? word).isSome then
        pure [← Expand.assigned (substitute run) word]
      else Expand.argumentsOf (substitute run) word
    return here ++ (← furtherArguments run assigns rest)

/-! ## Programs -/

/-- Turns the process into a program. -/
def become (run : Runner) (path : Bytes) (arguments : List Bytes) : Act Unit := do
  match Lookup.imageOf (← get).storage.tree path arguments with
  | .ok image =>
    onShell releasing
    run (.image image)
  | .error cause =>
    complain s!"{Utf8.lossy (arguments.headD [])}: {Lookup.reason cause}"
    throw (.exit (Lookup.refusal cause))

/-- Runs a program and leaves its status behind. The process that the shell is becomes the program
if nothing is left for the shell to do. While a program lets time pass, the jobs run. -/
def external (run : Runner) (last : Bool) (path? : Option Bytes) (name : Bytes)
    (arguments : List Bytes) : Act Unit := do
  match ← Lookup.locate path? name with
  | .error cause =>
    complain s!"{Utf8.lossy name}: {Lookup.reason cause}"
    setStatus 127
  | .ok path =>
    let session ← get
    let shell := session.shell
    if last && !shell.hasTraps && shell.jobs.isEmpty then become run path (name :: arguments)
    else
      if Lookup.isPause session.storage.tree path then runJobs run
      let self ← freshPid
      let ending ← apart ((← get).shell.split self) (become run path (name :: arguments))
      noticeEnd ending
      setStatus (statusOf ending)

/-- Replaces the shell by a program, or does nothing but what the redirections have done. -/
def replace (run : Runner) : List Bytes → Act Nat
  | [] => return 0
  | name :: arguments => do
    runJobs run
    let session ← get
    let found :=
      if name.contains Path.slash then .ok name
      else Lookup.search session.storage.tree (searchList session.shell) name
    match found with
    | .ok path => become run path (name :: arguments)
    | .error cause =>
      complain s!"{Utf8.lossy name}: {Lookup.reason cause}"
      throw (.exit (Lookup.refusal cause))
    return (← get).shell.status

/-! ## Functions -/

/-- The depth to which functions may call one another. -/
def callLimit : Nat := 1000

/-- Calls a function. -/
def call (run : Runner) (body : Command) (arguments : List Bytes) : Act Unit := do
  let before := (← get).shell
  if callLimit ≤ before.calls then
    fail 2 s!"Maximum function recursion depth ({callLimit}) reached"
  onShell fun shell =>
    { shell with arguments, optionPlace := {}, loops := 0, calls := before.calls + 1 }
  let restore : Act Unit :=
    onShell fun shell =>
      { shell with
        arguments := before.arguments
        optionPlace := before.optionPlace
        loops := before.loops
        calls := before.calls }
  tryCatch
    (do
      run (.command body false)
      restore)
    fun flow => do
      restore
      if flow = .return then return () else throw flow

/-! ## The shell's own commands -/

/-- Runs arguments as a script. -/
def evaluate (run : Runner) (arguments : List Bytes) : Act Nat := do
  match arguments with
  | [] => return 0
  | _ =>
    run (.text (Print.spaced arguments) .arguments)
    return (← get).shell.status

/-- Runs a file's script in this shell. -/
def source (run : Runner) (arguments : List Bytes) : Act Nat := do
  match ← Builtin.operands arguments with
  | [] => return 0
  | name :: _ =>
    let session ← get
    let tree := session.storage.tree
    let isFile (path : Bytes) : Bool := (Condition.unary? tree "-f" path).getD false
    let found :=
      if name.contains Path.slash then some name
      else (Lookup.candidates (searchList session.shell) name).find? isFile
    match found with
    | none => fail 2 s!"{Utf8.lossy name}: not found"
    | some path =>
      match tree.lookup path with
      | .error cause =>
        fail 2 s!"cannot open {Utf8.lossy path}: {Redirection.reason false cause}"
      | .ok (place, _) =>
        onShell fun shell => { shell with within := Utf8.lossy path }
        tryCatch (run (.text (tree.dataAt place) .file)) fun
          | .return => pure ()
          | flow => throw flow
        return (← get).shell.status

/-- One of the shell's own commands. -/
def own? (run : Runner) (name : String) : Option (List Bytes → Act Nat) :=
  match name with
  | "." => some (source run)
  | ":" | "true" => some (Builtin.quiet 0)
  | "[" => some Builtin.bracket
  | "alias" => some Builtin.setAliases
  | "bg" | "fg" => some Jobs.resume
  | "break" => some (Builtin.leaveLoops Flow.break)
  | "cd" | "chdir" => some Builtin.cd
  | "command" => some Lookup.verify
  | "continue" => some (Builtin.leaveLoops Flow.continue)
  | "echo" => some Builtin.echo
  | "eval" => some (evaluate run)
  | "exec" => some (replace run)
  | "exit" => some Builtin.exit
  | "export" => some (Builtin.declare "export" ({ · with exported := true }) (·.exported))
  | "false" => some (Builtin.quiet 1)
  | "getopts" => some Intake.getopts
  | "hash" => some Lookup.hash
  | "jobs" => some Jobs.jobs
  | "kill" => some Signalling.kill
  | "local" => some Builtin.makeLocal
  | "printf" => some Builtin.printf
  | "pwd" => some Builtin.pwd
  | "read" => some Intake.read
  | "readonly" => some (Builtin.declare "readonly" ({ · with fixed := true }) (·.fixed))
  | "return" => some Builtin.leave
  | "set" => some Switch.set
  | "shift" => some Builtin.shift
  | "test" => some Builtin.test
  | "times" => some Builtin.times
  | "trap" => some Signalling.trap
  | "type" => some Lookup.explain
  | "ulimit" => some Builtin.ulimit
  | "umask" => some Builtin.umask
  | "unalias" => some Builtin.forgetAliases
  | "unset" => some Builtin.unset
  | "wait" => some (Jobs.wait run)
  | _ => none

/-- Does the work of one of the shell's own commands, which is named in messages meanwhile. -/
def naming {α : Type} (name : String) (body : Act α) : Act α := do
  let within := (← get).shell.within
  let restore : Act Unit := onShell fun shell => { shell with within }
  onShell fun shell => { shell with within := name }
  tryCatch
    (do
      let value ← body
      restore
      return value)
    fun flow => do
      restore
      throw flow

/-- Runs one of the shell's own commands. Its failure ends the shell only if the call is that of a
special command. -/
def runOwn (name : Bytes) (act : List Bytes → Act Nat) (isSpecial : Bool)
    (arguments : List Bytes) : Act Unit :=
  tryCatch
    (do
      let status ← naming (Utf8.lossy name) (act arguments)
      setStatus status)
    fun flow =>
      match flow, isSpecial with
      | .failed status, false => setStatus status
      | flow, _ => throw flow

/-! ## Simple commands -/

/-- Shows a command before it runs, on the errors that it is given. -/
def announce (run : Runner) (descriptors : Descriptors) (shown : List Bytes) : Act Unit := do
  let shell := (← get).shell
  if shell.isOn "xtrace" then
    let lead ← leadOf (value shell "PS4")
    match descriptors.lookup Descriptors.errors with
    | none => return ()
    | some found =>
      modify fun session =>
        let line := lead ++ Print.spaced shown ++ [newline]
        { session with storage := (session.storage.write found.file line).1 }
where
  /-- What stands before a command that is shown: a text in which values are put. Commands that it
  holds are not shown. -/
  leadOf (text : Bytes) : Act Bytes := do
    match Source.readText? text with
    | .error _ => return text
    | .ok word =>
      let switches := (← get).shell.switches
      Switch.turn false "xtrace"
      let lead ← Expand.document (substitute run) word
      onShell fun shell => { shell with switches }
      return lead

/-- Runs what a command calls. -/
def dispatch (run : Runner) (last : Bool) (callee : Callee) (arguments : List Bytes) :
    Act Unit := do
  match arguments with
  | [] => return ()
  | name :: rest =>
    let function? := (← get).shell.functions.lookup name
    match if callee.isDirect then none else function?, own? run (Utf8.lossy name) with
    | some body, _ => call run body rest
    | none, some act => runOwn name act callee.isSpecial rest
    | none, none => external run last callee.path? name rest

/-- Carries out the redirections of a command and goes on if they could be; otherwise a special
command ends the shell. -/
def redirecting (run : Runner) (isSpecial : Bool) (redirections : List Redirection)
    (body : Act Unit) : Act Unit := do
  if ← Redirection.applyAll (substitute run) redirections then body
  else if isSpecial then throw (.failed 2)
  else setStatus 2

/-- Runs a command that has arguments. -/
def called (run : Runner) (last : Bool) (assignments : List (Bytes × Word))
    (redirections : List Redirection) (arguments : Arguments) : Act Unit := do
  let before := (← get).shell
  let first := arguments.found.headD []
  let isFunction := (before.functions.lookup first).isSome
  let start : Callee := { isSpecial := !isFunction && Lookup.isSpecial first }
  let fuel := arguments.found.length + arguments.words.length + 1
  let (callee, arguments) ← callee run fuel start arguments
  let name := (arguments.found[callee.position]?).getD []
  let isOwn := Lookup.isOwn name && (callee.isDirect || !isFunction)
  let assigns := isOwn && assigners.contains (Utf8.lossy name)
  let further ← furtherArguments run assigns arguments.words
  let all := arguments.found ++ further
  let passed := all.drop callee.position
  let isExec := isOwn && name = Utf8.encode "exec"
  let errors := before.descriptors
  let work (scope : Scope) : Act Unit := do
    let assigned ← assign run scope assignments
    announce run errors (assigned ++ all)
    dispatch run last callee passed
  let whole : Act Unit :=
    redirecting run callee.isSpecial redirections do
      if callee.isSpecial then
        work (if isExec && 1 < passed.length then .exported else .lasting)
      else framed (work .passing)
  if isExec then whole else keepingDescriptors whole

/-- Runs a simple command. -/
def simple (run : Runner) (last : Bool) (line : Nat) (assignments : List (Bytes × Word))
    (words : List Word) (redirections : List Redirection) : Act Unit := do
  onShell fun shell => { shell with line, substituted := 0 }
  attend
  let (found, words) ← Arguments.next run words
  if found ≠ [] then called run last assignments redirections { found, words }
  else
    let before := (← get).shell.descriptors
    keepingDescriptors do
      redirecting run false redirections do
        let assigned ← assign run .lasting assignments
        announce run before assigned
        setStatus (← get).shell.substituted

end Simple

end Script

end CompilerLauncher
