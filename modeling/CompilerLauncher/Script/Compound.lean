import CompilerLauncher.Script.Simple

/-!
Commands that are made of commands: lists, loops, choices, pipelines and subshells.
-/

namespace CompilerLauncher

namespace Script

namespace Compound

open Session

/-- The number of rounds and of lines after which a script is taken to have no end. -/
def roundLimit : Nat := 1000000000

/-- Runs a command whose failure does not end the shell. -/
def tested (run : Runner) (body : Command) : Act Unit := do
  let before := (← get).shell.inCondition
  let restore : Act Unit := onShell fun shell => { shell with inCondition := before }
  onShell fun shell => { shell with inCondition := true }
  tryCatch
    (do
      run (.command body false)
      restore)
    fun flow => do
      restore
      throw flow

/-- The status of the last command. -/
def status : Act Nat := do
  return (← get).shell.status

/-- Ends a shell that stops on failures, if there was one. -/
def stopOnFailure : Act Unit := do
  let shell := (← get).shell
  if shell.isOn "errexit" && !shell.inCondition && shell.status != 0 then
    throw (.exit shell.status)

/-! ## Loops -/

/-- How a part of a round of a loop ends: as usual, with another round or with the last one. -/
inductive RoundEnd
  | usual
  | next
  | last
  deriving DecidableEq, Repr

/-- Runs a part of a round of a loop. -/
def inLoop (body : Act Unit) : Act RoundEnd :=
  tryCatch
    (do
      body
      return .usual)
    fun
    | .break levels => if levels ≤ 1 then return .last else throw (.break (levels - 1))
    | .continue levels => if levels ≤ 1 then return .next else throw (.continue (levels - 1))
    | flow => throw flow

/-- Does something as a loop, which leaves the count of loops as it was. -/
def looping (body : Act Unit) : Act Unit := do
  let loops := (← get).shell.loops
  let restore : Act Unit := onShell fun shell => { shell with loops }
  onShell fun shell => { shell with loops := loops + 1 }
  tryCatch
    (do
      body
      restore)
    fun flow => do
      restore
      throw flow

/-- Runs rounds of a loop, at most as many as `fuel`; `before` is the status of the round before. -/
def rounds (run : Runner) (untilTrue : Bool) (condition body : Command) : Nat → Nat → Act Unit
  | 0, _ => throw .exhausted
  | fuel + 1, before => do
    match ← inLoop (tested run condition) with
    | .next => rounds run untilTrue condition body fuel before
    | .last => setStatus before
    | .usual =>
      let holds : Bool := (← status) = 0
      if holds = untilTrue then setStatus before
      else
        match ← inLoop (run (.command body false)) with
        | .last => return ()
        | _ => rounds run untilTrue condition body fuel (← status)

/-- Runs a body for each of the values of a name; `before` is the status of the round before. -/
def each (run : Runner) (name : Bytes) (body : Command) : Nat → List Bytes → Act Unit
  | before, [] => setStatus before
  | _, value :: rest => do
    setVariable name value
    match ← inLoop (run (.command body false)) with
    | .last => return ()
    | _ => each run name body (← status) rest

/-! ## Choices -/

/-- Whether one of the patterns matches. -/
def anyMatch (run : Runner) (text : Bytes) : List Word → Act Bool
  | [] => return false
  | pattern :: rest => do
    let marks ← Expand.marks (substitute run) pattern
    if Pattern.isMatch (Pattern.read marks) text then return true else anyMatch run text rest

/-- Runs the first arm that matches. -/
def choose (run : Runner) (last : Bool) (text : Bytes) : Command → Act Unit
  | .arm patterns body others => do
    if ← anyMatch run text patterns then
      match body with
      | .nothing => setStatus 0
      | body => run (.command body last)
    else choose run last text others
  | _ => setStatus 0

/-! ## Pipelines -/

/-- Runs commands of which each reads what the one before it writes, the first one from an open file
if that is given. The last one leaves its status behind. -/
def pipe (run : Runner) (descriptors : Descriptors) (input : Option Nat) :
    List Command → Act Unit
  | [] => return ()
  | body :: rest => do
    prepare body
    let fed : Descriptors :=
      match input with
      | some number => descriptors.set 0 ⟨number, false⟩
      | none => descriptors
    if rest.isEmpty then runSubshell run body fed
    else
      let session ← get
      let (storage, number) := session.storage.add (.collected [])
      set { session with storage }
      runSubshell run body (fed.set Descriptors.output ⟨number, false⟩)
      let session ← get
      let (storage, number) := session.storage.add (.source (session.storage.content number))
      set { session with storage }
      pipe run descriptors (some number) rest
where
  /-- Searches for the program that a command names. -/
  prepare (body : Command) : Act Unit := do
    match body with
    | .simple _ _ (first :: _) _ => (Word.plain? first).forM Lookup.prepare
    | _ => return ()

/-! ## All commands -/

/-- Runs a subshell. A shell that has nothing else to do becomes it. -/
def subshell (run : Runner) (last : Bool) (body : Command) : Act Unit := do
  let shell := (← get).shell
  if last && !shell.hasTraps then run (.command body true)
  else runSubshell run body shell.descriptors

/-- Runs a command. -/
def command (run : Runner) (last : Bool) : Command → Act Unit
  | .nothing => return ()
  | .simple line assignments words redirections => do
    Simple.simple run last line assignments words redirections
    stopOnFailure
  | .redirected line body redirections => do
    onShell fun shell => { shell with line }
    keepingDescriptors do
      Simple.redirecting run false redirections (run (.command body false))
    stopOnFailure
  | .negated body => do
    tested run body
    setStatus (if (← status) = 0 then 1 else 0)
  | .pipeline commands => do
    pipe run (← get).shell.descriptors none commands
    stopOnFailure
  | .both left right => do
    tested run left
    if (← status) = 0 then run (.command right last)
  | .either left right => do
    tested run left
    if (← status) ≠ 0 then run (.command right last)
  | .sequence commands => inOrder commands
  | .background body => Jobs.start body
  | .subshell line body => do
    onShell fun shell => { shell with line }
    subshell run last body
    stopOnFailure
  | .branch condition yes no => do
    tested run condition
    if (← status) = 0 then run (.command yes last)
    else
      match no with
      | .nothing => setStatus 0
      | no => run (.command no last)
  | .loop untilTrue condition body =>
    looping (rounds run untilTrue condition body roundLimit 0)
  | .forEach line name words body => do
    onShell fun shell => { shell with line }
    let values ← match words with
      | some words => Expand.arguments (substitute run) words
      | none => pure (← get).shell.arguments
    looping (each run name body 0 values)
  | .choice line word arms => do
    onShell fun shell => { shell with line }
    let text ← Expand.text (substitute run) word
    choose run last text arms
  | .arm .. => return ()
  | .define name body => do
    onShell fun shell => { shell with functions := rebind name (some body) shell.functions }
    setStatus 0
where
  /-- Runs commands one after another. -/
  inOrder : List Command → Act Unit
    | [] => return ()
    | [body] => run (.command body last)
    | body :: rest => do
      run (.command body false)
      inOrder rest

end Compound

end Script

end CompilerLauncher
