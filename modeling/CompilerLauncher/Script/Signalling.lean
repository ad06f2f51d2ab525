import CompilerLauncher.Script.Jobs

/-!
The commands of a shell that have to do with signals: what is to be done when one comes, and sending
them.
-/

namespace CompilerLauncher

namespace Script

namespace Signalling

open Session
open Builtin (shown number? quoted)

/-! ## Traps -/

/-- The signal that an argument numbers, where the end of the shell counts as the signal 0. -/
def numbered? (argument : Bytes) : Option Signal :=
  if argument ≠ [] ∧ argument.all isDigit ∧ decimal argument ≤ Signal.last then
    some (decimal argument)
  else none

/-- The signal that an argument names or numbers. -/
def signal? (argument : Bytes) : Option Signal :=
  numbered? argument <|>
    if argument.all isDigit then none else Signal.named? (shown argument)

/-- The signal for a trap, where the end of the shell has a name, too. -/
def trapSignal? (argument : Bytes) : Option Signal :=
  if (shown argument).map Char.toUpper = "EXIT" then some 0 else signal? argument

/-- Sets the commands for signals: none at all, or those given. -/
def setTraps (commands : Option Bytes) : List Bytes → Act Nat
  | [] => return 0
  | argument :: rest => do
    match trapSignal? argument with
    | none =>
      discard (write Descriptors.errors
        (Utf8.encode "trap: " ++ argument ++ Utf8.encode ": bad trap\n"))
      return 1
    | some signal =>
      onShell fun shell =>
        { shell with
          traps := (commands.toList.map fun text => (signal, text)) ++
            shell.traps.filter fun entry => entry.1 != signal }
      setTraps commands rest

/-- The line that shows the trap of a signal. -/
def trapLine (signal : Signal) (commands : Bytes) : Bytes :=
  let name := if signal = 0 then "EXIT" else Signal.name signal
  Utf8.encode "trap -- " ++ quoted commands ++ Utf8.encode s!" {name}\n"

/-- Shows the traps, or sets them. The first argument is what is to be done, unless it is a number
or stands alone. -/
def trap (arguments : List Bytes) : Act Nat := do
  match ← Builtin.operands arguments with
  | [] =>
    let entries := (← get).shell.traps
    let sorted := entries.mergeSort fun left right => left.1 ≤ right.1
    Builtin.output "trap" (sorted.flatMap fun (signal, commands) => trapLine signal commands) 0
  | [alone] => setTraps none [alone]
  | first :: rest =>
    if (numbered? first).isSome then setTraps none (first :: rest)
    else if first = Utf8.encode "-" then setTraps none rest
    else setTraps (some first) rest

/-! ## Sending -/

/-- How `kill` is used. -/
def usage : String :=
  "Usage: kill [-s sigspec | -signum | -sigspec] [pid | job]... or\nkill -l [exitstatus]"

/-- The number of the process that an argument names, a job by a percent sign and its number. -/
def process (argument : Bytes) : Act (Except String Forked.Pid) := do
  if argument.head?.any (isSign '%') then
    match Jobs.named? (← get).shell.jobs argument with
    | some job => return .ok job.pid
    | none => return .error s!"No such job: {shown argument}"
  else
    match number? argument with
    | some pid => return .ok (Int32.ofNat pid)
    | none => return .error s!"Illegal number: {shown argument}"

/-- Sends a signal to processes. -/
def killAll (signal : Signal) : List Bytes → Act Nat
  | [] => return 0
  | argument :: rest => do
    match ← process argument with
    | .error trouble => refuse 2 trouble
    | .ok pid =>
      let known ← send pid signal
      if !known then complain "No such process\n"
      let later ← killAll signal rest
      return if known then later else 1

/-- Names the signal of a status, or all signals. -/
def listSignals (arguments : List Bytes) : Act Nat := do
  match arguments with
  | [] =>
    let lines := (List.range (Signal.last + 1)).map fun signal =>
      (if signal = 0 then "0" else Signal.name signal) ++ "\n"
    Builtin.output "kill" (Utf8.encode (String.join lines)) 0
  | argument :: _ =>
    match number? argument with
    | none => refuse 2 s!"Illegal number: {shown argument}"
    | some status =>
      let signal := if 128 < status then status - 128 else status
      if 0 < signal ∧ signal ≤ Signal.last then
        Builtin.output "kill" (Utf8.encode s!"{Signal.name signal}\n") 0
      else refuse 2 s!"invalid signal number or exit status: {shown argument}"

/-- Sends a signal. -/
def kill (arguments : List Bytes) : Act Nat := do
  let toAll (signal : Signal) (rest : List Bytes) : Act Nat :=
    if rest = [] then refuse 2 usage else killAll signal rest
  match arguments with
  | [] => refuse 2 usage
  | argument :: rest =>
    match argument with
    | dash :: letters =>
      if !isSign '-' dash then killAll Signal.terminate arguments
      else
        match signal? letters with
        | some signal => toAll signal rest
        | none =>
          match (shown letters).toList with
          | ['l'] => listSignals rest
          | ['-'] => toAll Signal.terminate rest
          | ['s'] =>
            if rest = [] then refuse 2 "No arg for -s option"
            else
              match signal? (rest.headD []) with
              | some signal => toAll signal rest.tail
              | none => refuse 2 s!"invalid signal number or name: {shown (rest.headD [])}"
          | 's' :: attached =>
            let name := Utf8.encode (String.ofList attached)
            match signal? name with
            | some signal => toAll signal rest
            | none => refuse 2 s!"invalid signal number or name: {shown name}"
          | letter :: _ => refuse 2 s!"Illegal option -{letter}"
          | [] => killAll Signal.terminate arguments
    | [] => killAll Signal.terminate arguments

end Signalling

end Script

end CompilerLauncher
