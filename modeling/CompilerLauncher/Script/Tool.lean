import CompilerLauncher.Script.Jobs
import CompilerLauncher.Script.Signalling
import CompilerLauncher.Script.Tool.Env
import CompilerLauncher.Script.Tool.Files
import CompilerLauncher.Script.Tool.Lines

/-!
The system's programs that scripts are most likely to use, as far as what they do can be seen.
-/

namespace CompilerLauncher

namespace Script

namespace Tool

open Session
open Builtin (shown)

/-- Prints arguments. -/
def echo (arguments : List Bytes) : Act Nat := do
  let isStrict := ((environment (← get).shell).lookup (Utf8.encode "POSIXLY_CORRECT")).isSome
  print (Print.programEcho isStrict arguments)
  return 0

/-- Whether an argument is a time: a number, perhaps with a fraction, and perhaps a unit. -/
def isTime (argument : Bytes) : Bool :=
  let number := if argument.getLast?.any (isOneOf "smhd") then argument.dropLast else argument
  let digits := number.filter isDigit
  let others := number.filter fun byte => !isDigit byte
  digits ≠ [] && (others = [] || others = Utf8.encode ".")

/-- Lets time pass: the jobs of the shell get to run, and the watcher acts. -/
def sleep (arguments : List Bytes) : Act Nat := do
  let (_, operands) ← ({ } : Options).read arguments
  if operands = [] then misuse 1 "missing operand"
  else
    let wrong := operands.filter fun operand => !isTime operand
    for operand in wrong do
      complain s!"invalid time interval '{shown operand}'"
    if wrong ≠ [] then
      referToHelp
      return 1
    else
      attend
      return 0

/-- Prints the values of exported variables, or all of these variables. -/
def printenv (arguments : List Bytes) : Act Nat := do
  let (given, operands) ← ({ letters := "0", refusal := 2 } : Options).read arguments
  let ending := if isGiven given '0' then 0 else newline
  let shell := (← get).shell
  if operands = [] then
    print (listing ending shell)
    return 0
  else
    forAll operands fun name => do
      match (environment shell).lookup name with
      | some value =>
        print (value ++ [ending])
        return true
      | none => return false

/-- What there is to complain about in a format, in the program's words. -/
def complaintOf : Print.Complaint → String
  | .notANumber argument => s!"'{shown argument}': expected a numeric value"
  | .leftOver argument => s!"'{shown argument}': value not completely converted"
  | .tooBig argument => s!"'{shown argument}': Numerical result out of range"
  | .directive written => s!"%{shown written}: invalid conversion specification"
  | .cutOff => "%: invalid conversion specification"

/-- Prints arguments by a format. -/
def printf (arguments : List Bytes) : Act Nat := do
  match arguments with
  | [] => misuse 1 "missing operand"
  | format :: rest =>
    let formatted := Print.format format rest
    for complaint in formatted.complaints do
      complain (complaintOf complaint)
    print formatted.bytes
    return if formatted.complaints = [] then 0 else 1

/-- Prints the working directory. -/
def pwd (arguments : List Bytes) : Act Nat := do
  let (given, operands) ← ({ letters := "LP" } : Options).read arguments
  if operands ≠ [] then complain "ignoring non-option arguments"
  let session ← get
  let tree := session.storage.tree
  let here := FileTree.pathOf tree.working
  let told := (environment session.shell).lookup (Utf8.encode "PWD")
  let logical := told.filter fun path =>
    Path.isAbsolute path && (tree.lookup path).toOption.any fun entry => entry.1 == tree.working
  print ((if isGiven given 'L' then logical.getD here else here) ++ [newline])
  return 0

/-- Prints the paths of programs. -/
def which (arguments : List Bytes) : Act Nat := do
  forAll arguments fun name => do
    let session ← get
    let tree := session.storage.tree
    let path := (Session.valueOf? session.shell (Utf8.encode "PATH")).getD usualPath
    let found :=
      if name.contains Path.slash then [name].find? (Lookup.isProgram tree)
      else (Lookup.candidates path name).find? (Lookup.isProgram tree)
    found.toList.forM fun place => print (place ++ [newline])
    return found.isSome

/-- Names the user who runs the program, by number or by name. -/
def id (arguments : List Bytes) : Act Nat := do
  let (given, _) ← ({ letters := "ugnr" } : Options).read arguments
  let text :=
    if isGiven given 'n' then "root"
    else if given ≠ [] then "0"
    else "uid=0(root) gid=0(root) groups=0(root)"
  print (Utf8.encode (text ++ "\n"))
  return 0

/-- The program of a name. -/
def find? (name : String) : Option (List Bytes → Act Nat) :=
  match name with
  | "[" => some Builtin.bracket
  | "basename" => some basename
  | "cat" => some cat
  | "chmod" => some chmod
  | "cp" => some cp
  | "cut" => some cut
  | "dirname" => some dirname
  | "echo" => some echo
  | "false" => some (Builtin.quiet 1)
  | "head" => some head
  | "id" => some id
  | "kill" => some Signalling.kill
  | "ln" => some ln
  | "ls" => some ls
  | "mkdir" => some mkdir
  | "mv" => some mv
  | "printenv" => some printenv
  | "printf" => some printf
  | "pwd" => some pwd
  | "readlink" => some readlink
  | "realpath" => some realpath
  | "rm" => some rm
  | "rmdir" => some rmdir
  | "seq" => some seq
  | "sleep" => some sleep
  | "sort" => some sort
  | "tac" => some tac
  | "tail" => some tail
  | "tee" => some tee
  | "test" => some Builtin.test
  | "touch" => some touch
  | "tr" => some tr
  | "true" => some (Builtin.quiet 0)
  | "uniq" => some uniq
  | "wc" => some wc
  | "which" => some which
  | _ => none

/-- Runs a program. One that prints something although there is no output fails. -/
def perform (tool : List Bytes → Act Nat) (arguments : List Bytes) : Act Nat := do
  let session ← get
  let descriptors := session.shell.descriptors
  if (descriptors.lookup Descriptors.output).isSome then tool arguments
  else
    let (storage, number) := session.storage.add (.collected [])
    set { session with storage }
    onShell fun shell =>
      { shell with descriptors := descriptors.set Descriptors.output ⟨number, false⟩ }
    let status ← tool arguments
    if (← get).storage.content number = [] then return status
    else
      complain s!"write error: {Errno.badDescriptor.text}"
      return 1

end Tool

end Script

end CompilerLauncher
