import CompilerLauncher.Script.Builtin

/-!
The options of a shell, which can be switched on and off by their letters and names: by the
arguments that the shell starts with, and by `set`.
-/

namespace CompilerLauncher

namespace Script

namespace Switch

open Session

/-- Switches an option on or off. No shell can control its jobs, since there is no terminal. -/
def turn (on : Bool) (name : String) : Act Unit := do
  if on && name = "monitor" then complain "can't access tty; job control turned off"
  else
    onShell fun shell =>
      let others := shell.switches.filter (· != name)
      { shell with switches := if on then name :: others else others }

/-- Switches the option of a letter on or off. -/
def turnLetter (on : Bool) (letter : Char) : Act Unit := do
  match switchLetters.find? fun entry => entry.2 == some letter with
  | some (name, _) => turn on name
  | none => Session.fail 2 s!"Illegal option -{letter}"

/-- Switches the option of a name on or off. -/
def turnNamed (on : Bool) (name : Bytes) : Act Unit := do
  let text := Utf8.lossy name
  if switchLetters.any fun entry => entry.1 == text then turn on text
  else
    let lead := if on then "-o" else "+o"
    Session.fail 2 s!"Illegal option {lead} {text}"

/-- A text with spaces behind it up to a width. -/
def padded (width : Nat) (text : String) : String :=
  text ++ String.ofList (List.replicate (width - text.length) ' ')

/-- The state of all options: as a table, or as the commands that bring it about. -/
def listing (shell : Shell) (asTable : Bool) : String :=
  if asTable then
    String.join ("Current option settings\n" :: switchLetters.map fun (name, _) =>
      padded 16 name ++ if shell.isOn name then "on\n" else "off\n")
  else
    String.join (switchLetters.map fun (name, _) =>
      (if shell.isOn name then "set -o " else "set +o ") ++ name ++ "\n")

/-- What the options of a shell that starts ask for beside switching: a script as an argument. -/
structure Asked where
  command : Bool := false

/-- Carries out the letters of one argument, with the arguments behind it. The letters `c` and `l`
are known only where the shell starts. -/
def letters (starting on : Bool) (asked : Asked) :
    Bytes → List Bytes → Act (Asked × List Bytes)
  | [], rest => return (asked, rest)
  | byte :: more, rest => do
    let letter := sign byte
    if starting && letter = 'c' then letters starting on { asked with command := true } more rest
    else if starting && letter = 'l' then letters starting on asked more rest
    else if letter = 'o' then
      match rest with
      | [] =>
        print (Utf8.encode (listing (← get).shell on))
        letters starting on asked more []
      | name :: rest =>
        turnNamed on name
        letters starting on asked more rest
    else
      turnLetter on letter
      letters starting on asked more rest

/-- How options end: where an argument is none, or behind dashes. -/
inductive End
  | argument
  | dash
  | dashes
  deriving DecidableEq, Repr

/-- Carries out the options at the start of arguments, at most as many as `fuel`, and answers with
those that are left and how the options ended. -/
def arguments (starting : Bool) : Nat → Asked → List Bytes → Act (Asked × List Bytes × End)
  | 0, asked, arguments => return (asked, arguments, .argument)
  | _ + 1, asked, [] => return (asked, [], .argument)
  | fuel + 1, asked, argument :: rest => do
    match argument with
    | [] => return (asked, argument :: rest, .argument)
    | first :: body =>
      if isSign '-' first then
        if body = [] then return (asked, rest, .dash)
        else if body = Utf8.encode "-" then return (asked, rest, .dashes)
        else
          let (asked, rest) ← letters starting true asked body rest
          arguments starting fuel asked rest
      else if isSign '+' first then
        let (asked, rest) ← letters starting false asked body rest
        arguments starting fuel asked rest
      else return (asked, argument :: rest, .argument)

/-- Switches options and sets arguments, or shows the variables. One dash switches off what shows
commands; two dashes alone leave no arguments. -/
def set (given : List Bytes) : Act Nat := do
  if given = [] then
    let entries := (← get).shell.bindings.filter fun entry => entry.2.value.isSome
    let lines := (Builtin.sorted entries).map fun (name, held) =>
      Builtin.bindingLine "" name held.value
    Builtin.output "set" lines.flatten 0
  else
    let (_, rest, ending) ← arguments false (given.length + 1) {} given
    if ending = .dash then
      turn false "xtrace"
      turn false "verbose"
    if rest ≠ [] || ending = .dashes then onShell (Builtin.withArguments rest)
    return 0

end Switch

end Script

end CompilerLauncher
