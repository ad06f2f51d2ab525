/-!
Argument vectors written as one line of text.

Process creation takes a single line, and the program that starts splits it into arguments again.
`CommandLine.render` writes each argument between double quotes and separates them by single spaces.
Two splitters are served, and they differ in what a backslash means:

* the platform's own rules read a backslash literally unless a run of backslashes ends in a double
  quote, so only such runs are doubled (`Quoting.runs`);
* a response file is read with the backslash as an escape, so every one of them is escaped
  (`Quoting.escapes`).

An interpreter, when one is needed, leads the line as it stands.
-/

namespace CompilerLauncher

namespace CommandLine

/-- What a backslash means to the splitter that will read the line: an ordinary character unless its
run ends in a double quote, or an escape for whatever follows. -/
inductive Quoting
  | runs
  | escapes
  deriving DecidableEq, Repr

/-- A run of backslashes. -/
def backslashes (count : Nat) : List Char :=
  List.replicate count '\\'

/-- The inside of a quoted argument, when `run` backslashes have been read and not yet written. A
double quote needs the run doubled and one more backslash; so does the closing quote, less the one
more. -/
def quotedFrom (quoting : Quoting) (run : Nat) : List Char → List Char
  | [] => backslashes (2 * run)
  | character :: rest =>
    if character = '\\' then
      match quoting with
      | .runs => quotedFrom quoting (run + 1) rest
      | .escapes => '\\' :: '\\' :: quotedFrom quoting 0 rest
    else if character = '"' then backslashes (2 * run + 1) ++ '"' :: quotedFrom quoting 0 rest
    else backslashes run ++ character :: quotedFrom quoting 0 rest

/-- One argument between double quotes. -/
def quoted (quoting : Quoting) (argument : List Char) : List Char :=
  '"' :: (quotedFrom quoting 0 argument ++ ['"'])

/-- What leads the line: the interpreter, unless there is none or its name is empty. -/
def leading (lead : Option String) : List (List Char) :=
  match lead with
  | none => []
  | some interpreter => if interpreter = "" then [] else [interpreter.toList]

/-- The parts of a line in order: the interpreter as it stands, then each argument quoted. -/
def parts (lead : Option String) (quoting : Quoting) (arguments : List String) :
    List (List Char) :=
  leading lead ++ arguments.map fun argument => quoted quoting argument.toList

/-- The whole line, with single spaces between its parts. -/
def render (lead : Option String) (quoting : Quoting) (arguments : List String) : String :=
  String.ofList ([' '].intercalate (parts lead quoting arguments))

/-- The argument vector as it is shown to a reader: an argument that holds a space stands between
double quotes, and nothing is escaped. -/
def forReader (arguments : List String) : String :=
  " ".intercalate (arguments.map fun argument =>
    if argument.toList.contains ' ' then s!"\"{argument}\"" else argument)

@[simp] theorem leading_none : leading none = [] := rfl

@[simp] theorem leading_empty : leading (some "") = [] := rfl

theorem leading_some {lead : String} (nonempty : lead ≠ "") :
    leading (some lead) = [lead.toList] :=
  if_neg nonempty

theorem toList_render (lead : Option String) (quoting : Quoting) (arguments : List String) :
    (render lead quoting arguments).toList = [' '].intercalate (parts lead quoting arguments) := by
  simp [render]

end CommandLine

end CompilerLauncher
