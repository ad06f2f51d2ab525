import CompilerLauncher.LaunchError
import CompilerLauncher.Text.Utf8

/-!
Which argument vectors can be carried to a new process image: those that are not empty and hold no
NUL byte, since the byte ends an argument there.
-/

namespace CompilerLauncher

namespace ArgumentVector

/-- Whether the argument holds the byte that would end it. -/
def isCut (argument : Bytes) : Bool :=
  argument.contains 0

/-- The first argument that would be cut. -/
def firstCut? (arguments : List Bytes) : Option Bytes :=
  arguments.find? isCut

/-- Checks that a vector can be carried; the first argument that cannot is named. -/
def check (arguments : List Bytes) : Except LaunchError Unit :=
  if arguments = [] then .error (.invalidArgument "empty argument vector")
  else
    match firstCut? arguments with
    | some argument =>
      .error (.invalidArgument s!"argument contains a NUL byte: {Utf8.lossy argument}")
    | none => .ok ()

end ArgumentVector

end CompilerLauncher
