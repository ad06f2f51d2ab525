/-!
The causes for which the operating system refuses a request, with the number and the text that it
gives for each. Those that the development speaks of have a name.
-/

namespace CompilerLauncher

/-- Why the operating system refused a request: a cause with a name, or any other one, which is known
by its number and its text. -/
inductive Errno
  | noEntry
  | interrupted
  | argumentsTooLong
  | notExecutable
  | badDescriptor
  | noChild
  | tryAgain
  | accessDenied
  | exists
  | notDirectory
  | isDirectory
  | invalid
  | nameTooLong
  | tooManyLinks
  | other (number : Nat) (text : String)
  deriving DecidableEq, Repr

namespace Errno

/-- The number of the cause. -/
def number : Errno → Nat
  | noEntry => 2
  | interrupted => 4
  | argumentsTooLong => 7
  | notExecutable => 8
  | badDescriptor => 9
  | noChild => 10
  | tryAgain => 11
  | accessDenied => 13
  | .exists => 17
  | notDirectory => 20
  | isDirectory => 21
  | invalid => 22
  | nameTooLong => 36
  | tooManyLinks => 40
  | other number _ => number

/-- The cause in words. -/
def text : Errno → String
  | noEntry => "No such file or directory"
  | interrupted => "Interrupted system call"
  | argumentsTooLong => "Argument list too long"
  | notExecutable => "Exec format error"
  | badDescriptor => "Bad file descriptor"
  | noChild => "No child processes"
  | tryAgain => "Try again"
  | accessDenied => "Permission denied"
  | .exists => "File exists"
  | notDirectory => "Not a directory"
  | isDirectory => "Is a directory"
  | invalid => "Invalid argument"
  | nameTooLong => "File name too long"
  | tooManyLinks => "Too many levels of symbolic links"
  | other _ text => text

end Errno

end CompilerLauncher
