import CompilerLauncher.CommandLine.Length
import CompilerLauncher.LaunchError
import CompilerLauncher.Path

/-!
What process creation is given: the application's path and one line that holds the arguments.

When the line is too long, the arguments after the first go into a response file, and the line only
names the application and that file.
-/

namespace CompilerLauncher

namespace CommandLine

/-- The extensions of files that process creation takes under the name they have. -/
def startable : List String := ["exe", "bat", "sh"]

/-- The path under which a program is started: its own if it has an extension that can be started,
else with the usual one added. -/
def application (path : String) : String :=
  if startable.any (Path.hasExtension (Utf8.encode path)) then path else path ++ ".exe"

end CommandLine

/-- A response file that has been written: where, and what it holds. -/
structure ResponseFile where
  path : Bytes
  text : String
  deriving DecidableEq, Repr

/-- What process creation is given. A response file must stay until the process has ended. -/
structure Invocation where
  application : String
  line : String
  responseFile : Option ResponseFile
  deriving DecidableEq, Repr

namespace Invocation

/-- The line that stands for a response file. -/
def referring (application : String) (file : Bytes) : String :=
  s!"\"{application}\" \"@{Utf8.lossy file}\""

/-- Builds the invocation of a program, led by a shell where one interprets it. `write` makes a
response file with the given text and answers with its path; it is used only if the line does not
fit. -/
def build {m : Type → Type} [Monad m] (write : String → m Bytes) (program : String)
    (arguments : List String) (shell : Option String) : m Invocation :=
  let application := CommandLine.application program
  let line := CommandLine.render shell .runs arguments
  if CommandLine.fits line then
    pure ⟨application, line, none⟩
  else do
    let text := CommandLine.render shell .escapes arguments.tail
    let path ← write text
    pure ⟨application, referring application path, some ⟨path, text⟩⟩

end Invocation

end CompilerLauncher
