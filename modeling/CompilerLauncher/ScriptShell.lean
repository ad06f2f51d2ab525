import CompilerLauncher.Search

/-!
Which shell must interpret a target that cannot be started by itself.

A target is a shell script by its extension, in any letter case, or, where the settings allow the
look, by a first line that starts with the marker. The look reads as many bytes as the marker has
and no more. Each of the two triggers searches the list for the shell by its name, and the second is
tried where the first has given nothing. So the content of a script decides whether a shell is used
and never which.
-/

namespace CompilerLauncher

namespace ScriptShell

/-- The name of the shell on the search list. -/
def executable : Bytes := Utf8.encode "sh.exe"

/-- The first line that marks a shell script. -/
def marker : Bytes := Utf8.encode "#!/bin/sh"

/-- Whether the path has the extension of shell scripts. -/
def hasExtension (path : Bytes) : Bool :=
  Path.hasExtension path "sh"

/-- Whether the content starts with the marker before its first line ends. -/
def startsWithMarker (content : Bytes) : Bool :=
  (content.take marker.length).takeWhile (· != newline) == marker

/-- Whether the file that the path leads to starts with the marker. -/
def isMarked (tree : FileTree) (path : Bytes) : Bool :=
  match tree.read path with
  | .ok content => startsWithMarker content
  | .error _ => false

/-- The shell on a search list; no program is excluded but the launcher's own. -/
def onList (tree : FileTree) (list : String) (toolName : String) : Option Bytes :=
  Search.onList tree executable (Utf8.encode list) none toolName

/-- The shell that must interpret a target, if it needs one and there is one. -/
def interpreter? (tree : FileTree) (settings : Settings) (environment : Environment)
    (path : Bytes) : Option Bytes :=
  (settings.searchList? environment).bind fun list =>
    let byExtension := if hasExtension path then onList tree list settings.toolName else none
    match byExtension with
    | some shell => some shell
    | none =>
      if settings.detectShebang && isMarked tree path then onList tree list settings.toolName
      else none

end ScriptShell

end CompilerLauncher
