import CompilerLauncher.FileTree.Resolve

/-!
What a file turns a process into.

A file that may be executed is a program by its content. One that starts with `#!` names an
interpreter, with at most one argument, which is started with the file's path; that interpreter may
be such a file again. One that starts with the mark of programs is a program of the system, whose
name follows the mark. Anything else cannot be executed.
-/

namespace CompilerLauncher

/-- A program of the system with its argument vector. -/
structure Image where
  program : Bytes
  arguments : List Bytes
  deriving DecidableEq, Repr

namespace Image

/-- The greatest length of one argument, the byte that ends it included. -/
def argumentLimit : Nat := 131072

/-- The greatest length of all arguments and variables together. -/
def totalLimit : Nat := 2097152

/-- The number of bytes in which an interpreter is looked for. -/
def window : Nat := 256

/-- The number of interpreters that may follow one another. -/
def interpreterLimit : Nat := 5

/-- The mark of the system's programs. -/
def programMark : Bytes := 0x7f :: Utf8.encode "ELF"

/-- The mark of files that name an interpreter. -/
def scriptMark : Bytes := Utf8.encode "#!"

/-- A space or a tab. -/
def isGap (byte : UInt8) : Bool :=
  byte == space || byte == 9

/-- A byte that ends the name of an interpreter. -/
def endsName (byte : UInt8) : Bool :=
  isGap byte || byte == 0

/-- The bytes without the gaps at their end. -/
def trimEnd (bytes : Bytes) : Bytes :=
  (bytes.reverse.dropWhile isGap).reverse

/-- The first line of a script behind its mark, if it is sure to be whole: a line whose end is not
seen must at least show the end of the interpreter's name, and loses its last byte. -/
def firstLine? (content : Bytes) : Option Bytes :=
  let buffer := content.take window ++ List.replicate (window - content.length) 0
  let line := buffer.drop scriptMark.length
  if line.contains newline then some (line.takeWhile (· != newline))
  else if (line.dropWhile isGap).any endsName then some line.dropLast
  else none

/-- The argument behind an interpreter's name, up to a zero byte. Behind a gap even an empty one
counts. -/
def argument? (behind : Bytes) : Option Bytes :=
  if behind.head?.any isGap then
    match behind.dropWhile isGap with
    | [] => none
    | argument => some (argument.takeWhile (· != 0))
  else none

/-- The interpreter that a script names, and the argument for it. -/
def interpreter? (content : Bytes) : Option (Bytes × Option Bytes) := do
  let line ← firstLine? content
  let line := (trimEnd line).dropWhile isGap
  let name := line.takeWhile (!endsName ·)
  if name = [] then none
  else return (name, argument? (line.drop name.length))

/-- The content of the file that a path leads to, if it may be executed. -/
def executable (tree : FileTree) (path : Bytes) : Except Errno Bytes :=
  match tree.lookup path with
  | .ok (_, .file data mode) =>
    if FileTree.Entry.mayExecute (.file data mode) then .ok data else .error .accessDenied
  | .ok _ => .error .accessDenied
  | .error cause => .error cause

/-- Loads what a path leads to, looking at no more than the given number of files. -/
def loadThrough (tree : FileTree) : Nat → Bytes → List Bytes → Except Errno Image
  | 0, _, _ => .error .tooManyLinks
  | files + 1, path, arguments =>
    match executable tree path with
    | .error cause => .error cause
    | .ok content =>
      if programMark.isPrefixOf content then
        .ok ⟨content.drop programMark.length, arguments⟩
      else if scriptMark.isPrefixOf content then
        match interpreter? content with
        | none => .error .notExecutable
        | some (name, argument) =>
          loadThrough tree files name
            (name :: argument.toList ++ path :: arguments.tail)
      else .error .notExecutable

/-- Loads what a path leads to. The arguments must fit. -/
def load (tree : FileTree) (path : Bytes) (arguments : List Bytes) : Except Errno Image :=
  if arguments.any fun argument => argumentLimit ≤ argument.length then .error .argumentsTooLong
  else if totalLimit < arguments.foldl (fun total argument => total + argument.length + 9) 0 then
    .error .argumentsTooLong
  else loadThrough tree (interpreterLimit + 1) path arguments

end Image

end CompilerLauncher
