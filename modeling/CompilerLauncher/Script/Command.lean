import CompilerLauncher.Script.Byte

/-!
The commands of shell scripts and the words that they are made of.

A word is a list of parts: text, and things to be replaced when the word is used. Each part knows
whether it is quoted, which keeps what it is replaced by in one piece. Parts hold commands and
commands hold words, so the types are defined together.
-/

namespace CompilerLauncher

namespace Script

/-- What becomes of the value of a parameter. Most treatments have an operand, and some can count an
empty value as none. Where the value only comes first, the operand is the last part of the word. An
unknown treatment is one that no parameter can be given. -/
inductive Treatment
  | value
  | valueFirst
  | length
  | orDefault (emptyCounts : Bool)
  | orAssign (emptyCounts : Bool)
  | orFail (emptyCounts : Bool)
  | ifSet (emptyCounts : Bool)
  | withoutStart (longest : Bool)
  | withoutEnd (longest : Bool)
  | unknown
  deriving DecidableEq, Repr

/-- What a redirection makes of a descriptor. -/
inductive Direction
  | input
  | output
  | overwrite
  | append
  | both
  | duplicate
  deriving DecidableEq, Repr

mutual

/-- A part of a word. -/
inductive Part
  | text (bytes : Bytes) (quoted : Bool)
  | parameter (name : Bytes) (treatment : Treatment) (operand : List Part) (quoted : Bool)
  | command (body : Command) (quoted : Bool)
  | arithmetic (expression : List Part) (quoted : Bool)

/-- A redirection of a descriptor to what a word names, or to a text that stands in the script. -/
inductive Redirection
  | place (descriptor : Nat) (direction : Direction) (target : List Part)
  | document (descriptor : Nat) (text : List Part)

/-- A command, with the line it begins in where a message may have to name it. The arms of a choice
are a chain of `arm`s that ends in `nothing`. -/
inductive Command
  | nothing
  | simple (line : Nat) (assignments : List (Bytes × List Part)) (words : List (List Part))
      (redirections : List Redirection)
  | redirected (line : Nat) (body : Command) (redirections : List Redirection)
  | negated (body : Command)
  | pipeline (commands : List Command)
  | both (left right : Command)
  | either (left right : Command)
  | sequence (commands : List Command)
  | background (body : Command)
  | subshell (line : Nat) (body : Command)
  | branch (condition yes no : Command)
  | loop (untilTrue : Bool) (condition body : Command)
  | forEach (line : Nat) (name : Bytes) (words : Option (List (List Part))) (body : Command)
  | choice (line : Nat) (word : List Part) (arms : Command)
  | arm (patterns : List (List Part)) (body others : Command)
  | define (name : Bytes) (body : Command)

end

/-- A word: its parts in order. -/
abbrev Word := List Part

namespace Word

/-- The word with neighbouring texts of one kind made one text. -/
def merged : Word → Word
  | [] => []
  | .text bytes quoted :: rest =>
    match merged rest with
    | .text more alsoQuoted :: later =>
      if quoted = alsoQuoted then .text (bytes ++ more) quoted :: later
      else .text bytes quoted :: .text more alsoQuoted :: later
    | later => .text bytes quoted :: later
  | part :: rest => part :: merged rest

/-- The bytes of a word's texts. -/
def textOf (word : Word) : Bytes :=
  word.flatMap fun
    | .text bytes _ => bytes
    | _ => []

/-- The text of a word that has nothing quoted and nothing to replace. -/
def plain? : Word → Option Bytes
  | [] => some []
  | .text bytes false :: rest => (plain? rest).map (bytes ++ ·)
  | _ => none

/-- The name and the value of a word that assigns: a name, an equals sign and the rest. -/
def assignment? : Word → Option (Bytes × Word)
  | .text bytes false :: rest =>
    let name := bytes.takeWhile (!isSign '=' ·)
    match bytes.drop name.length with
    | [] => none
    | _ :: value =>
      if isName name then
        some (name, if value = [] then rest else .text value false :: rest)
      else none
  | _ => none

end Word

/-- The words that have a meaning of their own where a command begins. -/
def reservedWords : List String :=
  ["!", "\x7b", "\x7d", "case", "do", "done", "elif", "else", "esac", "fi", "for", "if", "in",
    "then", "until", "while"]

/-- The commands that no function may replace. -/
def specialCommands : List String :=
  [":", ".", "break", "continue", "eval", "exec", "exit", "export", "local", "readonly", "return",
    "set", "shift", "times", "trap", "unset"]

end Script

end CompilerLauncher
