import CompilerLauncher.Script.Arithmetic
import CompilerLauncher.Script.Pattern
import CompilerLauncher.Script.Session

/-!
What becomes of words when a script uses them.

The parts of a word are replaced, what was replaced outside quotes is cut into fields, and fields
that are patterns are replaced by the names of files. The commands whose output replaces a part are
run by the caller's `substitute`.
-/

namespace CompilerLauncher

namespace Script

namespace Expand

/-- A stretch of an expanded word: marks that stay together, bytes that may be cut into fields, and
the boundary between two arguments. -/
inductive Chunk
  | kept (marks : List Mark)
  | cut (bytes : Bytes)
  | boundary
  deriving DecidableEq, Repr

/-! ## Parameters -/

/-- A number in decimal digits. -/
def digits (number : Int) : Bytes :=
  Utf8.encode (toString number)

/-- The bytes between which fields are cut. -/
def separators (shell : Shell) : Bytes :=
  (Session.valueOf? shell (Utf8.encode "IFS")).getD Session.usualSeparators

/-- All arguments as one text. -/
def joinedArguments (shell : Shell) : Bytes :=
  ((separators shell).take 1).intercalate shell.arguments

/-- The value of a parameter that is one text. -/
def parameter? (shell : Shell) (name : Bytes) : Option Bytes :=
  match name with
  | [single] =>
    match sign single with
    | '#' => some (digits shell.arguments.length)
    | '?' => some (digits shell.status)
    | '$' => some (digits shell.pid.toInt)
    | '!' => shell.lastJob.map fun pid => digits pid.toInt
    | '-' => some (Utf8.encode shell.letters)
    | '0' => some shell.zero
    | '@' | '*' => some (joinedArguments shell)
    | _ =>
      if isDigit single then shell.arguments[decimal name - 1]?
      else Session.valueOf? shell name
  | _ =>
    if name.head?.any isDigit then
      match decimal name with
      | 0 => some shell.zero
      | number + 1 => shell.arguments[number]?
    else Session.valueOf? shell name

/-- Whether the name stands for all arguments. -/
def isAll (name : Bytes) : Bool :=
  name == Utf8.encode "@" || name == Utf8.encode "*"

/-- All arguments. Unquoted, or by the name that keeps them apart, each of them is by itself where
fields are cut; otherwise they are one text. -/
def allArguments (shell : Shell) (cutting : Bool) (name : Bytes) (quoted : Bool) : List Chunk :=
  if !cutting || (quoted && name != Draft.everyArgument) then
    [.kept (marksOf true (joinedArguments shell))]
  else
    let chunk (argument : Bytes) : Chunk :=
      if quoted then .kept (marksOf true argument) else .cut argument
    (shell.arguments.map fun argument => [chunk argument]) |>.intersperse [.boundary] |>.flatten

/-- A replacement as a chunk. -/
def replacement (quoted : Bool) (bytes : Bytes) : Chunk :=
  if quoted then .kept (marksOf true bytes) else .cut bytes

/-- The bytes of chunks, as one text. -/
def joined (chunks : List Chunk) : List Mark :=
  chunks.flatMap fun
    | .kept marks => marks
    | .cut bytes => marksOf false bytes
    | .boundary => [⟨space, true⟩]

/-! ## Tildes -/

/-- Where a tilde may stand for a directory: nowhere, at the start of a word, or behind colons, too,
as in what is assigned. -/
inductive Tildes
  | none
  | atStart
  | behindColons
  deriving DecidableEq, Repr

/-- The directory of a user: of the one who runs the shell, or of the named one. -/
def homeOf? (shell : Shell) (user : Bytes) : Option Bytes :=
  if user = [] then Session.valueOf? shell (Utf8.encode "HOME")
  else if user = Utf8.encode "root" then some (Utf8.encode "/root")
  else none

/-- The directory that the start of a text stands for, and the text behind its name. The name must
end in the text, or else the word. -/
def tilde? (shell : Shell) (colons isLast : Bool) (text : Bytes) : Option (Bytes × Bytes) :=
  match text with
  | [] => none
  | first :: rest =>
    if !isSign '~' first then none
    else
      let user := rest.takeWhile fun byte => !(isSign '/' byte || (colons && isSign ':' byte))
      let behind := rest.drop user.length
      if behind = [] && !isLast then none
      else (homeOf? shell user).map fun home => (home, behind)

/-- The pieces of a text behind colons, of which each begins with its colon. -/
def atColons (text : Bytes) : List Bytes :=
  text.foldr (fun byte pieces =>
    match pieces with
    | [] => [[byte]]
    | piece :: later =>
      if piece.head?.any (isSign ':') then [byte] :: piece :: later
      else (byte :: piece) :: later) []

/-- The chunks of a text that a tilde may stand in behind `lead`; `plain` makes them of all else. -/
def withTilde (shell : Shell) (colons isLast : Bool) (plain : Bytes → Chunk) (lead text : Bytes) :
    List Chunk :=
  match tilde? shell colons isLast text with
  | some (home, behind) => [plain lead, .kept (marksOf true home), plain behind]
  | none => [plain (lead ++ text)]

/-- The chunks of pieces that begin with colons. -/
def withColons (shell : Shell) (isLast : Bool) (plain : Bytes → Chunk) : List Bytes → List Chunk
  | [] => []
  | piece :: later =>
    let here : List Chunk :=
      match piece with
      | colon :: rest =>
        if isSign ':' colon then withTilde shell true (isLast || !later.isEmpty) plain [colon] rest
        else [plain piece]
      | [] => []
    here ++ withColons shell isLast plain later

/-- The chunks of a text. -/
def withTildes (shell : Shell) (tildes : Tildes) (isFirst isLast : Bool) (plain : Bytes → Chunk)
    (text : Bytes) : List Chunk :=
  match tildes with
  | .none => [plain text]
  | .atStart => if isFirst then withTilde shell false isLast plain [] text else [plain text]
  | .behindColons =>
    match atColons text with
    | [] => [plain text]
    | first :: later =>
      if isFirst && !first.head?.any (isSign ':') then
        withTilde shell true (isLast || !later.isEmpty) plain [] first
          ++ withColons shell isLast plain later
      else withColons shell isLast plain (first :: later)

/-! ## Parts -/

/-- How a word is used: whether it is cut into fields, whether it is an operand of a replacement,
whose own text may then be cut, and where tildes may stand. -/
structure Usage where
  cutting : Bool
  isOperand : Bool := false
  tildes : Tildes := .none

/-- The use of an operand that takes the place of a value. -/
def Usage.operand (usage : Usage) : Usage :=
  { usage with
    isOperand := true
    tildes := if usage.tildes = .behindColons then .behindColons else .atStart }

/-- The use of a word that becomes one text. -/
def Usage.text : Usage :=
  { cutting := false, tildes := .atStart }

mutual

/-- Replaces the parts of a word, from its start or behind other parts. -/
def chunks (substitute : Command → Act Bytes) (usage : Usage) (isFirst : Bool) :
    List Part → Act (List Chunk)
  | [] => return []
  | part :: rest => do
    let here ← chunk substitute usage isFirst rest.isEmpty part
    match part with
    | .parameter _ .valueFirst _ _ => return here
    | _ => return here ++ (← chunks substitute usage false rest)

/-- Replaces a part of a word. -/
def chunk (substitute : Command → Act Bytes) (usage : Usage) (isFirst isLast : Bool) :
    Part → Act (List Chunk)
  | .text bytes quoted => do
    if quoted then return [.kept (marksOf true bytes)]
    else
      let plain (bytes : Bytes) : Chunk :=
        if usage.isOperand && usage.cutting then .cut bytes else .kept (marksOf false bytes)
      return withTildes (← get).shell usage.tildes isFirst isLast plain bytes
  | .command body quoted => do
    let output ← substitute body
    return [replacement quoted output]
  | .arithmetic expression quoted => do
    let inner ← chunks substitute { cutting := false } true expression
    let expression := bytesOf (joined inner)
    let shell := (← get).shell
    let lookup (name : Bytes) : Bytes := (Session.valueOf? shell name).getD []
    match Arithmetic.evaluate lookup expression with
    | .ok (value, assigned) =>
      for (name, value) in assigned.reverse do
        Session.setVariable name (digits value)
      return [replacement quoted (digits value)]
    | .error trouble => Session.fail 2 (trouble.message expression)
  | .parameter name treatment operand quoted => do
    let shell := (← get).shell
    let value := parameter? shell name
    let present : Act (List Chunk) := do
      if isAll name then return allArguments shell usage.cutting name quoted
      else
        match value with
        | some value => return [replacement quoted value]
        | none =>
          if shell.isOn "nounset" then Session.fail 2 s!"{Utf8.lossy name}: parameter not set"
          else return [replacement quoted []]
    let isThere (emptyCounts : Bool) : Bool :=
      match value with
      | some value => !(emptyCounts && value.isEmpty)
      | none => false
    let trimmed (trim : List Matcher → Bytes → Bytes) : Act (List Chunk) := do
      if value.isNone then present
      else
        let marks := joined (← chunks substitute Usage.text true operand)
        return [replacement quoted (trim (Pattern.read marks) (value.getD []))]
    match treatment with
    | .value => present
    | .valueFirst => return (← present) ++ (← chunks substitute usage false operand)
    | .length =>
      if value.isNone then discard present
      return [replacement quoted (digits (value.getD []).length)]
    | .orDefault emptyCounts =>
      if isThere emptyCounts then present else chunks substitute usage.operand true operand
    | .orAssign emptyCounts =>
      if isThere emptyCounts then present
      else do
        let marks := joined (← chunks substitute Usage.text true operand)
        Session.setVariable name (bytesOf marks)
        return [replacement quoted (bytesOf marks)]
    | .orFail emptyCounts =>
      if isThere emptyCounts then present
      else do
        let marks := joined (← chunks substitute Usage.text true operand)
        let reason :=
          if !operand.isEmpty then Utf8.lossy (bytesOf marks)
          else if emptyCounts then "parameter not set or null"
          else "parameter not set"
        Session.fail 2 s!"{Utf8.lossy name}: {reason}"
    | .ifSet emptyCounts =>
      if isThere emptyCounts then chunks substitute usage.operand true operand
      else return [replacement quoted []]
    | .withoutStart longest => trimmed fun pattern value => Pattern.trimStart pattern longest value
    | .withoutEnd longest => trimmed fun pattern value => Pattern.trimEnd pattern longest value
    | .unknown => Session.fail 2 "Bad substitution"

end

/-! ## Fields -/

/-- Fields that are being cut: those that are done, newest first, the one that is open, and whether
a blank has just ended one. -/
structure Fields where
  done : List (List Mark) := []
  open? : Option (List (List Mark)) := none
  afterBlank : Bool := false

namespace Fields

/-- The marks of an open field, whose pieces come newest first. -/
def marksOf (pieces : List (List Mark)) : List Mark :=
  pieces.reverse.flatten

/-- Ends the open field. -/
def finish (fields : Fields) : Fields :=
  match fields.open? with
  | some pieces => { done := marksOf pieces :: fields.done }
  | none => fields

/-- Takes marks that stay together. -/
def keep (fields : Fields) (marks : List Mark) : Fields :=
  { fields with open? := some (marks :: fields.open?.getD []), afterBlank := false }

/-- Takes a byte that may end a field. -/
def cut (separators : Bytes) (fields : Fields) (byte : UInt8) : Fields :=
  if separators.contains byte then
    let blank := isOneOf " \t\n" byte
    match fields.open? with
    | some pieces => { done := marksOf pieces :: fields.done, afterBlank := blank }
    | none =>
      if blank then fields
      else if fields.afterBlank then { fields with afterBlank := false }
      else { fields with done := [] :: fields.done }
  else fields.keep [⟨byte, false⟩]

/-- Takes a chunk. -/
def take (separators : Bytes) (fields : Fields) : Chunk → Fields
  | .kept marks => fields.keep marks
  | .cut bytes => bytes.foldl (cut separators) fields
  | .boundary => fields.finish

end Fields

/-- The fields of a word. -/
def fieldsOf (substitute : Command → Act Bytes) (word : Word) : Act (List (List Mark)) := do
  let expanded ← chunks substitute { cutting := true, tildes := .atStart } true word
  let separators := separators (← get).shell
  let fields := expanded.foldl (Fields.take separators) {}
  return fields.finish.done.reverse

/-- The arguments that a word makes. -/
def argumentsOf (substitute : Command → Act Bytes) (word : Word) : Act (List Bytes) := do
  let fields ← fieldsOf substitute word
  let session ← get
  if session.shell.isOn "noglob" then return fields.map bytesOf
  else return fields.flatMap (Pattern.files session.storage.tree)

/-- The arguments that words make. -/
def arguments (substitute : Command → Act Bytes) : List Word → Act (List Bytes)
  | [] => return []
  | word :: rest => do
    let here ← argumentsOf substitute word
    return here ++ (← arguments substitute rest)

/-- The marks of a word that is not cut into fields. -/
def marks (substitute : Command → Act Bytes) (word : Word) : Act (List Mark) := do
  return joined (← chunks substitute Usage.text true word)

/-- The text of a word that is not cut into fields. -/
def text (substitute : Command → Act Bytes) (word : Word) : Act Bytes := do
  return bytesOf (← marks substitute word)

/-- What a word assigns. -/
def assigned (substitute : Command → Act Bytes) (word : Word) : Act Bytes := do
  let usage : Usage := { cutting := false, tildes := .behindColons }
  return bytesOf (joined (← chunks substitute usage true word))

/-- The text of a document that stands in the script. -/
def document (substitute : Command → Act Bytes) (word : Word) : Act Bytes := do
  return bytesOf (joined (← chunks substitute { cutting := false } true word))

end Expand

end Script

end CompilerLauncher
