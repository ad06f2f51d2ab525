import CompilerLauncher.FileTree.Resolve
import CompilerLauncher.Script.Print

/-!
The conditions that `test` decides: about files, about texts and about numbers, with negation,
parentheses and connectives.
-/

namespace CompilerLauncher

namespace Script

namespace Condition

/-- Why a condition cannot be decided. -/
inductive Trouble
  | argumentExpected (operator : Bytes)
  | parenthesisExpected
  | unexpected (argument : Bytes)
  | notANumber (argument : Bytes)
  deriving DecidableEq, Repr

/-- The trouble in words. -/
def Trouble.message : Trouble → String
  | argumentExpected [] => "argument expected"
  | argumentExpected operator => s!"{Utf8.lossy operator}: argument expected"
  | parenthesisExpected => "closing paren expected"
  | unexpected argument => s!"{Utf8.lossy argument}: unexpected operator"
  | notANumber argument => s!"Illegal number: {Utf8.lossy argument}"

/-- The text of an argument, for comparison with an operator. -/
def textOf (argument : Bytes) : String :=
  Utf8.lossy argument

/-- What stands at a path, links followed. -/
def entry (tree : FileTree) (path : Bytes) : Option Entry :=
  (tree.lookup path).toOption.map (·.2)

/-- What stands at a path, the last name not followed. -/
def isLink (tree : FileTree) (path : Bytes) : Bool :=
  match tree.resolve path, Path.fileName? path with
  | _, some name =>
    let parent := path.take (path.length - name.length)
    match tree.lookup (if parent = [] then Path.here else parent) with
    | .ok (place, _) =>
      match tree.get? (place ++ [name]) with
      | some (.link _) => true
      | _ => false
    | .error _ => false
  | _, none => false

/-- The content of the file at a path is not empty. -/
def isFilled : Entry → Bool
  | .file data _ => !data.isEmpty
  | .directory _ => true
  | .link _ | .sink => false

/-- The value of a test of one operand, if there is such a test. -/
def unary? (tree : FileTree) (operator : String) (operand : Bytes) : Option Bool :=
  match operator with
  | "-n" => some (!operand.isEmpty)
  | "-z" => some operand.isEmpty
  | "-e" | "-O" | "-G" => some (entry tree operand).isSome
  | "-f" => some ((entry tree operand).any fun
      | .file _ _ => true
      | _ => false)
  | "-d" => some ((entry tree operand).any fun
      | .directory _ => true
      | _ => false)
  | "-c" => some (entry tree operand == some .sink)
  | "-s" => some ((entry tree operand).any isFilled)
  | "-r" | "-w" => some (entry tree operand).isSome
  | "-x" => some ((entry tree operand).any FileTree.Entry.mayExecute)
  | "-L" | "-h" => some (isLink tree operand)
  | "-b" | "-p" | "-S" | "-u" | "-g" | "-k" | "-t" => some false
  | _ => none

/-- The number that an argument spells, blanks around it allowed. -/
def number (argument : Bytes) : Except Trouble Int :=
  match wholeNumber? argument with
  | some value => .ok value
  | none => .error (.notANumber argument)

/-- Whether two paths lead to one place. -/
def isSame (tree : FileTree) (left right : Bytes) : Bool :=
  match tree.lookup left, tree.lookup right with
  | .ok (one, _), .ok (other, _) => one == other
  | _, _ => false

/-- The value of a test of two operands. No file is newer or older than another. -/
def binary (tree : FileTree) (left : Bytes) (operator : String) (right : Bytes) :
    Except Trouble Bool :=
  let compare (test : Int → Int → Bool) : Except Trouble Bool := do
    return test (← number left) (← number right)
  match operator with
  | "=" => .ok (left == right)
  | "!=" => .ok (left != right)
  | "<" => .ok (decide (left < right))
  | ">" => .ok (decide (right < left))
  | "-eq" => compare (· == ·)
  | "-ne" => compare (· != ·)
  | "-lt" => compare (· < ·)
  | "-le" => compare (· ≤ ·)
  | "-gt" => compare (· > ·)
  | "-ge" => compare (· ≥ ·)
  | "-ef" => .ok (isSame tree left right)
  | _ => .ok false

/-! ## Reading -/

/-- What an argument is where it stands. -/
inductive Role
  | missing
  | operand
  | unary (operator : String)
  | binary (operator : String)
  | not
  | and
  | or
  | opening
  | closing
  deriving DecidableEq, Repr

/-- The operators that stand before an operand. -/
def unaryOperators : List String :=
  ["-r", "-w", "-x", "-e", "-f", "-d", "-c", "-b", "-p", "-u", "-g", "-k", "-s", "-t", "-z", "-n",
    "-h", "-O", "-G", "-L", "-S"]

/-- The operators that stand between two operands. -/
def binaryOperators : List String :=
  ["=", "!=", "<", ">", "-eq", "-ne", "-ge", "-gt", "-le", "-lt", "-nt", "-ot", "-ef"]

/-- Whether an argument is an operator between two operands. -/
def isBinary (argument : Bytes) : Bool :=
  binaryOperators.contains (textOf argument)

/-- Whether an argument that looks like an operator is an operand: if nothing follows it, or if an
operator between two operands and something else do. -/
def isOperand : List Bytes → Bool
  | [] => true
  | [_] => false
  | next :: _ => isBinary next

/-- The role of the first of the arguments. -/
def roleOf : List Bytes → Role
  | [] => .missing
  | argument :: rest =>
    let text := textOf argument
    if unaryOperators.contains text then if isOperand rest then .operand else .unary text
    else if binaryOperators.contains text then .binary text
    else
      match text with
      | "!" => .not
      | "-a" => .and
      | "-o" => .or
      | "(" => if rest.isEmpty then .operand else .opening
      | ")" => .closing
      | _ => .operand

/-- A reader of conditions. The state is the arguments from the one that has been looked at last. -/
abbrev Decide := StateT (List Bytes) (Except Trouble)

/-- Goes on to the next argument, and says what its role is. -/
def advance : Decide Role := do
  modify List.tail
  return roleOf (← get)

mutual

/-- Decides alternatives. -/
def alternatives (tree : FileTree) : Nat → Role → Decide Bool
  | 0, _ => throw (.argumentExpected [])
  | fuel + 1, role => do
    let left ← conjunctions tree fuel role
    if roleOf (← get).tail = .or then
      discard advance
      let right ← alternatives tree fuel (← advance)
      return left || right
    else return left

/-- Decides what must hold together. -/
def conjunctions (tree : FileTree) : Nat → Role → Decide Bool
  | 0, _ => throw (.argumentExpected [])
  | fuel + 1, role => do
    let left ← negations tree fuel role
    if roleOf (← get).tail = .and then
      discard advance
      let right ← conjunctions tree fuel (← advance)
      return left && right
    else return left

/-- Decides a test that may be negated. -/
def negations (tree : FileTree) : Nat → Role → Decide Bool
  | 0, _ => throw (.argumentExpected [])
  | fuel + 1, role => do
    if role = .not then
      let next := roleOf (← get).tail
      if next ≠ .missing then modify List.tail
      return !(← negations tree fuel next)
    else primary tree fuel role

/-- Decides one test. -/
def primary (tree : FileTree) : Nat → Role → Decide Bool
  | 0, _ => throw (.argumentExpected [])
  | fuel + 1, role => do
    match role with
    | .missing => return false
    | .opening =>
      let next ← advance
      if next = .closing then return false
      else
        let inner ← alternatives tree fuel next
        if (← advance) = .closing then return inner else throw .parenthesisExpected
    | .unary operator =>
      modify List.tail
      match ← get with
      | [] => throw (.argumentExpected (Utf8.encode operator))
      | operand :: _ =>
        if operator = "-t" then discard (number operand)
        return (unary? tree operator operand).getD false
    | _ =>
      match ← get with
      | left :: operator :: rest =>
        match roleOf (operator :: rest), rest with
        | .binary spelling, right :: _ =>
          set rest
          binary tree left spelling right
        | .binary _, [] => throw (.argumentExpected operator)
        | _, _ => return !left.isEmpty
      | [only] => return !only.isEmpty
      | [] => return false

end

/-- Decides what arguments say from an argument of a known role on. Something behind it that no
operator joins is in the way. -/
def decideFrom (tree : FileTree) (arguments : List Bytes) (role : Role) : Except Trouble Bool :=
  match (alternatives tree (4 * arguments.length + 8) role).run arguments with
  | .ok (_, first :: _ :: _) => .error (.unexpected first)
  | .ok (value, _) => .ok value
  | .error trouble => .error trouble

/-- Decides a condition. Without arguments it does not hold. Three arguments with an operator in the
middle are a comparison, whatever the others look like; with three or four arguments a negation
comes before all else, and so do parentheses around everything. -/
def decide? (tree : FileTree) : List Bytes → Except Trouble Bool
  | [] => .ok false
  | [left, operator, right] =>
    if isBinary operator then decideFrom tree [left, operator, right] .operand
    else if textOf left = "(" && textOf right = ")" then
      decideFrom tree [operator] (roleOf [operator])
    else if textOf left = "!" then (decide? tree [operator, right]).map (!·)
    else decideFrom tree [left, operator, right] (roleOf [left, operator, right])
  | [first, second, third, last] =>
    let arguments := [first, second, third, last]
    if textOf first = "(" && textOf last = ")" then
      decideFrom tree [second, third] (roleOf [second, third])
    else if textOf first = "!" then (decide? tree [second, third, last]).map (!·)
    else decideFrom tree arguments (roleOf arguments)
  | arguments => decideFrom tree arguments (roleOf arguments)

end Condition

end Script

end CompilerLauncher
