import CompilerLauncher.Script.Print

/-!
The integer expressions of shell scripts.

Numbers have 64 bits and wrap. Operators are listed from the loosest to the tightest; all of them
bind to the left. A name stands for the number that its variable spells, and an unset or empty one
for zero. What an expression turns out not to need is read, but not evaluated: it is not `live`.
-/

namespace CompilerLauncher

namespace Script

namespace Arithmetic

/-- A piece of an expression. -/
inductive Piece
  | number (value : Int)
  | name (name : Bytes)
  | operator (spelling : String)
  | stray
  deriving DecidableEq, Repr

/-- Why an expression has no value. -/
inductive Trouble
  | expecting (what : String)
  | divisionByZero
  | notANumber (text : Bytes)
  deriving DecidableEq, Repr

/-- The trouble with an expression in words. -/
def Trouble.message (expression : Bytes) : Trouble → String
  | expecting what =>
    s!"arithmetic expression: expecting {what}: \"{Utf8.lossy expression}\""
  | divisionByZero => s!"arithmetic expression: division by zero: \"{Utf8.lossy expression}\""
  | notANumber text => s!"Illegal number: {Utf8.lossy text}"

/-- The least number. -/
def least : Int := -9223372036854775808

/-- The greatest number. -/
def greatest : Int := 9223372036854775807

/-- The spellings of operators, those that begin with another one before it. -/
def spellings : List String :=
  ["<<=", ">>=", "<<", ">>", "<=", ">=", "==", "!=", "&&", "||", "+=", "-=", "*=", "/=", "%=",
    "&=", "^=", "|=", "+", "-", "*", "/", "%", "<", ">", "!", "~", "&", "^", "|", "(", ")", "?",
    ":", "="]

/-- The pieces of an expression, at most as many as `fuel`. What can be no piece is a stray one, and
nothing is read behind it. A number that is too great is the greatest one. -/
def piecesFrom : Nat → Bytes → List Piece
  | 0, _ => []
  | _ + 1, [] => []
  | fuel + 1, byte :: rest =>
    if isOneOf " \t\n" byte then piecesFrom fuel rest
    else if isDigit byte then
      match Print.unsigned? (byte :: rest) with
      | some (value, behind) => .number (min value greatest) :: piecesFrom fuel behind
      | none => [.stray]
    else if beginsName byte then
      let name := (byte :: rest).takeWhile continuesName
      .name name :: piecesFrom fuel ((byte :: rest).drop name.length)
    else
      match spellings.find? fun spelling => (Utf8.encode spelling).isPrefixOf (byte :: rest) with
      | some spelling => .operator spelling :: piecesFrom fuel ((byte :: rest).drop spelling.length)
      | none => [.stray]

/-- The binary operators that evaluate both sides, by how tightly they bind. -/
def levels : List (List String) :=
  [["|"], ["^"], ["&"], ["==", "!="], ["<", "<=", ">", ">="], ["<<", ">>"], ["+", "-"],
    ["*", "/", "%"]]

/-- A number in 64 bits. -/
def wrap (value : Int) : Int :=
  Int.bmod value 18446744073709551616

/-- A truth value as a number. -/
def ofTruth (truth : Bool) : Int :=
  if truth then 1 else 0

/-- The value of a binary operator; division by zero has none. -/
def combine (operator : String) (left right : Int) : Option Int :=
  let word (value : Int) : Nat := (value % 18446744073709551616).toNat
  let bits (operate : Nat → Nat → Nat) : Option Int :=
    some (wrap (operate (word left) (word right)))
  match operator with
  | "|" => bits (· ||| ·)
  | "^" => bits (· ^^^ ·)
  | "&" => bits (· &&& ·)
  | "==" => some (ofTruth (left == right))
  | "!=" => some (ofTruth (left != right))
  | "<" => some (ofTruth (left < right))
  | "<=" => some (ofTruth (left ≤ right))
  | ">" => some (ofTruth (left > right))
  | ">=" => some (ofTruth (left ≥ right))
  | "<<" => some (wrap (left * Int.pow 2 (right % 64).toNat))
  | ">>" => some (left.fdiv (Int.pow 2 (right % 64).toNat))
  | "+" => some (wrap (left + right))
  | "-" => some (wrap (left - right))
  | "*" => some (wrap (left * right))
  | "/" => if right = 0 then none else some (wrap (left.tdiv right))
  | "%" => if right = 0 then none else some (left.tmod right)
  | _ => none

/-- A reader of pieces that also holds the variables that have been assigned. -/
abbrev Evaluate := StateT (List Piece × List (Bytes × Int)) (Except Trouble)

/-- The number that a variable's text spells; one without digits is zero. -/
def numberOf (text : Bytes) : Except Trouble Int :=
  let (value, behind) := (Print.integer? text).getD (0, text)
  if value < least || greatest < value || behind.any (!isBlank ·) then .error (.notANumber text)
  else .ok value

/-- The value of a name: what was assigned to it last, or what the script's variable spells. -/
def valueOf (lookup : Bytes → Bytes) (name : Bytes) : Evaluate Int := do
  match (← get).2.lookup name with
  | some value => return value
  | none => numberOf (lookup name)

/-- The value of a binary operator where it is needed; elsewhere the right side stands for it. -/
def combined (live : Bool) (operator : String) (left right : Int) : Evaluate Int :=
  if !live then return right
  else
    match combine operator left right with
    | some value => return value
    | none => throw .divisionByZero

/-- Takes the operator if it comes next. -/
def takes (operator : String) : Evaluate Bool := do
  let (pieces, assigned) ← get
  if pieces.head? = some (.operator operator) then
    set (pieces.tail, assigned)
    return true
  else return false

/-- The operator of a list that comes next, which is then taken. -/
def takesOneOf (operators : List String) : Evaluate (Option String) := do
  let (pieces, assigned) ← get
  match pieces with
  | .operator spelling :: rest =>
    if operators.contains spelling then
      set (rest, assigned)
      return some spelling
    else return none
  | _ => return none

/-- The operators that assign, with what they do to the old value. -/
def assigning : List (String × String) :=
  [("=", ""), ("+=", "+"), ("-=", "-"), ("*=", "*"), ("/=", "/"), ("%=", "%"), ("<<=", "<<"),
    (">>=", ">>"), ("&=", "&"), ("^=", "^"), ("|=", "|")]

mutual

/-- Evaluates a whole expression: an assignment, a choice, or less. -/
def whole (lookup : Bytes → Bytes) : Nat → Bool → Evaluate Int
  | 0, _ => throw (.expecting "primary")
  | fuel + 1, live => do
    let (pieces, assigned) ← get
    match pieces with
    | .name name :: .operator spelling :: rest =>
      match assigning.lookup spelling with
      | some operator =>
        set (rest, assigned)
        let right ← whole lookup fuel live
        if !live then return right
        else
          let value ←
            if operator = "" then pure right
            else combined live operator (← valueOf lookup name) right
          modify fun (pieces, assigned) => (pieces, (name, value) :: assigned)
          return value
      | none => choice lookup fuel live
    | _ => choice lookup fuel live

/-- Evaluates a choice between two values. -/
def choice (lookup : Bytes → Bytes) : Nat → Bool → Evaluate Int
  | 0, _ => throw (.expecting "primary")
  | fuel + 1, live => do
    let condition ← either lookup fuel live
    if ← takes "?" then
      let yes ← whole lookup fuel (live && condition != 0)
      if ← takes ":" then
        let no ← choice lookup fuel (live && condition == 0)
        return if condition != 0 then yes else no
      else throw (.expecting "':'")
    else return condition

/-- Evaluates alternatives, up to the first that holds. -/
def either (lookup : Bytes → Bytes) : Nat → Bool → Evaluate Int
  | 0, _ => throw (.expecting "primary")
  | fuel + 1, live => do
    let left ← both lookup fuel live
    if ← takes "||" then
      let right ← either lookup fuel (live && left == 0)
      return ofTruth (left != 0 || right != 0)
    else return left

/-- Evaluates what must hold together, up to the first that does not. -/
def both (lookup : Bytes → Bytes) : Nat → Bool → Evaluate Int
  | 0, _ => throw (.expecting "primary")
  | fuel + 1, live => do
    let left ← level lookup fuel live levels
    if ← takes "&&" then
      let right ← both lookup fuel (live && left != 0)
      return ofTruth (left != 0 && right != 0)
    else return left

/-- Evaluates the operators of one level and all tighter ones. -/
def level (lookup : Bytes → Bytes) : Nat → Bool → List (List String) → Evaluate Int
  | 0, _, _ => throw (.expecting "primary")
  | fuel + 1, live, [] => single lookup fuel live
  | fuel + 1, live, operators :: tighter => do
    let left ← level lookup fuel live tighter
    levelRest lookup fuel live operators tighter left

/-- Goes on with the operators of one level behind a value. -/
def levelRest (lookup : Bytes → Bytes) :
    Nat → Bool → List String → List (List String) → Int → Evaluate Int
  | 0, _, _, _, _ => throw (.expecting "primary")
  | fuel + 1, live, operators, tighter, left => do
    match ← takesOneOf operators with
    | none => return left
    | some operator =>
      let right ← level lookup fuel live tighter
      levelRest lookup fuel live operators tighter (← combined live operator left right)

/-- Evaluates a number, a name, a parenthesis or an operator in front of one of them. -/
def single (lookup : Bytes → Bytes) : Nat → Bool → Evaluate Int
  | 0, _ => throw (.expecting "primary")
  | fuel + 1, live => do
    let (pieces, assigned) ← get
    set (pieces.tail, assigned)
    match pieces.head? with
    | some (.number value) => return value
    | some (.name name) => if live then valueOf lookup name else return 1
    | some (.operator "-") => return wrap (-(← single lookup fuel live))
    | some (.operator "+") => single lookup fuel live
    | some (.operator "!") => return ofTruth ((← single lookup fuel live) == 0)
    | some (.operator "~") => return wrap (-(← single lookup fuel live) - 1)
    | some (.operator "(") =>
      let value ← whole lookup fuel live
      if ← takes ")" then return value else throw (.expecting "')'")
    | _ => throw (.expecting "primary")

end

/-- The value of an expression and the variables that it assigns, the last first. No evaluation goes
deeper than fifteen levels for each piece. -/
def evaluate (lookup : Bytes → Bytes) (expression : Bytes) :
    Except Trouble (Int × List (Bytes × Int)) := do
  let pieces := piecesFrom (expression.length + 1) expression
  match ← (whole lookup (15 * (pieces.length + 2)) true).run (pieces, []) with
  | (value, [], assigned) => return (value, assigned)
  | _ => throw (.expecting "EOF")

end Arithmetic

end Script

end CompilerLauncher
