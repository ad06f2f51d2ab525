import CompilerLauncher.Script.Tool.Basic

/-!
The system's programs that work on the lines and the bytes of files, or of the input.
-/

namespace CompilerLauncher

namespace Script

namespace Tool

open Session
open Builtin (shown)

/-- A number with spaces before it up to a width. -/
def rightAligned (width number : Nat) : Bytes :=
  let digits := Utf8.encode (toString number)
  List.replicate (width - digits.length) space ++ digits

/-! ## Whole files -/

/-- The marks for bytes that cannot be seen. -/
def visibleByte (byte : UInt8) : Bytes :=
  let low (value : UInt8) : Bytes :=
    if value < 32 then [94, value + 64] else if value = 127 then [94, 63] else [value]
  if byte < 128 then low byte else Utf8.encode "M-" ++ low (byte - 128)

/-- A line as it is shown, the byte that ends it left out. -/
def visibleLine (given : Options.Given) (line : Bytes) : Bytes :=
  let has (letters : String) : Bool := letters.toList.any (isGiven given)
  line.flatMap fun byte =>
    if byte = 9 then if has "TAt" then Utf8.encode "^I" else [byte]
    else if has "vAet" then visibleByte byte
    else [byte]

/-- Lines with numbers and without repeated empty lines, as options ask for; `number` is that of the
last line and `wasEmpty` says whether it was empty. -/
def numbered (given : Options.Given) (number : Nat) (wasEmpty : Bool) :
    List (Bytes × Bytes) → Bytes
  | [] => []
  | (line, ending) :: rest =>
    let isEmpty : Bool := line = [] && ending ≠ []
    if isEmpty && wasEmpty && isGiven given 's' then numbered given number true rest
    else
      let counts := isGiven given 'b' && !isEmpty || isGiven given 'n' && !isGiven given 'b'
      let start := if counts then rightAligned 6 (number + 1) ++ [9] else []
      let mark : Bytes :=
        if ending ≠ [] && "EAe".toList.any (isGiven given) then Utf8.encode "$" else []
      start ++ visibleLine given line ++ mark ++ ending
        ++ numbered given (if counts then number + 1 else number) isEmpty rest

/-- The lines of a text, each with what ends it. -/
def endedLines (content : Bytes) : List (Bytes × Bytes) :=
  let fields := Path.fields newline content
  let whole := fields.dropLast.map fun line => (line, [newline])
  match fields.getLast? with
  | some (first :: rest) => whole ++ [(first :: rest, [])]
  | _ => whole

/-- Prints files one after another, or the input. -/
def cat (arguments : List Bytes) : Act Nat := do
  let (given, operands) ← ({ letters := "AbeEnstTuv" } : Options).read arguments
  let mut status := 0
  let mut found : Bytes := []
  for operand in if operands = [] then [Utf8.encode "-"] else operands do
    match ← contentOf operand with
    | .ok content => if given = [] then print content else found := found ++ content
    | .error cause =>
      complain s!"{shown operand}: {cause.text}"
      status := 1
      if cause = .badDescriptor then complain s!"closing standard input: {cause.text}"
  if found ≠ [] then print (numbered given 0 false (endedLines found))
  return status

/-- Prints files with their lines in reverse order. -/
def tac (arguments : List Bytes) : Act Nat := do
  let (_, operands) ← ({ } : Options).read arguments
  let complaint (operand : Bytes) : String :=
    s!"failed to open '{shown operand}' for reading"
  let (found, isWhole) ← contentsOf complaint operands
  for (_, content) in found do
    print ((endedLines content).reverse.flatMap fun (line, ending) => line ++ ending)
  return if isWhole then 0 else 1

/-- Prints the input, and writes it to files, too. -/
def tee (arguments : List Bytes) : Act Nat := do
  let (given, operands) ← ({ letters := "aip" } : Options).read arguments
  let content ← takeInput
  print content
  forAll operands fun operand => do
    let tree := (← get).storage.tree
    let old := if isGiven given 'a' then (tree.read operand).toOption.getD [] else []
    let made := (tree.create operand 0o644).map fun (made, there) =>
      match there.bind fun there => (made.get? there).map fun entry => (there, entry) with
      | some (there, .file _ mode) => made.put there (.file (old ++ content) mode)
      | _ => made
    change (shown operand) made

/-! ## Ends -/

/-- Arguments in which a dash and a number at their start stand for a number of lines. -/
def withCount (arguments : List Bytes) : List Bytes :=
  match arguments with
  | (dash :: digits) :: rest =>
    if isSign '-' dash && (natural? digits).isSome then Utf8.encode "-n" :: digits :: rest
    else arguments
  | _ => arguments

/-- The blocks of several files, each under the name of its file. -/
def underNames (given : Options.Given) (blocks : List (Bytes × Bytes)) : Bytes :=
  if (blocks.length ≤ 1 && !isGiven given 'v') || isGiven given 'q' then blocks.flatMap (·.2)
  else
    let block (entry : Bytes × Bytes) : Bytes :=
      let name := if entry.1 = Utf8.encode "-" then Utf8.encode "standard input" else entry.1
      Utf8.encode "==> " ++ name ++ Utf8.encode " <==\n" ++ entry.2
    ([newline] : Bytes).intercalate (blocks.map block)

/-- How much of a file is to be shown: whether lines are counted, a sign before the number, and the
number. -/
structure Amount where
  isLines : Bool := true
  sign? : Option Char := none
  number : Nat := 10

/-- The amount that options ask for. -/
def amountOf (given : Options.Given) : Act Amount := do
  match given.reverse.find? fun option => option.1 == 'n' || option.1 == 'c' with
  | none => return {}
  | some (letter, value) =>
    let hasSign := value.head?.any (isOneOf "+-")
    match natural? (if hasSign then value.tail else value) with
    | some number =>
      let sign? := if hasSign then value.head?.map sign else none
      return { isLines := letter == 'n', sign?, number }
    | none =>
      let what := if letter = 'n' then "lines" else "bytes"
      stop 1 s!"invalid number of {what}: '{shown value}'"

/-- Prints the beginnings or the ends of files. -/
def part (cut : Amount → Bytes → Bytes) (arguments : List Bytes) : Act Nat := do
  let (given, operands) ← ({ letters := "n:c:qv" } : Options).read (withCount arguments)
  let amount ← amountOf given
  let complaint (operand : Bytes) : String := s!"cannot open '{shown operand}' for reading"
  let (found, isWhole) ← contentsOf complaint operands
  print (underNames given (found.map fun (name, content) => (name, cut amount content)))
  return if isWhole then 0 else 1

/-- Does something with the bytes or with the lines of a text. -/
def onUnits (isLines : Bool) (content : Bytes) (change : ∀ {α : Type}, List α → List α) : Bytes :=
  if isLines then (change (endedLines content)).flatMap fun (line, ending) => line ++ ending
  else change content

/-- Prints the beginnings of files. -/
def head : List Bytes → Act Nat :=
  part fun amount content =>
    onUnits amount.isLines content fun units =>
      if amount.sign? = some '-' then units.take (units.length - amount.number)
      else units.take amount.number

/-- Prints the ends of files. -/
def tail : List Bytes → Act Nat :=
  part fun amount content =>
    onUnits amount.isLines content fun units =>
      if amount.sign? = some '+' then units.drop (amount.number - 1)
      else units.drop (units.length - amount.number)

/-! ## Counting -/

/-- The numbers of lines, words and bytes of a text. -/
def counts (content : Bytes) : Nat × Nat × Nat :=
  let step (state : Nat × Bool) (byte : UInt8) : Nat × Bool :=
    if isBlank byte then (state.1, false)
    else (if state.2 then state.1 else state.1 + 1, true)
  ((content.filter (· == newline)).length, (content.foldl step (0, false)).1, content.length)

/-- Whether an operand, or the input, is a file of the tree. -/
def isStored (operand : Bytes) : Act Bool := do
  let session ← get
  if operand ≠ Utf8.encode "-" then return true
  else
    match (session.shell.descriptors.lookup 0).bind fun found =>
        session.storage.files[found.file]? with
    | some (.place ..) => return true
    | _ => return false

/-- Counts lines, words and bytes. -/
def wc (arguments : List Bytes) : Act Nat := do
  let options : Options :=
    { letters := "lwcm", names := [("lines", 'l'), ("words", 'w'), ("bytes", 'c')] }
  let (given, operands) ← options.read arguments
  let (found, isWhole) ← contentsOf shown operands
  let stored ← (if operands = [] then [Utf8.encode "-"] else operands).mapM isStored
  let has (letters : String) : Bool := given = [] || letters.toList.any (isGiven given)
  let chosen (lines words bytes : Nat) : List Nat :=
    (if has "l" then [lines] else []) ++ (if has "w" then [words] else []) ++
      (if has "cm" then [bytes] else [])
  let size := found.foldl (fun total entry => total + entry.2.length) 0
  let width :=
    if operands.length ≤ 1 && (chosen 0 0 0).length = 1 then 1
    else if stored.all id then (toString size).length
    else 7
  let line (name : Bytes) (numbers : List Nat) : Bytes :=
    let name := if operands = [] then [] else space :: name
    ([space] : Bytes).intercalate (numbers.map (rightAligned width)) ++ name
  let each := found.map fun (name, content) => (name, counts content)
  let total := each.foldl (fun sum entry =>
    (sum.1 + entry.2.1, sum.2.1 + entry.2.2.1, sum.2.2 + entry.2.2.2)) (0, 0, 0)
  printLines (each.map fun (name, lines, words, bytes) => line name (chosen lines words bytes))
  if 1 < operands.length then
    printLines [line (Utf8.encode "total") (chosen total.1 total.2.1 total.2.2)]
  return if isWhole then 0 else 1

/-- Prints the numbers from a first to a last one. -/
def seq (arguments : List Bytes) : Act Nat := do
  let separator? := match arguments with
    | first :: _ =>
      if (Utf8.encode "-s").isPrefixOf first then some (first.drop 2) else none
    | [] => none
  let numbers := match separator? with
    | some [] => arguments.drop 2
    | some _ => arguments.drop 1
    | none => arguments
  let separator := match separator? with
    | some [] => (arguments[1]?).getD []
    | some separator => separator
    | none => [newline]
  if numbers = [] then misuse 1 "missing operand"
  else
    for number in numbers do
      if (wholeNumber? number).isNone then
        misuse 1 s!"invalid floating point argument: '{shown number}'"
    let values := numbers.filterMap fun number => wholeNumber? number
    let (first, step, last) : Int × Int × Int :=
      match values with
      | [last] => (1, 1, last)
      | [first, last] => (first, 1, last)
      | first :: step :: last :: _ => (first, step, last)
      | [] => (1, 1, 0)
    if step = 0 then misuse 1 s!"invalid Zero increment value: '{shown ((numbers[1]?).getD [])}'"
    else
      let count := if (last - first) / step < 0 then 0 else ((last - first).tdiv step).toNat + 1
      let count := if (0 < step && last < first) || (step < 0 && first < last) then 0 else count
      let items := (List.range count).map fun (index : Nat) =>
        Utf8.encode (toString (first + step * (index : Int)))
      if items ≠ [] then print (separator.intercalate items ++ [newline])
      return 0

/-! ## Sets of bytes -/

/-- The bytes of a class. -/
def classOf? (name : String) : Option Bytes :=
  let among (test : Char → Bool) : Option Bytes :=
    some ((List.range 128).filterMap fun number =>
      if test (Char.ofNat number) then some (UInt8.ofNat number) else none)
  match name with
  | "alpha" => among Char.isAlpha
  | "digit" => among Char.isDigit
  | "alnum" => among Char.isAlphanum
  | "lower" => among Char.isLower
  | "upper" => among Char.isUpper
  | "space" => some [9, 10, 11, 12, 13, 32]
  | "blank" => some [9, 32]
  | "punct" => among fun character => 32 < character.toNat && character.toNat < 127 &&
      !character.isAlphanum
  | "xdigit" => among fun character => character.isDigit || "abcdefABCDEF".toList.contains character
  | _ => none

/-- The bytes of a set in which escapes have been replaced: single bytes, ranges and classes, at
most as many as `fuel`. -/
def setFrom : Nat → Bytes → Bytes
  | 0, _ => []
  | _ + 1, [] => []
  | fuel + 1, first :: rest =>
    let name := (rest.drop 1).takeWhile (!isSign ':' ·)
    match if (Utf8.encode "[:").isPrefixOf (first :: rest) then classOf? (shown name) else none with
    | some bytes => bytes ++ setFrom fuel (rest.drop (name.length + 3))
    | none =>
      match rest with
      | dash :: last :: behind =>
        if isSign '-' dash && first ≤ last then
          (List.range' first.toNat (last.toNat - first.toNat + 1)).map UInt8.ofNat
            ++ setFrom fuel behind
        else first :: setFrom fuel rest
      | _ => first :: setFrom fuel rest

/-- The bytes of a set. -/
def setOf (argument : Bytes) : Bytes :=
  let escaped := (Print.formatOnce (argument.length + 1)
    (argument.flatMap fun byte => if isSign '%' byte then [byte, byte] else [byte])
    { arguments := [] }).bytes
  setFrom (escaped.length + 1) escaped

/-- The bytes without repetitions of those in a set. -/
def squeezed (isMember : UInt8 → Bool) : Bytes → Bytes
  | [] => []
  | [byte] => [byte]
  | byte :: next :: rest =>
    if byte = next && isMember byte then squeezed isMember (next :: rest)
    else byte :: squeezed isMember (next :: rest)

/-- Replaces, removes or squeezes bytes of the input. -/
def tr (arguments : List Bytes) : Act Nat := do
  let options : Options :=
    { letters := "cCdst"
      names := [("complement", 'c'), ("delete", 'd'), ("squeeze-repeats", 's')]
      endsEarly := true }
  let (given, operands) ← options.read arguments
  let (deletes, squeezes) := (isGiven given 'd', isGiven given 's')
  let complements := isGiven given 'c' || isGiven given 'C'
  match operands with
  | [] => misuse 1 "missing operand"
  | first :: others =>
    if others = [] && !deletes && !squeezes then
      complain s!"missing operand after '{shown first}'"
      discard (write Descriptors.errors
        (Utf8.encode "Two strings must be given when translating.\n"))
      referToHelp
      return 1
    else
      let listed := setOf first
      let source : Bytes :=
        if complements then
          ((List.range 256).map UInt8.ofNat).filter fun byte => !listed.contains byte
        else listed
      let target := (others.head?.map setOf).getD []
      let table := source.mapIdx fun index byte =>
        (byte, (target[index]?).getD (target.getLastD byte))
      let input ← takeInput
      let isIn (set : Bytes) (byte : UInt8) : Bool := set.contains byte
      let changed : Bytes :=
        if deletes then input.filter fun byte => !isIn source byte
        else if others = [] then input
        else input.map fun byte => ((table.reverse.lookup byte)).getD byte
      let last := if others = [] then source else target
      print (if squeezes then squeezed (isIn last) changed else changed)
      return 0

/-! ## Lines -/

/-- The positions that a list of ranges names, of which each has a first and perhaps a last one. -/
def rangesOf? (argument : Bytes) : Option (List (Nat × Option Nat)) :=
  (Path.fields 44 argument).mapM fun range =>
    match Path.fields 45 range with
    | [single] => (natural? single).map fun number => (number, some number)
    | [first, last] =>
      match natural? first, natural? last with
      | some first, some last => some (first, some last)
      | some first, none => if last = [] then some (first, none) else none
      | none, some last => if first = [] then some (1, some last) else none
      | none, none => none
    | _ => none

/-- The items at positions that are counted from one. -/
def selected {α : Type} (ranges : List (Nat × Option Nat)) (items : List α) : List α :=
  let isIn (position : Nat) : Bool :=
    ranges.any fun (first, last?) => first ≤ position && (last?.all fun last => position ≤ last)
  ((items.zipIdx 1).filter fun entry => isIn entry.2).map (·.1)

/-- Prints parts of lines. -/
def cut (arguments : List Bytes) : Act Nat := do
  let (given, operands) ← ({ letters := "b:c:f:d:ns" } : Options).read arguments
  match given.find? fun option => "bcf".toList.contains option.1 with
  | none => misuse 1 "you must specify a list of bytes, characters, or fields"
  | some (letter, argument) =>
    match rangesOf? argument with
    | none =>
      let what := if letter = 'f' then "field" else "byte/character"
      misuse 1 s!"invalid {what} value '{shown argument}'"
    | some ranges =>
      let separator := ((valueOf? given 'd').bind (·.head?)).getD 9
      let part (line : Bytes) : Option Bytes :=
        if letter ≠ 'f' then some (selected ranges line)
        else if line.contains separator then
          some (([separator] : Bytes).intercalate (selected ranges (Path.fields separator line)))
        else if isGiven given 's' then none
        else some line
      let (found, isWhole) ← contentsOf shown operands
      printLines ((found.flatMap fun entry => linesOf entry.2).filterMap part)
      return if isWhole then 0 else 1

/-- The number that a line begins with. -/
def leadingNumber (line : Bytes) : Int :=
  let line := line.dropWhile isGap
  let digits := (line.dropWhile (isSign '-')).takeWhile isDigit
  if line.head?.any (isSign '-') then -(decimal digits : Int) else decimal digits

/-- The lines without those that are like the one before them. -/
def eraseLike (isLike : Bytes → Bytes → Bool) : List Bytes → List Bytes
  | [] => []
  | [line] => [line]
  | line :: next :: rest =>
    if isLike line next then eraseLike isLike (line :: rest)
    else line :: eraseLike isLike (next :: rest)

/-- Prints lines in order. -/
def sort (arguments : List Bytes) : Act Nat := do
  let (given, operands) ← ({ letters := "bfnrus", refusal := 2 } : Options).read arguments
  let (found, isWhole) ← contentsOf (fun operand => s!"cannot read: {shown operand}") operands
  if !isWhole then return 2
  else
    let has (letter : Char) : Bool := isGiven given letter
    let folded (line : Bytes) : Bytes :=
      if has 'f' then line.map fun byte => if 97 ≤ byte && byte ≤ 122 then byte - 32 else byte
      else line
    let isBefore (left right : Bytes) : Bool :=
      if has 'n' && leadingNumber left ≠ leadingNumber right then
        decide (leadingNumber left < leadingNumber right)
      else if folded left ≠ folded right then decide (folded left < folded right)
      else decide (left < right)
    let isSame (left right : Bytes) : Bool :=
      if has 'n' then leadingNumber left == leadingNumber right else folded left == folded right
    let lines := found.flatMap fun entry => linesOf entry.2
    let sorted := lines.mergeSort fun left right =>
      if has 'r' then !isBefore left right else !isBefore right left
    printLines (if has 'u' then eraseLike isSame sorted else sorted)
    return 0

/-- Runs of equal lines, each with its length. -/
def runs (lines : List Bytes) : List (Bytes × Nat) :=
  lines.foldr (fun line later =>
    match later with
    | (next, count) :: rest => if line = next then (next, count + 1) :: rest else (line, 1) :: later
    | [] => [(line, 1)]) []

/-- Prints lines without repetitions. -/
def uniq (arguments : List Bytes) : Act Nat := do
  let (given, operands) ← ({ letters := "cdu" } : Options).read arguments
  let (found, isWhole) ← contentsOf shown (operands.take 1)
  let kept := (runs (found.flatMap fun entry => linesOf entry.2)).filter fun (_, count) =>
    (!isGiven given 'd' || 1 < count) && (!isGiven given 'u' || count = 1)
  printLines (kept.map fun (line, count) =>
    if isGiven given 'c' then rightAligned 7 count ++ space :: line else line)
  return if isWhole then 0 else 1

end Tool

end Script

end CompilerLauncher
