import CompilerLauncher.FileTree.Edit
import CompilerLauncher.Script.Byte

/-!
Patterns of shell scripts: what a star, a question mark and brackets match, in choices, in the
trimming of parameters and in the names of files.

A byte of a pattern knows whether it was quoted; quoted bytes match themselves only. Bytes are
ordered as signed numbers.
-/

namespace CompilerLauncher

namespace Script

/-- A byte of a word in use, and whether it was quoted. -/
structure Mark where
  byte : UInt8
  quoted : Bool
  deriving DecidableEq, Repr

/-- The bytes of marks. -/
def bytesOf (marks : List Mark) : Bytes :=
  marks.map (·.byte)

/-- The bytes as marks. -/
def marksOf (quoted : Bool) (bytes : Bytes) : List Mark :=
  bytes.map fun byte => ⟨byte, quoted⟩

/-- Whether a mark is the given character, unquoted. -/
def Mark.is (mark : Mark) (character : Char) : Bool :=
  !mark.quoted && isSign character mark.byte

/-- Bytes that brackets name: a range, or a class. -/
inductive Member
  | range (low high : UInt8)
  | kind (name : String)
  deriving DecidableEq, Repr

/-- What one position of a pattern matches. -/
inductive Matcher
  | any
  | many
  | exactly (byte : UInt8)
  | oneOf (inverted : Bool) (members : List Member)
  deriving DecidableEq, Repr

namespace Pattern

/-! ## Classes of bytes -/

/-- The classes that brackets may name, with their members. -/
def kinds : List (String × (Char → Bool)) :=
  let isGraph (character : Char) : Bool := '!' ≤ character && character ≤ '~'
  [("alnum", Char.isAlphanum), ("alpha", Char.isAlpha), ("blank", " \t".toList.contains),
    ("cntrl", fun character => character < ' ' || character = '\x7f'), ("digit", Char.isDigit),
    ("graph", isGraph), ("lower", Char.isLower),
    ("print", fun character => character = ' ' || isGraph character),
    ("punct", fun character => isGraph character && !character.isAlphanum),
    ("space", " \t\n\x0b\x0c\r".toList.contains), ("upper", Char.isUpper),
    ("xdigit", "0123456789abcdefABCDEF".toList.contains)]

/-- Whether a byte is a member. -/
def Member.has (member : Member) (byte : UInt8) : Bool :=
  match member with
  | .range low high => low.toInt8 ≤ byte.toInt8 && byte.toInt8 ≤ high.toInt8
  | .kind name => ((kinds.lookup name).map fun isMember => isMember (sign byte)).getD false

/-! ## Reading -/

/-- The class that the marks behind a bracket name, and the marks behind it. -/
def kind? (marks : List Mark) : Option (String × List Mark) :=
  (kinds.find? fun (name, _) =>
    (marksOf false (Utf8.encode s!":{name}:]")).isPrefixOf marks).map fun (name, _) =>
      (name, marks.drop (name.length + 3))

/-- The byte that a mark stands for inside of brackets, where a backslash frees the mark behind it,
and the marks behind it. -/
def freed? : List Mark → Option (UInt8 × List Mark)
  | [] => none
  | mark :: rest =>
    if mark.is '\\' then rest.head?.map fun next => (next.byte, rest.tail)
    else some (mark.byte, rest)

/-- The members between brackets, and the marks behind them. A bracket that comes first stands for
itself. At most as many members as `fuel` are read. -/
def members : Nat → Bool → List Mark → Option (List Member × List Mark)
  | 0, _, _ => none
  | _ + 1, _, [] => none
  | fuel + 1, first, mark :: rest =>
    let more (member : Member) (behind : List Mark) : Option (List Member × List Mark) :=
      (members fuel false behind).map fun (found, behind) => (member :: found, behind)
    if mark.is ']' && !first then some ([], rest)
    else
      match if mark.is '[' then kind? rest else none with
      | some (name, behind) => more (.kind name) behind
      | none =>
        match freed? (mark :: rest) with
        | none => none
        | some (low, behind) =>
          match behind with
          | dash :: next :: later =>
            if dash.is '-' && !next.is ']' then
              match freed? (next :: later) with
              | some (high, behind) => more (.range low high) behind
              | none => none
            else more (.range low low) behind
          | _ => more (.range low low) behind

/-- Reads a pattern, at most as many marks as `fuel`. -/
def readFrom : Nat → List Mark → List Matcher
  | 0, _ => []
  | _ + 1, [] => []
  | fuel + 1, mark :: rest =>
    if mark.quoted then .exactly mark.byte :: readFrom fuel rest
    else
      match sign mark.byte with
      | '*' => .many :: readFrom fuel rest
      | '?' => .any :: readFrom fuel rest
      | '[' =>
        let inverted := rest.head?.any (·.is '!')
        match members (rest.length + 1) true (if inverted then rest.tail else rest) with
        | some (found, behind) => .oneOf inverted found :: readFrom fuel behind
        | none => .exactly mark.byte :: readFrom fuel rest
      | '\\' =>
        match rest with
        | next :: rest => .exactly next.byte :: readFrom fuel rest
        | [] => [.exactly mark.byte]
      | _ => .exactly mark.byte :: readFrom fuel rest

/-- Reads a pattern. -/
def read (marks : List Mark) : List Matcher :=
  readFrom (marks.length + 1) marks

/-! ## Matching -/

/-- Whether a matcher for one byte matches it. -/
def matchesByte (matcher : Matcher) (byte : UInt8) : Bool :=
  match matcher with
  | .any | .many => true
  | .exactly expected => expected == byte
  | .oneOf inverted members => (members.any (Member.has · byte)) != inverted

/-- Whether a pattern matches all of the bytes. -/
def isMatch : List Matcher → Bytes → Bool
  | [], bytes => bytes.isEmpty
  | .many :: rest, [] => isMatch rest []
  | .many :: rest, byte :: bytes => isMatch rest (byte :: bytes) || isMatch (.many :: rest) bytes
  | matcher :: rest, byte :: bytes => matchesByte matcher byte && isMatch rest bytes
  | _ :: _, [] => false
termination_by matchers bytes => (matchers.length, bytes.length)

/-- The first of the sizes from zero to `greatest`, or from `greatest` to zero, that is accepted. -/
def firstSize? (isAccepted : Nat → Bool) (downwards : Bool) (greatest : Nat) : Option Nat :=
  let size (index : Nat) : Nat := if downwards then greatest - index else index
  ((List.range (greatest + 1)).find? fun index => isAccepted (size index)).map size

/-- The bytes without a beginning that the pattern matches. -/
def trimStart (pattern : List Matcher) (longest : Bool) (bytes : Bytes) : Bytes :=
  let isStart (size : Nat) : Bool := isMatch pattern (bytes.take size)
  match firstSize? isStart longest bytes.length with
  | some size => bytes.drop size
  | none => bytes

/-- The bytes without an end that the pattern matches. -/
def trimEnd (pattern : List Matcher) (longest : Bool) (bytes : Bytes) : Bytes :=
  let isEnd (size : Nat) : Bool := isMatch pattern (bytes.drop size)
  match firstSize? isEnd (!longest) bytes.length with
  | some size => bytes.take size
  | none => bytes

/-! ## Names of files -/

/-- Whether the marks hold anything that matches more than itself. -/
def isPattern (marks : List Mark) : Bool :=
  marks.any fun mark => mark.is '*' || mark.is '?' || mark.is '['

/-- The names in the directory that a path leads to. -/
def namesIn (tree : FileTree) (path : Bytes) : List Bytes :=
  match tree.lookup (if path = [] then Path.here else path) with
  | .ok (place, .directory _) =>
    tree.entries.filterMap fun (listed, _) =>
      if listed.length = place.length + 1 && place.isPrefixOf listed then listed.getLast? else none
  | _ => []

/-- The order of names. -/
def notAfter (left right : Bytes) : Bool :=
  !decide (right < left)

/-- The paths that begin with `start` and go on as a field of a pattern says. -/
def extend (tree : FileTree) (field : List Mark) (start : Bytes) : List Bytes :=
  if isPattern field then
    let pattern := read field
    let hidden := field.head?.any fun mark => isSign '.' mark.byte
    let dots := if hidden then [Path.here, Path.above] else []
    ((dots ++ namesIn tree start).filter fun name =>
      isMatch pattern name && (hidden || !name.head?.any (isSign '.'))).map (start ++ ·)
  else [start ++ bytesOf field]

/-- The paths that begin with one of `starts` and go on as the fields of a pattern say; there must
be something at each of them. -/
def paths (tree : FileTree) : List (List Mark) → List Bytes → List Bytes
  | [], starts => starts
  | [field], starts =>
    (starts.flatMap (extend tree field)).filter fun path =>
      if field = [] then (tree.lookup path).isOk else tree.stands path
  | field :: fields, starts =>
    paths tree fields ((starts.flatMap (extend tree field)).map (· ++ [Path.slash]))

/-- Cuts marks at slashes. -/
def fieldsOf : List Mark → List (List Mark)
  | [] => [[]]
  | mark :: rest =>
    if mark.byte = Path.slash then [] :: fieldsOf rest
    else
      match fieldsOf rest with
      | [] => [[mark]]
      | first :: others => (mark :: first) :: others

/-- The files that a pattern names, in order; a pattern that names none stands for itself. -/
def files (tree : FileTree) (marks : List Mark) : List Bytes :=
  if isPattern marks then
    match paths tree (fieldsOf marks) [[]] with
    | [] => [bytesOf marks]
    | found => found.mergeSort notAfter
  else [bytesOf marks]

end Pattern

end Script

end CompilerLauncher
