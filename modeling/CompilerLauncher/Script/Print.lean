import CompilerLauncher.Script.Fraction

/-!
What the commands that print make of their arguments: the escapes of `echo` and the formats of
`printf`.
-/

namespace CompilerLauncher

namespace Script

namespace Print

/-- What printing has come to: the bytes so far, and whether an escape has ended it. -/
structure Printed where
  bytes : Bytes
  ended : Bool := false
  deriving DecidableEq, Repr

/-- The byte that a letter after a backslash stands for. -/
def letter? (letter : Char) : Option UInt8 :=
  match letter with
  | 'a' => some 7
  | 'b' => some 8
  | 'e' => some 27
  | 'f' => some 12
  | 'n' => some newline
  | 'r' => some 13
  | 't' => some 9
  | 'v' => some 11
  | '\\' => some 92
  | _ => none

/-- An octal digit. -/
def isOctal (byte : UInt8) : Bool :=
  "01234567".toList.contains (sign byte)

/-- The byte that octal digits stand for. -/
def octalByte (digits : Bytes) : UInt8 :=
  UInt8.ofNat (digits.foldl (fun sum digit => sum * 8 + (digit.toNat - 48)) 0)

/-- The escape behind a backslash, and the bytes behind it. `leadingZero` says that a zero before
the octal digits does not count as one of them. -/
def escape? (leadingZero : Bool) (bytes : Bytes) : Option (UInt8 × Bytes) :=
  match bytes with
  | [] => none
  | first :: rest =>
    if isOctal first then
      let digits := if leadingZero && isSign '0' first then rest else bytes
      let octal := (digits.take 3).takeWhile isOctal
      some (octalByte octal, digits.drop octal.length)
    else (letter? (sign first)).map fun byte => (byte, rest)

/-- The bytes with escapes replaced, at most as many as `fuel`; one of them ends the printing. -/
def unescapeFrom : Nat → Bytes → Bytes → Printed
  | 0, backward, _ => ⟨backward.reverse, false⟩
  | _ + 1, backward, [] => ⟨backward.reverse, false⟩
  | fuel + 1, backward, byte :: rest =>
    if isSign '\\' byte then
      if rest.head?.any (isSign 'c') then ⟨backward.reverse, true⟩
      else
        match escape? true rest with
        | some (found, behind) => unescapeFrom fuel (found :: backward) behind
        | none => unescapeFrom fuel (byte :: backward) rest
    else unescapeFrom fuel (byte :: backward) rest

/-- The bytes with escapes replaced. -/
def unescape (bytes : Bytes) : Printed :=
  unescapeFrom (bytes.length + 1) [] bytes

/-- Arguments separated by spaces. -/
def spaced (arguments : List Bytes) : Bytes :=
  [space].intercalate arguments

/-- What `echo` prints. -/
def echo (arguments : List Bytes) : Bytes :=
  let quiet := arguments.head? == some (Utf8.encode "-n")
  let printed := unescape (spaced (if quiet then arguments.tail else arguments))
  if quiet || printed.ended then printed.bytes else printed.bytes ++ [newline]

/-! ## The program that echoes -/

/-- A hexadecimal digit as a byte. -/
def hexValue? (byte : UInt8) : Option UInt8 :=
  (digitValue? byte).map UInt8.ofNat

/-- The byte that at most two hexadecimal digits stand for, and the bytes behind them. -/
def hexByte? (bytes : Bytes) : Option (UInt8 × Bytes) :=
  match bytes with
  | [] => none
  | first :: rest =>
    (hexValue? first).map fun high =>
      match rest.head?.bind hexValue? with
      | some low => (high * 16 + low, rest.tail)
      | none => (high, rest)

/-- The escape behind a backslash as the program knows it, and the bytes behind it. -/
def programEscape? (bytes : Bytes) : Option (UInt8 × Bytes) :=
  if bytes.head?.any (isSign 'x') then hexByte? bytes.tail else escape? true bytes

/-- The bytes of arguments with escapes replaced as the program does it, at most as many as
`fuel`. -/
def unescapeArguments : Nat → Bytes → Bytes → Printed
  | 0, backward, _ => ⟨backward.reverse, false⟩
  | _ + 1, backward, [] => ⟨backward.reverse, false⟩
  | fuel + 1, backward, byte :: rest =>
    if isSign '\\' byte then
      if rest.head?.any (isSign 'c') then ⟨backward.reverse, true⟩
      else
        match programEscape? rest with
        | some (found, behind) => unescapeArguments fuel (found :: backward) behind
        | none => unescapeArguments fuel (byte :: backward) rest
    else unescapeArguments fuel (byte :: backward) rest

/-- Whether an argument consists of a dash and letters of the program's options. -/
def isEchoOption (argument : Bytes) : Bool :=
  argument.head?.any (isSign '-') && argument.tail ≠ [] && argument.tail.all (isOneOf "neE")

/-- What the program prints that echoes its arguments: without a line end if an option says so, and
with escapes replaced if the last option about that says so. In strict surroundings escapes are
always replaced, and there are options only if the first one is `-n` by itself. -/
def programEcho (isStrict : Bool) (arguments : List Bytes) : Bytes :=
  let hasOptions := !isStrict || arguments.head? == some (Utf8.encode "-n")
  let given := if hasOptions then arguments.takeWhile isEchoOption else []
  let letters := given.flatMap List.tail
  let arguments := arguments.drop given.length
  let escapes := isStrict || (letters.reverse.find? (isOneOf "eE")).any (isSign 'e')
  let ending : Bytes := if letters.any (isSign 'n') then [] else [newline]
  if escapes then
    let pieces := arguments.map fun argument => unescapeArguments (argument.length + 1) [] argument
    let whole := pieces.takeWhile fun piece => !piece.ended
    let last := (pieces.drop whole.length).take 1
    spaced ((whole ++ last).map (·.bytes)) ++ (if last = [] then ending else [])
  else spaced arguments ++ ending

/-! ## Formats -/

/-- A directive of a format: flags, width, precision and kind, and how it is written. -/
structure Directive where
  flags : Bytes
  width : Nat
  precision : Option Nat
  kind : Char
  written : Bytes
  deriving DecidableEq, Repr

/-- Whether a directive has a flag. -/
def Directive.has (directive : Directive) (flag : Char) : Bool :=
  directive.flags.any (isSign flag)

/-- A width or a precision: digits, or a star that takes it from the arguments. -/
def extent (bytes : Bytes) (arguments : List Bytes) : Nat × Bytes × List Bytes :=
  match bytes with
  | first :: rest =>
    if isSign '*' first then (decimal (arguments.headD []), rest, arguments.tail)
    else
      let digits := bytes.takeWhile isDigit
      (decimal digits, bytes.drop digits.length, arguments)
  | [] => (0, [], arguments)

/-- The directive behind a percent sign, the bytes behind it and the arguments that it leaves. -/
def directive? (bytes : Bytes) (arguments : List Bytes) :
    Option (Directive × Bytes × List Bytes) :=
  let flags := bytes.takeWhile fun byte => "-+ #0".toList.contains (sign byte)
  let (width, behind, arguments) := extent (bytes.drop flags.length) arguments
  let (precision, behind, arguments) :=
    match behind with
    | dot :: rest =>
      if isSign '.' dot then
        let (precision, behind, arguments) := extent rest arguments
        (some precision, behind, arguments)
      else (none, behind, arguments)
    | [] => (none, [], arguments)
  match behind with
  | [] => none
  | kind :: rest =>
    some (⟨flags, width, precision, sign kind, bytes.take (bytes.length - rest.length)⟩, rest,
      arguments)

/-- The byte of the digit zero. -/
def zero : UInt8 := 48

/-- A value in its width. -/
def pad (directive : Directive) (value : Bytes) : Bytes :=
  let missing := List.replicate (directive.width - value.length) space
  if directive.has '-' then value ++ missing else missing ++ value

/-- A number in its width: what comes before the digits, and the digits, with zeros between them if
the flags or the precision ask for them. -/
def padNumber (directive : Directive) (front digits : Bytes) : Bytes :=
  let least := directive.precision.getD 0
  let digits := List.replicate (least - digits.length) zero ++ digits
  let zeros := directive.width - (front.length + digits.length)
  if directive.has '0' && !directive.has '-' && directive.precision.isNone then
    front ++ List.replicate zeros zero ++ digits
  else pad directive (front ++ digits)

/-- The digits of a number. -/
def digitsIn (base : Nat) (upper : Bool) (number : Nat) : Bytes :=
  let digits := String.ofList (Nat.toDigits base number)
  Utf8.encode (if upper then digits.map Char.toUpper else digits)

/-- The number that the bytes spell in a base, if they are all digits of it. -/
def numberIn? (base : Nat) (digits : Bytes) : Option Nat :=
  if digits = [] then none
  else digits.foldlM (fun sum byte =>
    (digitValue? byte).bind fun value =>
      if value < base then some (sum * base + value) else none) 0

/-- The base in which the bytes begin to spell a number, and the bytes from its digits on: octal
after a zero, hexadecimal after a zero and an x. -/
def baseOf (bytes : Bytes) : Nat × Bytes :=
  match bytes with
  | zero :: x :: digit :: _ =>
    if !isSign '0' zero then (10, bytes)
    else if "xX".toList.contains (sign x) && (digitValue? digit).isSome then (16, bytes.drop 2)
    else (8, bytes)
  | zero :: _ => (if isSign '0' zero then 8 else 10, bytes)
  | [] => (10, [])

/-- The number that the bytes begin to spell, and the bytes behind it. -/
def unsigned? (bytes : Bytes) : Option (Nat × Bytes) :=
  let (base, bytes) := baseOf bytes
  let digits := bytes.takeWhile fun byte => (digitValue? byte).any (· < base)
  (numberIn? base digits).map fun value => (value, bytes.drop digits.length)

/-- The integer that the bytes begin to spell after blanks, and the bytes behind it. -/
def integer? (bytes : Bytes) : Option (Int × Bytes) :=
  match bytes.dropWhile isBlank with
  | first :: rest =>
    if isSign '-' first then (unsigned? rest).map fun (value, behind) => (-(value : Int), behind)
    else if isSign '+' first then (unsigned? rest).map fun (value, behind) => (value, behind)
    else (unsigned? (first :: rest)).map fun (value, behind) => (value, behind)
  | [] => none

/-- A complaint of a format: about an argument that is no number, one of which only a part is, one
that is too big, or about a directive. -/
inductive Complaint
  | notANumber (argument : Bytes)
  | leftOver (argument : Bytes)
  | tooBig (argument : Bytes)
  | directive (written : Bytes)
  | cutOff
  deriving DecidableEq, Repr

/-- Whether the printing ends with the complaint. -/
def Complaint.isFatal : Complaint → Bool
  | directive _ | cutOff => true
  | _ => false

/-- The complaint in words. -/
def Complaint.message : Complaint → String
  | notANumber argument => s!"{Utf8.lossy argument}: expected numeric value"
  | leftOver argument => s!"{Utf8.lossy argument}: not completely converted"
  | tooBig argument => s!"{Utf8.lossy argument}: Numerical result out of range"
  | directive written => s!"%{Utf8.lossy written}: invalid directive"
  | cutOff => "missing format character"

/-- What formats have come to: the bytes, the arguments that are left, the complaints, and whether
the printing is over. -/
structure Formatted where
  bytes : Bytes := []
  arguments : List Bytes
  complaints : List Complaint := []
  ended : Bool := false

/-- The value of an argument as a number, and what there is to complain about. A quote stands for
the number of the byte behind it, and nothing for zero. -/
def valueOf (argument : Bytes) : Int × List Complaint :=
  match argument with
  | [] => (0, [])
  | first :: rest =>
    if "'\"".toList.contains (sign first) then ((rest.headD 0).toNat, [])
    else
      match integer? argument with
      | none => (0, [.notANumber argument])
      | some (value, behind) =>
        let least : Int := -9223372036854775808
        let greatest : Int := 9223372036854775807
        if value < least then (least, [.tooBig argument])
        else if greatest < value then (greatest, [.tooBig argument])
        else (value, if behind = [] then [] else [.leftOver argument])

/-- The next argument as a number; one that is missing is zero. -/
def numberOf (state : Formatted) : Int × Formatted :=
  let (value, complaints) := valueOf (state.arguments.headD [])
  (value,
    { state with
      arguments := state.arguments.tail
      complaints := state.complaints ++ complaints })

/-- The value of an argument as a number with a fractional part, and what there is to complain
about. -/
def realOf (argument : Bytes) : Real64 × List Complaint :=
  match argument with
  | [] => (.zero, [])
  | first :: rest =>
    if isOneOf "'\"" first then (.finite false ⟨(rest.headD 0).toNat, 1⟩, [])
    else
      match Real64.read? argument with
      | none => (.zero, [.notANumber argument])
      | some (value, behind, isLost) =>
        if behind ≠ [] then (value, [.leftOver argument])
        else (value, if isLost then [.tooBig argument] else [])

/-- What comes before the digits of a signed number. -/
def signOf (directive : Directive) (isNegative : Bool) : Bytes :=
  if isNegative then Utf8.encode "-"
  else if directive.has '+' then Utf8.encode "+"
  else if directive.has ' ' then [space]
  else []

/-- Carries out a directive. -/
def apply (directive : Directive) (state : Formatted) : Formatted :=
  let put (state : Formatted) (value : Bytes) : Formatted :=
    { state with bytes := state.bytes ++ value }
  let text := state.arguments.headD []
  let rest := { state with arguments := state.arguments.tail }
  let cut (value : Bytes) : Bytes :=
    match directive.precision with
    | some limit => value.take limit
    | none => value
  let unsigned (base : Nat) (upper : Bool) (mark : String) : Formatted :=
    let (value, state) := numberOf state
    let word := (value % 18446744073709551616).toNat
    let front := if directive.has '#' && word != 0 then Utf8.encode mark else []
    put state (padNumber directive front (digitsIn base upper word))
  match directive.kind with
  | 's' => put rest (pad directive (cut text))
  | 'b' =>
    let printed := unescape text
    { put rest (pad directive (cut printed.bytes)) with ended := printed.ended }
  | 'c' => put rest (pad directive [text.headD 0])
  | 'd' | 'i' =>
    let (value, state) := numberOf state
    put state (padNumber directive (signOf directive (value < 0)) (digitsIn 10 false value.natAbs))
  | 'u' => unsigned 10 false ""
  | 'o' => unsigned 8 false "0"
  | 'x' => unsigned 16 false "0x"
  | 'X' => unsigned 16 true "0X"
  | 'e' | 'E' | 'f' | 'F' | 'g' | 'G' =>
    let (value, complaints) := realOf text
    let digits := Utf8.encode
      (value.shown directive.kind (directive.has '#') (directive.precision.getD 6))
    let front := signOf directive value.isNegative
    let isFinite := match value with
      | .finite .. => true
      | _ => false
    let padded :=
      if isFinite then padNumber { directive with precision := none } front digits
      else pad directive (front ++ digits)
    put { rest with complaints := rest.complaints ++ complaints } padded
  | _ =>
    { state with
      complaints := state.complaints ++ [.directive directive.written], ended := true }

/-- Goes through a format once, at most as many steps as `fuel`. -/
def formatOnce : Nat → Bytes → Formatted → Formatted
  | 0, _, state => state
  | _ + 1, [], state => state
  | fuel + 1, byte :: rest, state =>
    if state.ended then state
    else if isSign '\\' byte then
      match escape? false rest with
      | some (found, behind) =>
        formatOnce fuel behind { state with bytes := state.bytes ++ [found] }
      | none => formatOnce fuel rest { state with bytes := state.bytes ++ [byte] }
    else if isSign '%' byte then
      if rest.head?.any (isSign '%') then
        formatOnce fuel rest.tail { state with bytes := state.bytes ++ [byte] }
      else
        match directive? rest state.arguments with
        | some (directive, behind, arguments) =>
          formatOnce fuel behind (apply directive { state with arguments })
        | none => { state with complaints := state.complaints ++ [.cutOff], ended := true }
    else formatOnce fuel rest { state with bytes := state.bytes ++ [byte] }

/-- Goes through a format until no argument is left, at most as often as `fuel`. -/
def formatAll : Nat → Bytes → Formatted → Formatted
  | 0, _, state => state
  | fuel + 1, format, state =>
    let next := formatOnce (format.length + 1) format state
    if next.ended || next.arguments = [] || next.arguments.length = state.arguments.length then next
    else formatAll fuel format next

/-- What `printf` prints. -/
def format (format : Bytes) (arguments : List Bytes) : Formatted :=
  formatAll (arguments.length + 1) format { arguments }

end Print

end Script

end CompilerLauncher
