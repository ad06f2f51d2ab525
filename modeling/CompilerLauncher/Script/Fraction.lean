import CompilerLauncher.Script.Byte

/-!
Numbers with a fractional part: how they are read, which of them can be held in 64 bits, and how
they are written.

A number is held as an exact fraction. Reading rounds it to the nearest one with a mantissa of 53
bits, and writing rounds it to the nearest one with the given number of decimal places; a tie goes
to the even neighbour.
-/

namespace CompilerLauncher

namespace Script

/-- A fraction, whose denominator is not zero. -/
structure Fraction where
  numerator : Nat
  denominator : Nat
  deriving DecidableEq, Repr

namespace Fraction

/-- The fraction times a power. -/
def scaled (base : Nat) (exponent : Int) (value : Fraction) : Fraction :=
  if 0 ≤ exponent then { value with numerator := value.numerator * base.pow exponent.toNat }
  else { value with denominator := value.denominator * base.pow (-exponent).toNat }

/-- The nearest whole number; a tie goes to the even one. -/
def rounded (value : Fraction) : Nat :=
  let whole := value.numerator / value.denominator
  let rest := value.numerator % value.denominator
  if value.denominator < 2 * rest || (2 * rest = value.denominator && whole % 2 = 1) then whole + 1
  else whole

/-- Whether the fraction is a whole number. -/
def isWhole (value : Fraction) : Bool :=
  value.numerator % value.denominator = 0

/-- The greatest exponent of ten whose power is not above the fraction. -/
def decimalExponent (value : Fraction) : Int :=
  let guess : Int :=
    (Nat.toDigits 10 value.numerator).length - (Nat.toDigits 10 value.denominator).length
  let there := value.scaled 10 (-guess)
  if there.denominator ≤ there.numerator then guess else guess - 1

/-- The exponent of two for which the fraction has a mantissa of 53 bits, or the least one. -/
def binaryExponent (value : Fraction) : Int :=
  let guess : Int := Nat.log2 value.numerator - Nat.log2 value.denominator - 53
  let there := value.scaled 2 (-guess)
  let exact := if Nat.pow 2 53 * there.denominator ≤ there.numerator then guess + 1 else guess
  max exact (-1074)

end Fraction

/-- A number as it is read: a fraction with a sign, or something that is beyond all fractions or no
number at all. -/
inductive Real64
  | finite (negative : Bool) (magnitude : Fraction)
  | infinite (negative : Bool)
  | undefined (negative : Bool)
  deriving DecidableEq, Repr

namespace Real64

/-- Zero. -/
def zero : Real64 :=
  .finite false ⟨0, 1⟩

/-- The nearest number that 64 bits hold, and whether it is too far from the given one. -/
def nearest (negative : Bool) (value : Fraction) : Real64 × Bool :=
  if value.numerator = 0 then (.finite negative ⟨0, 1⟩, false)
  else
    let exponent := value.binaryExponent
    let there := value.scaled 2 (-exponent)
    let mantissa := there.rounded
    let held := (⟨mantissa, 1⟩ : Fraction).scaled 2 exponent
    if Nat.pow 2 1024 * held.denominator ≤ held.numerator then (.infinite negative, true)
    else (.finite negative held, mantissa < Nat.pow 2 52 && !there.isWhole)

/-! ## Reading -/

/-- The digits of a base that the bytes begin with. -/
def digitsOf (base : Nat) (bytes : Bytes) : Bytes :=
  bytes.takeWhile fun byte => (digitValue? byte).any (· < base)

/-- The number that digits spell in a base. -/
def ofDigits (base : Nat) (digits : Bytes) : Nat :=
  digits.foldl (fun sum byte => sum * base + (digitValue? byte).getD 0) 0

/-- The exponent that the bytes begin with, behind one of the given letters, and what stands behind
it. -/
def exponentOf (letters : String) (bytes : Bytes) : Int × Bytes :=
  match bytes with
  | [] => (0, [])
  | letter :: rest =>
    let isSigned := rest.head?.any (isOneOf "+-")
    let digits := digitsOf 10 (if isSigned then rest.tail else rest)
    if !isOneOf letters letter || digits = [] then (0, bytes)
    else
      let size : Int := min (ofDigits 10 digits) 100000
      let behind := rest.drop (digits.length + if isSigned then 1 else 0)
      (if rest.head?.any (isSign '-') then -size else size, behind)

/-- The magnitude that the bytes begin with, and what stands behind it. The exponent counts powers
of `power`, and a digit behind the point `places` of them. -/
def magnitude? (base power places : Nat) (letters : String) (bytes : Bytes) :
    Option (Fraction × Bytes) :=
  let whole := digitsOf base bytes
  let behind := bytes.drop whole.length
  let (fraction, behind) :=
    if behind.head?.any (isSign '.') then
      let fraction := digitsOf base behind.tail
      (fraction, behind.tail.drop fraction.length)
    else ([], behind)
  if whole = [] && fraction = [] then none
  else
    let (exponent, behind) := exponentOf letters behind
    let mantissa : Fraction := ⟨ofDigits base (whole ++ fraction), 1⟩
    some (mantissa.scaled power (exponent - (fraction.length * places : Nat)), behind)

/-- The bytes behind a word in letters of either kind, if they begin with it. -/
def behindWord? (word : String) (bytes : Bytes) : Option Bytes :=
  let start := (bytes.take word.length).map fun byte => (sign byte).toLower
  if start = word.toList then some (bytes.drop word.length) else none

/-- The number that the bytes begin with behind blanks, what stands behind it, and whether it cannot
be held. -/
def read? (bytes : Bytes) : Option (Real64 × Bytes × Bool) :=
  let bytes := bytes.dropWhile isBlank
  let negative := bytes.head?.any (isSign '-')
  let bytes := if bytes.head?.any (isOneOf "+-") then bytes.tail else bytes
  match behindWord? "infinity" bytes <|> behindWord? "inf" bytes with
  | some behind => some (.infinite negative, behind, false)
  | none =>
    match behindWord? "nan" bytes with
    | some behind => some (.undefined negative, behind, false)
    | none =>
      let hexadecimal := (behindWord? "0x" bytes).bind (magnitude? 16 2 4 "pP")
      (hexadecimal <|> magnitude? 10 10 1 "eE" bytes).map fun (value, behind) =>
        let (number, isLost) := nearest negative value
        (number, behind, isLost)

/-! ## Writing -/

/-- Decimal digits, at least as many as asked for. -/
def digitText (least number : Nat) : String :=
  let digits := String.ofList (Nat.toDigits 10 number)
  String.ofList (List.replicate (least - digits.length) '0') ++ digits

/-- A point before the last places; without places it stands only if it is asked for. -/
def withPoint (keepsPoint : Bool) (places : Nat) (digits : String) : String :=
  let characters := digits.toList
  let whole := String.ofList (characters.take (characters.length - places))
  let fraction := String.ofList (characters.drop (characters.length - places))
  if places = 0 then if keepsPoint then whole ++ "." else whole else whole ++ "." ++ fraction

/-- A number with a fixed number of places. -/
def fixed (keepsPoint : Bool) (places : Nat) (value : Fraction) : String :=
  withPoint keepsPoint places (digitText (places + 1) (value.scaled 10 places).rounded)

/-- The digits of a number with one place before the point, and its exponent. -/
def normalized (places : Nat) (value : Fraction) : Nat × Int :=
  if value.numerator = 0 then (0, 0)
  else
    let exponent := value.decimalExponent
    let digits := (value.scaled 10 (places - exponent)).rounded
    if Nat.pow 10 (places + 1) ≤ digits then (digits / 10, exponent + 1) else (digits, exponent)

/-- A number with one place before the point and an exponent. -/
def scientific (keepsPoint : Bool) (places : Nat) (value : Fraction) : String :=
  let (digits, exponent) := normalized places value
  withPoint keepsPoint places (digitText (places + 1) digits) ++ "e"
    ++ (if exponent < 0 then "-" else "+") ++ digitText 2 exponent.natAbs

/-- A text without zeros behind the point, and without a point at the end. -/
def withoutZeros (text : String) : String :=
  let (mantissa, exponent) := text.toList.span (· != 'e')
  if mantissa.contains '.' then
    let kept := (mantissa.reverse.dropWhile (· == '0')).dropWhile (· == '.')
    String.ofList (kept.reverse ++ exponent)
  else text

/-- A number with the given number of digits that count, in the shorter form. -/
def general (keepsPoint : Bool) (precision : Nat) (value : Fraction) : String :=
  let precision := max precision 1
  let exponent := (normalized (precision - 1) value).2
  let text :=
    if -4 ≤ exponent ∧ exponent < precision then
      fixed keepsPoint ((precision : Int) - 1 - exponent).toNat value
    else scientific keepsPoint (precision - 1) value
  if keepsPoint then text else withoutZeros text

/-- Whether a number is written with a minus. -/
def isNegative : Real64 → Bool
  | finite negative _ | infinite negative | undefined negative => negative

/-- A number without its sign, by the letter of the form. -/
def shown (form : Char) (keepsPoint : Bool) (precision : Nat) (number : Real64) : String :=
  let text := match number with
    | infinite _ => "inf"
    | undefined _ => "nan"
    | finite _ value =>
      match form.toLower with
      | 'f' => fixed keepsPoint precision value
      | 'e' => scientific keepsPoint precision value
      | _ => general keepsPoint precision value
  if form.isUpper then text.map Char.toUpper else text

end Real64

end Script

end CompilerLauncher
