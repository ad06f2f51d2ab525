import CompilerLauncher.Text.Utf8

/-!
Paths as byte strings, read without looking at any file system: the last name of a path, its
extension, and a path continued below another.

A path is cut at slashes; empty pieces and single dots say nothing, so `a//b/./` and `a/b` have the
same last name.
-/

namespace CompilerLauncher

namespace Path

/-- The byte that separates the names of a path. -/
def slash : UInt8 := 47

/-- The byte that begins an extension. -/
def dot : UInt8 := 46

/-- The name that stands for the directory itself. -/
def here : Bytes := [dot]

/-- The name that stands for the enclosing directory. -/
def above : Bytes := [dot, dot]

/-- Puts one byte in front of the fields of what follows it. -/
def fieldsStep (separator byte : UInt8) (later : List Bytes) : List Bytes :=
  if byte = separator then [] :: later
  else
    match later with
    | [] => [[byte]]
    | first :: others => (byte :: first) :: others

/-- Cuts a byte string at every occurrence of a separator; the pieces may be empty and there is
always one more piece than separators. -/
def fields (separator : UInt8) (bytes : Bytes) : List Bytes :=
  bytes.foldr (fieldsStep separator) [[]]

@[simp] theorem fields_nil (separator : UInt8) : fields separator [] = [[]] := rfl

@[simp] theorem fields_cons (separator byte : UInt8) (rest : Bytes) :
    fields separator (byte :: rest) = fieldsStep separator byte (fields separator rest) := rfl

/-- Whether the path starts at the root. -/
def isAbsolute (path : Bytes) : Bool :=
  path.head? == some slash

/-- The path `name` taken below `base`; an absolute name stands alone, and a slash is written
between the two unless `base` is empty or already ends in one. -/
def join (base name : Bytes) : Bytes :=
  if isAbsolute name then name
  else if base = [] ∨ base.getLast? = some slash then base ++ name
  else base ++ slash :: name

/-- The names of a path that say something, in order. -/
def names (path : Bytes) : List Bytes :=
  (fields slash path).filter fun name => name != [] && name != here

/-- The last name of a path, unless the path ends at the root or in an upward step. -/
def fileName? (path : Bytes) : Option Bytes :=
  (names path).getLast?.filter (· != above)

/-- The last name's part after its last dot; a dot that begins the name begins no extension. -/
def extension? (path : Bytes) : Option Bytes :=
  (fileName? path).bind fun name =>
    let backward := name.reverse
    if 1 < (backward.dropWhile (· != dot)).length then
      some (backward.takeWhile (· != dot)).reverse
    else none

/-- The byte in lower case, if it is a letter of the first 128 characters. -/
def lowerByte (byte : UInt8) : UInt8 :=
  if 65 ≤ byte ∧ byte ≤ 90 then byte + 32 else byte

/-- Whether the path has the given extension, which is written in lower case, up to the case of the
letters a to z. No other character has one of these letters as its lower case except the Kelvin
sign, which is none of the extensions' letters. -/
def hasExtension (path : Bytes) (extension : String) : Bool :=
  (extension? path).any fun found => found.map lowerByte == Utf8.encode extension

end Path

end CompilerLauncher
