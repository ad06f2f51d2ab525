import CompilerLauncher.CommandLine.Render

/-!
The length of a line as process creation counts it: in units of 16 bits, of which a character beyond
the first 65536 takes two. A line longer than `CommandLine.limit` is not passed on; its arguments go
into a response file.
-/

namespace CompilerLauncher

namespace CommandLine

/-- The number of 16-bit units that a character takes. -/
def units (character : Char) : Nat :=
  if character.toNat < 0x10000 then 1 else 2

/-- The number of 16-bit units that characters take together. -/
def unitCount : List Char → Nat
  | [] => 0
  | character :: rest => units character + unitCount rest

/-- The number of 16-bit units of a text. -/
def length (line : String) : Nat :=
  unitCount line.toList

/-- The longest line that is passed to process creation. -/
def limit : Nat := 8192

/-- Whether the line may be passed to process creation. -/
def fits (line : String) : Bool :=
  length line ≤ limit

theorem fits_iff {line : String} : fits line = true ↔ length line ≤ limit :=
  decide_eq_true_iff

@[simp] theorem unitCount_nil : unitCount [] = 0 := rfl

@[simp] theorem unitCount_cons (character : Char) (rest : List Char) :
    unitCount (character :: rest) = units character + unitCount rest := rfl

@[simp] theorem unitCount_append (left right : List Char) :
    unitCount (left ++ right) = unitCount left + unitCount right := by
  induction left with
  | nil => simp
  | cons character left ih => simp [ih, Nat.add_assoc]

@[simp] theorem length_append (left right : String) :
    length (left ++ right) = length left + length right := by
  simp [length]

end CommandLine

end CompilerLauncher
