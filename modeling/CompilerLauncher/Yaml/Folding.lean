import CompilerLauncher.Yaml.Character

/-!
Line folding, which plain and quoted scalars share.

The text between two words is kept when it is on one line. When it spans lines, the blanks around
the breaks go, a single line feed becomes a space, and further breaks stay.
-/

namespace CompilerLauncher

namespace Yaml

/-- A scalar that is being read: its characters so far, newest first, and the gap since the last of
them, which is either blanks, newest first, or line breaks, of which the first is kept apart. -/
structure Folding where
  backward : List Char := []
  blanks : List Char := []
  firstBreak : Option Char := none
  laterBreaks : List Char := []
  broken : Bool := false
  deriving DecidableEq, Repr

namespace Folding

/-- Takes a blank. -/
def blank (folding : Folding) (character : Char) : Folding :=
  if folding.broken then folding else { folding with blanks := character :: folding.blanks }

/-- Takes a line break. -/
def lineBreak (folding : Folding) (character : Char) : Folding :=
  if folding.broken then { folding with laterBreaks := character :: folding.laterBreaks }
  else { folding with blanks := [], firstBreak := some character, broken := true }

/-- The characters so far with the gap folded, newest first. -/
def joined (folding : Folding) : List Char :=
  if folding.broken then
    match folding.firstBreak with
    | some '\n' =>
      if folding.laterBreaks = [] then ' ' :: folding.backward
      else folding.laterBreaks ++ folding.backward
    | first => folding.laterBreaks ++ first.toList ++ folding.backward
  else folding.blanks ++ folding.backward

/-- Takes a character that is neither a blank nor a break. -/
def push (folding : Folding) (character : Char) : Folding :=
  { backward := character :: folding.joined }

/-- Takes a line break that was escaped, which leaves nothing behind. -/
def escapedBreak (folding : Folding) : Folding :=
  { backward := folding.joined, broken := true }

/-- Whether a gap has begun since the last character. -/
def inGap (folding : Folding) : Bool :=
  folding.broken || folding.blanks != []

end Folding

end Yaml

end CompilerLauncher
