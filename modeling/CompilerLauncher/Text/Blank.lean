/-!
White space, as the property of that name lists it: 25 characters in ten ranges. `isBlank` is used
where a setting must say something and where a response file separates its arguments.
-/

namespace CompilerLauncher

/-- The character has the white space property. -/
def isBlank (character : Char) : Bool :=
  let code := character.toNat
  (9 ≤ code && code ≤ 13) || code == 0x20 || code == 0x85 || code == 0xA0 || code == 0x1680
    || (0x2000 ≤ code && code ≤ 0x200A) || code == 0x2028 || code == 0x2029 || code == 0x202F
    || code == 0x205F || code == 0x3000

/-- The text holds white space only, or nothing at all. -/
def isBlankText (text : String) : Bool :=
  text.toList.all isBlank

/-- A character that the core class counts as white space has the property. -/
theorem isBlank_of_isWhitespace {character : Char} (h : character.isWhitespace = true) :
    isBlank character = true := by
  simp only [Char.isWhitespace, Bool.or_eq_true, decide_eq_true_eq] at h
  rcases h with ((rfl | rfl) | rfl) | rfl <;> decide

end CompilerLauncher
