import Reckoner.Character.CodeRange

namespace Reckoner

/-!
# Blanks

A blank is a character with the property White_Space of Unicode 17.0: the
space, the line and page controls, the no-break space and the spaces of
typography.  The zero-width space is none.  Blanks separate the lexemes of an
expression and stand freely around the parts of a binding.
-/

/-- The characters with the property White_Space. -/
def whiteSpaceRanges : List CodeRange :=
  [⟨0x9, 0xD⟩, ⟨0x20, 0x20⟩, ⟨0x85, 0x85⟩, ⟨0xA0, 0xA0⟩, ⟨0x1680, 0x1680⟩, ⟨0x2000, 0x200A⟩,
   ⟨0x2028, 0x2029⟩, ⟨0x202F, 0x202F⟩, ⟨0x205F, 0x205F⟩, ⟨0x3000, 0x3000⟩]

def isBlank (c : Char) : Bool :=
  CodeRange.mem c.toNat whiteSpaceRanges

theorem whiteSpaceRanges_ascending : CodeRange.Ascending whiteSpaceRanges := by
  decide +kernel

/-- A list of characters without the blanks at its two ends. -/
def trimBlanks (cs : List Char) : List Char :=
  ((cs.dropWhile isBlank).reverse.dropWhile isBlank).reverse

end Reckoner
