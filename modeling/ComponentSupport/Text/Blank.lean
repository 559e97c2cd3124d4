/-!
# Blank text

A name counts as missing when it has no character outside the Unicode property `White_Space`. The
property is wider than core's `Char.isWhitespace`, which knows six ASCII characters: it also has the
no-break space, the ideographic space and the line and paragraph separators, and it has neither the
zero-width space U+200B nor the byte order mark U+FEFF.
-/

namespace ComponentSupport.Text

/-- The characters with the Unicode property `White_Space`, as ranges of code points. -/
def blankRanges : List (Nat × Nat) :=
  [(0x9, 0xD), (0x20, 0x20), (0x85, 0x85), (0xA0, 0xA0), (0x1680, 0x1680), (0x2000, 0x200A),
    (0x2028, 0x2029), (0x202F, 0x202F), (0x205F, 0x205F), (0x3000, 0x3000)]

/-- A character has the Unicode property `White_Space`. -/
def isBlankChar (c : Char) : Bool :=
  blankRanges.any fun (low, high) => decide (low ≤ c.toNat ∧ c.toNat ≤ high)

/-- A text is blank when every character of it is; the empty text is blank. -/
def isBlank (s : String) : Bool :=
  s.toList.all isBlankChar

end ComponentSupport.Text
