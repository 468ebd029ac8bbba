import ReviewRouter.Text.Basic
import ReviewRouter.Text.CodePoints

/-!
# White space

* `whiteSpace` — the characters with the property White_Space;
* `isBlank` — the test on characters;
* `dropBlanks` — a text without its leading white space.
-/

namespace ReviewRouter

/-- The white space characters. -/
def CodePoints.whiteSpace : CodePoints :=
  [0x9, 0xE, 0x20, 0x21, 0x85, 0x86, 0xA0, 0xA1, 0x1680, 0x1681, 0x2000, 0x200B, 0x2028,
   0x202A, 0x202F, 0x2030, 0x205F, 0x2060, 0x3000, 0x3001]

/-- Whether the character is white space. -/
def isBlank (c : Char) : Bool :=
  CodePoints.whiteSpace.holds c

/-- Drops leading white space. -/
def Text.dropBlanks (t : Text) : Text :=
  t.dropWhile isBlank

/-- The blanks of ASCII are white space. -/
theorem isBlank_of_isWhitespace (c : Char) (h : c.isWhitespace = true) : isBlank c = true := by
  simp only [Char.isWhitespace, Bool.or_eq_true, decide_eq_true_eq] at h
  rcases h with ((h | h) | h) | h <;> subst h <;> decide

end ReviewRouter
