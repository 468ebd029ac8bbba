import ReviewRouter.Text.Letter
import ReviewRouter.Text.Mark
import ReviewRouter.Text.Digit

/-!
# Word characters

A word character is alphabetic, a mark, a decimal digit, a connector such as `_`, or one of the
two invisible joiners.

* `isDecimalDigit`, `isWordChar` — the tests on characters.
-/

namespace ReviewRouter

/-- The connector punctuation (category Pc). -/
def CodePoints.connector : CodePoints :=
  [0x5F, 0x60, 0x203F, 0x2041, 0x2054, 0x2055, 0xFE33, 0xFE35, 0xFE4D, 0xFE50, 0xFF3F, 0xFF40]

/-- The zero width joiner and non-joiner. -/
def CodePoints.joiner : CodePoints :=
  [0x200C, 0x200E]

/-- Whether the character is a decimal digit of some script. -/
def isDecimalDigit (c : Char) : Bool :=
  CodePoints.decimalDigit.holds c

/-- Whether the character can stand in a word. -/
def isWordChar (c : Char) : Bool :=
  CodePoints.alphabetic.holds c || CodePoints.mark.holds c || CodePoints.decimalDigit.holds c
    || CodePoints.connector.holds c || CodePoints.joiner.holds c

end ReviewRouter
