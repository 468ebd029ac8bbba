import ReviewRouter.Text.Numeral

/-!
# Lines of a file in an anchor

* `LineAddress` — a line and the side of the comparison it is on;
* `LineAddress.ofText?` — reads digits after an optional `a` or `b`, which both mean the left side.
-/

namespace ReviewRouter

/-- A line of a file, on the left side or the right. -/
structure LineAddress where
  line : UInt32
  leftSide : Bool
  deriving DecidableEq, Repr

/-- The side an anchor begins with, and the rest of it. -/
def LineAddress.side : Text → Bool × Text
  | 'a' :: digits => (true, digits)
  | 'b' :: digits => (true, digits)
  | digits => (false, digits)

/-- Reads a line address; signs are not allowed. -/
def LineAddress.ofText? (t : Text) : Option LineAddress := do
  let (leftSide, digits) := LineAddress.side t
  let n ← Numeral.natural? digits
  let line ← Numeral.word32? n
  return { line, leftSide }

end ReviewRouter
