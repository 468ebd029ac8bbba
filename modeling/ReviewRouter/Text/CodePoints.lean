/-!
# Sets of code points

A character class is written by its boundaries: the increasing list of the code points at which
membership changes, starting outside the set.

* `CodePoints.mem` — membership, deciding each boundary once;
* `CodePoints.holds` — the class as a test on characters.
-/

namespace ReviewRouter

/-- A set of code points, given by the places where membership changes. -/
abbrev CodePoints := List Nat

namespace CodePoints

/-- Membership of `n`, where `inside` says what holds before the first boundary. -/
def memFrom (inside : Bool) (n : Nat) : CodePoints → Bool
  | [] => inside
  | b :: rest => if n < b then inside else memFrom (!inside) n rest

/-- Whether `n` belongs to the set. -/
def mem (s : CodePoints) (n : Nat) : Bool :=
  memFrom false n s

/-- Whether the character belongs to the set. -/
def holds (s : CodePoints) (c : Char) : Bool :=
  s.mem c.toNat

end CodePoints

end ReviewRouter
