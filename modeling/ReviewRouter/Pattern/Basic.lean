import ReviewRouter.Pattern.CharSet

/-!
# Patterns

A pattern describes a set of texts and what to remember of each.

* `Anchor` — a condition on a place between two characters;
* `Pattern` — the tree of a pattern;
* `Pattern.names` — the names of its captures, in order.
-/

namespace ReviewRouter

/-! ### Places -/

/-- A condition on a place between two characters.  Line ends are `\n`, or with `crlf` also `\r`
and the pair of both.  Word characters are those of the set that comes with the condition. -/
inductive Anchor where
  | textStart
  | textEnd
  | lineStart (crlf : Bool)
  | lineEnd (crlf : Bool)
  | boundary (w : CharSet)
  | notBoundary (w : CharSet)
  | wordStart (w : CharSet)
  | wordEnd (w : CharSet)
  | wordStartHalf (w : CharSet)
  | wordEndHalf (w : CharSet)
  deriving DecidableEq, Repr

namespace Anchor

/-- Whether there is a character and it is in the set. -/
def isIn (s : CharSet) (c? : Option Char) : Bool :=
  c?.any s.mem

/-- Whether the condition holds between the two neighbours of a place. -/
def holds (before after : Option Char) : Anchor → Bool
  | .textStart => before.isNone
  | .textEnd => after.isNone
  | .lineStart false => before.isNone || before == some '\n'
  | .lineStart true =>
    before.isNone || before == some '\n' || (before == some '\r' && after != some '\n')
  | .lineEnd false => after.isNone || after == some '\n'
  | .lineEnd true =>
    after.isNone || after == some '\r' || (after == some '\n' && before != some '\r')
  | .boundary w => isIn w before != isIn w after
  | .notBoundary w => isIn w before == isIn w after
  | .wordStart w => !isIn w before && isIn w after
  | .wordEnd w => isIn w before && !isIn w after
  | .wordStartHalf w => !isIn w before
  | .wordEndHalf w => !isIn w after

end Anchor

/-! ### Trees -/

/-- A pattern.  A repetition takes its body at least `least` and at most `most` times, as often as
possible if it is greedy and as rarely as possible otherwise. -/
inductive Pattern where
  | empty
  | char (s : CharSet)
  | anchor (a : Anchor)
  | capture (name : Text) (p : Pattern)
  | seq (p q : Pattern)
  | alt (p q : Pattern)
  | rep (p : Pattern) (least : Nat) (most : Option Nat) (greedy : Bool)
  deriving DecidableEq, Repr

/-- The names of the captures, from left to right. -/
def Pattern.names : Pattern → List Text
  | .empty => []
  | .char _ => []
  | .anchor _ => []
  | .capture name p => name :: p.names
  | .seq p q => p.names ++ q.names
  | .alt p q => p.names ++ q.names
  | .rep p _ _ _ => p.names

end ReviewRouter
