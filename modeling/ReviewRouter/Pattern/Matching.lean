import ReviewRouter.Pattern.Basic

/-!
# Matching

Of all ways to match, the one that comes first wins: the leftmost start, and there the earlier
alternative and the preferred number of repetitions, outermost choice first.  A match is a
computation with a continuation: `p.run k s` offers the places where `p` can end, in order of
preference, to `k`, and answers with the first success.

* `Cursor` — a place in the text, with what has been captured on the way;
* `Pattern.run` — the ordered search;
* `Pattern.find?` — the captures of the first match anywhere in a text.

A repetition without limit goes round once more only if the last round has moved on; its first
round may be empty.
-/

namespace ReviewRouter

/-- A place in a text: the character before it, the text after it, and the captures so far, the
latest first. -/
structure Cursor where
  before : Option Char
  rest : Text
  captured : List (Text × Text)
  deriving DecidableEq, Repr

namespace Cursor

/-- The place after `after`, which lies further on, now that the text between is captured. -/
def capture (name : Text) (start after : Cursor) : Cursor :=
  let taken := start.rest.take (start.rest.length - after.rest.length)
  { after with captured := (name, taken) :: after.captured }

end Cursor

/-! ### Repetition -/

section Repetition

variable {α : Type} (step : (Cursor → Option α) → Cursor → Option α) (greedy : Bool)

/-- Goes on or stops, whichever is preferred, and else the other. -/
def prefer (more stop : Cursor → Option α) (s : Cursor) : Option α :=
  if greedy then more s <|> stop s else stop s <|> more s

/-- Exactly `n` rounds. -/
def rounds : Nat → (Cursor → Option α) → Cursor → Option α
  | 0, k => k
  | n + 1, k => step (rounds n k)

/-- At most `n` rounds. -/
def roundsUpTo : Nat → (Cursor → Option α) → Cursor → Option α
  | 0, k => k
  | n + 1, k => prefer greedy (step (roundsUpTo n k)) k

/-- Any number of further rounds, each of which moves on; `bound` is the length of the text left. -/
def moreRounds : Nat → (Cursor → Option α) → Cursor → Option α
  | 0, k => k
  | bound + 1, k => fun s =>
    prefer greedy
      (step fun e => if e.rest.length < s.rest.length then moreRounds bound k e else none) k s

/-- One round, which may be empty, and any number of further rounds. -/
def someRounds (k : Cursor → Option α) (s : Cursor) : Option α :=
  step (fun e =>
    if e.rest.length < s.rest.length then moreRounds step greedy e.rest.length k e else k e) s

/-- From `least` to `most` rounds. -/
def repeated (least : Nat) (most : Option Nat) (k : Cursor → Option α) : Cursor → Option α :=
  match least, most with
  | _, some m => rounds step least (roundsUpTo step greedy (m - least) k)
  | 0, none => prefer greedy (someRounds step greedy k) k
  | n + 1, none => rounds step n (someRounds step greedy k)

end Repetition

/-! ### Patterns -/

namespace Pattern

/-- Offers to `k` the places where the pattern can end, from a given place, until one succeeds. -/
def run {α : Type} : Pattern → (Cursor → Option α) → Cursor → Option α
  | .empty, k, s => k s
  | .char set, k, s =>
    match s.rest with
    | c :: rest => if set.mem c then k { s with before := some c, rest := rest } else none
    | [] => none
  | .anchor a, k, s => if a.holds s.before s.rest.head? then k s else none
  | .capture name p, k, s => p.run (fun e => k (Cursor.capture name s e)) s
  | .seq p q, k, s => p.run (q.run k) s
  | .alt p q, k, s => p.run k s <|> q.run k s
  | .rep p least most greedy, k, s => repeated p.run greedy least most k s

/-- The captures of the first match that starts at the given place. -/
def matchAt? (p : Pattern) (before : Option Char) (t : Text) : Option (List (Text × Text)) :=
  p.run (fun e => some e.captured) ⟨before, t, []⟩

/-- The captures of the first match in the text, `before` being the character in front of it. -/
def findFrom? (p : Pattern) (before : Option Char) : Text → Option (List (Text × Text))
  | [] => p.matchAt? before []
  | c :: rest => p.matchAt? before (c :: rest) <|> p.findFrom? (some c) rest

/-- The captures of the first match in the text. -/
def find? (p : Pattern) (t : Text) : Option (List (Text × Text)) :=
  p.findFrom? none t

end Pattern

end ReviewRouter
