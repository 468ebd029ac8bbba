import ReviewRouter.Text.Blank
import ReviewRouter.Text.Folding
import ReviewRouter.Text.Word

/-!
# Sets of characters in patterns

* `CharSet` — single characters, ranges, the classes of digits, words and blanks, and their
  Boolean combinations;
* `CharSet.mem` — membership;
* `CharSet.posix?` — the named classes of ASCII.
-/

namespace ReviewRouter

/-- A set of characters. -/
inductive CharSet where
  | empty
  | any
  | one (c : Char)
  | range (low high : Char)
  | digit
  | word
  | blank
  | points (s : CodePoints)
  | compl (s : CharSet)
  | union (s t : CharSet)
  | inter (s t : CharSet)
  | anyCase (s : CharSet)
  deriving DecidableEq, Repr

namespace CharSet

/-- Whether the character belongs to the set. -/
def mem : CharSet → Char → Bool
  | .empty, _ => false
  | .any, _ => true
  | .one d, c => d == c
  | .range low high, c => low.toNat ≤ c.toNat && c.toNat ≤ high.toNat
  | .digit, c => isDecimalDigit c
  | .word, c => isWordChar c
  | .blank, c => isBlank c
  | .points s, c => s.holds c
  | .compl s, c => !s.mem c
  | .union s t, c => s.mem c || t.mem c
  | .inter s t, c => s.mem c && t.mem c
  | .anyCase s, c => (caseVariants c).any s.mem

/-- What is in `s` but not in `t`. -/
def diff (s t : CharSet) : CharSet :=
  .inter s (.compl t)

/-- What is in exactly one of the two sets. -/
def symmDiff (s t : CharSet) : CharSet :=
  .union (diff s t) (diff t s)

/-! ### Classes of ASCII -/

/-- The ten digits. -/
def asciiDigit : CharSet := .range '0' '9'

/-- Letters of both cases. -/
def asciiLetter : CharSet := .union (.range 'A' 'Z') (.range 'a' 'z')

/-- Letters, digits and the underscore. -/
def asciiWord : CharSet := .union asciiLetter (.union asciiDigit (.one '_'))

/-- The six blanks. -/
def asciiBlank : CharSet := .union (.one ' ') (.range '\t' '\r')

/-- All of ASCII. -/
def ascii : CharSet := .range '\x00' '\x7F'

/-- The class with the given name between `[:` and `:]`. -/
def posix? (name : Text) : Option CharSet :=
  if name = "alnum" then some (.union asciiLetter asciiDigit)
  else if name = "alpha" then some asciiLetter
  else if name = "ascii" then some ascii
  else if name = "blank" then some (.union (.one '\t') (.one ' '))
  else if name = "cntrl" then some (.union (.range '\x00' '\x1F') (.one '\x7F'))
  else if name = "digit" then some asciiDigit
  else if name = "graph" then some (.range '!' '~')
  else if name = "lower" then some (.range 'a' 'z')
  else if name = "print" then some (.range ' ' '~')
  else if name = "punct" then
    some (.union (.range '!' '/') (.union (.range ':' '@')
      (.union (.range '[' '\x60') (.range '\x7B' '~'))))
  else if name = "space" then some asciiBlank
  else if name = "upper" then some (.range 'A' 'Z')
  else if name = "word" then some asciiWord
  else if name = "xdigit" then
    some (.union asciiDigit (.union (.range 'A' 'F') (.range 'a' 'f')))
  else none

end CharSet

end ReviewRouter
