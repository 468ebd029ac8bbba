import ReviewRouter.Pattern.Escape

/-!
# Sets in brackets

* `SetOp` — the operators `&&`, `--` and `~~` between sets;
* `Bracket.read` — reads a set after its opening bracket, nested sets included.
-/

namespace ReviewRouter

/-- An operator between sets, all of the same rank and taken from the left. -/
inductive SetOp where
  | inter
  | diff
  | symmDiff
  deriving DecidableEq, Repr

/-- What the operator makes of two sets. -/
def SetOp.apply : SetOp → CharSet → CharSet → CharSet
  | .inter => .inter
  | .diff => CharSet.diff
  | .symmDiff => CharSet.symmDiff

namespace Bracket

/-! ### Single items -/

/-- An item of a set: one character or an escaped class. -/
def readItem (f : Flags) : Text → Except PatternError (Escaped × Text)
  | [] => .error .unclosedClass
  | '\\' :: rest => Escaped.read f rest
  | c :: rest => .ok (.literal c, rest)

/-- The set of an item; conditions on places have none, and without Unicode a character beyond
ASCII has none. -/
def itemSet (f : Flags) : Escaped → Except PatternError CharSet
  | .literal c => if !f.unicode && 0x80 ≤ c.toNat then .error .notText else .ok (.one c)
  | .set s => .ok s
  | .anchor _ => .error .badEscape

/-- A single item or a range of characters.  A `-` before `]` or another `-` makes no range. -/
def readRange (f : Flags) (t : Text) : Except PatternError (CharSet × Text) := do
  let (first, rest) ← readItem f t
  match f.skip rest with
  | [] => .error .unclosedClass
  | '-' :: after =>
    match f.skip after with
    | ']' :: _ => return (← itemSet f first, '-' :: after)
    | '-' :: _ => return (← itemSet f first, '-' :: after)
    | after =>
      let (last, rest) ← readItem f after
      match first, last with
      | .literal low, .literal high =>
        if high < low then .error .badRange
        else if !f.unicode && 0x80 ≤ high.toNat then .error .notText
        else .ok (.range low high, rest)
      | _, _ => .error .badRange
  | rest => return (← itemSet f first, rest)

/-- The name and the rest of a class such as `[:alpha:]`, its opening bracket taken off. -/
def posix? : Text → Option (CharSet × Text)
  | ':' :: rest =>
    let (negated, rest) := match rest with
      | '^' :: rest => (true, rest)
      | rest => (false, rest)
    match Text.splitOnce? ':' rest with
    | some (name, ']' :: rest) => (CharSet.posix? name).map fun s => (Escaped.signed negated s, rest)
    | _ => none
  | _ => none

/-! ### Whole sets -/

/-- Dashes at the start of a set stand for themselves, and then, if there were none, a bracket. -/
def leading (f : Flags) (dashes : Bool) : Text → CharSet × Text
  | [] => (if dashes then .one '-' else .empty, [])
  | c :: rest =>
    if c = '-' then leading f true rest
    else if f.spaced && isBlank c then leading f dashes rest
    else if dashes then (.one '-', c :: rest)
    else if c = ']' then (.one ']', rest)
    else (.empty, c :: rest)

/-- The set on the left of an operator, if there is one, and the operator. -/
abbrev Pending := Option (CharSet × SetOp)

/-- Brings in the set on the left. -/
def settle (left : Pending) (s : CharSet) : CharSet :=
  match left with
  | some (t, op) => op.apply t s
  | none => s

mutual

/-- Reads a set after its opening bracket. -/
def read (f : Flags) : Nat → Text → Except PatternError (CharSet × Text)
  | 0, _ => .error .tooDeep
  | depth + 1, t => do
    let (negated, t) := match f.skip t with
      | '^' :: rest => (true, rest)
      | rest => (false, rest)
    let (first, t) := leading f false (f.skip t)
    let (s, rest) ← readItems f depth first none t
    return (Escaped.signed negated s, rest)

/-- Reads items up to the closing bracket; `s` is the union of those read since the last
operator. -/
def readItems (f : Flags) : Nat → CharSet → Pending → Text →
    Except PatternError (CharSet × Text)
  | 0, _, _, _ => .error .tooDeep
  | depth + 1, s, left, t =>
    match f.skip t with
    | [] => .error .unclosedClass
    | ']' :: rest => .ok (settle left (f.fold s), rest)
    | '[' :: rest =>
      match posix? rest with
      | some (inner, rest) => readItems f depth (.union s inner) left rest
      | none => do
        let (inner, rest) ← read f depth rest
        readItems f depth (.union s inner) left rest
    | '&' :: '&' :: rest => readItems f depth .empty (some (settle left (f.fold s), .inter)) rest
    | '-' :: '-' :: rest => readItems f depth .empty (some (settle left (f.fold s), .diff)) rest
    | '~' :: '~' :: rest =>
      readItems f depth .empty (some (settle left (f.fold s), .symmDiff)) rest
    | t => do
      let (item, rest) ← readRange f t
      readItems f depth (.union s item) left rest

end

end Bracket

end ReviewRouter
