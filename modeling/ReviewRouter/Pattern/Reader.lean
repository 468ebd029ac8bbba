import ReviewRouter.Pattern.Bracket

/-!
# Reading patterns

The written form of a pattern: alternatives between bars, each a row of items, each item perhaps
repeated.  An item is a character, a dot, a set in brackets, an escape, a place, or a group in
parentheses.  Flags hold from where they are set to the end of the group around them.

* `PatternText` — what is left to read, with the flags in force and the names already used;
* `Pattern.read` — the pattern of a text, or what is wrong with it.
-/

namespace ReviewRouter

/-- The state of reading: the text left, the flags in force and the names used so far. -/
structure PatternText where
  rest : Text
  flags : Flags := {}
  names : List Text := []
  deriving DecidableEq, Repr

namespace PatternText

/-! ### Counts -/

/-- A number between blanks. -/
def readCount (f : Flags) (t : Text) : Except PatternError (Nat × Text) :=
  let t := t.dropWhile isBlank
  let digits := t.takeWhile Char.isDigit
  let rest := t.dropWhile Char.isDigit
  match Numeral.natural? digits with
  | some n => if n < UInt32.size then .ok (n, f.skip (rest.dropWhile isBlank)) else .error .badCount
  | none => .error .badCount

/-- The two bounds of a repetition after its opening brace. -/
def readBounds (f : Flags) (t : Text) : Except PatternError (Nat × Option Nat × Text) := do
  let (least, rest) ← readCount f (f.skip t)
  match rest with
  | '\x7d' :: rest => return (least, some least, rest)
  | ',' :: rest =>
    match f.skip rest with
    | '\x7d' :: rest => return (least, none, rest)
    | rest =>
      let (most, rest) ← readCount f rest
      match rest with
      | '\x7d' :: rest => if most < least then .error .badCount else return (least, some most, rest)
      | _ => .error .badCount
  | _ => .error .badCount

/-- Whether a question mark makes the repetition lazy, and the text after it. -/
def readLazy : Text → Bool × Text
  | '?' :: rest => (true, rest)
  | t => (false, t)

/-- Puts the repetitions that follow an item around it. -/
def readRepetitions (f : Flags) : Nat → Pattern → Text → Except PatternError (Pattern × Text)
  | 0, _, _ => .error .tooDeep
  | depth + 1, p, t =>
    let around (least : Nat) (most : Option Nat) (rest : Text) :=
      let (lazily, rest) := readLazy rest
      readRepetitions f depth (f.repetition p least most lazily) rest
    match f.skip t with
    | '?' :: rest => around 0 (some 1) rest
    | '*' :: rest => around 0 none rest
    | '+' :: rest => around 1 none rest
    | '\x7b' :: rest => do
      let (least, most, rest) ← readBounds f rest
      around least most (f.skip rest)
    | rest => .ok (p, rest)

/-! ### Names -/

/-- Whether the character may open the name of a capture. -/
def isNameStart (c : Char) : Bool :=
  c == '_' || CodePoints.alphabetic.holds c

/-- Whether the character may go on with the name of a capture. -/
def isNamePart (c : Char) : Bool :=
  isNameStart c || c == '.' || c == '[' || c == ']' || CodePoints.decimalDigit.holds c
    || CodePoints.otherNumber.holds c

/-- The name of a capture, up to its closing angle bracket. -/
def readName (names : List Text) (t : Text) : Except PatternError (Text × Text) :=
  match Text.splitOnce? '>' t with
  | some (c :: cs, rest) =>
    if isNameStart c && cs.all isNamePart then
      if names.contains (c :: cs) then .error (.sameName (c :: cs)) else .ok (c :: cs, rest)
    else .error .badName
  | _ => .error .badName

/-- Whether a group after its parenthesis is a condition on the text ahead or behind. -/
def isLookAround (t : Text) : Bool :=
  [("?=" : Text), "?!", "?<=", "?<!"].any (·.isPrefixOf t)

/-! ### Items, rows and alternatives -/

mutual

/-- Reads alternatives up to a closing parenthesis or the end. -/
def readAlternatives : Nat → PatternText → Except PatternError (Pattern × PatternText)
  | 0, _ => .error .tooDeep
  | depth + 1, s => do
    let (p, s) ← readRow depth s
    match s.rest with
    | '|' :: rest =>
      let (q, s) ← readAlternatives depth { s with rest := rest }
      return (.alt p q, s)
    | _ => return (p, s)

/-- Reads items up to a bar, a closing parenthesis or the end. -/
def readRow : Nat → PatternText → Except PatternError (Pattern × PatternText)
  | 0, _ => .error .tooDeep
  | depth + 1, s =>
    match s.flags.skip s.rest with
    | [] => .ok (.empty, { s with rest := [] })
    | '|' :: rest => .ok (.empty, { s with rest := '|' :: rest })
    | ')' :: rest => .ok (.empty, { s with rest := ')' :: rest })
    | t => do
      match ← readItem depth { s with rest := t } with
      | (none, s) => readRow depth s
      | (some p, s) =>
        let (p, rest) ← readRepetitions s.flags s.rest.length.succ p s.rest
        let (q, s) ← readRow depth { s with rest := rest }
        match q with
        | .empty => return (p, s)
        | q => return (.seq p q, s)

/-- Reads one item; flags alone are none. -/
def readItem : Nat → PatternText → Except PatternError (Option Pattern × PatternText)
  | 0, _ => .error .tooDeep
  | depth + 1, s =>
    match s.rest with
    | [] => .error .nothingToRepeat
    | '(' :: rest =>
      let rest := s.flags.skip rest
      let closed (s inner : PatternText) (p : Pattern) :
          Except PatternError (Option Pattern × PatternText) :=
        match inner.rest with
        | ')' :: rest => .ok (some p, { s with rest := rest, names := inner.names })
        | _ => .error .unclosedGroup
      let named (rest : Text) : Except PatternError (Option Pattern × PatternText) := do
        let (name, rest) ← readName s.names rest
        let (p, inner) ← readAlternatives depth { s with rest := rest, names := name :: s.names }
        closed s inner (.capture name p)
      if isLookAround rest then .error .lookAround
      else match rest with
        | '?' :: 'P' :: '<' :: rest => named rest
        | '?' :: '<' :: rest => named rest
        | '?' :: rest => do
          match ← s.flags.read rest with
          | (flags, ')', rest) => return (none, { s with rest := rest, flags := flags })
          | (flags, _, rest) =>
            let (p, inner) ← readAlternatives depth { s with rest := rest, flags := flags }
            closed s inner p
        | rest => do
          let (p, inner) ← readAlternatives depth { s with rest := rest }
          closed s inner p
    | '[' :: rest => do
      let (set, rest) ← Bracket.read s.flags (2 * rest.length + 2) rest
      return (some (.char (← s.flags.checked set)), { s with rest := rest })
    | '\\' :: rest => do
      match ← Escaped.read s.flags rest with
      | (.literal c, rest) => return (some (s.flags.literal c), { s with rest := rest })
      | (.set set, rest) => return (some (.char set), { s with rest := rest })
      | (.anchor a, rest) => return (some (.anchor a), { s with rest := rest })
    | '.' :: rest => do return (some (← s.flags.dot), { s with rest := rest })
    | '^' :: rest => .ok (some s.flags.start, { s with rest := rest })
    | '$' :: rest => .ok (some s.flags.stop, { s with rest := rest })
    | '?' :: _ => .error .nothingToRepeat
    | '*' :: _ => .error .nothingToRepeat
    | '+' :: _ => .error .nothingToRepeat
    | '\x7b' :: _ => .error .nothingToRepeat
    | c :: rest => .ok (some (s.flags.literal c), { s with rest := rest })

end

end PatternText

/-- The pattern of a text. -/
def Pattern.read (t : Text) : Except PatternError Pattern := do
  let (p, s) ← PatternText.readAlternatives (3 * t.length + 3) { rest := t }
  match s.rest with
  | [] => return p
  | _ => .error .unopenedGroup

end ReviewRouter
