import ReviewRouter.Pattern.Basic
import ReviewRouter.Pattern.Error

/-!
# Flags of a pattern

* `Flags` — what the letters between `(?` and `)` or `:` switch on and off;
* `Flags.read` — reads such letters;
* `Flags.literal`, `Flags.fold`, `Flags.dot`, … — what the parts of a pattern mean under the flags.
-/

namespace ReviewRouter

/-- How the parts of a pattern are to be understood. -/
structure Flags where
  anyCase : Bool := false
  multiLine : Bool := false
  dotAll : Bool := false
  swapGreed : Bool := false
  unicode : Bool := true
  crlf : Bool := false
  spaced : Bool := false
  deriving DecidableEq, Repr

namespace Flags

/-! ### Reading -/

/-- Switches the flag of a letter. -/
def set? (f : Flags) (letter : Char) (on : Bool) : Option Flags :=
  match letter with
  | 'i' => some { f with anyCase := on }
  | 'm' => some { f with multiLine := on }
  | 's' => some { f with dotAll := on }
  | 'U' => some { f with swapGreed := on }
  | 'u' => some { f with unicode := on }
  | 'R' => some { f with crlf := on }
  | 'x' => some { f with spaced := on }
  | _ => none

/-- Reads the letters before `:` or `)`.  `seen` are those read so far, `-` included, the latest
first; the answer is the new flags, the closing character and what follows it. -/
def readFrom (f : Flags) (seen : List Char) : Text → Except PatternError (Flags × Char × Text)
  | [] => .error .unclosedGroup
  | c :: rest =>
    if c = ':' ∨ c = ')' then
      if seen.head? = some '-' then .error .badFlags
      else if c = ')' ∧ seen = [] then .error .nothingToRepeat
      else .ok (f, c, rest)
    else if seen.contains c then .error .badFlags
    else if c = '-' then f.readFrom ('-' :: seen) rest
    else match f.set? c (!seen.contains '-') with
      | some f => f.readFrom (c :: seen) rest
      | none => .error .badFlags

/-- Reads the letters before `:` or `)`. -/
def read (f : Flags) (t : Text) : Except PatternError (Flags × Char × Text) :=
  f.readFrom [] t

/-! ### Blanks in patterns -/

/-- Drops blanks and comments, each from `#` to the end of the line. -/
def dropSpace : (inComment : Bool) → Text → Text
  | _, [] => []
  | true, c :: rest => dropSpace (c != '\n') rest
  | false, c :: rest =>
    if isBlank c then dropSpace false rest
    else if c = '#' then dropSpace true rest
    else c :: rest

/-- Drops blanks and comments where they do not count. -/
def skip (f : Flags) (t : Text) : Text :=
  if f.spaced then dropSpace false t else t

/-! ### Meaning -/

/-- The characters that word conditions and `\w` are about. -/
def wordSet (f : Flags) : CharSet :=
  if f.unicode then .word else .asciiWord

/-- Closes a set under change of case, if case does not count. -/
def fold (f : Flags) (s : CharSet) : CharSet :=
  if !f.anyCase then s
  else if f.unicode then .anyCase s
  else .union s (.inter .ascii (.anyCase s))

/-- Whether the set has members that are single bytes but no characters of ASCII. -/
def hasBytes (s : CharSet) : Bool :=
  (List.range 128).any fun i => s.mem (Char.ofNat (128 + i))

/-- A set, refused if it stands for single bytes beyond ASCII. -/
def checked (f : Flags) (s : CharSet) : Except PatternError CharSet :=
  if !f.unicode && hasBytes s then .error .notText else .ok s

/-- One character. -/
def literal (f : Flags) (c : Char) : Pattern :=
  .char (f.fold (.one c))

/-- The dot: any character, but not a line end unless the dot means all. -/
def dot (f : Flags) : Except PatternError Pattern :=
  if !f.unicode then .error .notText
  else if f.dotAll then .ok (.char .any)
  else if f.crlf then .ok (.char (.compl (.union (.one '\r') (.one '\n'))))
  else .ok (.char (.compl (.one '\n')))

/-- The circumflex: the start of the text or of a line. -/
def start (f : Flags) : Pattern :=
  .anchor (if f.multiLine then .lineStart f.crlf else .textStart)

/-- The dollar sign: the end of the text or of a line. -/
def stop (f : Flags) : Pattern :=
  .anchor (if f.multiLine then .lineEnd f.crlf else .textEnd)

/-- A repetition; taken no times at all it is empty. -/
def repetition (f : Flags) (p : Pattern) (least : Nat) (most : Option Nat) (lazily : Bool) :
    Pattern :=
  if most = some 0 then .empty else .rep p least most (lazily == f.swapGreed)

end Flags

end ReviewRouter
