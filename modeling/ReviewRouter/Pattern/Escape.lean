import ReviewRouter.Pattern.Flags
import ReviewRouter.Text.Numeral
import ReviewRouter.Text.Percent

/-!
# Escapes in patterns

* `Escaped` — what a backslash and the characters after it stand for;
* `Escaped.read` — reads the part after the backslash.
-/

namespace ReviewRouter

/-- A character, a set of characters, or a condition on a place. -/
inductive Escaped where
  | literal (c : Char)
  | set (s : CharSet)
  | anchor (a : Anchor)
  deriving DecidableEq, Repr

namespace Escaped

/-! ### Code points -/

/-- The character with the given code point. -/
def charOfNat? (n : Nat) : Option Char :=
  if n.isValidChar then some (Char.ofNat n) else none

/-- The character written by hexadecimal digits. -/
def ofHex (digits : Text) : Except PatternError Char :=
  match digits.mapM Percent.hexValue? with
  | some (d :: ds) =>
    match charOfNat? ((d :: ds).foldl (fun n d => 16 * n + d) 0) with
    | some c => .ok c
    | none => .error .badEscape
  | _ => .error .badEscape

/-- Takes `n` characters, with blanks dropped between them where they do not count. -/
def takeSkipping (f : Flags) : Nat → Text → Option (Text × Text)
  | 0, t => some ([], t)
  | n + 1, t => match f.skip t with
    | [] => none
    | c :: rest => (takeSkipping f n rest).map fun (taken, rest) => (c :: taken, rest)

/-- A code point: exactly `width` digits, or any number of them in braces.  Without Unicode two
digits write a byte, which beyond ASCII is no character. -/
def readHex (f : Flags) (width : Nat) (t : Text) : Except PatternError (Escaped × Text) :=
  match f.skip t with
  | '\x7b' :: rest =>
    match Text.splitOnce? '\x7d' rest with
    | some (digits, rest) => do
      let digits := if f.spaced then digits.filter (!isBlank ·) else digits
      return (.literal (← ofHex digits), rest)
    | none => .error .badEscape
  | _ =>
    match takeSkipping f width t with
    | some (digits, rest) => do
      let c ← ofHex digits
      if !f.unicode && width = 2 && 0x80 ≤ c.toNat then throw .notText
      return (.literal c, rest)
    | none => .error .badEscape

/-! ### Classes and properties -/

/-- The set itself or what is not in it. -/
def signed (negated : Bool) (s : CharSet) : CharSet :=
  if negated then .compl s else s

/-- A class named by one letter. -/
def letterClass (f : Flags) (negated : Bool) (s : CharSet) : Except PatternError Escaped := do
  return .set (← f.checked (signed negated s))

/-- The properties that have a table, under their long and short names. -/
def property? (name : Text) : Option CharSet :=
  let key := (name.filter fun c => c != '_' && c != '-' && c != ' ').map Char.toLower
  if key = "any" then some .any
  else if key = "ascii" then some .ascii
  else if key = "alphabetic" ∨ key = "alpha" then some (.points .alphabetic)
  else if key = "whitespace" ∨ key = "wspace" ∨ key = "space" then some .blank
  else if key = "nd" ∨ key = "decimalnumber" ∨ key = "digit" then some .digit
  else if key = "no" ∨ key = "othernumber" then some (.points .otherNumber)
  else if key = "m" ∨ key = "mark" ∨ key = "combiningmark" then some (.points .mark)
  else if key = "pc" ∨ key = "connectorpunctuation" then some (.points .connector)
  else if key = "cased" then some (.points .cased)
  else if key = "caseignorable" ∨ key = "ci" then some (.points .caseIgnorable)
  else if key = "graphemeextend" ∨ key = "grext" then some (.points .graphemeExtend)
  else if key = "joincontrol" ∨ key = "joinc" then some (.points .joiner)
  else none

/-- A property: one letter, or a name in braces that `^` negates once more. -/
def readProperty (f : Flags) (negated : Bool) (t : Text) :
    Except PatternError (Escaped × Text) :=
  if !f.unicode then .error .notText
  else match f.skip t with
    | [] => .error .badEscape
    | '\x7b' :: rest =>
      match Text.splitOnce? '\x7d' rest with
      | none => .error .badEscape
      | some (name, rest) =>
        let (inner, name) := match name with
          | '^' :: name => (true, name)
          | name => (false, name)
        match property? name with
        | some s => .ok (.set (signed (negated != inner) s), rest)
        | none => .error .unknownProperty
    | c :: rest =>
      match property? [c] with
      | some s => .ok (.set (signed negated s), rest)
      | none => .error .unknownProperty

/-! ### Word boundaries -/

/-- The end of the name of a special boundary is sought among these. -/
def isBoundaryNameChar (c : Char) : Bool :=
  c.isAlpha || c == '-'

/-- A word boundary, perhaps one of the special ones named in braces; braces that hold anything
but a name belong to a repetition. -/
def readBoundary (f : Flags) (t : Text) : Except PatternError (Escaped × Text) :=
  let w := f.wordSet
  match t with
  | '\x7b' :: inside =>
    match f.skip inside with
    | [] => .error .badEscape
    | c :: rest =>
      if !isBoundaryNameChar c then .ok (.anchor (.boundary w), t)
      else
        let name := (c :: rest).takeWhile isBoundaryNameChar
        match f.skip ((c :: rest).dropWhile isBoundaryNameChar) with
        | '\x7d' :: rest =>
          if name = "start" then .ok (.anchor (.wordStart w), rest)
          else if name = "end" then .ok (.anchor (.wordEnd w), rest)
          else if name = "start-half" then .ok (.anchor (.wordStartHalf w), rest)
          else if name = "end-half" then .ok (.anchor (.wordEndHalf w), rest)
          else .error .badEscape
        | _ => .error .badEscape
  | _ => .ok (.anchor (.boundary w), t)

/-! ### All escapes -/

/-- Marks of ASCII, all of which may be escaped without need except `<` and `>`. -/
def isEscapable (c : Char) : Bool :=
  c.toNat < 0x80 && !c.isAlphanum && c != '<' && c != '>'

/-- Reads what follows a backslash. -/
def read (f : Flags) : Text → Except PatternError (Escaped × Text)
  | [] => .error .badEscape
  | c :: rest =>
    let named (negated : Bool) (s ascii : CharSet) : Except PatternError (Escaped × Text) := do
      return (← letterClass f negated (if f.unicode then s else ascii), rest)
    match c with
    | 'x' => readHex f 2 rest
    | 'u' => readHex f 4 rest
    | 'U' => readHex f 8 rest
    | 'p' => readProperty f false rest
    | 'P' => readProperty f true rest
    | 'd' => named false .digit .asciiDigit
    | 'D' => named true .digit .asciiDigit
    | 's' => named false .blank .asciiBlank
    | 'S' => named true .blank .asciiBlank
    | 'w' => named false .word .asciiWord
    | 'W' => named true .word .asciiWord
    | 'a' => .ok (.literal '\x07', rest)
    | 'f' => .ok (.literal '\x0C', rest)
    | 't' => .ok (.literal '\t', rest)
    | 'r' => .ok (.literal '\r', rest)
    | 'n' => .ok (.literal '\n', rest)
    | 'v' => .ok (.literal '\x0B', rest)
    | 'A' => .ok (.anchor .textStart, rest)
    | 'z' => .ok (.anchor .textEnd, rest)
    | 'b' => readBoundary f rest
    | 'B' => .ok (.anchor (.notBoundary f.wordSet), rest)
    | '<' => .ok (.anchor (.wordStart f.wordSet), rest)
    | '>' => .ok (.anchor (.wordEnd f.wordSet), rest)
    | _ => if isEscapable c then .ok (.literal c, rest) else .error .badEscape

end Escaped

end ReviewRouter
