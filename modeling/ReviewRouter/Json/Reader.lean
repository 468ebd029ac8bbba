import ReviewRouter.Json
import ReviewRouter.Text.Numeral
import ReviewRouter.Text.Percent

/-!
# Reading JSON

The reader is strict about arrays, objects and strings and lenient about other scalars: such a
scalar reaches to the next `,`, `}` or `]`, and only the spellings of null, the truth values and
whole numbers have a meaning.  Others can stand in fields that nobody reads.

* `Json.read?` — the value of a whole text.
-/

namespace ReviewRouter.JsonText

/-! ### Tokens -/

/-- The four blanks that may stand between tokens. -/
def isSpace (c : Char) : Bool :=
  c == ' ' || c == '\n' || c == '\t' || c == '\r'

/-- Drops blanks. -/
def skip (t : Text) : Text :=
  t.dropWhile isSpace

/-- The value of four hexadecimal digits, and what follows them. -/
def readHex4? : Text → Option (Nat × Text)
  | a :: b :: c :: d :: rest => do
    let digits ← [a, b, c, d].mapM Percent.hexValue?
    return (digits.foldl (fun n d => 16 * n + d) 0, rest)
  | _ => none

/-- A code point after `\u`, of two units if the first is the high half of a pair. -/
def readUnicode? (t : Text) : Option (Char × Text) := do
  let (first, rest) ← readHex4? t
  if 0xD800 ≤ first ∧ first < 0xDC00 then
    match rest with
    | '\\' :: 'u' :: rest =>
      let (second, rest) ← readHex4? rest
      if 0xDC00 ≤ second ∧ second < 0xE000 then
        return (Char.ofNat (0x10000 + (first - 0xD800) * 0x400 + (second - 0xDC00)), rest)
      else none
    | _ => none
  else if 0xDC00 ≤ first ∧ first < 0xE000 then none
  else return (Char.ofNat first, rest)

/-- The character of a short escape. -/
def shortEscape? : Char → Option Char
  | '\x22' => some '\x22'
  | '\\' => some '\\'
  | '/' => some '/'
  | 'b' => some '\x08'
  | 'f' => some '\x0C'
  | 'n' => some '\n'
  | 'r' => some '\r'
  | 't' => some '\t'
  | _ => none

/-- A string after its opening quote, and what follows its closing one.  The first argument bounds
the number of characters. -/
def readString? : Nat → Text → Option (Text × Text)
  | 0, _ => none
  | _, [] => none
  | _ + 1, '\x22' :: rest => some ([], rest)
  | bound + 1, '\\' :: 'u' :: rest => do
    let (c, rest) ← readUnicode? rest
    let (t, rest) ← readString? bound rest
    return (c :: t, rest)
  | bound + 1, '\\' :: e :: rest => do
    let c ← shortEscape? e
    let (t, rest) ← readString? bound rest
    return (c :: t, rest)
  | _ + 1, ['\\'] => none
  | bound + 1, c :: rest => do
    let (t, rest) ← readString? bound rest
    return (c :: t, rest)

/-- Whether the character ends a scalar. -/
def endsScalar (c : Char) : Bool :=
  c == ',' || c == '\x7d' || c == ']'

/-- The value of a scalar, trailing blanks dropped. -/
def ofScalar (token : Text) : Json :=
  let t := (token.reverse.dropWhile isSpace).reverse
  if t = "null" then .null
  else if t = "true" then .bool true
  else if t = "false" then .bool false
  else match Numeral.natural? t with
    | some n => if t.head? = some '0' ∧ t ≠ "0" then .scalar t else .num n
    | none => .scalar t

/-! ### Values -/

mutual

/-- A value, and what follows it.  The first argument bounds the number of steps, the second the
depth of nesting. -/
def readValue? : Nat → Nat → Text → Option (Json × Text)
  | 0, _, _ => none
  | bound + 1, depth, t =>
    match skip t with
    | [] => none
    | '\x22' :: rest => do
      let (s, rest) ← readString? rest.length.succ rest
      return (.str s, rest)
    | '[' :: rest =>
      match depth with
      | 0 => none
      | depth + 1 => do
        let (items, rest) ← readItems? bound depth true rest
        return (.arr items, rest)
    | '\x7b' :: rest =>
      match depth with
      | 0 => none
      | depth + 1 => do
        let (members, rest) ← readMembers? bound depth true rest
        return (.obj members, rest)
    | c :: rest =>
      let token := (c :: rest).takeWhile (!endsScalar ·)
      match token, (c :: rest).dropWhile (!endsScalar ·) with
      | [], _ => none
      | _, [] => none
      | token, rest => some (ofScalar token, rest)

/-- The items of an array up to its end; a comma stands before each but the first. -/
def readItems? : Nat → Nat → Bool → Text → Option (List Json × Text)
  | 0, _, _, _ => none
  | bound + 1, depth, first, t =>
    match skip t with
    | ']' :: rest => some ([], rest)
    | t => do
      let t ← if first then some t else match t with
        | ',' :: rest => some rest
        | _ => none
      let (item, rest) ← readValue? bound depth t
      let (items, rest) ← readItems? bound depth false rest
      return (item :: items, rest)

/-- The fields of an object up to its end; a comma stands before each but the first. -/
def readMembers? : Nat → Nat → Bool → Text → Option (Json.Fields × Text)
  | 0, _, _, _ => none
  | bound + 1, depth, first, t =>
    match skip t with
    | '\x7d' :: rest => some ([], rest)
    | t => do
      let t ← if first then some t else match t with
        | ',' :: rest => some (skip rest)
        | _ => none
      match t with
      | '\x22' :: rest =>
        let (name, rest) ← readString? rest.length.succ rest
        match skip rest with
        | ':' :: rest =>
          let (value, rest) ← readValue? bound depth rest
          let (members, rest) ← readMembers? bound depth false rest
          return ((name, value) :: members, rest)
        | _ => none
      | _ => none

end

/-- The greatest depth of nesting that is read. -/
def maxDepth : Nat := 127

end ReviewRouter.JsonText

namespace ReviewRouter

/-- The value of a text that holds one value and blanks around it. -/
def Json.read? (t : Text) : Option Json := do
  let (value, rest) ← JsonText.readValue? (2 * t.length + 2) JsonText.maxDepth t
  if JsonText.skip rest = [] then some value else none

end ReviewRouter
