import ReviewRouter.Text.Utf8

/-!
# Percent coding of address parts

An address part is written with `%XX` for every byte of every character outside a small safe set.
Path segments are escaped twice: the browser's history undoes one layer and the router the other,
so that a `+`, a `,` or an `@` inside a repository name never looks like one of the separators of
a route.  Colons, spaces and (on request) slashes are made readable again.

* `isUnescaped` — the characters that escaping leaves alone;
* `escape` — one layer of escaping;
* `escapeSegment` — two layers, with `:`, `+` for a space and perhaps `/` restored;
* `unescape` — undoes one layer; a `%` without two hexadecimal digits stays, and bytes that are
  not UTF-8 become U+FFFD;
* `unescapeValue` — the same for captured values and query strings, where `+` is a space.
-/

namespace ReviewRouter.Percent

/-! ### Escaping -/

/-- Letters and digits of ASCII and nine marks are never escaped. -/
def isUnescaped (c : Char) : Bool :=
  c.isAlphanum || ("-_.!~*\x27()" : Text).contains c

/-- A hexadecimal digit in upper case. -/
def hexDigit (n : Nat) : Char :=
  if n < 10 then Char.ofNat (48 + n) else Char.ofNat (55 + n)

/-- `%` and the two digits of a byte. -/
def escapeByte (b : UInt8) : Text :=
  ['%', hexDigit (b.toNat / 16), hexDigit (b.toNat % 16)]

/-- The escaped form of one character. -/
def escapeChar (c : Char) : Text :=
  if isUnescaped c then [c] else (Utf8.encodeChar c).flatMap escapeByte

/-- One layer of escaping. -/
def escape (t : Text) : Text :=
  t.flatMap escapeChar

/-- Two layers of escaping, after which colons stand for themselves, `+` stands for a space and,
with `keepSlashes`, slashes stand for themselves. -/
def escapeSegment (keepSlashes : Bool) (t : Text) : Text :=
  let readable := Text.replaceAll "%2520" "+" (Text.replaceAll "%253A" ":" (escape (escape t)))
  if keepSlashes then Text.replaceAll "%252F" "/" readable else readable

/-! ### Unescaping -/

/-- The value of a hexadecimal digit of either case. -/
def hexValue? (c : Char) : Option Nat :=
  if '0' ≤ c ∧ c ≤ '9' then some (c.toNat - 48)
  else if 'A' ≤ c ∧ c ≤ 'F' then some (c.toNat - 55)
  else if 'a' ≤ c ∧ c ≤ 'f' then some (c.toNat - 87)
  else none

/-- The byte written by two hexadecimal digits. -/
def hexByte? (high low : Char) : Option UInt8 :=
  match hexValue? high, hexValue? low with
  | some h, some l => some (UInt8.ofNat (16 * h + l))
  | _, _ => none

/-- The bytes that a text with escapes stands for. -/
def bytes : Text → List UInt8
  | '%' :: high :: low :: rest =>
    match hexByte? high low with
    | some b => b :: bytes rest
    | none => Utf8.encodeChar '%' ++ bytes (high :: low :: rest)
  | c :: rest => Utf8.encodeChar c ++ bytes rest
  | [] => []

/-- Undoes one layer of escaping. -/
def unescape (t : Text) : Text :=
  Utf8.decode (bytes t)

/-- Undoes one layer of escaping in a captured value or a query, where `+` is a space. -/
def unescapeValue (t : Text) : Text :=
  unescape (Text.substitute '+' ' ' t)

end ReviewRouter.Percent
