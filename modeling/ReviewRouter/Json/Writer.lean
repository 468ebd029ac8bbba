import ReviewRouter.Json
import ReviewRouter.Text.Numeral

/-!
# Writing JSON

A value is written without blanks.  In a string the quote, the backslash and the control
characters of ASCII below the blank are escaped; all other characters stand for themselves.

* `JsonText.escape` — one character of a string;
* `Json.text` — a value.
-/

namespace ReviewRouter

namespace JsonText

/-- A control character as a code point of four lower-case hexadecimal digits. -/
def unicodeEscape (c : Char) : Text :=
  ['\\', 'u', '0', '0', Nat.digitChar (c.toNat / 16), Nat.digitChar (c.toNat % 16)]

/-- One character of a string. -/
def escape (c : Char) : Text :=
  if c = '\x22' then "\\\""
  else if c = '\\' then "\\\\"
  else if c = '\x08' then "\\b"
  else if c = '\x0C' then "\\f"
  else if c = '\n' then "\\n"
  else if c = '\r' then "\\r"
  else if c = '\t' then "\\t"
  else if c.toNat < 0x20 then unicodeEscape c
  else [c]

/-- A string between its quotes. -/
def ofString (t : Text) : Text :=
  '\x22' :: (t.flatMap escape ++ ['\x22'])

/-- A comma, unless it is the first part that is written. -/
def comma (first : Bool) : Text :=
  if first then [] else [',']

end JsonText

namespace Json

open JsonText

mutual

/-- A value. -/
def text : Json → Text
  | .null => "null"
  | .bool true => "true"
  | .bool false => "false"
  | .num n => Numeral.ofInt n
  | .scalar token => token
  | .str t => ofString t
  | .arr items => '[' :: itemsText true items
  | .obj members => '\x7b' :: membersText true members

/-- The items of an array up to its end. -/
def itemsText (first : Bool) : List Json → Text
  | [] => [']']
  | item :: items => comma first ++ item.text ++ itemsText false items

/-- The fields of an object up to its end. -/
def membersText (first : Bool) : List (Text × Json) → Text
  | [] => ['\x7d']
  | (name, value) :: members =>
    comma first ++ ofString name ++ (':' :: value.text) ++ membersText false members

end

end Json

end ReviewRouter
