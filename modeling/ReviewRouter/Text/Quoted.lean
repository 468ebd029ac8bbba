import ReviewRouter.Text.Basic
import ReviewRouter.Text.Hidden
import ReviewRouter.Text.Mark

/-!
# Quoted text

Messages show foreign text in quotes, with every character that could not be seen written out.

* `quoteChar` — one character inside the quotes: the usual short escapes for quote, backslash and
  five controls, `\u` with the code point in hexadecimal for other hidden characters and for marks
  that would attach themselves to the quote, and the character itself otherwise;
* `quote` — the whole text between quotes.
-/

namespace ReviewRouter.Quoted

/-- The code point in braces after `\u`, in lower-case hexadecimal. -/
def codeEscape (c : Char) : Text :=
  "\\u\x7b" ++ Nat.toDigits 16 c.toNat ++ "\x7d"

/-- One character of a quoted text. -/
def quoteChar (c : Char) : Text :=
  if c = '\x00' then "\\0"
  else if c = '\t' then "\\t"
  else if c = '\r' then "\\r"
  else if c = '\n' then "\\n"
  else if c = '\\' then "\\\\"
  else if c = '\x22' then "\\\""
  else if CodePoints.graphemeExtend.holds c || CodePoints.hidden.holds c then codeEscape c
  else [c]

/-- The text between quotes. -/
def quote (t : Text) : Text :=
  "\"" ++ t.flatMap quoteChar ++ "\""

end ReviewRouter.Quoted
