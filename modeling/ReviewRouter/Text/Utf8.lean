import ReviewRouter.Text.Basic

/-!
# UTF-8: characters as bytes

* `encodeChar` / `encode` — the one to four bytes of a character, and of a text;
* `Expect` — where a decoder stands between two bytes of one character;
* `startStep` / `Expect.step` — what one byte brings about, between characters and inside one;
* `decode` — reads any bytes.  Bytes that form no character become U+FFFD, one for each longest
  start of a character that is cut short and one for each byte that starts none.
-/

namespace ReviewRouter.Utf8

/-! ### Writing -/

/-- A continuation byte with the low six bits of `n`. -/
def tailByte (n : Nat) : UInt8 := UInt8.ofNat (0x80 + n % 64)

/-- The bytes of one character. -/
def encodeChar (c : Char) : List UInt8 :=
  let n := c.toNat
  if n < 0x80 then [UInt8.ofNat n]
  else if n < 0x800 then [UInt8.ofNat (0xC0 + n / 64), tailByte n]
  else if n < 0x10000 then [UInt8.ofNat (0xE0 + n / 4096), tailByte (n / 64), tailByte n]
  else [UInt8.ofNat (0xF0 + n / 262144), tailByte (n / 4096), tailByte (n / 64), tailByte n]

/-- The bytes of a text. -/
def encode (t : Text) : List UInt8 :=
  t.flatMap encodeChar

/-! ### Reading -/

/-- What the decoder of an unfinished character waits for: the value read so far, the number of
continuation bytes still missing beyond the next one, and the range the next byte must lie in. -/
structure Expect where
  value : Nat
  more : Nat
  low : Nat
  high : Nat
  deriving DecidableEq, Repr

/-- Stands for bytes that form no character. -/
def replacement : Char := '\uFFFD'

/-- What one byte brings about: the characters that are now complete, and what is expected of the
next byte if a character is still open. -/
abbrev Step := Text × Option Expect

/-- A byte at the start of a character.  It is a character of its own, it opens a longer one, or it
is neither. -/
def startStep (b : UInt8) : Step :=
  let n := b.toNat
  if n < 0x80 then ([Char.ofNat n], none)
  else if n < 0xC2 then ([replacement], none)
  else if n < 0xE0 then ([], some ⟨n - 0xC0, 0, 0x80, 0xBF⟩)
  else if n = 0xE0 then ([], some ⟨0, 1, 0xA0, 0xBF⟩)
  else if n = 0xED then ([], some ⟨0xD, 1, 0x80, 0x9F⟩)
  else if n < 0xF0 then ([], some ⟨n - 0xE0, 1, 0x80, 0xBF⟩)
  else if n = 0xF0 then ([], some ⟨0, 2, 0x90, 0xBF⟩)
  else if n < 0xF4 then ([], some ⟨n - 0xF0, 2, 0x80, 0xBF⟩)
  else if n = 0xF4 then ([], some ⟨4, 2, 0x80, 0x8F⟩)
  else ([replacement], none)

/-- A byte in the middle of a character.  One that does not belong there cuts the character short
and starts another. -/
def Expect.step (e : Expect) (b : UInt8) : Step :=
  if e.low ≤ b.toNat ∧ b.toNat ≤ e.high then
    let value := e.value * 64 + (b.toNat - 0x80)
    match e.more with
    | 0 => ([Char.ofNat value], none)
    | more + 1 => ([], some ⟨value, more, 0x80, 0xBF⟩)
  else
    let (complete, open?) := startStep b
    (replacement :: complete, open?)

/-- The text of the bytes, read from the middle of a character if `open?` is given. -/
def decodeFrom (open? : Option Expect) : List UInt8 → Text
  | [] => if open?.isSome then [replacement] else []
  | b :: rest =>
    let (complete, open?) := match open? with
      | none => startStep b
      | some e => e.step b
    complete ++ decodeFrom open? rest

/-- The text of the bytes, with U+FFFD in place of those that are not UTF-8. -/
def decode (bytes : List UInt8) : Text :=
  decodeFrom none bytes

end ReviewRouter.Utf8
