import ReviewRouter.Text.Basic

/-!
# Decimal numerals

Change numbers, offsets and line numbers are unsigned 32-bit words; the number of a patch set is a
signed one.  Numerals use the ten digits of ASCII, leading zeros are allowed, and a sign may stand
in front.

* `natural?` — a non-empty run of digits;
* `unsigned?` / `signed?` — the same with an optional `+`, and for signed numerals a `-`;
* `u32?` / `i32?` — the same within the range of the word;
* `ofNat` / `ofInt` — the canonical numeral;
* `natural?_ofNat` — reading what was written.
-/

namespace ReviewRouter.Numeral

/-! ### Reading -/

/-- The value of a non-empty run of ASCII digits. -/
def natural? (t : Text) : Option Nat :=
  if t ≠ [] ∧ t.all Char.isDigit then some (Nat.ofDigitChars 10 t 0) else none

/-- An optional `+` and digits. -/
def unsigned? : Text → Option Nat
  | '+' :: digits => natural? digits
  | t => natural? t

/-- An optional sign and digits. -/
def signed? : Text → Option Int
  | '-' :: digits => (natural? digits).map fun n => -(n : Int)
  | t => (unsigned? t).map Int.ofNat

/-- The word with this value, if it fits into 32 bits. -/
def word32? (n : Nat) : Option UInt32 :=
  if n < UInt32.size then some (UInt32.ofNat n) else none

/-- An unsigned 32-bit numeral. -/
def u32? (t : Text) : Option UInt32 :=
  (unsigned? t).bind word32?

/-- A signed 32-bit numeral. -/
def i32? (t : Text) : Option Int32 :=
  (signed? t).bind fun n =>
    if -2147483648 ≤ n ∧ n ≤ 2147483647 then some (Int32.ofInt n) else none

/-! ### Writing -/

/-- The digits of a natural number, without leading zeros. -/
def ofNat (n : Nat) : Text :=
  Nat.toDigits 10 n

/-- The digits of an integer, after a `-` if it is negative. -/
def ofInt : Int → Text
  | .ofNat n => ofNat n
  | .negSucc n => '-' :: ofNat (n + 1)

/-! ### Reading back -/

theorem natural?_ofNat (n : Nat) : natural? (ofNat n) = some n := by
  have hne : Nat.toDigits 10 n ≠ [] := Nat.toDigits_ne_nil
  have hall : (Nat.toDigits 10 n).all Char.isDigit = true :=
    List.all_eq_true.2 fun c hc => Nat.isDigit_of_mem_toDigits (by decide) (by decide) hc
  simp [natural?, ofNat, hne, hall, Nat.ofDigitChars_ten_toDigits]

theorem word32?_toNat (n : UInt32) : word32? n.toNat = some n := by
  have h := n.toNat_lt
  simp [word32?]
  omega

end ReviewRouter.Numeral
