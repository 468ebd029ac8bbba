import ReviewRouter.PatchSet
import ReviewRouter.Text.Word

/-!
# Numerals and patch sets, read back

What is written as a number or as a patch set is read as the same number or patch set again.  The
digits that are written are those of ASCII; routes accept the digits of every script.

* `Numeral.u32?_ofNat`, `Numeral.i32?_ofInt` — numbers read back;
* `PatchSet.ofText?_text` — **patch sets read back**;
* `isPartChar` — the characters of a written patch set;
* `Numeral.length_le_of_u32?`, `PatchSet.length_text_le` — nothing is written longer than it was
  read.
-/

namespace ReviewRouter

namespace Numeral

/-! ### Digits -/

theorem ofNat_ne_nil (n : Nat) : ofNat n ≠ [] :=
  Nat.toDigits_ne_nil

theorem isDigit_of_mem_ofNat {n : Nat} {c : Char} (h : c ∈ ofNat n) : c.isDigit = true :=
  Nat.isDigit_of_mem_toDigits (by decide) (by decide) h

theorem not_mem_ofNat {c : Char} (hc : c.isDigit = false) (n : Nat) : c ∉ ofNat n := by
  intro h
  rw [isDigit_of_mem_ofNat h] at hc
  cases hc

/-- A digit of ASCII is a decimal digit. -/
theorem isDecimalDigit_of_isDigit {c : Char} (h : c.isDigit = true) : isDecimalDigit c = true := by
  have hrange : 48 ≤ c.toNat ∧ c.toNat < 58 := by
    simp only [Char.isDigit, Bool.and_eq_true, decide_eq_true_eq, ge_iff_le] at h
    have hlow : 48 ≤ c.toNat := h.1
    have hhigh : c.toNat ≤ 57 := h.2
    omega
  have hlt : ∀ n < 58, 48 ≤ n → CodePoints.decimalDigit.mem n = true := by
    decide
  exact hlt c.toNat hrange.2 hrange.1

/-! ### Reading back -/

theorem unsigned?_of_ne_plus {t : Text} (h : '+' ∉ t) : unsigned? t = natural? t := by
  unfold unsigned?
  split
  · exact absurd List.mem_cons_self h
  · rfl

/-- An unsigned word is read back. -/
theorem u32?_ofNat (n : UInt32) : u32? (ofNat n.toNat) = some n := by
  rw [u32?, unsigned?_of_ne_plus (not_mem_ofNat (by decide) _), natural?_ofNat, Option.bind_some,
    word32?_toNat]

theorem signed?_ofInt (i : Int) : signed? (ofInt i) = some i := by
  cases i with
  | ofNat n =>
    have hminus : '-' ∉ ofNat n := not_mem_ofNat (by decide) n
    show signed? (ofNat n) = _
    unfold signed?
    split
    · next heq =>
      rw [heq] at hminus
      exact absurd List.mem_cons_self hminus
    · rw [unsigned?_of_ne_plus (not_mem_ofNat (by decide) n), natural?_ofNat]
      rfl
  | negSucc n =>
    rw [ofInt, signed?, natural?_ofNat]
    rfl

/-- A signed word is read back. -/
theorem i32?_ofInt (n : Int32) : i32? (ofInt n.toInt) = some n := by
  have hlow := n.le_toInt
  have hhigh := n.toInt_lt
  rw [i32?, signed?_ofInt, Option.bind_some, if_pos, Int32.ofInt_toInt]
  constructor <;> omega

/-- A signed word without a minus sign in front is not negative. -/
theorem toInt_nonneg_of_i32? {t : Text} {n : Int32} (h : i32? t = some n) (ht : '-' ∉ t) :
    0 ≤ n.toInt := by
  obtain ⟨i, hi, hword⟩ := Option.bind_eq_some_iff.1 h
  have hnonneg : 0 ≤ i := by
    unfold signed? at hi
    split at hi
    · exact absurd List.mem_cons_self ht
    · obtain ⟨m, -, rfl⟩ := Option.map_eq_some_iff.1 hi
      exact Int.natCast_nonneg m
  split at hword
  · next hrange =>
    obtain rfl := Option.some_inj.1 hword
    rw [Int32.toInt_ofInt_of_le (by omega) (by omega)]
    exact hnonneg
  · cases hword

/-! ### Lengths -/

theorem ofDigitChars_lt (t : Text) (h : t.all Char.isDigit = true) :
    Nat.ofDigitChars 10 t 0 < Nat.pow 10 t.length := by
  induction t with
  | nil => decide
  | cons c t ih =>
    rw [List.all_cons, Bool.and_eq_true] at h
    have hc : c.toNat ≤ 57 := by
      have hdigit := h.1
      simp only [Char.isDigit, Bool.and_eq_true, decide_eq_true_eq] at hdigit
      exact hdigit.2
    have ht := ih h.2
    rw [Nat.pow_eq] at ht ⊢
    rw [Nat.ofDigitChars_cons, Nat.ofDigitChars_eq_ofDigitChars_zero, List.length_cons, Nat.pow_succ]
    have hvalue : 10 * 0 + (c.toNat - '0'.toNat) ≤ 9 := by
      show 10 * 0 + (c.toNat - 48) ≤ 9
      omega
    have hfirst := Nat.mul_le_mul_left (10 ^ t.length) hvalue
    omega

/-- A number is not written longer than it was read. -/
theorem length_ofNat_le {t : Text} {n : Nat} (h : natural? t = some n) :
    (ofNat n).length ≤ t.length := by
  unfold natural? at h
  split at h
  · next hdigits =>
    obtain rfl := Option.some_inj.1 h
    exact (Nat.length_toDigits_le_iff (by decide) (List.length_pos_iff.2 hdigits.1)).2
      (ofDigitChars_lt t hdigits.2)
  · cases h

theorem length_ofNat_le_of_unsigned? {t : Text} {n : Nat} (h : unsigned? t = some n) :
    (ofNat n).length ≤ t.length := by
  unfold unsigned? at h
  split at h
  · exact Nat.le_succ_of_le (length_ofNat_le h)
  · exact length_ofNat_le h

theorem length_le_of_u32? {t : Text} {n : UInt32} (h : u32? t = some n) :
    (ofNat n.toNat).length ≤ t.length := by
  obtain ⟨m, hm, hword⟩ := Option.bind_eq_some_iff.1 h
  unfold word32? at hword
  split at hword
  · next hlt =>
    obtain rfl := Option.some_inj.1 hword
    rw [UInt32.toNat_ofNat_of_lt' hlt]
    exact length_ofNat_le_of_unsigned? hm
  · cases hword

theorem length_ofInt_le {t : Text} {i : Int} (h : signed? t = some i) :
    (ofInt i).length ≤ t.length := by
  unfold signed? at h
  split at h
  · next digits =>
    obtain ⟨_, hi, rfl⟩ := Option.map_eq_some_iff.1 h
    obtain ⟨n, hn, hcast⟩ := Option.bind_eq_some_iff.1 hi
    obtain rfl := Option.some_inj.1 hcast
    have hlength := length_ofNat_le hn
    cases n with
    | zero => exact Nat.le_succ_of_le hlength
    | succ n => exact Nat.succ_le_succ hlength
  · obtain ⟨n, hn, rfl⟩ := Option.map_eq_some_iff.1 h
    exact length_ofNat_le_of_unsigned? hn

theorem length_le_of_i32? {t : Text} {n : Int32} (h : i32? t = some n) :
    (ofInt n.toInt).length ≤ t.length := by
  obtain ⟨i, hi, hword⟩ := Option.bind_eq_some_iff.1 h
  split at hword
  · next hrange =>
    obtain rfl := Option.some_inj.1 hword
    rw [Int32.toInt_ofInt_of_le (by omega) (by omega)]
    exact length_ofInt_le hi
  · cases hword

end Numeral

/-! ### Patch sets -/

/-- The characters of written patch sets other than the parent. -/
def isPartChar (c : Char) : Bool :=
  isDecimalDigit c || ("-edit" : Text).contains c

theorem isPartChar_of_isDigit {c : Char} (h : c.isDigit = true) : isPartChar c = true := by
  rw [isPartChar, Numeral.isDecimalDigit_of_isDigit h]
  rfl

namespace PatchSet

theorem ofInt_ne_nil (i : Int) : Numeral.ofInt i ≠ [] := by
  cases i with
  | ofNat n => exact Numeral.ofNat_ne_nil n
  | negSucc n => exact List.cons_ne_nil _ _

theorem text_ne_nil (p : PatchSet) : p.text ≠ [] := by
  cases p with
  | parent => decide
  | edit => decide
  | num n => exact ofInt_ne_nil n.toInt

theorem mem_ofInt {i : Int} {c : Char} (h : c ∈ Numeral.ofInt i) : c = '-' ∨ c.isDigit = true := by
  cases i with
  | ofNat n => exact Or.inr (Numeral.isDigit_of_mem_ofNat h)
  | negSucc n =>
    rcases List.mem_cons.1 h with h | h
    · exact Or.inl h
    · exact Or.inr (Numeral.isDigit_of_mem_ofNat h)

theorem isPartChar_of_mem_text {p : PatchSet} (hp : p ≠ .parent) {c : Char} (h : c ∈ p.text) :
    isPartChar c = true := by
  cases p with
  | parent => exact absurd rfl hp
  | edit =>
    have hedit : PatchSet.edit.text.all isPartChar = true := by decide
    exact List.all_eq_true.1 hedit c h
  | num n =>
    rcases mem_ofInt h with rfl | hdigit
    · decide
    · exact isPartChar_of_isDigit hdigit

/-- **What is written is read back.** -/
theorem ofText?_text (p : PatchSet) : ofText? p.text = some p := by
  cases p with
  | parent => rfl
  | edit => rfl
  | num n =>
    have hword : ∀ w : Text, (∃ c ∈ w, ¬(c = '-' ∨ c.isDigit = true)) → Numeral.ofInt n.toInt ≠ w := by
      rintro w ⟨c, hc, hno⟩ heq
      rw [← heq] at hc
      exact hno (mem_ofInt hc)
    show ofText? (Numeral.ofInt n.toInt) = _
    rw [ofText?, if_neg (hword _ ⟨'P', by decide, by decide⟩),
      if_neg (hword _ ⟨'e', by decide, by decide⟩), Numeral.i32?_ofInt]
    rfl

/-- A patch set is not written longer than it was read. -/
theorem length_text_le {t : Text} {p : PatchSet} (h : ofText? t = some p) :
    p.text.length ≤ t.length := by
  unfold ofText? at h
  split at h
  · next ht =>
    obtain rfl := Option.some_inj.1 h
    rw [ht]
    exact Nat.le_refl _
  · split at h
    · next ht =>
      obtain rfl := Option.some_inj.1 h
      rw [ht]
      exact Nat.le_refl _
    · obtain ⟨n, hn, rfl⟩ := Option.map_eq_some_iff.1 h
      exact Numeral.length_le_of_i32? hn

end PatchSet

end ReviewRouter
