import ReviewRouter.Proofs.Numeral

/-!
# Every spelling of a patch set

A number can be spelled with zeros in front and with a plus sign, and zero with a minus sign as well.
All these spellings are read, of every number that fits into a signed word, and nothing else is; one of
them is written.

* `Numeral.Denotes` — runs of digits and the numbers that they stand for;
* `Numeral.natural?_eq_some_iff` — **these runs are read as these numbers**;
* `Numeral.denotes_iff` — they are what is written, behind any number of zeros;
* `Numeral.Spells`, `Numeral.i32?_eq_some_iff` — the same with signs, within the range of a word;
* `PatchSet.Spells`, `PatchSet.ofText?_eq_some_iff` — **the spellings of patch sets**;
* `PatchSet.read_as_spelled` — what is written is one of them, and every other one of the same number
  differs in its sign and in leading zeros.
-/

namespace ReviewRouter

namespace Numeral

/-! ### Runs of digits -/

/-- The value of a digit. -/
def digitValue (c : Char) : Nat :=
  c.toNat - '0'.toNat

/-- A run of digits, and the number that it stands for: a further digit makes those before it count ten
times as much. -/
inductive Denotes : Text → Nat → Prop
  | digit {c : Char} : c.isDigit = true → Denotes [c] (digitValue c)
  | snoc {t : Text} {n : Nat} {c : Char} :
      Denotes t n → c.isDigit = true → Denotes (t ++ [c]) (10 * n + digitValue c)

theorem toNat_of_isDigit {c : Char} (h : c.isDigit = true) : 48 ≤ c.toNat ∧ c.toNat ≤ 57 := by
  simp only [Char.isDigit, Bool.and_eq_true, decide_eq_true_eq, ge_iff_le] at h
  exact h

theorem digitValue_lt {c : Char} (h : c.isDigit = true) : digitValue c < 10 := by
  have hrange := toNat_of_isDigit h
  show c.toNat - 48 < 10
  omega

namespace Denotes

variable {t s : Text} {n : Nat}

theorem ne_nil (h : Denotes t n) : t ≠ [] := by
  cases h with
  | digit _ => exact List.cons_ne_nil _ _
  | snoc _ _ => exact List.append_ne_nil_of_right_ne_nil _ (List.cons_ne_nil _ _)

theorem all_isDigit (h : Denotes t n) : t.all Char.isDigit = true := by
  induction h with
  | digit hc => rw [List.all_cons, hc, List.all_nil, Bool.and_true]
  | snoc _ hc ih => rw [List.all_append, ih, List.all_cons, hc, List.all_nil, Bool.and_true, Bool.and_true]

theorem ofDigitChars_eq (h : Denotes t n) : Nat.ofDigitChars 10 t 0 = n := by
  induction h with
  | digit hc =>
    rw [Nat.ofDigitChars_cons, Nat.ofDigitChars_nil, Nat.mul_zero, Nat.zero_add]
    rfl
  | snoc _ hc ih =>
    rw [Nat.ofDigitChars_append, ih, Nat.ofDigitChars_cons, Nat.ofDigitChars_nil]
    rfl

/-- Digits behind a run are counted as the reader counts them. -/
theorem append (h : Denotes t n) (hs : s.all Char.isDigit = true) :
    Denotes (t ++ s) (Nat.ofDigitChars 10 s n) := by
  induction s generalizing t n with
  | nil =>
    rw [List.append_nil, Nat.ofDigitChars_nil]
    exact h
  | cons c s ih =>
    rw [List.all_cons, Bool.and_eq_true] at hs
    have hstep := ih (h.snoc hs.1) hs.2
    rw [List.append_assoc] at hstep
    rw [Nat.ofDigitChars_cons]
    exact hstep

theorem of_all_isDigit (hne : t ≠ []) (ht : t.all Char.isDigit = true) :
    Denotes t (Nat.ofDigitChars 10 t 0) := by
  cases t with
  | nil => exact absurd rfl hne
  | cons c t =>
    rw [List.all_cons, Bool.and_eq_true] at ht
    have hrun := (digit ht.1).append ht.2
    rw [Nat.ofDigitChars_cons, Nat.mul_zero, Nat.zero_add]
    exact hrun

/-- A zero in front counts nothing. -/
theorem zero_cons (h : Denotes t n) : Denotes ('0' :: t) n := by
  induction h with
  | @digit c hc =>
    have hrun := (digit (c := '0') rfl).snoc hc
    rw [show 10 * digitValue '0' + digitValue c = digitValue c from Nat.zero_add _] at hrun
    exact hrun
  | snoc _ hc ih => exact ih.snoc hc

theorem zeros_append (h : Denotes t n) (k : Nat) : Denotes (List.replicate k '0' ++ t) n := by
  induction k with
  | zero => exact h
  | succ k ih => exact ih.zero_cons

end Denotes

/-- **Runs of digits are read as the numbers that they stand for**, and nothing else is read. -/
theorem natural?_eq_some_iff {t : Text} {n : Nat} : natural? t = some n ↔ Denotes t n := by
  unfold natural?
  constructor
  · intro h
    split at h
    · next hdigits =>
      obtain rfl := Option.some_inj.1 h
      exact Denotes.of_all_isDigit hdigits.1 hdigits.2
    · cases h
  · intro h
    rw [if_pos ⟨h.ne_nil, h.all_isDigit⟩, h.ofDigitChars_eq]

theorem denotes_ofNat (n : Nat) : Denotes (ofNat n) n :=
  natural?_eq_some_iff.1 (natural?_ofNat n)

/-- A digit is written as it stands. -/
theorem ofNat_digitValue {c : Char} (h : c.isDigit = true) : ofNat (digitValue c) = [c] := by
  have hrange := toNat_of_isDigit h
  have hchar : (digitValue c).digitChar = c := by
    apply Char.toNat_inj.1
    rw [Nat.toNat_digitChar_of_lt_ten (digitValue_lt h)]
    show 48 + (c.toNat - 48) = c.toNat
    omega
  rw [ofNat, Nat.toDigits_of_lt_base (digitValue_lt h), hchar]

/-- A digit behind a number other than zero is written behind it. -/
theorem ofNat_append_digit {n : Nat} (hn : 0 < n) {c : Char} (h : c.isDigit = true) :
    ofNat n ++ [c] = ofNat (10 * n + digitValue c) := by
  rw [← ofNat_digitValue h]
  exact Nat.toDigits_append_toDigits (by decide) hn (digitValue_lt h)

/-- **The runs that stand for a number are what is written for it, behind any number of zeros.** -/
theorem denotes_iff {t : Text} {n : Nat} :
    Denotes t n ↔ ∃ k, t = List.replicate k '0' ++ ofNat n := by
  constructor
  · intro h
    induction h with
    | digit hc => exact ⟨0, (ofNat_digitValue hc).symm⟩
    | @snoc t n c _ hc ih =>
      obtain ⟨k, rfl⟩ := ih
      rw [List.append_assoc]
      rcases Nat.eq_zero_or_pos n with rfl | hn
      · -- what has been read so far are zeros only
        refine ⟨k + 1, ?_⟩
        rw [Nat.mul_zero, Nat.zero_add, ofNat_digitValue hc, List.replicate_succ', List.append_assoc]
        rfl
      · exact ⟨k, congrArg (List.replicate k '0' ++ ·) (ofNat_append_digit hn hc)⟩
  · rintro ⟨k, rfl⟩
    exact (denotes_ofNat n).zeros_append k

/-! ### Signs -/

/-- The numerals of an integer. -/
inductive Spells : Text → Int → Prop
  | bare {t : Text} {n : Nat} : Denotes t n → Spells t n
  | plus {t : Text} {n : Nat} : Denotes t n → Spells ('+' :: t) n
  | minus {t : Text} {n : Nat} : Denotes t n → Spells ('-' :: t) (-n)

/-- The signs in front of the digits of an integer. -/
inductive IsSign : Text → Int → Prop
  | bare {i : Int} : 0 ≤ i → IsSign [] i
  | plus {i : Int} : 0 ≤ i → IsSign ['+'] i
  | minus {i : Int} : i ≤ 0 → IsSign ['-'] i

theorem not_denotes_sign {c : Char} (hc : c.isDigit = false) {t : Text} {n : Nat} :
    ¬Denotes (c :: t) n := by
  intro h
  have hall := h.all_isDigit
  rw [List.all_cons, hc] at hall
  cases hall

/-- A numeral is signs and digits. -/
theorem Spells.mem {t : Text} {i : Int} (h : Spells t i) {c : Char} (hc : c ∈ t) :
    c ∈ ['+', '-'] ∨ c.isDigit = true := by
  have hdigits : ∀ {u : Text} {n : Nat}, Denotes u n → c ∈ u → c.isDigit = true :=
    fun hu hmem => List.all_eq_true.1 hu.all_isDigit c hmem
  cases h with
  | bare hu => exact Or.inr (hdigits hu hc)
  | plus hu =>
    rcases List.mem_cons.1 hc with rfl | hmem
    · exact Or.inl (by decide)
    · exact Or.inr (hdigits hu hmem)
  | minus hu =>
    rcases List.mem_cons.1 hc with rfl | hmem
    · exact Or.inl (by decide)
    · exact Or.inr (hdigits hu hmem)

theorem unsigned?_eq_some_iff {t : Text} {n : Nat} :
    unsigned? t = some n ↔ Denotes t n ∨ ∃ u, t = '+' :: u ∧ Denotes u n := by
  unfold unsigned?
  split
  · next digits =>
    rw [natural?_eq_some_iff]
    constructor
    · exact fun h => Or.inr ⟨digits, rfl, h⟩
    · rintro (h | ⟨u, hu, h⟩)
      · exact absurd h (not_denotes_sign (by decide))
      · rwa [(List.cons.inj hu).2]
  · next hplus =>
    rw [natural?_eq_some_iff]
    refine ⟨Or.inl, ?_⟩
    rintro (h | ⟨u, rfl, -⟩)
    · exact h
    · exact absurd rfl (hplus u)

/-- A sign is read, and the digits behind it. -/
theorem signed?_eq_some_iff {t : Text} {i : Int} : signed? t = some i ↔ Spells t i := by
  unfold signed?
  split
  · next digits =>
    constructor
    · intro h
      obtain ⟨_, hdigits, rfl⟩ := Option.map_eq_some_iff.1 h
      obtain ⟨n, hn, hcast⟩ := Option.bind_eq_some_iff.1 hdigits
      obtain rfl := Option.some_inj.1 hcast
      exact .minus (natural?_eq_some_iff.1 hn)
    · rintro (h | - | h)
      · exact absurd h (not_denotes_sign (by decide))
      · rw [natural?_eq_some_iff.2 h]
        rfl
  · next hminus =>
    constructor
    · intro h
      obtain ⟨n, hn, rfl⟩ := Option.map_eq_some_iff.1 h
      rcases unsigned?_eq_some_iff.1 hn with hbare | ⟨u, rfl, hplus⟩
      · exact .bare hbare
      · exact .plus hplus
    · rintro (h | h | h)
      · rw [unsigned?_eq_some_iff.2 (Or.inl h)]
        rfl
      · rw [unsigned?_eq_some_iff.2 (Or.inr ⟨_, rfl, h⟩)]
        rfl
      · exact absurd rfl (hminus _)

/-- **A signed word is read of its numerals**, and of nothing else. -/
theorem i32?_eq_some_iff {t : Text} {n : Int32} : i32? t = some n ↔ Spells t n.toInt := by
  rw [i32?, Option.bind_eq_some_iff]
  constructor
  · rintro ⟨i, hi, hword⟩
    split at hword
    · next hrange =>
      obtain rfl := Option.some_inj.1 hword
      rw [Int32.toInt_ofInt_of_le (by omega) (by omega)]
      exact signed?_eq_some_iff.1 hi
    · cases hword
  · intro h
    have hlow := n.le_toInt
    have hhigh := n.toInt_lt
    refine ⟨n.toInt, signed?_eq_some_iff.2 h, ?_⟩
    rw [if_pos (by omega), Int32.ofInt_toInt]

/-- The numerals of an integer are its digits as they are written, behind zeros and a sign. -/
theorem spells_iff {t : Text} {i : Int} :
    Spells t i ↔ ∃ sign k, IsSign sign i ∧ t = sign ++ (List.replicate k '0' ++ ofNat i.natAbs) := by
  constructor
  · rintro (h | h | h)
    · obtain ⟨k, rfl⟩ := denotes_iff.1 h
      exact ⟨[], k, .bare (Int.natCast_nonneg _), rfl⟩
    · obtain ⟨k, rfl⟩ := denotes_iff.1 h
      exact ⟨['+'], k, .plus (Int.natCast_nonneg _), rfl⟩
    · obtain ⟨k, rfl⟩ := denotes_iff.1 h
      refine ⟨['-'], k, .minus (by omega), ?_⟩
      rw [Int.natAbs_neg, Int.natAbs_natCast]
      rfl
  · rintro ⟨sign, k, hsign, rfl⟩
    have hdigits := (denotes_ofNat i.natAbs).zeros_append k
    cases hsign with
    | bare hi =>
      have hspells := Spells.bare hdigits
      rwa [Int.natAbs_of_nonneg hi] at hspells
    | plus hi =>
      have hspells := Spells.plus hdigits
      rwa [Int.natAbs_of_nonneg hi] at hspells
    | minus hi =>
      have hspells := Spells.minus hdigits
      rwa [Int.ofNat_natAbs_of_nonpos hi, Int.neg_neg] at hspells

end Numeral

/-! ### Patch sets -/

namespace PatchSet

/-- The texts that stand for a patch set. -/
inductive Spells : Text → PatchSet → Prop
  | parent : Spells "PARENT" .parent
  | edit : Spells "edit" .edit
  | num {t : Text} {n : Int32} : Numeral.Spells t n.toInt → Spells t (.num n)

/-- **A patch set is read of its spellings**, and of nothing else. -/
theorem ofText?_eq_some_iff {t : Text} {p : PatchSet} : ofText? t = some p ↔ Spells t p := by
  constructor
  · intro h
    unfold ofText? at h
    split at h
    · next ht =>
      obtain rfl := Option.some_inj.1 h
      exact ht ▸ .parent
    · split at h
      · next ht =>
        obtain rfl := Option.some_inj.1 h
        exact ht ▸ .edit
      · obtain ⟨n, hn, rfl⟩ := Option.map_eq_some_iff.1 h
        exact .num (Numeral.i32?_eq_some_iff.1 hn)
  · rintro (- | - | h)
    · rfl
    · rfl
    · -- a numeral is neither of the two names, since it has no letter
      have hword : ∀ w : Text, ∀ c ∈ w, ¬(c ∈ ['+', '-'] ∨ c.isDigit = true) → t ≠ w := by
        rintro w c hc hno rfl
        exact hno (h.mem hc)
      rw [ofText?, if_neg (hword _ 'P' (by decide) (by decide)),
        if_neg (hword _ 'e' (by decide) (by decide)), Numeral.i32?_eq_some_iff.2 h]
      rfl

/-- Some patch set is read of the two names and of the numerals within the range of a signed word. -/
theorem exists_ofText?_iff (t : Text) :
    (∃ p, ofText? t = some p) ↔
      t = "PARENT" ∨ t = "edit" ∨ ∃ i, Numeral.Spells t i ∧ -2147483648 ≤ i ∧ i ≤ 2147483647 := by
  constructor
  · rintro ⟨p, hp⟩
    rcases ofText?_eq_some_iff.1 hp with - | - | @⟨_, n, hn⟩
    · exact Or.inl rfl
    · exact Or.inr (Or.inl rfl)
    · have hlow := n.le_toInt
      have hhigh := n.toInt_lt
      exact Or.inr (Or.inr ⟨n.toInt, hn, by omega, by omega⟩)
  · rintro (rfl | rfl | ⟨i, hi, hlow, hhigh⟩)
    · exact ⟨.parent, rfl⟩
    · exact ⟨.edit, rfl⟩
    · refine ⟨.num (Int32.ofInt i), ofText?_eq_some_iff.2 (.num ?_)⟩
      rwa [Int32.toInt_ofInt_of_le (by omega) (by omega)]

/-- **What is written is read back, and exactly the spellings of patch sets are read.**  They are the
two names and the numerals of signed words, and a number is read of its digits as they are written,
behind any number of zeros and a sign. -/
theorem read_as_spelled :
    (∀ p : PatchSet, ofText? p.text = some p) ∧ (∀ t p, ofText? t = some p ↔ Spells t p) ∧
      (∀ t, (∃ p, ofText? t = some p) ↔
        t = "PARENT" ∨ t = "edit" ∨ ∃ i, Numeral.Spells t i ∧ -2147483648 ≤ i ∧ i ≤ 2147483647) ∧
      ∀ t (n : Int32), ofText? t = some (.num n) ↔ ∃ sign k, Numeral.IsSign sign n.toInt ∧
        t = sign ++ (List.replicate k '0' ++ Numeral.ofNat n.toInt.natAbs) := by
  refine ⟨ofText?_text, fun t p => ofText?_eq_some_iff, exists_ofText?_iff, fun t n => ?_⟩
  rw [← Numeral.spells_iff, ofText?_eq_some_iff]
  constructor
  · rintro (- | - | h)
    exact h
  · exact .num

/-- Both ends of the range, and the first numbers beyond them. -/
example :
    ofText? "-002147483648" = some (.num Int32.minValue) ∧ ofText? "-2147483649" = none ∧
      ofText? "+2147483647" = some (.num Int32.maxValue) ∧ ofText? "2147483648" = none := by
  decide

end PatchSet

end ReviewRouter
