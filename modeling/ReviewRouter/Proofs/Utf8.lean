import Mathlib.Tactic.SplitIfs
import ReviewRouter.Text.Utf8

/-!
# Reading UTF-8 back

What is written is read back, also in the middle of other bytes, and no text is longer than its
bytes.

* `decodeFrom_encodeChar` — a written character is read as itself, whatever was open before it;
* `decode_encode_append` — **a written text is read back in front of any bytes**;
* `decode_append_of_start` — reading can be cut before a byte that goes on with no character;
* `length_decodeFrom_byte`, `length_decodeFrom_char` — what one byte or one character adds to the
  text that is read.
-/

namespace ReviewRouter.Utf8

/-! ### Open characters -/

/-- The next byte of an open character is one that no character starts with. -/
def Expect.Tail (e : Expect) : Prop :=
  0x80 ≤ e.low ∧ e.high ≤ 0xBF

/-- Whatever is open waits for a continuation byte. -/
def Open (open? : Option Expect) : Prop :=
  ∀ e ∈ open?, e.Tail

/-- A byte that goes on with no character. -/
def Starts (b : UInt8) : Prop :=
  b.toNat < 0x80 ∨ 0xC0 ≤ b.toNat

theorem open_none : Open none := by
  intro e he
  cases he

theorem startStep_open (b : UInt8) : Open (startStep b).2 := by
  intro e he
  unfold startStep at he
  simp only at he
  split_ifs at he <;> simp only [Option.mem_def, Option.some.injEq, reduceCtorEq] at he <;>
    subst he <;> simp [Expect.Tail]

theorem step_open (e : Expect) (b : UInt8) : Open (e.step b).2 := by
  intro f hf
  unfold Expect.step at hf
  split at hf
  · split at hf
    · simp at hf
    · obtain rfl := Option.some.inj hf
      exact ⟨Nat.le_refl _, Nat.le_refl _⟩
  · exact startStep_open b f hf

/-- Before a byte that goes on with no character, whatever is open is cut short. -/
theorem decodeFrom_of_starts (open? : Option Expect) (ho : Open open?) (b : UInt8) (hb : Starts b)
    (bs : List UInt8) :
    decodeFrom open? (b :: bs) = decodeFrom open? [] ++ decodeFrom none (b :: bs) := by
  cases open? with
  | none => rfl
  | some e =>
    have he := ho e rfl
    have hstep : e.step b = (replacement :: (startStep b).1, (startStep b).2) := by
      unfold Expect.step
      rw [if_neg]
      rintro ⟨hlow, hhigh⟩
      rcases hb with hb | hb
      · have := he.1; omega
      · have := he.2; omega
    simp only [decodeFrom, hstep]
    rfl

/-! ### Written characters -/

/-- Code points lie below the limit and outside the surrogates. -/
theorem toNat_bounds (c : Char) :
    c.toNat < 0x110000 ∧ (c.toNat < 0xD800 ∨ 0xDFFF < c.toNat) := by
  rcases c.valid with h | h
  · have h' : c.toNat < 0xD800 := h
    exact ⟨by omega, Or.inl h'⟩
  · exact ⟨h.2, Or.inr h.1⟩

theorem encodeChar_starts (c : Char) :
    ∃ b bs, encodeChar c = b :: bs ∧ Starts b := by
  have hc := (toNat_bounds c).1
  unfold encodeChar
  simp only
  split_ifs with h1 h2 h3
  · refine ⟨_, _, rfl, Or.inl ?_⟩
    simp only [UInt8.toNat_ofNat']
    omega
  all_goals
    refine ⟨_, _, rfl, Or.inr ?_⟩
    simp only [UInt8.toNat_ofNat']
    omega

/-- Only the characters of ASCII have bytes of ASCII. -/
theorem toNat_of_mem_encodeChar {c : Char} {b : UInt8} (h : b ∈ encodeChar c)
    (hb : b.toNat < 0x80) : c.toNat = b.toNat := by
  have hc := (toNat_bounds c).1
  unfold encodeChar tailByte at h
  simp only at h
  split_ifs at h with h1 h2 h3
  · rw [List.mem_singleton] at h
    subst h
    simp only [UInt8.toNat_ofNat']
    omega
  all_goals
    have hne : ∀ n < 256, b = UInt8.ofNat n → n < 0x80 := by
      rintro n hn rfl
      rwa [UInt8.toNat_ofNat', Nat.mod_eq_of_lt hn] at hb
    simp only [List.mem_cons, List.not_mem_nil, or_false] at h
    exfalso
  · rcases h with h | h <;> have := hne _ (by omega) h <;> omega
  · rcases h with h | h | h <;> have := hne _ (by omega) h <;> omega
  · rcases h with h | h | h | h <;> have := hne _ (by omega) h <;> omega

/-- A continuation byte in the expected range adds its six bits. -/
theorem step_tailByte (value more low high n : Nat) (hlow : low ≤ 0x80 + n % 64)
    (hhigh : 0x80 + n % 64 ≤ high) (rest : List UInt8) :
    decodeFrom (some ⟨value, more, low, high⟩) (tailByte n :: rest) =
      match more with
      | 0 => Char.ofNat (value * 64 + n % 64) :: decodeFrom none rest
      | more + 1 => decodeFrom (some ⟨value * 64 + n % 64, more, 0x80, 0xBF⟩) rest := by
  have hn : (tailByte n).toNat = 0x80 + n % 64 := by
    simp only [tailByte, UInt8.toNat_ofNat']
    omega
  simp only [decodeFrom, Expect.step, hn, if_pos (And.intro hlow hhigh), Nat.add_sub_cancel_left]
  cases more <;> rfl

/-- The first byte of a character beyond ASCII opens it. -/
theorem decodeFrom_lead (n : Nat) (e : Expect) (rest : List UInt8)
    (h : startStep (UInt8.ofNat n) = ([], some e)) :
    decodeFrom none (UInt8.ofNat n :: rest) = decodeFrom (some e) rest := by
  simp only [decodeFrom, h, List.nil_append]

theorem toNat_ofNat_lt (n : Nat) (h : n < 256) : (UInt8.ofNat n).toNat = n := by
  simp only [UInt8.toNat_ofNat']
  omega

theorem startStep_two (n : Nat) (hlow : 0xC2 ≤ n) (hhigh : n < 0xE0) :
    startStep (UInt8.ofNat n) = ([], some ⟨n - 0xC0, 0, 0x80, 0xBF⟩) := by
  unfold startStep
  rw [toNat_ofNat_lt n (by omega)]
  simp only
  rw [if_neg (by omega), if_neg (by omega), if_pos (by omega)]

/-- The bounds on the second byte of a character of three bytes. -/
theorem startStep_three (n : Nat) (hlow : 0xE0 ≤ n) (hhigh : n < 0xF0) :
    startStep (UInt8.ofNat n) = ([], some ⟨n - 0xE0, 1, if n = 0xE0 then 0xA0 else 0x80,
      if n = 0xED then 0x9F else 0xBF⟩) := by
  unfold startStep
  rw [toNat_ofNat_lt n (by omega)]
  simp only
  rw [if_neg (by omega), if_neg (by omega), if_neg (by omega)]
  split_ifs with h1 h2 h3
  · omega
  · subst h1; rfl
  · subst h3; rfl
  · rfl

/-- The bounds on the second byte of a character of four bytes. -/
theorem startStep_four (n : Nat) (hlow : 0xF0 ≤ n) (hhigh : n ≤ 0xF4) :
    startStep (UInt8.ofNat n) = ([], some ⟨n - 0xF0, 2, if n = 0xF0 then 0x90 else 0x80,
      if n = 0xF4 then 0x8F else 0xBF⟩) := by
  unfold startStep
  rw [toNat_ofNat_lt n (by omega)]
  simp only
  rw [if_neg (by omega), if_neg (by omega), if_neg (by omega), if_neg (by omega),
    if_neg (by omega), if_neg (by omega)]
  split_ifs with h1 h2 h3 h4 h5
  · omega
  · subst h1; rfl
  · omega
  · rfl
  · subst h5; rfl
  · omega

/-- A written character is read as itself. -/
theorem decodeFrom_none_encodeChar (c : Char) (bs : List UInt8) :
    decodeFrom none (encodeChar c ++ bs) = c :: decodeFrom none bs := by
  obtain ⟨hc, hsurrogate⟩ := toNat_bounds c
  have hself : ∀ m, m = c.toNat → Char.ofNat m = c := by
    rintro m rfl
    exact Char.ofNat_toNat c
  generalize hn : c.toNat = n at *
  unfold encodeChar
  simp only [hn]
  split_ifs with h1 h2 h3
  · simp only [List.singleton_append, decodeFrom, startStep, toNat_ofNat_lt n (by omega), if_pos h1,
      hself n rfl]
  · simp only [List.cons_append, List.nil_append]
    rw [decodeFrom_lead _ _ _ (startStep_two _ (by omega) (by omega)),
      step_tailByte _ _ _ _ _ (by omega) (by omega)]
    simp only [hself _ (show (0xC0 + n / 64 - 0xC0) * 64 + n % 64 = n by omega)]
  · simp only [List.cons_append, List.nil_append]
    rw [decodeFrom_lead _ _ _ (startStep_three _ (by omega) (by omega)),
      step_tailByte _ _ _ _ _ (by split_ifs <;> omega) (by split_ifs <;> omega)]
    simp only
    rw [step_tailByte _ _ _ _ _ (by omega) (by omega)]
    simp only [hself _ (show ((0xE0 + n / 4096 - 0xE0) * 64 + n / 64 % 64) * 64 + n % 64 = n by omega)]
  · simp only [List.cons_append, List.nil_append]
    rw [decodeFrom_lead _ _ _ (startStep_four _ (by omega) (by omega)),
      step_tailByte _ _ _ _ _ (by split_ifs <;> omega) (by split_ifs <;> omega)]
    simp only
    rw [step_tailByte _ _ _ _ _ (by omega) (by omega)]
    simp only
    rw [step_tailByte _ _ _ _ _ (by omega) (by omega)]
    simp only [hself _ (show (((0xF0 + n / 262144 - 0xF0) * 64 + n / 4096 % 64) * 64 + n / 64 % 64) * 64
      + n % 64 = n by omega)]

/-- A written character is read as itself, after whatever was open is cut short. -/
theorem decodeFrom_encodeChar (open? : Option Expect) (ho : Open open?) (c : Char)
    (bs : List UInt8) :
    decodeFrom open? (encodeChar c ++ bs) = decodeFrom open? [] ++ c :: decodeFrom none bs := by
  obtain ⟨b, bs', hb, hstarts⟩ := encodeChar_starts c
  have hnone := decodeFrom_none_encodeChar c bs
  rw [hb, List.cons_append] at hnone ⊢
  rw [decodeFrom_of_starts open? ho b hstarts, hnone]

/-- **A written text is read back in front of any bytes.** -/
theorem decode_encode_append (t : Text) (bs : List UInt8) :
    decode (encode t ++ bs) = t ++ decode bs := by
  induction t with
  | nil => rfl
  | cons c t ih =>
    rw [encode, List.flatMap_cons, List.append_assoc, decode, decodeFrom_none_encodeChar]
    exact congrArg (c :: ·) ih

/-! ### Cutting bytes apart -/

/-- Reading can be cut before a byte that goes on with no character. -/
theorem decodeFrom_append_of_starts (open? : Option Expect) (ho : Open open?) (bs : List UInt8)
    (b : UInt8) (hb : Starts b) (rest : List UInt8) :
    decodeFrom open? (bs ++ b :: rest) = decodeFrom open? bs ++ decodeFrom none (b :: rest) := by
  induction bs generalizing open? with
  | nil => exact decodeFrom_of_starts open? ho b hb rest
  | cons a bs ih =>
    rw [List.cons_append]
    cases open? with
    | none =>
      simp only [decodeFrom]
      rw [ih _ (startStep_open a), List.append_assoc]
      rfl
    | some e =>
      simp only [decodeFrom]
      rw [ih _ (step_open e a), List.append_assoc]
      rfl

theorem decode_append_of_starts (bs : List UInt8) (b : UInt8) (hb : Starts b)
    (rest : List UInt8) : decode (bs ++ b :: rest) = decode bs ++ decode (b :: rest) :=
  decodeFrom_append_of_starts none open_none bs b hb rest

/-! ### Lengths -/

/-- One if a character is open, which is read as U+FFFD if nothing follows. -/
def pending (open? : Option Expect) : Nat :=
  if open?.isSome then 1 else 0

theorem startStep_length (b : UInt8) : (startStep b).1.length + pending (startStep b).2 = 1 := by
  unfold startStep
  simp only
  split_ifs <;> rfl

theorem step_length (e : Expect) (b : UInt8) :
    (e.step b).1.length + pending (e.step b).2 ≤ 2 := by
  unfold Expect.step
  split
  · split <;> simp [pending]
  · have := startStep_length b
    simp only [List.length_cons]
    omega

theorem step_length_pos (e : Expect) (b : UInt8) :
    1 ≤ (e.step b).1.length + pending (e.step b).2 := by
  unfold Expect.step
  split
  · split <;> simp [pending]
  · simp only [List.length_cons]
    omega

/-- What is open is read as one character at least. -/
theorem pending_le_length_decodeFrom (open? : Option Expect) (bs : List UInt8) :
    pending open? ≤ (decodeFrom open? bs).length := by
  induction bs generalizing open? with
  | nil => cases open? <;> exact Nat.le_refl _
  | cons b bs ih =>
    cases open? with
    | none => exact Nat.zero_le _
    | some e =>
      have hrest := ih (e.step b).2
      have hstep := step_length_pos e b
      simp only [decodeFrom, List.length_append, show pending (some e) = 1 from rfl]
      omega

/-- Bytes are read as a text that is not empty. -/
theorem decode_ne_nil {bs : List UInt8} (hne : bs ≠ []) : decode bs ≠ [] := by
  cases bs with
  | nil => exact absurd rfl hne
  | cons b bs =>
    have hrest := pending_le_length_decodeFrom (startStep b).2 bs
    have hstart := startStep_length b
    refine List.ne_nil_of_length_pos ?_
    simp only [decode, decodeFrom, List.length_append]
    omega

/-- One byte adds at most one character to the text that is read. -/
theorem length_decodeFrom_byte (open? : Option Expect) (b : UInt8) (bs : List UInt8) (n : Nat)
    (h : ∀ o, Open o → (decodeFrom o bs).length ≤ n + pending o) :
    (decodeFrom open? (b :: bs)).length ≤ n + 1 + pending open? := by
  cases open? with
  | none =>
    have hrest := h _ (startStep_open b)
    have hstep := startStep_length b
    simp only [decodeFrom, List.length_append]
    omega
  | some e =>
    have hrest := h _ (step_open e b)
    have hstep := step_length e b
    simp only [decodeFrom, List.length_append, show pending (some e) = 1 from rfl]
    omega

/-- So does one written character. -/
theorem length_decodeFrom_char (open? : Option Expect) (ho : Open open?) (c : Char)
    (bs : List UInt8) (n : Nat) (h : (decodeFrom none bs).length ≤ n) :
    (decodeFrom open? (encodeChar c ++ bs)).length ≤ n + 1 + pending open? := by
  have hopen : (decodeFrom open? []).length = pending open? := by
    cases open? <;> rfl
  rw [decodeFrom_encodeChar open? ho, List.length_append, List.length_cons, hopen]
  omega

end ReviewRouter.Utf8
