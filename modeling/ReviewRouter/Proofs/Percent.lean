import ReviewRouter.Proofs.Utf8
import ReviewRouter.Text.Percent

/-!
# One layer of percent coding

* `unescape_escape_append` — **what is escaped is read back in front of any text**;
* `unescape_append_of_boundary`, `unescape_append_escapeChar` — unescaping can be cut before every character
  that is neither `%` nor a hexadecimal digit, escaped or not;
* `unescape_plain_append` — a text without `%` stays as it is;
* `length_unescape_le` — unescaping makes no text longer;
* `length_unescapeValue` — a `+` counts as much as a space;
* `unescapeValue_substitute` — and stands for one.
-/

namespace ReviewRouter.Percent

open Utf8 (encodeChar encode decode decodeFrom Open)

/-! ### Hexadecimal digits -/

theorem hexValue?_hexDigit : ∀ n < 16, hexValue? (hexDigit n) = some n := by
  decide

theorem hexByte?_escaped (b : UInt8) :
    hexByte? (hexDigit (b.toNat / 16)) (hexDigit (b.toNat % 16)) = some b := by
  have hb := b.toNat_lt
  have hhigh := hexValue?_hexDigit (b.toNat / 16) (by omega)
  have hlow := hexValue?_hexDigit (b.toNat % 16) (by omega)
  simp only [hexByte?, hhigh, hlow]
  rw [show 16 * (b.toNat / 16) + b.toNat % 16 = b.toNat by omega, UInt8.ofNat_toNat]

theorem hexByte?_eq_none_left {high : Char} (h : hexValue? high = none) (low : Char) :
    hexByte? high low = none := by
  simp only [hexByte?, h]

theorem hexByte?_eq_none_right (high : Char) {low : Char} (h : hexValue? low = none) :
    hexByte? high low = none := by
  simp only [hexByte?, h]
  cases hexValue? high <;> rfl

/-! ### Bytes of a text -/

theorem bytes_cons {c : Char} (hc : c ≠ '%') (t : Text) :
    bytes (c :: t) = encodeChar c ++ bytes t := by
  rw [bytes]
  intro high low rest h
  exact absurd h hc

theorem bytes_escapeByte_append (b : UInt8) (t : Text) :
    bytes (escapeByte b ++ t) = b :: bytes t := by
  simp only [escapeByte, List.cons_append, List.nil_append]
  rw [bytes, hexByte?_escaped]

/-- The bytes of a text can be cut before a character that is no hexadecimal digit. -/
theorem bytes_append_of_not_hex (a : Text) {c : Char} (hc : hexValue? c = none) (b : Text) :
    bytes (a ++ c :: b) = bytes a ++ bytes (c :: b) := by
  induction a using bytes.induct with
  | case1 high low rest byte hbyte ih =>
    simp only [List.cons_append] at ih ⊢
    rw [bytes, hbyte, bytes, hbyte]
    exact congrArg (byte :: ·) ih
  | case2 high low rest hbyte ih =>
    simp only [List.cons_append] at ih ⊢
    rw [bytes, hbyte, bytes, hbyte]
    simp only [List.append_assoc]
    rw [ih]
  | case3 d rest hd ih =>
    -- a `%` with at most one character behind it does not reach over the cut
    by_cases hpercent : d = '%'
    · subst hpercent
      match rest, hd with
      | [], _ =>
        cases b with
        | nil => rfl
        | cons e b =>
          show bytes ('%' :: c :: e :: b) = _
          rw [bytes, hexByte?_eq_none_left hc]
          rfl
      | [e], _ =>
        show bytes ('%' :: e :: c :: b) = _
        rw [bytes, hexByte?_eq_none_right e hc]
        simp only
        rw [show bytes (e :: c :: b) = bytes [e] ++ bytes (c :: b) from ih]
        rfl
      | e :: f :: rest, hd => exact absurd rfl (hd e f rest rfl)
    · rw [List.cons_append, bytes_cons hpercent, bytes_cons hpercent, ih, List.append_assoc]
  | case4 => rfl

theorem bytes_escapeBytes_append (bs : List UInt8) (t : Text) :
    bytes (bs.flatMap escapeByte ++ t) = bs ++ bytes t := by
  induction bs with
  | nil => rfl
  | cons b bs ih =>
    rw [List.flatMap_cons, List.append_assoc, bytes_escapeByte_append, ih]
    rfl

theorem ne_percent_of_isUnescaped {c : Char} (h : isUnescaped c = true) : c ≠ '%' := by
  rintro rfl
  exact absurd h (by decide)

/-- Every character stands for its own bytes, escaped or not. -/
theorem bytes_escapeChar_append (c : Char) (t : Text) :
    bytes (escapeChar c ++ t) = encodeChar c ++ bytes t := by
  unfold escapeChar
  split
  · next h => exact bytes_cons (ne_percent_of_isUnescaped h) t
  · exact bytes_escapeBytes_append (encodeChar c) t

theorem bytes_escape_append (s t : Text) : bytes (escape s ++ t) = encode s ++ bytes t := by
  induction s with
  | nil => rfl
  | cons c s ih =>
    rw [escape, List.flatMap_cons, List.append_assoc, bytes_escapeChar_append, ← escape, ih,
      ← List.append_assoc]
    rfl

/-! ### Reading back -/

theorem unescape_cons {c : Char} (hc : c ≠ '%') (t : Text) :
    unescape (c :: t) = c :: unescape t := by
  rw [unescape, bytes_cons hc, Utf8.decode, Utf8.decodeFrom_none_encodeChar]
  rfl

theorem unescape_nil : unescape [] = [] := rfl

/-- A text without `%` stays as it is. -/
theorem unescape_plain_append (a : Text) (ha : '%' ∉ a) (b : Text) :
    unescape (a ++ b) = a ++ unescape b := by
  induction a with
  | nil => rfl
  | cons c a ih =>
    simp only [List.mem_cons, not_or] at ha
    rw [List.cons_append, unescape_cons (Ne.symm ha.1), ih ha.2]
    rfl

theorem unescape_plain (a : Text) (ha : '%' ∉ a) : unescape a = a := by
  have h := unescape_plain_append a ha []
  rwa [List.append_nil, unescape_nil, List.append_nil] at h

/-- **What is escaped is read back in front of any text.** -/
theorem unescape_escape_append (s t : Text) : unescape (escape s ++ t) = s ++ unescape t := by
  rw [unescape, bytes_escape_append, Utf8.decode_encode_append]
  rfl

/-- A character that is escaped is read back as well. -/
theorem unescape_escapeChar_append (c : Char) (t : Text) : unescape (escapeChar c ++ t) = c :: unescape t := by
  have hread := unescape_escape_append [c] t
  rwa [escape, List.flatMap_singleton] at hread

theorem unescape_escape (s : Text) : unescape (escape s) = s := by
  have h := unescape_escape_append s []
  rwa [List.append_nil, unescape_nil, List.append_nil] at h

/-! ### Cutting a text apart -/

/-- A character that takes part in no escape. -/
def Boundary (c : Char) : Prop :=
  c ≠ '%' ∧ hexValue? c = none

instance (c : Char) : Decidable (Boundary c) :=
  inferInstanceAs (Decidable (_ ∧ _))

/-- Unescaping can be cut before every boundary. -/
theorem unescape_append_of_boundary (a : Text) {c : Char} (hc : Boundary c) (b : Text) :
    unescape (a ++ c :: b) = unescape a ++ c :: unescape b := by
  obtain ⟨x, bs, hx, hstarts⟩ := Utf8.encodeChar_starts c
  have hread := unescape_cons hc.1 b
  rw [unescape, bytes_cons hc.1, hx] at hread
  rw [unescape, bytes_append_of_not_hex a hc.2, bytes_cons hc.1, hx, List.cons_append,
    Utf8.decode_append_of_starts _ x hstarts, ← List.cons_append, hread]
  rfl

/-- An escaped character begins with itself or with a `%`. -/
theorem exists_escapeChar_eq (c : Char) : ∃ d u, escapeChar c = d :: u ∧ (d = c ∨ d = '%') := by
  unfold escapeChar
  split
  · exact ⟨c, [], rfl, Or.inl rfl⟩
  · obtain ⟨x, bs, hx, -⟩ := Utf8.encodeChar_starts c
    rw [hx]
    exact ⟨'%', _, rfl, Or.inr rfl⟩

/-- Unescaping can be cut before a boundary that is escaped, too. -/
theorem unescape_append_escapeChar (a : Text) {c : Char} (hc : Boundary c) (b : Text) :
    unescape (a ++ (escapeChar c ++ b)) = unescape a ++ c :: unescape b := by
  obtain ⟨d, u, hd, hdc⟩ := exists_escapeChar_eq c
  have hcut : hexValue? d = none := by
    rcases hdc with rfl | rfl
    · exact hc.2
    · rfl
  have hbytes := bytes_append_of_not_hex a hcut (u ++ b)
  rw [← List.cons_append, ← hd, bytes_escapeChar_append, ← bytes_cons hc.1,
    ← bytes_append_of_not_hex a hc.2] at hbytes
  rw [unescape, hbytes, ← unescape, unescape_append_of_boundary a hc]

/-! ### Lengths -/

theorem length_decodeFrom_bytes_le (t : Text) :
    ∀ open?, Open open? → (decodeFrom open? (bytes t)).length ≤ t.length + Utf8.pending open? := by
  induction t using bytes.induct with
  | case1 high low rest byte hbyte ih =>
    intro open? ho
    rw [bytes, hbyte]
    have h := Utf8.length_decodeFrom_byte open? byte (bytes rest) rest.length ih
    simp only [List.length_cons]
    omega
  | case2 high low rest hbyte ih =>
    intro open? ho
    rw [bytes, hbyte]
    exact Utf8.length_decodeFrom_char open? ho '%' _ _ (ih none Utf8.open_none)
  | case3 c rest hc ih =>
    intro open? ho
    rw [bytes]
    · exact Utf8.length_decodeFrom_char open? ho c _ _ (ih none Utf8.open_none)
    · exact hc
  | case4 =>
    intro open? ho
    cases open? with
    | none => exact Nat.le_refl _
    | some e => exact Nat.le_refl _

/-- Unescaping makes no text longer. -/
theorem length_unescape_le (t : Text) : (unescape t).length ≤ t.length :=
  length_decodeFrom_bytes_le t none Utf8.open_none

/-- Only the empty text is unescaped to nothing. -/
theorem unescape_ne_nil {t : Text} (hne : t ≠ []) : unescape t ≠ [] := by
  refine Utf8.decode_ne_nil ?_
  have hchar : ∀ (c : Char) (bs : List UInt8), encodeChar c ++ bs ≠ [] := by
    intro c bs
    obtain ⟨b, rest, hc, -⟩ := Utf8.encodeChar_starts c
    rw [hc]
    exact List.cons_ne_nil _ _
  cases t using bytes.induct with
  | case1 high low rest byte hbyte =>
    rw [bytes, hbyte]
    exact List.cons_ne_nil _ _
  | case2 high low rest hbyte =>
    rw [bytes, hbyte]
    exact hchar '%' _
  | case3 c rest hc =>
    rw [bytes]
    · exact hchar c _
    · exact hc
  | case4 => exact absurd rfl hne

/-! ### Plus signs for spaces -/

theorem substitute_append (old new : Char) (a b : Text) :
    Text.substitute old new (a ++ b) = Text.substitute old new a ++ Text.substitute old new b :=
  List.map_append

theorem substitute_cons_ne {old c : Char} (new : Char) (hc : c ≠ old) (t : Text) :
    Text.substitute old new (c :: t) = c :: Text.substitute old new t := by
  rw [Text.substitute, List.map_cons, if_neg hc]
  rfl

theorem substitute_of_not_mem {old : Char} (new : Char) (t : Text) (h : old ∉ t) :
    Text.substitute old new t = t := by
  induction t with
  | nil => rfl
  | cons c t ih =>
    simp only [List.mem_cons, not_or] at h
    rw [substitute_cons_ne new (Ne.symm h.1), ih h.2]

/-- A substitution brings in the new character only. -/
theorem not_mem_substitute {c old new : Char} (hnew : c ≠ new) {t : Text} (h : c ∉ t) :
    c ∉ Text.substitute old new t := by
  intro hmem
  obtain ⟨d, hd, heq⟩ := List.mem_map.1 hmem
  split at heq
  · exact hnew heq.symm
  · exact h (heq ▸ hd)

/-- Going back to the old character makes no difference between the new ones that were there and the others. -/
theorem substitute_substitute (old new : Char) (t : Text) :
    Text.substitute new old (Text.substitute old new t) = Text.substitute new old t := by
  have hback : ∀ c : Char, (if (if c = old then new else c) = new then old else if c = old then new else c) =
      if c = new then old else c := by
    intro c
    by_cases hc : c = old
    · rw [if_pos hc, if_pos rfl, hc, ite_self]
    · rw [if_neg hc]
  rw [Text.substitute, Text.substitute, List.map_map]
  exact List.map_congr_left fun c _ => hback c

theorem hexValue?_substitute (c : Char) :
    hexValue? (if c = '+' then ' ' else c) = hexValue? c := by
  split
  · next h => subst h; rfl
  · rfl

/-- A `+` is neither `%` nor a digit, so putting a space in its place changes no escape. -/
theorem length_decodeFrom_substitute (t : Text) :
    ∀ open?, Open open? → (decodeFrom open? (bytes (Text.substitute '+' ' ' t))).length =
      (decodeFrom open? (bytes t)).length := by
  have hchar : ∀ (c d : Char) (bs bs' : List UInt8) (open? : Option Utf8.Expect), Open open? →
      (decodeFrom none bs).length = (decodeFrom none bs').length →
      (decodeFrom open? (encodeChar c ++ bs)).length =
        (decodeFrom open? (encodeChar d ++ bs')).length := by
    intro c d bs bs' open? ho h
    rw [Utf8.decodeFrom_encodeChar open? ho, Utf8.decodeFrom_encodeChar open? ho,
      List.length_append, List.length_append, List.length_cons, List.length_cons, h]
  have hsame : ∀ high low, hexByte? (if high = '+' then ' ' else high)
      (if low = '+' then ' ' else low) = hexByte? high low := by
    intro high low
    simp only [hexByte?, hexValue?_substitute]
  induction t using bytes.induct with
  | case1 high low rest byte hbyte ih =>
    intro open? ho
    have hleft : bytes (Text.substitute '+' ' ' ('%' :: high :: low :: rest)) =
        byte :: bytes (Text.substitute '+' ' ' rest) := by
      show bytes ('%' :: (if high = '+' then ' ' else high) ::
        (if low = '+' then ' ' else low) :: Text.substitute '+' ' ' rest) = _
      rw [bytes, hsame, hbyte]
    rw [hleft, bytes, hbyte]
    cases open? with
    | none =>
      simp only [decodeFrom, List.length_append]
      rw [ih _ (Utf8.startStep_open byte)]
    | some e =>
      simp only [decodeFrom, List.length_append]
      rw [ih _ (Utf8.step_open e byte)]
  | case2 high low rest hbyte ih =>
    intro open? ho
    have hleft : bytes (Text.substitute '+' ' ' ('%' :: high :: low :: rest)) =
        encodeChar '%' ++ bytes (Text.substitute '+' ' ' (high :: low :: rest)) := by
      show bytes ('%' :: (if high = '+' then ' ' else high) ::
        (if low = '+' then ' ' else low) :: Text.substitute '+' ' ' rest) = _
      rw [bytes, hsame, hbyte]
      rfl
    rw [hleft, bytes, hbyte]
    exact hchar _ _ _ _ open? ho (ih none Utf8.open_none)
  | case3 c rest hc ih =>
    intro open? ho
    have hleft : bytes (Text.substitute '+' ' ' (c :: rest)) =
        encodeChar (if c = '+' then ' ' else c) ++ bytes (Text.substitute '+' ' ' rest) := by
      show bytes ((if c = '+' then ' ' else c) :: Text.substitute '+' ' ' rest) = _
      rw [bytes]
      intro high low rest' h hrest
      have hpercent : c = '%' := by
        split at h
        · exact absurd h (by decide)
        · exact h
      cases rest with
      | nil => cases hrest
      | cons x rest =>
        cases rest with
        | nil => cases hrest
        | cons y z => exact hc x y z hpercent rfl
    rw [hleft, bytes]
    · exact hchar _ _ _ _ open? ho (ih none Utf8.open_none)
    · exact hc
  | case4 =>
    intro open? ho
    rfl

/-- A `+` counts as much as a space. -/
theorem length_unescapeValue (t : Text) : (unescapeValue t).length = (unescape t).length :=
  length_decodeFrom_substitute t none Utf8.open_none

theorem unescapeValue_ne_nil {t : Text} (hne : t ≠ []) : unescapeValue t ≠ [] := by
  intro hnil
  have hlength := length_unescapeValue t
  rw [hnil] at hlength
  exact unescape_ne_nil hne (List.length_eq_zero_iff.1 hlength.symm)

/-- A value is the same with its spaces written as plus signs. -/
theorem unescapeValue_substitute (t : Text) : unescapeValue (Text.substitute ' ' '+' t) = unescapeValue t := by
  rw [unescapeValue, substitute_substitute, unescapeValue]

theorem unescapeValue_cons {c : Char} (hplus : c ≠ '+') (hpercent : c ≠ '%') (t : Text) :
    unescapeValue (c :: t) = c :: unescapeValue t := by
  rw [unescapeValue, substitute_cons_ne ' ' hplus, unescape_cons hpercent]
  rfl

/-- Words without `%` and `+` stay as they are. -/
theorem unescapeValue_plain (a : Text) (hpercent : '%' ∉ a) (hplus : '+' ∉ a) :
    unescapeValue a = a := by
  rw [unescapeValue, substitute_of_not_mem ' ' a hplus, unescape_plain a hpercent]

end ReviewRouter.Percent
