import ReviewRouter.Proofs.Redirect.Path

/-!
# Names in an address as they are

Some addresses hold a name without escaping it.  On the way back the name is cut at the first `?` or `#` and
unescaped twice, once with the path and once when it is captured.

* `Percent.HoldsEscape` — a `%` and the two digits of a byte stand somewhere in the text;
* `Percent.length_unescape_lt` — **undoing an escape makes a text shorter**;
* `Percent.unescape_eq_self_iff`, `Percent.unescapeValue_eq_self_iff` — the texts that unescaping leaves alone;
* `unescape_front_eq_self_iff` — **the texts that stay what they are as paths**;
* `readBack` — what is read back of a name;
* `IsPlainName`, `readBack_eq_self_iff` — **the names that are read back as they are**.
-/

namespace ReviewRouter

open Percent (unescape unescapeValue)

/-! ### Escapes in a text -/

namespace Percent

open Utf8 (encodeChar encode decodeFrom Open)

/-- A `%` and the two digits of a byte stand somewhere in the text. -/
def HoldsEscape (t : Text) : Prop :=
  ∃ a high low b, t = a ++ '%' :: high :: low :: b ∧ hexByte? high low ≠ none

theorem not_holdsEscape_nil : ¬HoldsEscape [] := by
  rintro ⟨a, high, low, b, h, -⟩
  cases (List.append_eq_nil_iff.1 h.symm).2

/-- An escape stands at the head of the text, or behind it. -/
theorem holdsEscape_cons {c : Char} {t : Text} : HoldsEscape (c :: t) ↔
    (∃ high low b, c = '%' ∧ t = high :: low :: b ∧ hexByte? high low ≠ none) ∨ HoldsEscape t := by
  constructor
  · rintro ⟨a, high, low, b, heq, hbyte⟩
    cases a with
    | nil =>
      obtain ⟨rfl, rfl⟩ := List.cons.inj heq
      exact Or.inl ⟨high, low, b, rfl, rfl, hbyte⟩
    | cons d a =>
      obtain ⟨-, rfl⟩ := List.cons.inj heq
      exact Or.inr ⟨a, high, low, b, rfl, hbyte⟩
  · rintro (⟨high, low, b, rfl, rfl, hbyte⟩ | ⟨a, high, low, b, rfl, hbyte⟩)
    · exact ⟨[], high, low, b, rfl, hbyte⟩
    · exact ⟨c :: a, high, low, b, rfl, hbyte⟩

/-- A `%` without two digits begins no escape. -/
theorem holdsEscape_percent {high low : Char} {rest : Text} (hbyte : hexByte? high low = none) :
    HoldsEscape ('%' :: high :: low :: rest) ↔ HoldsEscape (high :: low :: rest) := by
  rw [holdsEscape_cons, or_iff_right]
  rintro ⟨h, l, b, -, heq, hsome⟩
  obtain ⟨rfl, htail⟩ := List.cons.inj heq
  obtain ⟨rfl, -⟩ := List.cons.inj htail
  exact hsome hbyte

/-- Nor does another character, or a `%` too close to the end. -/
theorem holdsEscape_other {c : Char} {rest : Text}
    (hc : ∀ high low b, c = '%' → rest = high :: low :: b → False) :
    HoldsEscape (c :: rest) ↔ HoldsEscape rest := by
  rw [holdsEscape_cons, or_iff_right]
  rintro ⟨high, low, b, hpercent, heq, -⟩
  exact hc high low b hpercent heq

/-- Without an escape every character stands for its own bytes. -/
theorem bytes_of_not_holdsEscape {t : Text} (h : ¬HoldsEscape t) : bytes t = encode t := by
  induction t using bytes.induct with
  | case1 high low rest byte hbyte =>
    exact absurd ⟨[], high, low, rest, rfl, by rw [hbyte]; exact Option.some_ne_none byte⟩ h
  | case2 high low rest hbyte ih =>
    rw [holdsEscape_percent hbyte] at h
    rw [bytes, hbyte]
    exact congrArg (encodeChar '%' ++ ·) (ih h)
  | case3 c rest hc ih =>
    rw [holdsEscape_other hc] at h
    rw [bytes, ih h]
    · rfl
    · exact hc
  | case4 => rfl

/-- An escape is read as one character at most, by induction on the reading of the bytes. -/
theorem length_decodeFrom_bytes_lt (t : Text) (h : HoldsEscape t) :
    ∀ open?, Open open? → (decodeFrom open? (bytes t)).length < t.length + Utf8.pending open? := by
  induction t using bytes.induct with
  | case1 high low rest byte hbyte =>
    intro open? ho
    rw [bytes, hbyte]
    have hle := Utf8.length_decodeFrom_byte open? byte (bytes rest) rest.length
      (length_decodeFrom_bytes_le rest)
    simp only [List.length_cons]
    omega
  | case2 high low rest hbyte ih =>
    intro open? ho
    rw [holdsEscape_percent hbyte] at h
    have hlt := ih h none Utf8.open_none
    have hle := Utf8.length_decodeFrom_char open? ho '%' (bytes (high :: low :: rest)) _ (Nat.le_refl _)
    have hpending : Utf8.pending none = 0 := rfl
    rw [bytes, hbyte]
    simp only [List.length_cons] at hlt ⊢
    omega
  | case3 c rest hc ih =>
    intro open? ho
    rw [holdsEscape_other hc] at h
    have hlt := ih h none Utf8.open_none
    have hle := Utf8.length_decodeFrom_char open? ho c (bytes rest) _ (Nat.le_refl _)
    have hpending : Utf8.pending none = 0 := rfl
    rw [bytes]
    · simp only [List.length_cons]
      omega
    · exact hc
  | case4 => exact absurd h not_holdsEscape_nil

/-- **Undoing an escape makes a text shorter.** -/
theorem length_unescape_lt {t : Text} (h : HoldsEscape t) : (unescape t).length < t.length :=
  length_decodeFrom_bytes_lt t h none Utf8.open_none

/-- Unescaping leaves the texts without an escape alone, and no others. -/
theorem unescape_eq_self_iff {t : Text} : unescape t = t ↔ ¬HoldsEscape t := by
  constructor
  · intro hsame h
    have hlt := length_unescape_lt h
    rw [hsame] at hlt
    exact Nat.lt_irrefl _ hlt
  · intro h
    have hread := Utf8.decode_encode_append t []
    rw [List.append_nil] at hread
    rw [unescape, bytes_of_not_holdsEscape h, hread]
    exact List.append_nil t

/-- Where a `+` is a space there may be none. -/
theorem unescapeValue_eq_self_iff {t : Text} : unescapeValue t = t ↔ '+' ∉ t ∧ ¬HoldsEscape t := by
  constructor
  · intro hsame
    have hlength : (Text.substitute '+' ' ' t).length = t.length := List.length_map _
    have hplain : ¬HoldsEscape (Text.substitute '+' ' ' t) := by
      intro h
      have hlt := length_unescape_lt h
      rw [← unescapeValue, hsame, hlength] at hlt
      exact Nat.lt_irrefl _ hlt
    have hplus : '+' ∉ t := by
      rw [unescapeValue, unescape_eq_self_iff.2 hplain] at hsame
      rw [← hsame]
      intro hmem
      obtain ⟨c, -, hc⟩ := List.mem_map.1 hmem
      split at hc
      · cases hc
      · next hne => exact hne hc
    rw [substitute_of_not_mem ' ' t hplus] at hplain
    exact ⟨hplus, hplain⟩
  · rintro ⟨hplus, h⟩
    rw [unescapeValue, substitute_of_not_mem ' ' t hplus, unescape_eq_self_iff.2 h]

end Percent

/-! ### Names read back -/

/-- What is read back of a name that stands in an address as it is. -/
def readBack (name : Text) : Text :=
  unescapeValue (unescape (front name))

/-- Nothing in the name means something in an address. -/
structure IsPlainName (name : Text) : Prop where
  question : '?' ∉ name
  hash : '#' ∉ name
  plus : '+' ∉ name
  escape : ¬Percent.HoldsEscape name

namespace IsPlainName

variable {name : Text}

theorem front_eq (h : IsPlainName name) : front name = name :=
  front_eq_self h.question h.hash

theorem unescape_eq (h : IsPlainName name) : unescape name = name :=
  Percent.unescape_eq_self_iff.2 h.escape

theorem unescapeValue_eq (h : IsPlainName name) : unescapeValue name = name :=
  Percent.unescapeValue_eq_self_iff.2 ⟨h.plus, h.escape⟩

/-- The path holds such a name as it is. -/
theorem unescape_front_eq (h : IsPlainName name) : unescape (front name) = name := by
  rw [h.front_eq, h.unescape_eq]

end IsPlainName

/-- A path as long as the text that it is cut from is that text, and nothing in it means something. -/
theorem plain_of_length_le {t : Text} (h : t.length ≤ (unescape (front t)).length) :
    '?' ∉ t ∧ '#' ∉ t ∧ ¬Percent.HoldsEscape t := by
  have hread := Percent.length_unescape_le (front t)
  -- nothing was cut off, and nothing was unescaped
  have hfront : front t = t := front_eq_of_length_le (by omega)
  obtain ⟨hquestion, hhash⟩ := not_mem_front t
  rw [hfront] at hquestion hhash h
  refine ⟨hquestion, hhash, fun hescape => ?_⟩
  have hlt := Percent.length_unescape_lt hescape
  omega

/-- **The texts that stay what they are as paths.** -/
theorem unescape_front_eq_self_iff {t : Text} :
    unescape (front t) = t ↔ '?' ∉ t ∧ '#' ∉ t ∧ ¬Percent.HoldsEscape t := by
  constructor
  · intro hsame
    exact plain_of_length_le (by rw [hsame])
  · rintro ⟨hquestion, hhash, hescape⟩
    rw [front_eq_self hquestion hhash, Percent.unescape_eq_self_iff.2 hescape]

/-- Nothing is read back that is longer than the name. -/
theorem length_readBack_le (name : Text) :
    (readBack name).length ≤ (unescape (front name)).length ∧
      (unescape (front name)).length ≤ (front name).length := by
  rw [readBack, Percent.length_unescapeValue]
  exact ⟨Percent.length_unescape_le _, Percent.length_unescape_le _⟩

/-- **The names that are read back as they are.** -/
theorem readBack_eq_self_iff {name : Text} : readBack name = name ↔ IsPlainName name := by
  constructor
  · intro hsame
    obtain ⟨hvalue, -⟩ := length_readBack_le name
    rw [hsame] at hvalue
    obtain ⟨hquestion, hhash, hescape⟩ := plain_of_length_le hvalue
    rw [readBack, front_eq_self hquestion hhash, Percent.unescape_eq_self_iff.2 hescape] at hsame
    exact ⟨hquestion, hhash, (Percent.unescapeValue_eq_self_iff.1 hsame).1, hescape⟩
  · intro h
    rw [readBack, h.unescape_front_eq, h.unescapeValue_eq]

end ReviewRouter
