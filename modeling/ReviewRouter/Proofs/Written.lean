import ReviewRouter.Json.Reader
import ReviewRouter.Json.Writer
import ReviewRouter.Proofs.Numeral

/-!
# Written JSON is read back

The reader takes back what the writer wrote, and stops where it ended.  That is so for every value
whose numbers are not negative, that holds no scalar without a meaning and that is not nested more
deeply than the reader goes.

* `JsonText.readString?_escape` — **a character of a string**, escaped or not;
* `JsonText.readString?_flatMap` — a string up to its quote;
* `JsonText.ReadsAs` — a text is read as a value, whatever stands behind it;
* `JsonText.readItems?_itemsText`, `JsonText.readMembers?_membersText` — arrays and objects, from
  their parts;
* `Json.Plain` — the values that are read back;
* `Json.read?_text` — **an object that is written is read back**.
-/

namespace ReviewRouter

namespace JsonText

/-! ### Strings -/

theorem hexValue?_digitChar : ∀ n < 16, Percent.hexValue? (Nat.digitChar n) = some n := by
  decide

theorem readUnicode?_digits {c : Char} (h : c.toNat < 0x20) (rest : Text) :
    readUnicode? ('0' :: '0' :: Nat.digitChar (c.toNat / 16) :: Nat.digitChar (c.toNat % 16) :: rest) =
      some (c, rest) := by
  have hzero : Percent.hexValue? '0' = some 0 := by decide
  have hhigh := hexValue?_digitChar (c.toNat / 16) (by omega)
  have hlow := hexValue?_digitChar (c.toNat % 16) (by omega)
  have hvalue : 16 * (c.toNat / 16) + c.toNat % 16 = c.toNat := Nat.div_add_mod _ _
  have hread : readHex4? ('0' :: '0' :: Nat.digitChar (c.toNat / 16) :: Nat.digitChar (c.toNat % 16)
      :: rest) = some (c.toNat, rest) := by
    simp [readHex4?, hzero, hhigh, hlow, hvalue]
  rw [readUnicode?, hread]
  simp only [Option.bind_eq_bind, Option.bind_some]
  rw [if_neg (by omega), if_neg (by omega), Char.ofNat_toNat]
  rfl

/-- The three ways to write a character: after a backslash, as a code point, and as it is. -/
theorem escape_cases (c : Char) :
    (∃ e, e ≠ 'u' ∧ shortEscape? e = some c ∧ escape c = ['\\', e]) ∨
      (c.toNat < 0x20 ∧ escape c = unicodeEscape c) ∨
      (c ≠ '\x22' ∧ c ≠ '\\' ∧ escape c = [c]) := by
  unfold escape
  split
  · next h => exact Or.inl ⟨'\x22', by decide, by rw [h]; rfl, rfl⟩
  split
  · next h => exact Or.inl ⟨'\\', by decide, by rw [h]; rfl, rfl⟩
  split
  · next h => exact Or.inl ⟨'b', by decide, by rw [h]; rfl, rfl⟩
  split
  · next h => exact Or.inl ⟨'f', by decide, by rw [h]; rfl, rfl⟩
  split
  · next h => exact Or.inl ⟨'n', by decide, by rw [h]; rfl, rfl⟩
  split
  · next h => exact Or.inl ⟨'r', by decide, by rw [h]; rfl, rfl⟩
  split
  · next h => exact Or.inl ⟨'t', by decide, by rw [h]; rfl, rfl⟩
  split
  · next h => exact Or.inr (Or.inl ⟨h, rfl⟩)
  · next hquote hslash _ _ _ _ _ _ => exact Or.inr (Or.inr ⟨hquote, hslash, rfl⟩)

theorem escape_ne_nil (c : Char) : escape c ≠ [] := by
  rcases escape_cases c with ⟨e, -, -, h⟩ | ⟨-, h⟩ | ⟨-, -, h⟩ <;> rw [h] <;> exact List.cons_ne_nil _ _

/-- A character that is written is read first, and the rest of the string after it. -/
theorem readString?_escape (bound : Nat) (c : Char) (rest : Text) :
    readString? (bound + 1) (escape c ++ rest) =
      (readString? bound rest).map fun (t, rest) => (c :: t, rest) := by
  rcases escape_cases c with ⟨e, hu, he, h⟩ | ⟨hcontrol, h⟩ | ⟨hquote, hslash, h⟩
  · rw [h]
    show readString? (bound + 1) ('\\' :: e :: rest) = _
    rw [readString?, he]
    · cases readString? bound rest <;> rfl
    · exact hu
  · rw [h, unicodeEscape]
    show readString? (bound + 1) ('\\' :: 'u' :: '0' :: '0' :: _ :: _ :: rest) = _
    rw [readString?, readUnicode?_digits hcontrol]
    simp only [Option.bind_eq_bind, Option.bind_some]
    cases readString? bound rest <;> rfl
  · rw [h]
    show readString? (bound + 1) (c :: rest) = _
    rw [readString?]
    · cases readString? bound rest <;> rfl
    all_goals simp_all

/-- A string is read up to its closing quote. -/
theorem readString?_flatMap (t rest : Text) {bound : Nat} (h : t.length < bound) :
    readString? bound (t.flatMap escape ++ '\x22' :: rest) = some (t, rest) := by
  induction t generalizing bound with
  | nil =>
    obtain ⟨bound, rfl⟩ := Nat.exists_eq_succ_of_ne_zero (Nat.ne_zero_of_lt h)
    rw [List.flatMap_nil, List.nil_append, readString?]
  | cons c t ih =>
    obtain ⟨bound, rfl⟩ := Nat.exists_eq_succ_of_ne_zero (Nat.ne_zero_of_lt h)
    rw [List.flatMap_cons, List.append_assoc, readString?_escape, ih (Nat.lt_of_succ_lt_succ h)]
    rfl

theorem length_le_flatMap_escape (t : Text) : t.length ≤ (t.flatMap escape).length := by
  induction t with
  | nil => exact Nat.le_refl _
  | cons c t ih =>
    have hpos := List.length_pos_iff.2 (escape_ne_nil c)
    rw [List.flatMap_cons, List.length_append, List.length_cons]
    omega

/-- The bound that is set at the opening quote suffices. -/
theorem readString?_ofString {t u rest : Text} (h : u = t.flatMap escape ++ '\x22' :: rest) :
    readString? u.length.succ u = some (t, rest) := by
  have hlength := length_le_flatMap_escape t
  rw [h]
  refine readString?_flatMap t rest ?_
  rw [List.length_append, List.length_cons]
  omega

theorem ofString_append (t rest : Text) :
    ofString t ++ rest = '\x22' :: (t.flatMap escape ++ '\x22' :: rest) := by
  rw [ofString, List.cons_append, List.append_assoc]
  rfl

/-! ### Values -/

/-- The text is read as the value, whatever stands behind it; a scalar wants its end there. -/
structure ReadsAs (depth : Nat) (t : Text) (j : Json) : Prop where
  starts : ∃ c u, t = c :: u ∧ isSpace c = false ∧ endsScalar c = false
  reads : ∀ bound c rest, 2 * t.length ≤ bound → endsScalar c = true →
    readValue? bound depth (t ++ c :: rest) = some (j, c :: rest)

theorem skip_of_not_space {c : Char} (h : isSpace c = false) (t : Text) : skip (c :: t) = c :: t := by
  rw [skip, List.dropWhile_cons_of_neg (by simp [h])]

/-- A scalar reaches to the character that ends it. -/
theorem readsAs_scalar {depth : Nat} {t : Text} {j : Json}
    (hfirst : ∃ c u, t = c :: u ∧ isSpace c = false ∧ c ≠ '\x22' ∧ c ≠ '[' ∧ c ≠ '\x7b')
    (hall : ∀ c ∈ t, (!endsScalar c) = true) (hvalue : ofScalar t = j) : ReadsAs depth t j := by
  obtain ⟨c, u, rfl, hspace, hquote, hbracket, hbrace⟩ := hfirst
  refine ⟨⟨c, u, rfl, hspace, by simpa using hall c List.mem_cons_self⟩, ?_⟩
  intro bound d rest hbound hd
  obtain ⟨bound, rfl⟩ : ∃ b, bound = b + 1 := ⟨bound - 1, by rw [List.length_cons] at hbound; omega⟩
  have htoken : (c :: u ++ d :: rest).takeWhile (!endsScalar ·) = c :: u := by
    rw [List.takeWhile_append_of_pos hall, List.takeWhile_cons_of_neg (by simp [hd]),
      List.append_nil]
  have hrest : (c :: u ++ d :: rest).dropWhile (!endsScalar ·) = d :: rest := by
    rw [List.dropWhile_append_of_pos hall, List.dropWhile_cons_of_neg (by simp [hd])]
  rw [List.cons_append] at htoken hrest ⊢
  rw [readValue?, skip_of_not_space hspace]
  split
  · next heq => cases heq
  · next heq => exact absurd (List.cons.inj heq).1 hquote
  · next heq => exact absurd (List.cons.inj heq).1 hbracket
  · next heq => exact absurd (List.cons.inj heq).1 hbrace
  · next heq =>
    obtain ⟨rfl, rfl⟩ := List.cons.inj heq
    simp only [htoken, hrest, hvalue]

theorem readsAs_null (depth : Nat) : ReadsAs depth "null" .null :=
  readsAs_scalar ⟨'n', _, rfl, by decide⟩ (List.all_eq_true.1 (by decide)) rfl

theorem readsAs_bool (depth : Nat) (b : Bool) : ReadsAs depth (Json.bool b).text (.bool b) := by
  cases b
  · exact readsAs_scalar ⟨'f', _, rfl, by decide⟩ (List.all_eq_true.1 (by decide)) rfl
  · exact readsAs_scalar ⟨'t', _, rfl, by decide⟩ (List.all_eq_true.1 (by decide)) rfl

theorem not_special_of_isDigit {c : Char} (h : c.isDigit = true) :
    isSpace c = false ∧ endsScalar c = false ∧ c ≠ '\x22' ∧ c ≠ '[' ∧ c ≠ '\x7b' := by
  have hne : ∀ d : Char, d.isDigit = false → c ≠ d := by
    rintro d hd rfl
    rw [h] at hd
    cases hd
  have hbeq : ∀ d : Char, d.isDigit = false → (c == d) = false :=
    fun d hd => beq_eq_false_iff_ne.2 (hne d hd)
  refine ⟨?_, ?_, hne _ (by decide), hne _ (by decide), hne _ (by decide)⟩
  · rw [isSpace, hbeq _ (by decide), hbeq _ (by decide), hbeq _ (by decide), hbeq _ (by decide)]
    rfl
  · rw [endsScalar, hbeq _ (by decide), hbeq _ (by decide), hbeq _ (by decide)]
    rfl

/-- A written number of several digits does not begin with a zero: without it the number would be
written shorter. -/
theorem ofNat_of_head_zero {n : Nat} {rest : Text} (h : Numeral.ofNat n = '0' :: rest) : rest = [] := by
  cases rest with
  | nil => rfl
  | cons c rest =>
    have hdigits : (c :: rest).all Char.isDigit = true :=
      List.all_eq_true.2 fun d hd => Numeral.isDigit_of_mem_ofNat (h ▸ List.mem_cons_of_mem _ hd)
    have hwritten := Numeral.natural?_ofNat n
    rw [h, Numeral.natural?, if_pos ⟨List.cons_ne_nil _ _, by rw [List.all_cons, hdigits]; rfl⟩,
      Nat.ofDigitChars_cons] at hwritten
    have hread : Numeral.natural? (c :: rest) = some n := by
      rw [Numeral.natural?, if_pos ⟨List.cons_ne_nil _ _, hdigits⟩]
      exact hwritten
    have hlength := Numeral.length_ofNat_le hread
    rw [h, List.length_cons] at hlength
    omega

theorem ofScalar_ofNat (n : Nat) : ofScalar (Numeral.ofNat n) = .num n := by
  have hnot : ∀ w : Text, (∃ c ∈ w, c.isDigit = false) → Numeral.ofNat n ≠ w := by
    rintro w ⟨c, hc, hno⟩ heq
    rw [← heq] at hc
    exact Numeral.not_mem_ofNat hno n hc
  have htrim : ((Numeral.ofNat n).reverse.dropWhile isSpace).reverse = Numeral.ofNat n := by
    cases hlast : (Numeral.ofNat n).reverse with
    | nil => exact absurd (List.reverse_eq_nil_iff.1 hlast) (Numeral.ofNat_ne_nil n)
    | cons c u =>
      have hc : c ∈ Numeral.ofNat n := List.mem_reverse.1 (hlast ▸ List.mem_cons_self)
      have hspace := (not_special_of_isDigit (Numeral.isDigit_of_mem_ofNat hc)).1
      rw [List.dropWhile_cons_of_neg (by simp [hspace]), ← hlast, List.reverse_reverse]
  have hzero : ¬((Numeral.ofNat n).head? = some '0' ∧ Numeral.ofNat n ≠ "0") := by
    rintro ⟨hhead, hne⟩
    obtain ⟨rest, hrest⟩ := List.head?_eq_some_iff.1 hhead
    exact hne (by rw [hrest, ofNat_of_head_zero hrest]; rfl)
  rw [ofScalar]
  simp only [htrim]
  rw [if_neg (hnot _ ⟨'n', by decide, by decide⟩), if_neg (hnot _ ⟨'t', by decide, by decide⟩),
    if_neg (hnot _ ⟨'f', by decide, by decide⟩), Numeral.natural?_ofNat]
  exact if_neg hzero

theorem readsAs_num (depth n : Nat) : ReadsAs depth (Json.num n).text (.num n) := by
  obtain ⟨c, u, h⟩ := List.exists_cons_of_ne_nil (Numeral.ofNat_ne_nil n)
  have hdigit : ∀ d ∈ Numeral.ofNat n, d.isDigit = true := fun _ => Numeral.isDigit_of_mem_ofNat
  obtain ⟨hspace, -, hopen⟩ := not_special_of_isDigit (hdigit c (h ▸ List.mem_cons_self))
  have hall : ∀ d ∈ Numeral.ofNat n, (!endsScalar d) = true := fun d hd => by
    rw [(not_special_of_isDigit (hdigit d hd)).2.1]
    rfl
  exact readsAs_scalar ⟨c, u, h, hspace, hopen⟩ hall (ofScalar_ofNat n)

theorem readsAs_str (depth : Nat) (t : Text) : ReadsAs depth (Json.str t).text (.str t) := by
  refine ⟨⟨'\x22', _, rfl, by decide, by decide⟩, ?_⟩
  intro bound c rest hbound _
  obtain ⟨bound, rfl⟩ : ∃ b, bound = b + 1 :=
    ⟨bound - 1, by rw [Json.text, ofString, List.length_cons] at hbound; omega⟩
  rw [Json.text, ofString_append, readValue?, skip_of_not_space (by decide)]
  simp only [readString?_ofString rfl]
  rfl

/-! ### Arrays and objects -/

/-- An item is read after its comma, and the rest of the array after it. -/
theorem readItems?_comma (bound depth : Nat) (first : Bool) {t : Text}
    (hstarts : ∃ c u, t = c :: u ∧ isSpace c = false ∧ endsScalar c = false) :
    readItems? (bound + 1) depth first (comma first ++ t) = (do
      let (item, rest) ← readValue? bound depth t
      let (items, rest) ← readItems? bound depth false rest
      return (item :: items, rest)) := by
  obtain ⟨c, u, rfl, hspace, hends⟩ := hstarts
  have hc : c ≠ ']' := by
    rintro rfl
    cases hends
  cases first
  · show readItems? (bound + 1) depth false (',' :: c :: u) = _
    rw [readItems?, skip_of_not_space (by decide)]
    rfl
  · show readItems? (bound + 1) depth true (c :: u) = _
    rw [readItems?, skip_of_not_space hspace]
    split
    · next heq => exact absurd (List.cons.inj heq).1 hc
    · rfl

theorem exists_itemsText_false (items : List Json) :
    ∃ c u, Json.itemsText false items = c :: u ∧ endsScalar c = true := by
  cases items
  · exact ⟨']', [], rfl, rfl⟩
  · exact ⟨',', _, rfl, rfl⟩

/-- The items of an array are read up to its end, if each item is. -/
theorem readItems?_itemsText {depth : Nat} {items : List Json}
    (h : ∀ j ∈ items, ReadsAs depth j.text j) (first : Bool) (rest : Text) {bound : Nat}
    (hbound : 2 * (Json.itemsText first items).length ≤ bound) :
    readItems? bound depth first (Json.itemsText first items ++ rest) = some (items, rest) := by
  induction items generalizing first bound with
  | nil =>
    obtain ⟨bound, rfl⟩ : ∃ b, bound = b + 1 :=
      ⟨bound - 1, by rw [Json.itemsText, List.length_singleton] at hbound; omega⟩
    rfl
  | cons item items ih =>
    obtain ⟨hitem, hitems⟩ := List.forall_mem_cons.1 h
    obtain ⟨c, u, hnext, hc⟩ := exists_itemsText_false items
    obtain ⟨_, _, htext, -⟩ := hitem.starts
    have hpos : 0 < item.text.length ∧ 0 < (Json.itemsText false items).length := by
      rw [htext, hnext]
      exact ⟨Nat.succ_pos _, Nat.succ_pos _⟩
    simp only [Json.itemsText, List.length_append] at hbound
    obtain ⟨bound, rfl⟩ : ∃ b, bound = b + 1 := ⟨bound - 1, by omega⟩
    have hread := hitem.reads bound c (u ++ rest) (by omega) hc
    rw [← List.cons_append, ← hnext] at hread
    rw [Json.itemsText, List.append_assoc, List.append_assoc, readItems?_comma bound depth first,
      hread]
    · simp only [Option.bind_eq_bind, Option.bind_some]
      rw [ih hitems false (by omega)]
      rfl
    · obtain ⟨d, v, hd, hspace, hends⟩ := hitem.starts
      exact ⟨d, _, by rw [hd]; rfl, hspace, hends⟩

/-- What is read of an object behind the quote that opens the name of a field. -/
def readField? (bound depth : Nat) (rest : Text) : Option (Json.Fields × Text) := do
  let (name, rest) ← readString? rest.length.succ rest
  match skip rest with
  | ':' :: rest =>
    let (value, rest) ← readValue? bound depth rest
    let (members, rest) ← readMembers? bound depth false rest
    return ((name, value) :: members, rest)
  | _ => none

theorem readMembers?_comma (bound depth : Nat) (first : Bool) (rest : Text) :
    readMembers? (bound + 1) depth first (comma first ++ '\x22' :: rest) = readField? bound depth rest := by
  cases first <;> rfl

/-- A field is read after its comma, and the rest of the object after it. -/
theorem readMembers?_ofString (bound depth : Nat) (first : Bool) (name t : Text) :
    readMembers? (bound + 1) depth first (comma first ++ (ofString name ++ ':' :: t)) = (do
      let (value, rest) ← readValue? bound depth t
      let (members, rest) ← readMembers? bound depth false rest
      return ((name, value) :: members, rest)) := by
  rw [ofString_append, readMembers?_comma, readField?, readString?_ofString rfl]
  rfl

theorem exists_membersText_false (members : Json.Fields) :
    ∃ c u, Json.membersText false members = c :: u ∧ endsScalar c = true := by
  cases members
  · exact ⟨'\x7d', [], rfl, rfl⟩
  · exact ⟨',', _, rfl, rfl⟩

/-- The fields of an object are read up to its end, if the value of each is. -/
theorem readMembers?_membersText {depth : Nat} {members : Json.Fields}
    (h : ∀ m ∈ members, ReadsAs depth m.2.text m.2) (first : Bool) (rest : Text) {bound : Nat}
    (hbound : 2 * (Json.membersText first members).length ≤ bound) :
    readMembers? bound depth first (Json.membersText first members ++ rest) = some (members, rest) := by
  induction members generalizing first bound with
  | nil =>
    obtain ⟨bound, rfl⟩ : ∃ b, bound = b + 1 :=
      ⟨bound - 1, by rw [Json.membersText, List.length_singleton] at hbound; omega⟩
    rfl
  | cons member members ih =>
    obtain ⟨name, value⟩ := member
    obtain ⟨hvalue, hmembers⟩ := List.forall_mem_cons.1 h
    obtain ⟨c, u, hnext, hc⟩ := exists_membersText_false members
    have hpos : 0 < (Json.membersText false members).length := by
      rw [hnext]
      exact Nat.succ_pos _
    simp only [Json.membersText, List.length_append, List.length_cons] at hbound
    obtain ⟨bound, rfl⟩ : ∃ b, bound = b + 1 := ⟨bound - 1, by omega⟩
    have hread := hvalue.reads bound c (u ++ rest) (by dsimp only; omega) hc
    rw [← List.cons_append, ← hnext] at hread
    rw [Json.membersText, List.append_assoc, List.append_assoc, List.append_assoc, List.cons_append,
      readMembers?_ofString, hread]
    simp only [Option.bind_eq_bind, Option.bind_some]
    rw [ih hmembers false (by omega)]
    rfl

theorem readsAs_arr {depth : Nat} {items : List Json} (h : ∀ j ∈ items, ReadsAs depth j.text j) :
    ReadsAs (depth + 1) (Json.arr items).text (.arr items) := by
  refine ⟨⟨'[', _, rfl, by decide, by decide⟩, ?_⟩
  intro bound c rest hbound _
  rw [Json.text, List.length_cons] at hbound
  obtain ⟨bound, rfl⟩ : ∃ b, bound = b + 1 := ⟨bound - 1, by omega⟩
  rw [Json.text, List.cons_append, readValue?, skip_of_not_space (by decide)]
  simp only [readItems?_itemsText h true (c :: rest) (show _ ≤ bound by omega)]
  rfl

theorem readValue?_obj {depth : Nat} {members : Json.Fields}
    (h : ∀ m ∈ members, ReadsAs depth m.2.text m.2) (rest : Text) {bound : Nat}
    (hbound : 2 * (Json.obj members).text.length ≤ bound) :
    readValue? bound (depth + 1) ((Json.obj members).text ++ rest) = some (.obj members, rest) := by
  rw [Json.text, List.length_cons] at hbound
  obtain ⟨bound, rfl⟩ : ∃ b, bound = b + 1 := ⟨bound - 1, by omega⟩
  rw [Json.text, List.cons_append, readValue?, skip_of_not_space (by decide)]
  simp only [readMembers?_membersText h true rest (show _ ≤ bound by omega)]
  rfl

theorem readsAs_obj {depth : Nat} {members : Json.Fields}
    (h : ∀ m ∈ members, ReadsAs depth m.2.text m.2) :
    ReadsAs (depth + 1) (Json.obj members).text (.obj members) :=
  ⟨⟨'\x7b', _, rfl, by decide, by decide⟩, fun _ _ _ hbound _ => readValue?_obj h _ hbound⟩

end JsonText

namespace Json

open JsonText

/-! ### Values that are read back -/

/-- A value with natural numbers only and without a scalar that has no meaning, nested no more
deeply than given. -/
inductive Plain : Nat → Json → Prop
  | null (depth : Nat) : Plain depth .null
  | bool (depth : Nat) (b : Bool) : Plain depth (.bool b)
  | num (depth n : Nat) : Plain depth (.num n)
  | str (depth : Nat) (t : Text) : Plain depth (.str t)
  | arr {depth : Nat} {items : List Json} (h : ∀ j ∈ items, Plain depth j) :
    Plain (depth + 1) (.arr items)
  | obj {depth : Nat} {members : Fields} (h : ∀ m ∈ members, Plain depth m.2) :
    Plain (depth + 1) (.obj members)

theorem Plain.ofOption {α : Type} {depth : Nat} {write : α → Json} (h : ∀ a, Plain depth (write a)) :
    ∀ o, Plain depth (ofOption write o)
  | none => .null depth
  | some a => h a

theorem Plain.map {α : Type} {depth : Nat} {write : α → Json} (h : ∀ a, Plain depth (write a))
    (items : List α) : Plain (depth + 1) (.arr (items.map write)) :=
  .arr fun _ hj => by
    obtain ⟨a, -, rfl⟩ := List.mem_map.1 hj
    exact h a

/-- A plain value that is written is read back. -/
theorem Plain.readsAs {depth : Nat} {j : Json} (h : Plain depth j) : ReadsAs depth j.text j := by
  induction h with
  | null depth => exact readsAs_null depth
  | bool depth b => exact readsAs_bool depth b
  | num depth n => exact readsAs_num depth n
  | str depth t => exact readsAs_str depth t
  | arr _ ih => exact readsAs_arr ih
  | obj _ ih => exact readsAs_obj ih

/-- **An object that is written is read back.** -/
theorem read?_text {members : Fields} (h : ∀ m ∈ members, Plain 126 m.2) :
    read? (Json.obj members).text = some (.obj members) := by
  have hread := readValue?_obj (fun m hm => (h m hm).readsAs) []
    (show _ ≤ 2 * (Json.obj members).text.length + 2 by omega)
  rw [List.append_nil] at hread
  rw [read?, maxDepth, hread]
  rfl

end Json

end ReviewRouter
