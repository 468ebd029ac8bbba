import ReviewRouter.Proofs.Percent

/-!
# Two layers of percent coding

A path segment is escaped twice, and then some of the escapes are made readable again.  No
replacement reaches over two characters, so the whole is a map on characters.

* `segmentChar` / `escapeSegment_eq_flatMap` — **the escaped segment, character by character**;
* `segmentChar_eq`, `escapeSegment_append` — what each character is written as, and texts part by part;
* `readableChar` / `readable` — the segment after one layer is undone, as routes see it;
* `unescape_escapeSegment_append` — the first layer is undone to the readable form;
* `unescapeValue_readable_append` — and the second one to the segment itself;
* `readable_split` — a slash or a space in the readable form stands for itself.
-/

namespace ReviewRouter.Percent

open Utf8 (encodeChar)

/-! ### Tokens -/

/-- A piece of a text that was escaped twice: one character, or a byte. -/
def IsToken (k : Text) : Prop :=
  (∃ c, c ≠ '%' ∧ k = [c]) ∨
    ∃ high low, k = ['%', '2', '5', high, low] ∧ high ≠ '%' ∧ low ≠ '%'

/-- Replacing one byte by a text is done token by token. -/
theorem replaceAll_flatten (high low : Char) (fresh : Text) (ks : List Text)
    (hks : ∀ k ∈ ks, IsToken k) :
    Text.replaceAll ['%', '2', '5', high, low] fresh ks.flatten =
      (ks.map fun k => if k = ['%', '2', '5', high, low] then fresh else k).flatten := by
  have hplain : ∀ c (t : Text), c ≠ '%' →
      Text.replaceFrom ['%', '2', '5', high, low] fresh 0 (c :: t) =
        c :: Text.replaceFrom ['%', '2', '5', high, low] fresh 0 t := by
    intro c t hc
    rw [Text.replaceFrom, if_neg]
    simp [List.isPrefixOf, Ne.symm hc]
  induction ks with
  | nil => rfl
  | cons k ks ih =>
    have ihk := ih fun k' hk' => hks k' (List.mem_cons_of_mem k hk')
    simp only [Text.replaceAll] at ihk ⊢
    rw [List.flatten_cons, List.map_cons, List.flatten_cons, ← ihk]
    rcases hks k List.mem_cons_self with ⟨c, hc, rfl⟩ | ⟨h, l, rfl, hh, hl⟩
    · rw [if_neg (by simp), List.singleton_append, hplain c _ hc]
      rfl
    · simp only [List.cons_append, List.nil_append]
      by_cases heq : h = high ∧ l = low
      · obtain ⟨rfl, rfl⟩ := heq
        rw [if_pos rfl, Text.replaceFrom, if_pos (by simp [List.isPrefixOf])]
        rfl
      · have hne : ['%', '2', '5', h, l] ≠ ['%', '2', '5', high, low] := by
          intro hkl
          simp only [List.cons.injEq, and_true, true_and] at hkl
          exact heq hkl
        rw [if_neg hne, Text.replaceFrom, if_neg, hplain '2' _ (by decide), hplain '5' _ (by decide),
          hplain h _ hh, hplain l _ hl]
        · rfl
        · simp only [List.isPrefixOf, beq_self_eq_true, Bool.true_and, Bool.and_true,
            Bool.and_eq_true, beq_iff_eq]
          rintro ⟨h1, h2⟩
          exact heq ⟨h1.symm, h2.symm⟩

/-! ### Characters of a segment -/

/-- A byte, escaped twice. -/
def segmentByte (b : UInt8) : Text :=
  ['%', '2', '5', hexDigit (b.toNat / 16), hexDigit (b.toNat % 16)]

/-- What a character of a segment is written as. -/
def segmentChar (keepSlashes : Bool) (c : Char) : Text :=
  if c = ':' then [':']
  else if c = ' ' then ['+']
  else if keepSlashes = true ∧ c = '/' then ['/']
  else if isUnescaped c then [c]
  else (encodeChar c).flatMap segmentByte

/-- The tokens of a character. -/
def tokens (c : Char) : List Text :=
  if isUnescaped c then [[c]] else (encodeChar c).map segmentByte

theorem isUnescaped_hexDigit : ∀ n < 16, isUnescaped (hexDigit n) = true := by
  decide

theorem escape_cons (c : Char) (t : Text) : escape (c :: t) = escapeChar c ++ escape t :=
  List.flatMap_cons

theorem escape_append (a b : Text) : escape (a ++ b) = escape a ++ escape b :=
  List.flatMap_append

theorem escapeChar_of_isUnescaped {c : Char} (h : isUnescaped c = true) : escapeChar c = [c] :=
  if_pos h

theorem escape_escapeByte (b : UInt8) : escape (escapeByte b) = segmentByte b := by
  have hb := b.toNat_lt
  have hhigh := escapeChar_of_isUnescaped (isUnescaped_hexDigit (b.toNat / 16) (by omega))
  have hlow := escapeChar_of_isUnescaped (isUnescaped_hexDigit (b.toNat % 16) (by omega))
  rw [escapeByte, escape_cons, escape_cons, escape_cons, hhigh, hlow]
  rfl

theorem escape_escapeChar (c : Char) : escape (escapeChar c) = (tokens c).flatten := by
  unfold escapeChar tokens
  split
  · next h =>
    rw [escape_cons, escapeChar_of_isUnescaped h]
    rfl
  · generalize encodeChar c = bs
    induction bs with
    | nil => rfl
    | cons b bs ih =>
      rw [List.flatMap_cons, escape_append, escape_escapeByte, ih]
      rfl

theorem escape_escape (t : Text) : escape (escape t) = (t.flatMap tokens).flatten := by
  induction t with
  | nil => rfl
  | cons c t ih =>
    rw [escape_cons, escape_append, escape_escapeChar, ih, List.flatMap_cons, List.flatten_append]

theorem hexDigit_ne_percent : ∀ n < 16, hexDigit n ≠ '%' := by
  decide

theorem isToken_of_mem_tokens {c : Char} {k : Text} (h : k ∈ tokens c) : IsToken k := by
  unfold tokens at h
  split at h
  · next hc =>
    rw [List.mem_singleton] at h
    exact Or.inl ⟨c, ne_percent_of_isUnescaped hc, h⟩
  · obtain ⟨b, -, rfl⟩ := List.mem_map.1 h
    have hb := b.toNat_lt
    exact Or.inr ⟨_, _, rfl, hexDigit_ne_percent _ (by omega), hexDigit_ne_percent _ (by omega)⟩

/-! ### The escaped segment -/

/-- One replacement of a token that stands for a byte. -/
def settleByte (b : UInt8) (fresh : Char) (k : Text) : Text :=
  if k = segmentByte b then [fresh] else k

theorem isToken_settleByte (b : UInt8) {fresh : Char} (hfresh : fresh ≠ '%') {k : Text}
    (h : IsToken k) : IsToken (settleByte b fresh k) := by
  unfold settleByte
  split
  · exact Or.inl ⟨fresh, hfresh, rfl⟩
  · exact h

/-- All replacements on one token. -/
def settleToken (keepSlashes : Bool) (k : Text) : Text :=
  let k := settleByte 0x20 '+' (settleByte 0x3A ':' k)
  if keepSlashes then settleByte 0x2F '/' k else k

theorem segmentByte_injective {b b' : UInt8} (h : segmentByte b = segmentByte b') : b = b' := by
  simp only [segmentByte, List.cons.injEq, and_true, true_and] at h
  have hb := hexByte?_escaped b
  rw [h.1, h.2, hexByte?_escaped b'] at hb
  exact (Option.some.inj hb).symm

theorem settleByte_segmentByte (b b' : UInt8) (fresh : Char) :
    settleByte b fresh (segmentByte b') = if b' = b then [fresh] else segmentByte b' := by
  unfold settleByte
  by_cases h : b' = b
  · rw [if_pos (congrArg segmentByte h), if_pos h]
  · rw [if_neg (fun heq => h (segmentByte_injective heq)), if_neg h]

theorem settleByte_single (b : UInt8) (fresh c : Char) : settleByte b fresh [c] = [c] :=
  if_neg (by simp [segmentByte])

theorem settleToken_single (keepSlashes : Bool) (c : Char) : settleToken keepSlashes [c] = [c] := by
  cases keepSlashes <;> simp only [settleToken, settleByte_single] <;> rfl

theorem settleToken_segmentByte (keepSlashes : Bool) (b : UInt8) :
    settleToken keepSlashes (segmentByte b) =
      if b = 0x3A then [':'] else if b = 0x20 then ['+']
      else if keepSlashes = true ∧ b = 0x2F then ['/'] else segmentByte b := by
  unfold settleToken
  rw [settleByte_segmentByte]
  by_cases h1 : b = 0x3A
  · rw [if_pos h1, if_pos h1]
    cases keepSlashes <;> simp only [settleByte_single] <;> rfl
  · rw [if_neg h1, if_neg h1, settleByte_segmentByte]
    by_cases h2 : b = 0x20
    · rw [if_pos h2, if_pos h2]
      cases keepSlashes <;> simp only [settleByte_single] <;> rfl
    · rw [if_neg h2, if_neg h2]
      cases keepSlashes
      · rfl
      · simp only [if_true, settleByte_segmentByte, true_and]

theorem escapeSegment_eq_flatten (keepSlashes : Bool) (t : Text) :
    escapeSegment keepSlashes t = ((t.flatMap tokens).map (settleToken keepSlashes)).flatten := by
  have hks : ∀ k ∈ t.flatMap tokens, IsToken k := by
    intro k hk
    obtain ⟨c, -, hc⟩ := List.mem_flatMap.1 hk
    exact isToken_of_mem_tokens hc
  have hreplace : ∀ (b : UInt8) (fresh : Char) (f : Text → Text),
      (∀ k, IsToken k → IsToken (f k)) →
      Text.replaceAll (segmentByte b) [fresh] ((t.flatMap tokens).map f).flatten =
        ((t.flatMap tokens).map fun k => settleByte b fresh (f k)).flatten := by
    intro b fresh f hf
    rw [segmentByte, replaceAll_flatten]
    · rw [List.map_map]
      rfl
    · intro k hk
      obtain ⟨k', hk', rfl⟩ := List.mem_map.1 hk
      exact hf k' (hks k' hk')
  have hcolon := hreplace 0x3A ':' id fun k hk => hk
  have hplus := hreplace 0x20 '+' (settleByte 0x3A ':') fun k hk =>
    isToken_settleByte 0x3A (by decide) hk
  have hslash := hreplace 0x2F '/' (fun k => settleByte 0x20 '+' (settleByte 0x3A ':' k))
    fun k hk => isToken_settleByte 0x20 (by decide) (isToken_settleByte 0x3A (by decide) hk)
  rw [List.map_id] at hcolon
  unfold escapeSegment
  rw [escape_escape]
  show (if keepSlashes then Text.replaceAll (segmentByte 0x2F) ['/'] _ else _) = _
  rw [show Text.replaceAll "%2520".toList "+".toList (Text.replaceAll "%253A".toList ":".toList
      (t.flatMap tokens).flatten) = ((t.flatMap tokens).map fun k =>
        settleByte 0x20 '+' (settleByte 0x3A ':' k)).flatten from by
    rw [← hplus]
    exact congrArg (Text.replaceAll _ _) hcolon]
  cases keepSlashes
  · rfl
  · exact hslash

theorem settle_tokens (keepSlashes : Bool) (c : Char) :
    ((tokens c).map (settleToken keepSlashes)).flatten = segmentChar keepSlashes c := by
  by_cases hc : isUnescaped c = true
  · have hne : c ≠ ':' ∧ c ≠ ' ' ∧ c ≠ '/' := by
      refine ⟨?_, ?_, ?_⟩ <;> rintro rfl <;> exact absurd hc (by decide)
    rw [tokens, if_pos hc, segmentChar, if_neg hne.1, if_neg hne.2.1, if_neg (fun h => hne.2.2 h.2),
      if_pos hc, List.map_singleton, settleToken_single]
    rfl
  · rw [tokens, if_neg hc, segmentChar, List.map_map]
    by_cases h1 : c = ':'
    · subst h1
      cases keepSlashes <;> rfl
    by_cases h2 : c = ' '
    · subst h2
      cases keepSlashes <;> rfl
    rw [if_neg h1, if_neg h2]
    by_cases h3 : keepSlashes = true ∧ c = '/'
    · obtain ⟨rfl, rfl⟩ := h3
      rfl
    rw [if_neg h3, if_neg hc, List.flatMap_def]
    congr 1
    refine List.map_congr_left fun b hb => ?_
    -- a byte of ASCII is the character itself, and that is none of the three
    have hself : b.toNat < 0x80 → Char.ofNat b.toNat = c := by
      intro hlt
      rw [← Utf8.toNat_of_mem_encodeChar hb hlt]
      exact Char.ofNat_toNat c
    rw [Function.comp_apply, settleToken_segmentByte, if_neg, if_neg, if_neg]
    · rintro ⟨hkeep, rfl⟩
      exact h3 ⟨hkeep, (hself (by decide)).symm⟩
    · rintro rfl
      exact h2 (hself (by decide)).symm
    · rintro rfl
      exact h1 (hself (by decide)).symm

/-- **The escaped segment, character by character.** -/
theorem escapeSegment_eq_flatMap (keepSlashes : Bool) (t : Text) :
    escapeSegment keepSlashes t = t.flatMap (segmentChar keepSlashes) := by
  rw [escapeSegment_eq_flatten]
  induction t with
  | nil => rfl
  | cons c t ih =>
    rw [List.flatMap_cons, List.map_append, List.flatten_append, ih, settle_tokens,
      List.flatMap_cons]

theorem escapeSegment_append (keepSlashes : Bool) (a b : Text) :
    escapeSegment keepSlashes (a ++ b) = escapeSegment keepSlashes a ++ escapeSegment keepSlashes b := by
  rw [escapeSegment_eq_flatMap, escapeSegment_eq_flatMap, escapeSegment_eq_flatMap, List.flatMap_append]

/-- One layer leaves a character alone exactly if it is in the safe set. -/
theorem escape_singleton_eq_iff {c : Char} : escape [c] = [c] ↔ isUnescaped c = true := by
  rw [escape, List.flatMap_singleton]
  refine ⟨fun h => ?_, escapeChar_of_isUnescaped⟩
  unfold escapeChar at h
  split at h
  · assumption
  · -- what is escaped has three characters for its first byte
    obtain ⟨b, bs, hb, -⟩ := Utf8.encodeChar_starts c
    rw [hb, List.flatMap_cons] at h
    cases h

/-- What a character is written as depends on whether one layer leaves it alone, and on the marks that
are made readable. -/
theorem segmentChar_eq (keepSlashes : Bool) (c : Char) :
    segmentChar keepSlashes c =
      if escape [c] = [c] then [c]
      else if c = ':' then [':']
      else if c = ' ' then ['+']
      else if keepSlashes = true ∧ c = '/' then ['/']
      else (encodeChar c).flatMap segmentByte := by
  unfold segmentChar
  by_cases hc : isUnescaped c = true
  · have hmark : ∀ d : Char, isUnescaped d = false → c ≠ d := by
      rintro d hd rfl
      rw [hd] at hc
      cases hc
    rw [if_neg (hmark ':' (by decide)), if_neg (hmark ' ' (by decide)),
      if_neg (fun h => hmark '/' (by decide) h.2), if_pos hc, if_pos (escape_singleton_eq_iff.2 hc)]
  · rw [if_neg hc, if_neg (fun h => hc (escape_singleton_eq_iff.1 h))]

/-- **What is written of a text is written character by character.**  A character that one layer leaves
alone stands for itself, colons, spaces and perhaps slashes are made readable, and of any other every byte
is escaped twice.  So a text is written as its parts are, whatever the parts look like. -/
theorem escapeSegment_characterwise (keepSlashes : Bool) :
    (∀ t : Text, escapeSegment keepSlashes t = t.flatMap fun c =>
      if escape [c] = [c] then [c]
      else if c = ':' then [':']
      else if c = ' ' then ['+']
      else if keepSlashes = true ∧ c = '/' then ['/']
      else (encodeChar c).flatMap fun b =>
        ['%', '2', '5', hexDigit (b.toNat / 16), hexDigit (b.toNat % 16)]) ∧
      ∀ a b : Text, escapeSegment keepSlashes (a ++ b) =
        escapeSegment keepSlashes a ++ escapeSegment keepSlashes b := by
  refine ⟨fun t => ?_, escapeSegment_append keepSlashes⟩
  rw [escapeSegment_eq_flatMap]
  exact congrArg (List.flatMap · t) (funext (segmentChar_eq keepSlashes))

/-- What looks like an escape is escaped again. -/
example : escapeSegment true "%20 /é" = "%252520+/%25C3%25A9" := by
  decide

/-! ### The readable form -/

/-- What a character of a segment looks like to a route. -/
def readableChar (keepSlashes : Bool) (c : Char) : Text :=
  if c = ' ' then ['+']
  else if c = ':' ∨ (keepSlashes = true ∧ c = '/') then [c]
  else escapeChar c

/-- A segment as it looks to a route: escaped once, but for the marks made readable. -/
def readable (keepSlashes : Bool) (t : Text) : Text :=
  t.flatMap (readableChar keepSlashes)

theorem readable_append (keepSlashes : Bool) (s t : Text) :
    readable keepSlashes (s ++ t) = readable keepSlashes s ++ readable keepSlashes t :=
  List.flatMap_append

theorem unescape_segmentByte_append (b : UInt8) (t : Text) :
    unescape (segmentByte b ++ t) = escapeByte b ++ unescape t := by
  have hb := b.toNat_lt
  have hpercent : ∀ u, unescape ('%' :: '2' :: '5' :: u) = '%' :: unescape u := by
    intro u
    show Utf8.decode (bytes (escapeByte 0x25 ++ u)) = _
    rw [bytes_escapeByte_append]
    exact Utf8.decodeFrom_none_encodeChar '%' (bytes u)
  rw [segmentByte]
  simp only [List.cons_append, List.nil_append]
  rw [hpercent, unescape_cons (hexDigit_ne_percent _ (by omega)),
    unescape_cons (hexDigit_ne_percent _ (by omega))]
  rfl

theorem unescape_segmentChar_append (keepSlashes : Bool) (c : Char) (t : Text) :
    unescape (segmentChar keepSlashes c ++ t) = readableChar keepSlashes c ++ unescape t := by
  unfold segmentChar readableChar
  by_cases h1 : c = ':'
  · subst h1
    exact unescape_cons (by decide) t
  by_cases h2 : c = ' '
  · subst h2
    exact unescape_cons (by decide) t
  by_cases h3 : keepSlashes = true ∧ c = '/'
  · rw [if_neg h1, if_neg h2, if_pos h3, if_neg h2, if_pos (Or.inr h3), h3.2]
    exact unescape_cons (by decide) t
  rw [if_neg h1, if_neg h2, if_neg h3, if_neg h2, if_neg (not_or.2 ⟨h1, h3⟩), escapeChar]
  split
  · next h => exact unescape_cons (ne_percent_of_isUnescaped h) t
  · generalize encodeChar c = bs
    induction bs with
    | nil => rfl
    | cons b bs ih =>
      rw [List.flatMap_cons, List.flatMap_cons, List.append_assoc, unescape_segmentByte_append, ih,
        List.append_assoc]

/-- The first layer is undone to the readable form. -/
theorem unescape_escapeSegment_append (keepSlashes : Bool) (s t : Text) :
    unescape (escapeSegment keepSlashes s ++ t) = readable keepSlashes s ++ unescape t := by
  rw [escapeSegment_eq_flatMap]
  induction s with
  | nil => rfl
  | cons c s ih =>
    rw [List.flatMap_cons, List.append_assoc, unescape_segmentChar_append, ih, readable, readable,
      List.flatMap_cons, List.append_assoc]

/-- The characters of an escaped text. -/
theorem mem_escapeChar {c d : Char} (h : d ∈ escapeChar c) : isUnescaped d = true ∨ d = '%' := by
  unfold escapeChar at h
  split at h
  · next hc =>
    obtain rfl := List.mem_singleton.1 h
    exact Or.inl hc
  · obtain ⟨b, -, hb⟩ := List.mem_flatMap.1 h
    have hlt := b.toNat_lt
    simp only [escapeByte, List.mem_cons, List.not_mem_nil, or_false] at hb
    rcases hb with rfl | rfl | rfl
    · exact Or.inr rfl
    · exact Or.inl (isUnescaped_hexDigit _ (by omega))
    · exact Or.inl (isUnescaped_hexDigit _ (by omega))

theorem not_mem_escapeChar {d : Char} (hd : isUnescaped d = false) (hne : d ≠ '%') (c : Char) :
    d ∉ escapeChar c := by
  intro h
  rcases mem_escapeChar h with h | h
  · rw [hd] at h
    cases h
  · exact hne h

theorem unescapeValue_escapeChar_append (c : Char) (t : Text) :
    unescapeValue (escapeChar c ++ t) = c :: unescapeValue t := by
  rw [unescapeValue, substitute_append, 
    substitute_of_not_mem ' ' _ (not_mem_escapeChar (by decide) (by decide) c),
    unescape, bytes_escapeChar_append, Utf8.decode, Utf8.decodeFrom_none_encodeChar]
  rfl

/-- What is escaped once is a value again. -/
theorem unescapeValue_escape (s : Text) : unescapeValue (escape s) = s := by
  induction s with
  | nil => rfl
  | cons c s ih => rw [escape_cons, unescapeValue_escapeChar_append, ih]

theorem unescapeValue_readableChar_append (keepSlashes : Bool) (c : Char) (t : Text) :
    unescapeValue (readableChar keepSlashes c ++ t) = c :: unescapeValue t := by
  unfold readableChar
  split
  · next h =>
    subst h
    exact unescape_cons (by decide) _
  · split
    · next h =>
      rcases h with rfl | ⟨-, rfl⟩
      · exact unescapeValue_cons (by decide) (by decide) t
      · exact unescapeValue_cons (by decide) (by decide) t
    · exact unescapeValue_escapeChar_append c t

/-- **The second layer is undone to the segment itself.** -/
theorem unescapeValue_readable_append (keepSlashes : Bool) (s t : Text) :
    unescapeValue (readable keepSlashes s ++ t) = s ++ unescapeValue t := by
  induction s with
  | nil => rfl
  | cons c s ih =>
    rw [readable, List.flatMap_cons, List.append_assoc, unescapeValue_readableChar_append, ← readable,
      ih]
    rfl

theorem unescapeValue_readable (keepSlashes : Bool) (s : Text) :
    unescapeValue (readable keepSlashes s) = s := by
  have h := unescapeValue_readable_append keepSlashes s []
  rwa [List.append_nil, show unescapeValue [] = [] from rfl, List.append_nil] at h

/-- What is left of the readable form when it is unescaped as a path: a plus sign stays one. -/
theorem unescape_readable_append (keepSlashes : Bool) (s t : Text) :
    unescape (readable keepSlashes s ++ t) = Text.substitute ' ' '+' s ++ unescape t := by
  induction s with
  | nil => rfl
  | cons c s ih =>
    have hchar : unescape (readableChar keepSlashes c ++ (readable keepSlashes s ++ t)) =
        (if c = ' ' then '+' else c) :: unescape (readable keepSlashes s ++ t) := by
      unfold readableChar
      split
      · exact unescape_cons (by decide) _
      · split
        · next hkept =>
          refine unescape_cons ?_ _
          rintro rfl
          rcases hkept with hcolon | ⟨-, hslash⟩
          · exact absurd hcolon (by decide)
          · exact absurd hslash (by decide)
        · exact unescape_escapeChar_append c _
    rw [readable, List.flatMap_cons, List.append_assoc, ← readable, hchar, ih]
    rfl

theorem unescape_readable (keepSlashes : Bool) (s : Text) :
    unescape (readable keepSlashes s) = Text.substitute ' ' '+' s := by
  have h := unescape_readable_append keepSlashes s []
  rwa [unescape_nil, List.append_nil, List.append_nil] at h

/-! ### Delimiters -/

/-- The characters of readable and of escaped segments. -/
def isSegmentChar (c : Char) : Bool :=
  isUnescaped c || c == '%' || c == ':' || c == '+' || c == '/'

theorem isSegmentChar_of_mem_escapeChar {c d : Char} (h : d ∈ escapeChar c) :
    isSegmentChar d = true := by
  rcases mem_escapeChar h with h | rfl
  · simp only [isSegmentChar, h, Bool.true_or]
  · decide

theorem isSegmentChar_of_mem_readable {keepSlashes : Bool} {s : Text} {d : Char}
    (h : d ∈ readable keepSlashes s) : isSegmentChar d = true := by
  obtain ⟨c, -, hd⟩ := List.mem_flatMap.1 h
  unfold readableChar at hd
  split at hd
  · obtain rfl := List.mem_singleton.1 hd
    decide
  · split at hd
    · next hc =>
      obtain rfl := List.mem_singleton.1 hd
      rcases hc with rfl | ⟨-, rfl⟩ <;> decide
    · exact isSegmentChar_of_mem_escapeChar hd

/-- Slashes are escaped as well, unless they are kept. -/
theorem slash_not_mem_readable (s : Text) : '/' ∉ readable false s := by
  intro h
  obtain ⟨c, -, hc⟩ := List.mem_flatMap.1 h
  unfold readableChar at hc
  split at hc
  · exact absurd hc (by decide)
  · split at hc
    · next hcolon =>
      rcases hcolon with rfl | ⟨hfalse, -⟩
      · exact absurd hc (by decide)
      · cases hfalse
    · exact not_mem_escapeChar (by decide) (by decide) c hc

theorem isSegmentChar_of_mem_escapeSegment {keepSlashes : Bool} {s : Text} {d : Char}
    (h : d ∈ escapeSegment keepSlashes s) : isSegmentChar d = true := by
  have hdigit : ∀ n < 16, isSegmentChar (hexDigit n) = true := by decide
  rw [escapeSegment_eq_flatMap] at h
  obtain ⟨c, -, hd⟩ := List.mem_flatMap.1 h
  unfold segmentChar at hd
  split_ifs at hd with h1 h2 h3 h4
  · obtain rfl := List.mem_singleton.1 hd
    decide
  · obtain rfl := List.mem_singleton.1 hd
    decide
  · obtain rfl := List.mem_singleton.1 hd
    decide
  · obtain rfl := List.mem_singleton.1 hd
    simp only [isSegmentChar, h4, Bool.true_or]
  · obtain ⟨b, -, hb⟩ := List.mem_flatMap.1 hd
    have hlt := b.toNat_lt
    simp only [segmentByte, List.mem_cons, List.not_mem_nil, or_false] at hb
    rcases hb with rfl | rfl | rfl | rfl | rfl
    · decide
    · decide
    · decide
    · exact hdigit _ (by omega)
    · exact hdigit _ (by omega)

/-- Where a mark that only one character is written as occurs, that character stood. -/
theorem flatMap_split {f : Char → Text} {c d : Char} (hc : f c = [d])
    (hne : ∀ e, e ≠ c → d ∉ f e) (t : Text) :
    ∀ a b, t.flatMap f = a ++ d :: b →
      ∃ s u, t = s ++ c :: u ∧ s.flatMap f = a ∧ u.flatMap f = b := by
  induction t with
  | nil =>
    intro a b h
    simp at h
  | cons e t ih =>
    intro a b h
    rw [List.flatMap_cons] at h
    by_cases he : e = c
    · subst he
      rw [hc, List.singleton_append] at h
      cases a with
      | nil =>
        obtain ⟨-, rfl⟩ := List.cons.inj h
        exact ⟨[], t, rfl, rfl, rfl⟩
      | cons x a =>
        obtain ⟨rfl, htail⟩ := List.cons.inj h
        obtain ⟨s, u, rfl, rfl, rfl⟩ := ih a b htail
        exact ⟨e :: s, u, rfl, by rw [List.flatMap_cons, hc]; rfl, rfl⟩
    · -- the mark lies behind the text of `e`
      obtain ⟨a', ha, h⟩ : ∃ a', a = f e ++ a' ∧ t.flatMap f = a' ++ d :: b := by
        rcases List.append_eq_append_iff.1 h with ⟨a', ha, h⟩ | ⟨a', ha, h⟩
        · exact ⟨a', ha, h⟩
        · cases a' with
          | nil =>
            rw [List.append_nil] at ha
            exact ⟨[], by rw [ha, List.append_nil], h.symm⟩
          | cons x a' =>
            obtain ⟨rfl, -⟩ := List.cons.inj h
            exact absurd (ha ▸ List.mem_append_right a List.mem_cons_self) (hne e he)
      obtain ⟨s, u, rfl, rfl, rfl⟩ := ih a' b h
      exact ⟨e :: s, u, rfl, by rw [List.flatMap_cons, ha], rfl⟩

/-- A slash in the readable form is one of the segment. -/
theorem readable_eq_slash {s a b : Text} (h : readable true s = a ++ '/' :: b) :
    ∃ x y, s = x ++ '/' :: y ∧ readable true x = a ∧ readable true y = b := by
  refine flatMap_split (f := readableChar true) rfl ?_ s a b h
  intro e he
  unfold readableChar
  split_ifs with h1 h2
  · decide
  · rw [List.mem_singleton]
    exact Ne.symm he
  · exact not_mem_escapeChar (by decide) (by decide) e

/-- Only a space is written as a plus sign. -/
theorem plus_not_mem_readableChar (keepSlashes : Bool) {c : Char} (hc : c ≠ ' ') :
    '+' ∉ readableChar keepSlashes c := by
  rw [readableChar, if_neg hc]
  split
  · next hkept =>
    rw [List.mem_singleton]
    rintro rfl
    rcases hkept with hcolon | ⟨-, hslash⟩
    · exact absurd hcolon (by decide)
    · exact absurd hslash (by decide)
  · exact not_mem_escapeChar (by decide) (by decide) c

/-- A plus sign in the readable form is a space of the segment. -/
theorem readable_eq_plus {s a b : Text} (h : readable true s = a ++ '+' :: b) :
    ∃ x y, s = x ++ ' ' :: y ∧ readable true x = a ∧ readable true y = b :=
  flatMap_split (f := readableChar true) rfl (fun _ => plus_not_mem_readableChar true) s a b h

/-- A character of a segment is written as a plus sign, as itself or with an escape. -/
theorem readableChar_cases (keepSlashes : Bool) (c : Char) :
    readableChar keepSlashes c = ['+'] ∨ readableChar keepSlashes c = [c] ∨
      ∃ t, readableChar keepSlashes c = '%' :: t := by
  unfold readableChar escapeChar
  split_ifs
  · exact Or.inl rfl
  · exact Or.inr (Or.inl rfl)
  · exact Or.inr (Or.inl rfl)
  · obtain ⟨b, bs, hc, -⟩ := Utf8.encodeChar_starts c
    rw [hc]
    exact Or.inr (Or.inr ⟨_, rfl⟩)

/-- What the readable form begins with, the segment begins with, unless that is escaped. -/
theorem prefix_of_prefix_readable {keepSlashes : Bool} {p s : Text} (hplus : '+' ∉ p)
    (hpercent : '%' ∉ p) (h : p <+: readable keepSlashes s) : p <+: s := by
  induction p generalizing s with
  | nil => exact List.nil_prefix
  | cons c p ih =>
    rw [List.mem_cons, not_or] at hplus hpercent
    cases s with
    | nil => exact absurd (List.prefix_nil.1 h) (List.cons_ne_nil c p)
    | cons d s =>
      rw [readable, List.flatMap_cons] at h
      rcases readableChar_cases keepSlashes d with hd | hd | ⟨t, hd⟩
      · rw [hd] at h
        exact absurd (List.cons_prefix_cons.1 h).1.symm hplus.1
      · rw [hd] at h
        obtain ⟨rfl, hp⟩ := List.cons_prefix_cons.1 h
        exact List.cons_prefix_cons.2 ⟨rfl, ih hplus.2 hpercent.2 hp⟩
      · rw [hd] at h
        exact absurd (List.cons_prefix_cons.1 h).1.symm hpercent.1

theorem readable_eq_nil {keepSlashes : Bool} {s : Text} : readable keepSlashes s = [] ↔ s = [] := by
  constructor
  · intro h
    have hread := unescapeValue_readable keepSlashes s
    rw [h] at hread
    exact hread.symm
  · rintro rfl
    rfl

end ReviewRouter.Percent
