import ReviewRouter.Proofs.Numeral
import ReviewRouter.Proofs.Route.Shape

/-!
# Patch ranges in paths

A range stands in a path as one patch set, or as two with two dots between.  A written range is
read back whole, since neither dots nor slashes occur in a patch set.

* `IsPatchText`, `IsBaseText` — the texts that stand for a patch set, and `IsPart`, their characters;
* `IsBaseText.ne_parent`, `IsPatchText.isPatch` — what is read of them;
* `span_unique` — a run of characters ends at the first that is not one of them;
* `rangeText`, `rangeCaptures` — a range in a path and what is captured of it;
* `exists_of_reads_range`, `reads_range` — **the parts of a route for a range read such texts**;
* `rangeText_unique` — and only in one way.
-/

namespace ReviewRouter

open Pattern

/-! ### Runs of characters -/

/-- A run of characters ends at the first that is not one of them. -/
theorem span_unique {P : Char → Prop} {a b x y : Text} (ha : ∀ c ∈ a, P c) (hb : ∀ c ∈ b, P c)
    (hx : ∀ c, x.head? = some c → ¬P c) (hy : ∀ c, y.head? = some c → ¬P c)
    (h : a ++ x = b ++ y) : a = b ∧ x = y := by
  induction a generalizing b with
  | nil =>
    cases b with
    | nil => exact ⟨rfl, h⟩
    | cons d b =>
      rw [List.nil_append] at h
      rw [h] at hx
      exact absurd (hb d List.mem_cons_self) (hx d rfl)
  | cons c a ih =>
    cases b with
    | nil =>
      rw [List.nil_append] at h
      rw [← h] at hy
      exact absurd (ha c List.mem_cons_self) (hy c rfl)
    | cons d b =>
      obtain ⟨rfl, htail⟩ := List.cons.inj h
      obtain ⟨rfl, rfl⟩ := ih (fun e he => ha e (List.mem_cons_of_mem c he))
        (fun e he => hb e (List.mem_cons_of_mem c he)) htail
      exact ⟨rfl, rfl⟩

theorem not_mem_of_isRun {set : CharSet} {c : Char} (hc : set.mem c = false) {w : Text}
    (hw : isRun set w) : c ∉ w := by
  intro h
  rw [hw c h] at hc
  cases hc

/-! ### Patch sets -/

/-- A text of the characters of patch sets. -/
structure IsPart (w : Text) : Prop where
  ne_nil : w ≠ []
  chars : ∀ c ∈ w, isPartChar c = true

theorem IsPart.not_mem {w : Text} (h : IsPart w) {c : Char} (hc : isPartChar c = false) : c ∉ w := by
  intro hmem
  rw [h.chars c hmem] at hc
  cases hc

theorem isPart_edit : IsPart "edit" :=
  ⟨by decide, List.all_eq_true.1 (by decide)⟩

theorem isPart_text {p : PatchSet} (hp : p ≠ .parent) : IsPart p.text :=
  ⟨p.text_ne_nil, fun _ hc => PatchSet.isPartChar_of_mem_text hp hc⟩

theorem spells_lit {t : Text} {before : Option Char} {w after : Text} {cs : List (Text × Text)} :
    (row (lit t)).Spells before w after cs ↔ w = t ∧ cs = [] := by
  rw [spells_row, ← List.append_nil (lit t), reads_lit]
  constructor
  · rintro ⟨v, rfl, rfl, rfl⟩
    exact ⟨List.append_nil t, rfl⟩
  · rintro ⟨rfl, rfl⟩
    exact ⟨[], (List.append_nil w).symm, rfl, rfl⟩

/-- One or more digits. -/
structure IsNumber (w : Text) : Prop where
  ne_nil : w ≠ []
  digits : isRun .digit w

/-- A text that can stand second in a range. -/
def IsPatchText (w : Text) : Prop :=
  IsNumber w ∨ w = "edit"

/-- A text that can stand first; a number may have a sign there. -/
def IsBaseText (w : Text) : Prop :=
  (IsNumber w ∨ ∃ v, w = '-' :: v ∧ IsNumber v) ∨ w = "edit"

theorem reads_number {before : Option Char} {w after : Text} {cs : List (Text × Text)} :
    Reads [plus .digit] before w after cs ↔ IsNumber w ∧ cs = [] := by
  rw [reads_plus]
  constructor
  · rintro ⟨u, v, rfl, hne, hrun, rfl, hcs⟩
    rw [List.append_nil]
    exact ⟨⟨hne, hrun⟩, hcs⟩
  · rintro ⟨hw, hcs⟩
    exact ⟨w, [], (List.append_nil w).symm, hw.ne_nil, hw.digits, rfl, hcs⟩

theorem spells_patchPart {before : Option Char} {w after : Text} {cs : List (Text × Text)} :
    patchPart.Spells before w after cs ↔ IsPatchText w ∧ cs = [] := by
  have hnumber : (plus .digit).Spells before w after cs ↔ IsNumber w ∧ cs = [] :=
    (spells_row [plus .digit] _ _ _ _).trans reads_number
  show (plus .digit).Spells before w after cs ∨ (row (lit "edit")).Spells before w after cs ↔ _
  rw [hnumber, spells_lit]
  exact or_and_right.symm

theorem spells_basePart {before : Option Char} {w after : Text} {cs : List (Text × Text)} :
    basePart.Spells before w after cs ↔ IsBaseText w ∧ cs = [] := by
  have hsigned : (row [maybe (.char (.one '-')), plus .digit]).Spells before w after cs ↔
      (IsNumber w ∨ ∃ v, w = '-' :: v ∧ IsNumber v) ∧ cs = [] := by
    rw [spells_row, reads_maybe_char]
    simp only [reads_number]
    constructor
    · rintro (⟨v, rfl, hv, hcs⟩ | ⟨hw, hcs⟩)
      · exact ⟨Or.inr ⟨v, rfl, hv⟩, hcs⟩
      · exact ⟨Or.inl hw, hcs⟩
    · rintro ⟨hw | ⟨v, rfl, hv⟩, hcs⟩
      · exact Or.inr ⟨hw, hcs⟩
      · exact Or.inl ⟨v, rfl, hv, hcs⟩
  show (row [maybe (.char (.one '-')), plus .digit]).Spells before w after cs ∨
    (row (lit "edit")).Spells before w after cs ↔ _
  rw [hsigned, spells_lit]
  exact or_and_right.symm

theorem IsNumber.isPart {w : Text} (h : IsNumber w) : IsPart w where
  ne_nil := h.ne_nil
  chars c hc := by
    rw [isPartChar, show isDecimalDigit c = true from h.digits c hc]
    rfl

theorem IsPatchText.isPart {w : Text} (h : IsPatchText w) : IsPart w := by
  rcases h with h | rfl
  · exact h.isPart
  · exact isPart_edit

theorem IsBaseText.isPart {w : Text} (h : IsBaseText w) : IsPart w := by
  rcases h with (h | ⟨v, rfl, hv⟩) | rfl
  · exact h.isPart
  · refine ⟨List.cons_ne_nil _ _, ?_⟩
    intro c hc
    rcases List.mem_cons.1 hc with rfl | hc
    · decide
    · exact hv.isPart.chars c hc
  · exact isPart_edit

theorem isRun_ofNat (n : Nat) : isRun .digit (Numeral.ofNat n) :=
  fun _ hc => Numeral.isDecimalDigit_of_isDigit (Numeral.isDigit_of_mem_ofNat hc)

theorem isRun_dot_ofNat (n : Nat) : isRun .dot (Numeral.ofNat n) :=
  isRun_dot_iff.2 (Numeral.not_mem_ofNat (by decide) n)

theorem isNumber_ofNat (n : Nat) : IsNumber (Numeral.ofNat n) :=
  ⟨Numeral.ofNat_ne_nil n, isRun_ofNat n⟩

/-- Every patch set but the parent can stand first in a range. -/
theorem isBaseText_text {p : PatchSet} (hp : p ≠ .parent) : IsBaseText p.text := by
  cases p with
  | parent => exact absurd rfl hp
  | edit => exact Or.inr rfl
  | num n =>
    left
    rw [show (PatchSet.num n).text = Numeral.ofInt n.toInt from rfl]
    cases n.toInt with
    | ofNat m => exact Or.inl (isNumber_ofNat m)
    | negSucc m => exact Or.inr ⟨_, rfl, isNumber_ofNat (m + 1)⟩

/-- The edit and the numbered patch sets, which are not negative. -/
def PatchSet.IsPatch : PatchSet → Prop
  | .parent => False
  | .edit => True
  | .num n => 0 ≤ n.toInt

theorem PatchSet.IsPatch.ne_parent {p : PatchSet} (h : p.IsPatch) : p ≠ .parent := by
  rintro rfl
  exact h

/-- These can stand second. -/
theorem isPatchText_text {p : PatchSet} (hp : p.IsPatch) : IsPatchText p.text := by
  cases p with
  | parent => exact hp.elim
  | edit => exact Or.inr rfl
  | num n =>
    left
    have hnonneg : 0 ≤ n.toInt := hp
    show IsNumber (Numeral.ofInt n.toInt)
    cases hn : n.toInt with
    | ofNat m => exact isNumber_ofNat m
    | negSucc m =>
      rw [hn] at hnonneg
      exact absurd hnonneg (Int.negSucc_not_nonneg m).1

/-- What is read of a text that can stand first is not the parent. -/
theorem IsBaseText.ne_parent {w : Text} (h : IsBaseText w) {p : PatchSet}
    (hread : PatchSet.ofText? w = some p) : p ≠ .parent := by
  unfold PatchSet.ofText? at hread
  split at hread
  · next hw =>
    have hmem : 'P' ∈ w := by
      rw [hw]
      exact List.mem_cons_self
    exact absurd hmem (h.isPart.not_mem (by decide))
  · split at hread
    · obtain rfl := Option.some_inj.1 hread
      exact nofun
    · obtain ⟨n, -, rfl⟩ := Option.map_eq_some_iff.1 hread
      exact nofun

/-- A number is read as a patch set that is not negative. -/
theorem IsNumber.exists_of_ofText? {w : Text} (h : IsNumber w) {p : PatchSet}
    (hread : PatchSet.ofText? w = some p) : ∃ n : Int32, 0 ≤ n.toInt ∧ p = .num n := by
  have hword : ∀ c, isDecimalDigit c = false → ∀ t : Text, c ∈ t → w ≠ t := by
    rintro c hc t ht rfl
    exact not_mem_of_isRun (show CharSet.mem .digit c = false from hc) h.digits ht
  rw [PatchSet.ofText?, if_neg (hword 'P' (by decide) _ (by decide)),
    if_neg (hword 'e' (by decide) _ (by decide))] at hread
  obtain ⟨n, hn, rfl⟩ := Option.map_eq_some_iff.1 hread
  exact ⟨n, Numeral.toInt_nonneg_of_i32? hn (not_mem_of_isRun (by decide) h.digits), rfl⟩

/-- What is read of a text that can stand second is the edit, or not negative. -/
theorem IsPatchText.isPatch {w : Text} (h : IsPatchText w) {p : PatchSet}
    (hread : PatchSet.ofText? w = some p) : p.IsPatch := by
  rcases h with h | rfl
  · obtain ⟨n, hn, rfl⟩ := h.exists_of_ofText? hread
    exact hn
  · obtain rfl : PatchSet.edit = p := Option.some_inj.1 hread
    exact trivial

/-! ### Ranges -/

/-- The second half of a range in a path. -/
def patchText : Option Text → Text
  | some patch => ".." ++ patch
  | none => []

/-- A range in a path. -/
def rangeText (base : Text) (patch? : Option Text) : Text :=
  base ++ patchText patch?

/-- What is captured of a range. -/
def rangeCaptures (base : Text) : Option Text → List (Text × Text)
  | some patch => [("patch", patch), ("base", base)]
  | none => [("base", base)]

/-- Both sides stand for patch sets. -/
structure IsRange (base : Text) (patch? : Option Text) : Prop where
  base : IsBaseText base
  patch : ∀ patch, patch? = some patch → IsPatchText patch

section

variable {ps : List Pattern} {before : Option Char} {w after : Text} {cs : List (Text × Text)}

theorem exists_of_reads_range (h : Reads (.capture "base" basePart :: rangePart :: ps) before w after cs) :
    ∃ base patch? v b cv, w = rangeText base patch? ++ v ∧ cs = cv ++ rangeCaptures base patch? ∧
      IsRange base patch? ∧ Reads ps b v after cv := by
  obtain ⟨base, v, cu, cv, rfl, rfl, hbase, h₁⟩ := reads_capture.1 h
  obtain ⟨hpart, rfl⟩ := spells_basePart.1 hbase
  rcases reads_maybe.1 h₁ with ⟨u, x, cu, cx, rfl, rfl, hu, hx⟩ | h₂
  · obtain ⟨y, rfl, hy⟩ := reads_lit.1 ((spells_row _ _ _ _ _).1 hu)
    obtain ⟨patch, z, cp, cz, rfl, rfl, hpatch, rfl, rfl⟩ := reads_capture.1 hy
    obtain ⟨hpart', rfl⟩ := spells_patchPart.1 hpatch
    refine ⟨base, some patch, x, _, cx, ?_, ?_, ⟨hpart, ?_⟩, hx⟩
    · simp only [rangeText, patchText, List.append_assoc, List.nil_append]
    · simp only [rangeCaptures, List.append_assoc, List.nil_append, List.cons_append]
    · rintro _ ⟨⟩
      exact hpart'
  · exact ⟨base, none, v, _, cv, by rw [rangeText, patchText, List.append_nil], rfl,
      ⟨hpart, nofun⟩, h₂⟩

/-- A range is read as it is written. -/
theorem reads_range {base : Text} {patch? : Option Text} {v : Text} {cv : List (Text × Text)}
    (hrange : IsRange base patch?) (hv : ∀ b, Reads ps b v after cv) :
    Reads (.capture "base" basePart :: rangePart :: ps) before (rangeText base patch? ++ v) after
      (cv ++ rangeCaptures base patch?) := by
  cases patch? with
  | none =>
    refine reads_capture.2 ⟨base, v, [], cv, by rw [rangeText, patchText, List.append_nil], rfl,
      spells_basePart.2 ⟨hrange.base, rfl⟩, ?_⟩
    exact reads_maybe.2 (Or.inr (hv _))
  | some patch =>
    have hcaptures : cv ++ rangeCaptures base (some patch) = cv ++ [("patch".toList, patch)] ++
        [("base".toList, base)] := by
      rw [List.append_assoc]
      rfl
    refine reads_capture.2 ⟨base, patchText (some patch) ++ v, [], cv ++ [("patch".toList, patch)],
      by rw [rangeText, List.append_assoc], hcaptures, spells_basePart.2 ⟨hrange.base, rfl⟩, ?_⟩
    refine reads_maybe.2 (Or.inl ⟨_, v, _, cv, rfl, rfl, ?_, hv _⟩)
    refine (spells_row _ _ _ _ _).2 (reads_lit.2 ⟨patch, rfl, ?_⟩)
    exact reads_capture.2 ⟨patch, [], [], [], (List.append_nil _).symm, rfl,
      spells_patchPart.2 ⟨hrange.patch patch rfl, rfl⟩, rfl, rfl⟩

end

theorem IsRange.not_mem {base : Text} {patch? : Option Text} (h : IsRange base patch?) {c : Char}
    (hc : isPartChar c = false) (hdot : c ≠ '.') : c ∉ rangeText base patch? := by
  rw [rangeText, List.mem_append, not_or]
  refine ⟨h.base.isPart.not_mem hc, ?_⟩
  cases patch? with
  | none => exact List.not_mem_nil
  | some patch =>
    show c ∉ '.' :: '.' :: patch
    simp only [List.mem_cons, hdot, false_or]
    exact (h.patch patch rfl).isPart.not_mem hc

theorem IsRange.head {base : Text} {patch? : Option Text} (h : IsRange base patch?) :
    ∃ c t, rangeText base patch? = c :: t ∧ isPartChar c = true := by
  obtain ⟨hne, hchars⟩ := h.base.isPart
  cases base with
  | nil => exact absurd rfl hne
  | cons c base => exact ⟨c, _, rfl, hchars c List.mem_cons_self⟩

/-- A range is read in one way only. -/
theorem rangeText_unique {base base' : Text} {patch? patch?' : Option Text} {v v' : Text}
    (h : IsRange base patch?) (h' : IsRange base' patch?') (hv : ∀ c, v.head? = some c → c = '/')
    (hv' : ∀ c, v'.head? = some c → c = '/')
    (heq : rangeText base patch? ++ v = rangeText base' patch?' ++ v') :
    base = base' ∧ patch? = patch?' ∧ v = v' := by
  have hslash : ∀ {b : Text} {p? : Option Text}, IsRange b p? → ∀ c ∈ rangeText b p?, c ≠ '/' := by
    rintro b p? hrange c hc rfl
    exact hrange.not_mem (by decide) (by decide) hc
  obtain ⟨hrange, rfl⟩ := span_unique (hslash h) (hslash h') (fun c hc hne => hne (hv c hc))
    (fun c hc hne => hne (hv' c hc)) heq
  have hdot : ∀ {w : Text}, IsPart w → ∀ c ∈ w, c ≠ '.' := by
    rintro w hw c hc rfl
    exact hw.not_mem (by decide) hc
  have hhead : ∀ (p? : Option Text) c, (patchText p?).head? = some c → ¬c ≠ '.' := by
    intro p? c hc hne
    cases p? with
    | none => cases hc
    | some patch => exact hne (Option.some_inj.1 hc).symm
  obtain ⟨rfl, hpatch⟩ := span_unique (hdot h.base.isPart) (hdot h'.base.isPart) (hhead patch?) (hhead patch?') hrange
  refine ⟨rfl, ?_, rfl⟩
  cases patch? with
  | none =>
    cases patch?' with
    | none => rfl
    | some patch => cases hpatch
  | some patch =>
    cases patch?' with
    | none => cases hpatch
    | some patch' =>
      have hsame : patch = patch' := List.append_cancel_left hpatch
      rw [hsame]

end ReviewRouter
