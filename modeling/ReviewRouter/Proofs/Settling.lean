import ReviewRouter.Action

/-!
# Pages settle in one step

A page of a change with a range that is not canonical leads to the page with the canonical one.  That page
must not lead on, since it would lead to itself.

* `PatchRange.IsSettled` — the ranges that normalization leaves alone;
* `PatchRange.normalize_cases` — **all that normalization can do**;
* `PatchRange.isSettled_normalize` — after one step a range is settled;
* `PatchRange.loneParent` — the only one that is not: the parent alone, compared with nothing;
* `View.settle_eq` — a page is settled as its range is;
* `View.settles_in_one_step` — **a page leads on at most once**, unless it shows the parent alone.
-/

namespace ReviewRouter

/-! ### Ranges -/

namespace PatchRange

/-- Without a base there is nothing to compare, and with one there are two different sides. -/
def IsSettled (r : PatchRange) : Prop :=
  r.base = none ∨ ∃ b p, p ≠ b ∧ r = ⟨some b, some p⟩

/-- The parent alone.  It is a range by its type, but there is no patch set to look at. -/
def loneParent : PatchRange :=
  ⟨some .parent, none⟩

variable {r : PatchRange}

theorem IsSettled.normalize_eq (h : r.IsSettled) : r.normalize = (r, false) := by
  obtain ⟨base, patch⟩ := r
  rcases h with hbase | ⟨b, p, hne, heq⟩
  · obtain rfl : base = none := hbase
    rfl
  · rw [heq]
    exact if_neg hne

theorem IsSettled.sides_ne (h : r.IsSettled) (p : PatchSet) : r ≠ ⟨some p, some p⟩ := by
  rintro rfl
  rcases h with hbase | ⟨b, q, hne, heq⟩
  · cases hbase
  · cases heq
    exact hne rfl

/-- A patch set against its parent is settled. -/
theorem isSettled_parent {p : PatchSet} (hp : p ≠ .parent) : IsSettled ⟨some .parent, some p⟩ :=
  Or.inr ⟨.parent, p, hp, rfl⟩

/-- **All that normalization can do**: leave a settled range alone, make a lone base the patch set, or put
the parent in the place of a base that is the patch set itself. -/
theorem normalize_cases (r : PatchRange) :
    (r.IsSettled ∧ r.normalize = (r, false)) ∨
      (∃ b, r = ⟨some b, none⟩ ∧ r.normalize = (⟨some .parent, some b⟩, false)) ∨
        ∃ p, r = ⟨some p, some p⟩ ∧ r.normalize = (⟨some .parent, some p⟩, true) := by
  match r with
  | ⟨none, _⟩ => exact Or.inl ⟨Or.inl rfl, rfl⟩
  | ⟨some b, none⟩ => exact Or.inr (Or.inl ⟨b, rfl, rfl⟩)
  | ⟨some b, some p⟩ =>
    by_cases heq : p = b
    · subst heq
      exact Or.inr (Or.inr ⟨p, rfl, if_pos rfl⟩)
    · have hsettled : IsSettled ⟨some b, some p⟩ := Or.inr ⟨b, p, heq, rfl⟩
      exact Or.inl ⟨hsettled, hsettled.normalize_eq⟩

/-- After one step a range is settled, and the parent is still the base only. -/
theorem isSettled_normalize (hpatch : r.patch ≠ some .parent) (hlone : r ≠ loneParent) :
    r.normalize.1.IsSettled ∧ r.normalize.1.patch ≠ some .parent := by
  have hparent : ∀ p : PatchSet, p ≠ .parent →
      IsSettled ⟨some .parent, some p⟩ ∧ some p ≠ some PatchSet.parent :=
    fun p hp => ⟨isSettled_parent hp, fun h => hp (Option.some_inj.1 h)⟩
  rcases normalize_cases r with ⟨hsettled, hnormal⟩ | ⟨b, rfl, hnormal⟩ | ⟨p, rfl, hnormal⟩
  · rw [hnormal]
    exact ⟨hsettled, hpatch⟩
  · rw [hnormal]
    exact hparent b fun hb => hlone (hb ▸ rfl)
  · rw [hnormal]
    exact hparent p fun hp => hpatch (congrArg some hp)

end PatchRange

/-! ### Pages -/

namespace View

variable {v : View} {r : PatchRange}

theorem withRange_eq_self (h : v.range? = some r) : v.withRange r = v := by
  cases v with
  | change w =>
    obtain rfl : w.range = r := Option.some_inj.1 h
    rfl
  | diff w =>
    obtain rfl : w.range = r := Option.some_inj.1 h
    rfl
  | edit w =>
    obtain rfl : w.range = r := Option.some_inj.1 h
    rfl
  | _ => cases h

theorem range?_withRange (h : v.range? = some r) (range : PatchRange) :
    (v.withRange range).range? = some range := by
  cases v with
  | change w => rfl
  | diff w => rfl
  | edit w => rfl
  | _ => cases h

theorem withRange_withRange (v : View) (range next : PatchRange) :
    (v.withRange range).withRange next = v.withRange next := by
  cases v <;> rfl

/-- A page is settled as its range is. -/
theorem settle_eq (h : v.range? = some r) :
    v.settle = if r.normalize.2 then .redirect (v.withRange r.normalize.1).address
      else .present (v.withRange r.normalize.1) := by
  simp only [settle, h]

/-- A page with a settled range is presented as it is. -/
theorem settle_of_isSettled (h : v.range? = some r) (hr : r.IsSettled) : v.settle = .present v := by
  rw [settle_eq h, hr.normalize_eq]
  exact congrArg Action.present (withRange_eq_self h)

/-- The same page with its range normalized is settled as that range is. -/
theorem settle_normalized (h : v.range? = some r) :
    (v.withRange r.normalize.1).settle =
      if r.normalize.1.normalize.2 then .redirect (v.withRange r.normalize.1.normalize.1).address
      else .present (v.withRange r.normalize.1.normalize.1) := by
  rw [settle_eq (range?_withRange h _), withRange_withRange]

/-- **Where the parent stands first only, one step settles a range**: the parent still stands first only,
the sides differ, another step changes nothing, and the page with this range is presented and leads nowhere
else.  This is so of all ranges but the parent alone, which becomes the parent against itself and leads to
its own address. -/
theorem settles_in_one_step (hr : r.patch ≠ some .parent) :
    (r.normalize.1.patch ≠ some .parent ↔ r ≠ .loneParent) ∧
      ((∀ p, r.normalize.1 ≠ ⟨some p, some p⟩) ↔ r ≠ .loneParent) ∧
      r.normalize.1.normalize = (r.normalize.1, decide (r = .loneParent)) ∧
      ∀ v : View, v.range? = some r →
        (v.withRange r.normalize.1).settle =
          if r = .loneParent then .redirect (v.withRange r.normalize.1).address
          else .present (v.withRange r.normalize.1) := by
  by_cases hlone : r = .loneParent
  · subst hlone
    refine ⟨⟨fun h => absurd rfl h, fun h => absurd rfl h⟩,
      ⟨fun h => absurd rfl (h .parent), fun h => absurd rfl h⟩, rfl, fun v hv => ?_⟩
    rw [if_pos rfl]
    exact settle_normalized hv
  · obtain ⟨hsettled, hpatch⟩ := PatchRange.isSettled_normalize hr hlone
    refine ⟨⟨fun _ => hlone, fun _ => hpatch⟩, ⟨fun _ => hlone, fun _ => hsettled.sides_ne⟩, ?_,
      fun v hv => ?_⟩
    · rw [decide_eq_false hlone]
      exact hsettled.normalize_eq
    · rw [if_neg hlone]
      exact settle_of_isSettled (range?_withRange hv _) hsettled

/-- A file of the edit of a change, compared with the edit itself. -/
def sampleSelfCompared : View :=
  .diff { project := some "p", change := 1, range := ⟨some .edit, some .edit⟩, path := some "a" }

theorem settles_in_one_step_sample :
    (⟨some .edit, some .edit⟩ : PatchRange).patch ≠ some .parent ∧
      sampleSelfCompared.range? = some ⟨some .edit, some .edit⟩ ∧
      (sampleSelfCompared.withRange ⟨some .parent, some .edit⟩).settle =
        .present (sampleSelfCompared.withRange ⟨some .parent, some .edit⟩) := by
  have hpatch : (⟨some .edit, some .edit⟩ : PatchRange).patch ≠ some .parent := by decide
  have hrange : sampleSelfCompared.range? = some ⟨some .edit, some .edit⟩ := rfl
  exact ⟨hpatch, hrange, (settles_in_one_step hpatch).2.2.2 sampleSelfCompared hrange⟩

/-- The parent alone becomes the parent against itself, and a page with that range leads to itself. -/
theorem loneParent_unsettled :
    PatchRange.loneParent.patch ≠ some .parent ∧
      PatchRange.loneParent.normalize = (⟨some .parent, some .parent⟩, false) ∧
      PatchRange.normalize ⟨some .parent, some .parent⟩ = (⟨some .parent, some .parent⟩, true) ∧
      (View.change { project := some "p", change := 1, range := ⟨some .parent, some .parent⟩ }).settle =
        .redirect "/c/p/+/1/PARENT" := by
  decide

end View

end ReviewRouter
