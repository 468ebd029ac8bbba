import ReviewRouter.Proofs.Canonical.Pages
import ReviewRouter.Proofs.Settling

/-!
# Canonical ranges

The range of a page of a change is read from the path and brought into its canonical form before the page
is presented.  So of all ranges only those of four forms are ever shown, and the editor and the comparison
of a file always have a patch set.

* `PatchRange.IsCanonical` — the four forms;
* `PatchRange.IsCanonical.isSettled`, `View.settle_eq_present` — normalization leaves them alone;
* `View.IsReadChangePage.isCanonical` — the range of a page that was read is one of them;
* `Navigator.presented_range_canonical` — **so is the range of every page that is presented**, wherever
  the application is deployed.
-/

namespace ReviewRouter

/-! ### The four forms -/

/-- Nothing, a patch set alone, a patch set against its parent, or a patch set against another one.  The
parent itself is no patch set to look at; the parents of a merge, which have negative numbers, can stand
first, and alone against the parent. -/
def PatchRange.IsCanonical (r : PatchRange) : Prop :=
  r = {} ∨ (∃ k : PatchSet, k.IsPatch ∧ r = ⟨none, some k⟩) ∨
    (∃ k, k ≠ .parent ∧ r = ⟨some .parent, some k⟩) ∨
      ∃ b k, b ≠ .parent ∧ k.IsPatch ∧ b ≠ k ∧ r = ⟨some b, some k⟩

namespace PatchRange

variable {r : PatchRange}

/-- Canonical ranges stay as they are. -/
theorem IsCanonical.isSettled (h : r.IsCanonical) : r.IsSettled := by
  rcases h with rfl | ⟨k, -, rfl⟩ | ⟨k, hk, rfl⟩ | ⟨b, k, -, -, hne, rfl⟩
  · exact Or.inl rfl
  · exact Or.inl rfl
  · exact isSettled_parent hk
  · exact Or.inr ⟨b, k, Ne.symm hne, rfl⟩

theorem IsShown.isCanonical (h : r.IsShown) : r.IsCanonical :=
  Or.inr (Or.inr h)

theorem IsEdited.isCanonical (h : r.IsEdited) : r.IsCanonical := by
  rcases h with rfl | ⟨n, hn, rfl⟩
  · exact Or.inl rfl
  · exact Or.inr (Or.inl ⟨.num n, hn, rfl⟩)

/-- A comparison is of a patch set. -/
theorem IsShown.patch_ne_none (h : r.IsShown) : r.patch ≠ none := by
  rcases h with ⟨k, -, rfl⟩ | ⟨b, k, -, -, -, rfl⟩
  · exact Option.some_ne_none k
  · exact Option.some_ne_none k

end PatchRange

/-- A page with a canonical range is presented as it is. -/
theorem View.settle_eq_present {v : View} (h : ∀ r, v.range? = some r → r.IsCanonical) :
    v.settle = .present v := by
  cases hr : v.range? with
  | none => simp only [settle, hr]
  | some r => exact settle_of_isSettled hr (h r hr).isSettled

/-! ### Pages that are read -/

/-- Only pages of a change have a range. -/
theorem View.isChangePage_of_range? {v : View} {r : PatchRange} (h : v.range? = some r) :
    v.isChangePage = true := by
  cases v with
  | change w => rfl
  | diff w => rfl
  | edit w => rfl
  | _ => cases h

namespace View.IsReadChangePage

/-- The range of a page that was read is canonical. -/
theorem isCanonical {v : View} (h : v.IsReadChangePage) {r : PatchRange} (hr : v.range? = some r) :
    r.IsCanonical := by
  cases v with
  | change w =>
    obtain rfl : w.range = r := Option.some_inj.1 hr
    rcases h with ⟨s, hplain⟩ | ⟨s, comment, hcomment⟩
    · rcases hplain.mode with ⟨-, hrange | hrange⟩ | ⟨-, hrange, -⟩
      · exact Or.inl hrange
      · exact hrange.isCanonical
      · exact hrange.isCanonical
    · rw [hcomment.eq]
      exact Or.inl rfl
  | diff w =>
    obtain rfl : w.range = r := Option.some_inj.1 hr
    rcases h with ⟨s, f, hfile⟩ | ⟨s, comment, hcomment⟩
    · exact hfile.range.isCanonical
    · rw [hcomment.eq]
      exact Or.inl rfl
  | edit w =>
    obtain rfl : w.range = r := Option.some_inj.1 hr
    obtain ⟨s, k, hfile⟩ := h
    exact Or.inr (Or.inl ⟨k, hfile.isPatch, hfile.range⟩)
  | _ => cases hr

/-- The comparison of a file is of a patch set and of a path. -/
theorem of_diff {w : DiffView} (h : (View.diff w).IsReadChangePage) (hcomment : w.comment = none) :
    w.range.patch ≠ none ∧ ∃ path, w.path = some path ∧ path ≠ [] := by
  rcases h with ⟨s, f, hfile⟩ | ⟨s, comment, hat⟩
  · exact ⟨hfile.range.patch_ne_none, f, hfile.path, hfile.path_ne_nil⟩
  · rw [hat.eq] at hcomment
    cases hcomment

/-- The editor is of a patch set alone. -/
theorem of_edit {w : EditView} (h : (View.edit w).IsReadChangePage) :
    w.range.patch ≠ none ∧ w.range.base = none := by
  obtain ⟨s, k, hfile⟩ := h
  rw [hfile.range]
  exact ⟨Option.some_ne_none k, rfl⟩

end View.IsReadChangePage

/-! ### Navigations -/

namespace Navigator

variable {n : Navigator} {σ : Type} {s : Session σ} {st : σ} {url : Text} {v : View}

/-- The pages of a change that a navigation presents were read of its path, wherever the application is
deployed. -/
theorem isReadChangePage_of_presented (htable : RouteTable.standard = .ok n.table)
    (h : ((n.navigate url).1.run s st).1.action = .present v) (hpage : v.isChangePage = true) :
    v.IsReadChangePage := by
  obtain ⟨r, found, htakes, hsource⟩ := exists_source_of_table htable h
  exact hsource.isReadChangePage htakes.matched hpage

/-- **The range of every page that is presented is canonical.**  A comparison that shows no comment has a
patch set and a path, and an editor has a patch set and nothing to compare it with. -/
theorem presented_range_canonical (htable : RouteTable.standard = .ok n.table)
    (h : ((n.navigate url).1.run s st).1.action = .present v) :
    (∀ r, v.range? = some r → r.IsCanonical) ∧
      (∀ w, v = .diff w → w.comment = none →
        w.range.patch ≠ none ∧ ∃ path, w.path = some path ∧ path ≠ []) ∧
      ∀ w, v = .edit w → w.range.patch ≠ none ∧ w.range.base = none := by
  have hread := isReadChangePage_of_presented htable h
  refine ⟨?_, ?_, ?_⟩
  · intro r hr
    exact (hread (View.isChangePage_of_range? hr)).isCanonical hr
  · rintro w rfl hcomment
    exact (hread rfl).of_diff hcomment
  · rintro w rfl
    exact (hread rfl).of_edit

/-- A file of a patch set against the second parent of a merge. -/
theorem presented_range_canonical_sample :
    RouteTable.standard = .ok overAll.table ∧
      ((overAll.navigate "/c/p/+/1/-2..3/a").1.run .scripted {}).1.action =
        .present (.diff
          { project := some "p", change := 1, range := ⟨some (.num (-2)), some (.num 3)⟩
            path := some "a" }) ∧
      PatchRange.IsCanonical ⟨some (.num (-2)), some (.num 3)⟩ := by
  have hpresent : ((overAll.navigate "/c/p/+/1/-2..3/a").1.run .scripted {}).1.action =
      .present (.diff
        { project := some "p", change := 1, range := ⟨some (.num (-2)), some (.num 3)⟩
          path := some "a" }) := by
    decide +kernel
  exact ⟨isStandard_overAll.table, hpresent,
    (presented_range_canonical isStandard_overAll.table hpresent).1 _ rfl⟩

end Navigator

end ReviewRouter
