import ReviewRouter.Proofs.Presented
import ReviewRouter.Proofs.RoundTrip.Change
import ReviewRouter.Proofs.RoundTrip.Comment
import ReviewRouter.Proofs.RoundTrip.File

/-!
# What is presented of a change

A path that is read as a page of a change gives a page whose address can show everything it holds, except
that a field of the query may be there without a value.

* `ChangeView.tidy` — the page without the fields that have no value, which has the same address;
* `View.isChangePage` — the pages of a change;
* `View.IsReadChangePage` — those that an address can show, but for such fields;
* `View.Source.isReadChangePage` — **what is presented of a change is one of these**.
-/

namespace ReviewRouter

open Pattern

/-! ### Fields without a value -/

/-- The value of a field, if it has one. -/
def filled? : Option Text → Option Text
  | some [] => none
  | value => value

theorem filled?_ne_nil (value : Option Text) : filled? value ≠ some [] := by
  unfold filled?
  split
  · exact nofun
  · next hne => exact hne

theorem filled?_of_ne_nil {value : Option Text} (h : value ≠ some []) : filled? value = value := by
  unfold filled?
  split
  · exact absurd rfl h
  · rfl

theorem queryField_filled? (name : Text) (value : Option Text) :
    queryField name (filled? value) = queryField name value := by
  unfold filled?
  split <;> rfl

/-- The page without the fields that have no value. -/
def ChangeView.tidy (v : ChangeView) : ChangeView :=
  { v with tab := filled? v.tab, filter := filled? v.filter, select := filled? v.select }

/-- An address does not show such fields. -/
theorem ChangeView.address_tidy (v : ChangeView) : v.tidy.address = v.address := by
  simp only [address, tidy, queryField_filled?]
  rfl

/-- No field of the query is without a value. -/
structure ChangeView.IsFilled (v : ChangeView) : Prop where
  tab : v.tab ≠ some []
  filter : v.filter ≠ some []
  select : v.select ≠ some []

theorem ChangeView.isFilled_tidy (v : ChangeView) : v.tidy.IsFilled :=
  ⟨filled?_ne_nil _, filled?_ne_nil _, filled?_ne_nil _⟩

theorem ChangeView.IsFilled.tidy_eq {v : ChangeView} (h : v.IsFilled) : v.tidy = v := by
  rw [tidy, filled?_of_ne_nil h.tab, filled?_of_ne_nil h.filter, filled?_of_ne_nil h.select]

/-! ### Pages that are read -/

/-- The comments of a change, at one of them. -/
structure ChangeView.IsAtComment (v : ChangeView) (s comment : Text) : Prop where
  eq : v = { project := some s, change := v.change, comment := some comment }
  ne_nil : s ≠ []
  word : IsWord comment

/-- A comment in its file. -/
structure DiffView.IsAtComment (v : DiffView) (s comment : Text) : Prop where
  eq : v = { project := some s, change := v.change, comment := some comment }
  ne_nil : s ≠ []
  word : IsWord comment

/-- The pages of a change. -/
def View.isChangePage : View → Bool
  | .change _ => true
  | .diff _ => true
  | .edit _ => true
  | _ => false

/-- The pages of a change that an address can show, but for fields without a value. -/
def View.IsReadChangePage : View → Prop
  | .change w => (∃ s, w.tidy.IsPlain s) ∨ ∃ s comment, w.IsAtComment s comment
  | .diff w => (∃ s f, w.IsOfFile s f) ∨ ∃ s comment, w.IsAtComment s comment
  | .edit w => ∃ s k, w.IsOfFile s k
  | _ => False

/-! ### What was read of a path -/

/-- A part of a range is read, if the page is presented. -/
theorem exists_of_parse?_part {r : Route} {found : List (Text × Text)} {name u : Text} {p? : Option PatchSet}
    (hlookup : found.lookup name = some u) (hpart : IsPart u)
    (h : (r.captured found).parse? PatchSet.ofText? name = .ok p?) :
    ∃ p, p? = some p ∧ PatchSet.ofText? u = some p := by
  have hget : (r.captured found).get? name = some u := by
    rw [Route.get?_captured, hlookup]
    exact congrArg some (unescapeValue_part hpart)
  exact Captures.exists_of_parse?_of_get? hget hpart.ne_nil h

/-- What is not captured is not there. -/
theorem parse?_eq_none_of_lookup {r : Route} {found : List (Text × Text)} {name : Text}
    {p? : Option PatchSet} (hlookup : found.lookup name = none)
    (h : (r.captured found).parse? PatchSet.ofText? name = .ok p?) : p? = none := by
  have hget : (r.captured found).get? name = none := by
    rw [Route.get?_captured, hlookup]
    rfl
  rw [Captures.parse?_none hget] at h
  exact (Except.ok.inj h).symm

/-- A range in canonical form can be shown. -/
theorem PatchRange.isShown_of_normalize {base : PatchSet} {patch? : Option PatchSet} {range : PatchRange}
    (hbase : base ≠ .parent) (hpatch : ∀ p, patch? = some p → p.IsPatch)
    (h : normalize ⟨some base, patch?⟩ = (range, false)) : range.IsShown := by
  cases patch? with
  | none =>
    obtain rfl := congrArg Prod.fst h
    exact Or.inl ⟨base, hbase, rfl⟩
  | some p =>
    replace h : (if p = base then (⟨some .parent, some p⟩, true) else (⟨some base, some p⟩, false)) =
        (range, false) := h
    split at h
    · cases congrArg Prod.snd h
    · next hne =>
      obtain rfl := congrArg Prod.fst h
      exact Or.inr ⟨base, p, hbase, hpatch p rfl, Ne.symm hne, rfl⟩

/-- So can the one that was read of a path. -/
theorem isShown_of_captures {r : Route} {found : List (Text × Text)} {base : Text} {patch? : Option Text}
    {b? p? : Option PatchSet} {range : PatchRange} (hrange : IsRange base patch?)
    (hbase : found.lookup "base".toList = some base) (hpatch : found.lookup "patch".toList = patch?)
    (hb : (r.captured found).parse? PatchSet.ofText? "base" = .ok b?)
    (hp : (r.captured found).parse? PatchSet.ofText? "patch" = .ok p?)
    (h : PatchRange.normalize ⟨b?, p?⟩ = (range, false)) : range.IsShown := by
  obtain ⟨b, rfl, hread⟩ := exists_of_parse?_part hbase hrange.base.isPart hb
  refine PatchRange.isShown_of_normalize (hrange.base.ne_parent hread) ?_ h
  rintro p rfl
  cases patch? with
  | none => cases parse?_eq_none_of_lookup hpatch hp
  | some patch =>
    have htext := hrange.patch patch rfl
    obtain ⟨q, hq, hread⟩ := exists_of_parse?_part hpatch htext.isPart hp
    obtain rfl := Option.some_inj.1 hq
    exact htext.isPatch hread

/-- A comment is read as it stands in the path. -/
theorem isWord_of_get? {r : Route} {repo digits u t : Text} (hword : IsWord u)
    (hget : (r.captured (commentCaptures (some u) ++ changeCaptures repo digits)).get? "comment" = some t) :
    IsWord t := by
  rw [Route.get?_captured] at hget
  obtain rfl : Percent.unescapeValue u = t := Option.some_inj.1 hget
  rwa [hword.unescapeValue_eq]

/-! ### The six routes -/

section Routes

variable {A : Answers} {l : Location} {path : Text} {found : List (Text × Text)}

theorem isPlain_of_handleChange (hmatch : Route.change.match? path = some found) {w : ChangeView}
    (h : (handleChange l (Route.change.captured found)).Gives A (.ok (.present (.change w)))) :
    ∃ s, w.tidy.IsPlain s := by
  obtain ⟨s, change, base, patch, range, hs, -, hbase, hpatch, hrange, hw⟩ := exists_of_handleChange h
  have hfilled := w.isFilled_tidy
  obtain rfl := View.change.inj hw
  have hne : s ≠ [] := Route.get?_ne_nil hmatch (by decide) hs
  obtain ⟨repo, digits, x, rest, b, cv, -, rfl, -, -, htail, -⟩ := exists_of_match?_changeRow hmatch
  have hshown : range = {} ∨ range.IsShown := by
    rcases exists_of_reads_changeTail htail with
      ⟨-, ⟨-, rfl⟩ | ⟨front, base', patch', back, -, -, -, hparts, rfl⟩⟩
    · obtain rfl := parse?_eq_none_of_lookup rfl hbase
      obtain rfl := parse?_eq_none_of_lookup rfl hpatch
      exact Or.inl (congrArg Prod.fst hrange).symm
    · refine Or.inr (isShown_of_captures hparts ?_ ?_ hbase hpatch hrange)
      · cases patch' <;> rfl
      · cases patch' <;> rfl
  exact ⟨s, rfl, hne, rfl, rfl, hfilled.tab, hfilled.filter, hfilled.select,
    Or.inl ⟨rfl, hshown⟩⟩

theorem isPlain_of_handleChangeEdit (hmatch : Route.changeEdit.match? path = some found) {w : ChangeView}
    (h : (handleChangeEdit l (Route.changeEdit.captured found)).Gives A (.ok (.present (.change w)))) :
    ∃ s, w.tidy.IsPlain s := by
  obtain ⟨s, change, patch, range, hs, -, hpatch, hrange, hw⟩ := exists_of_handleChangeEdit h
  have hfilled := w.isFilled_tidy
  obtain rfl := View.change.inj hw
  have hne : s ≠ [] := Route.get?_ne_nil hmatch (by decide) hs
  obtain ⟨repo, digits, x, rest, b, cv, -, rfl, -, -, htail, -⟩ := exists_of_match?_changeRow hmatch
  obtain ⟨-, patch', back, -, hnumber, -, rfl⟩ := exists_of_reads_changeEditTail htail
  obtain rfl : (⟨none, patch⟩ : PatchRange) = range := congrArg Prod.fst hrange
  have hedited : PatchRange.IsEdited ⟨none, patch⟩ := by
    cases patch' with
    | none =>
      obtain rfl := parse?_eq_none_of_lookup rfl hpatch
      exact Or.inl rfl
    | some u =>
      have hu := hnumber u rfl
      obtain ⟨p, rfl, hread⟩ := exists_of_parse?_part rfl hu.isPart hpatch
      obtain ⟨n, hn, rfl⟩ := hu.exists_of_ofText? hread
      exact Or.inr ⟨n, hn, rfl⟩
  exact ⟨s, rfl, hne, rfl, rfl, hfilled.tab, hfilled.filter, hfilled.select,
    Or.inr ⟨rfl, hedited, rfl, rfl, rfl⟩⟩

/-- The page of the comments without one of them is that of the change. -/
theorem of_handleCommentsTab (hmatch : Route.commentsTab.match? path = some found) {w : ChangeView}
    (h : (handleCommentsTab (Route.commentsTab.captured found)).Gives A (.ok (.present (.change w)))) :
    (∃ s, w.tidy.IsPlain s) ∨ ∃ s comment, w.IsAtComment s comment := by
  obtain ⟨s, change, hs, -, hw⟩ := exists_of_handleCommentsTab h
  have hfilled := w.isFilled_tidy
  obtain rfl := View.change.inj hw
  have hne : s ≠ [] := Route.get?_ne_nil hmatch (by decide) hs
  obtain ⟨repo, digits, x, rest, b, cv, -, rfl, -, -, htail, -⟩ := exists_of_match?_changeRow hmatch
  obtain ⟨-, front, comment?, back, -, -, hword, -, rfl⟩ := exists_of_reads_commentsTail htail
  cases comment? with
  | none =>
    refine Or.inl ⟨s, rfl, hne, ?_, rfl, hfilled.tab, hfilled.filter, hfilled.select,
      Or.inl ⟨rfl, Or.inl rfl⟩⟩
    show (Route.commentsTab.captured _).get? "comment" = none
    rw [Route.get?_captured]
    rfl
  | some u =>
    cases hget : (Route.commentsTab.captured
        (commentCaptures (some u) ++ changeCaptures repo digits)).get? "comment" with
    | none =>
      rw [Route.get?_captured] at hget
      cases hget
    | some t => exact Or.inr ⟨s, t, rfl, hne, isWord_of_get? (hword u rfl) hget⟩

theorem isAtComment_of_handleComment (hmatch : Route.comment.match? path = some found) {w : DiffView}
    (h : (handleComment (Route.comment.captured found)).Gives A (.ok (.present (.diff w)))) :
    ∃ s comment, w.IsAtComment s comment := by
  obtain ⟨s, change, comment, hs, -, hcomment, hw⟩ := exists_of_handleComment h
  obtain rfl := View.diff.inj hw
  have hne : s ≠ [] := Route.get?_ne_nil hmatch (by decide) hs
  obtain ⟨repo, digits, x, rest, b, cv, -, rfl, -, -, htail, -⟩ := exists_of_match?_changeRow hmatch
  obtain ⟨-, u, back, -, hword, -, rfl⟩ := exists_of_reads_commentTail htail
  exact ⟨s, comment, rfl, hne, isWord_of_get? hword hcomment⟩

theorem isOfFile_of_handleDiff (hmatch : Route.diff.match? path = some found) {w : DiffView}
    (h : (handleDiff l (Route.diff.captured found)).Gives A (.ok (.present (.diff w)))) :
    ∃ s f, w.IsOfFile s f := by
  obtain ⟨s, change, base, patch, f, range, hs, -, hbase, hpatch, hf, hrange, hw⟩ := exists_of_handleDiff h
  obtain rfl := View.diff.inj hw
  have hne : s ≠ [] := Route.get?_ne_nil hmatch (by decide) hs
  have hfile : f ≠ [] := Route.get?_ne_nil hmatch (by decide) hf
  obtain ⟨repo, digits, x, rest, b, cv, -, rfl, -, -, htail, -⟩ := exists_of_match?_changeRow hmatch
  obtain ⟨-, base', patch', file, -, hparts, -, rfl⟩ := exists_of_reads_diffTail htail
  refine ⟨s, f, rfl, hne, rfl, hfile, rfl, ?_, ?_⟩
  · refine isShown_of_captures hparts ?_ ?_ hbase hpatch hrange
    · cases patch' <;> rfl
    · cases patch' <;> rfl
  · -- only a line has a side
    show (LineAddress.ofText? l.hash).any LineAddress.leftSide = true →
      (LineAddress.ofText? l.hash).map LineAddress.line ≠ none
    cases LineAddress.ofText? l.hash with
    | none => exact nofun
    | some a => exact fun _ => nofun

theorem isOfFile_of_handleDiffEdit (hmatch : Route.diffEdit.match? path = some found) {w : EditView}
    (h : (handleDiffEdit l (Route.diffEdit.captured found)).Gives A (.ok (.present (.edit w)))) :
    ∃ s k, w.IsOfFile s k := by
  obtain ⟨s, change, k, f, range, hs, -, hk, hf, hrange, hw⟩ := exists_of_handleDiffEdit h
  obtain rfl := View.edit.inj hw
  have hne : s ≠ [] := Route.get?_ne_nil hmatch (by decide) hs
  have hfile : f ≠ [] := Route.get?_ne_nil hmatch (by decide) hf
  obtain ⟨repo, digits, x, rest, b, cv, -, rfl, -, -, htail, -⟩ := exists_of_match?_changeRow hmatch
  obtain ⟨-, u, file, -, hu, -, rfl⟩ := exists_of_reads_diffEditTail htail
  obtain ⟨t, ht, hread⟩ := Captures.exists_of_parse hk
  rw [Route.get?_captured] at ht
  obtain rfl : Percent.unescapeValue u = t := Option.some_inj.1 ht
  rw [unescapeValue_part hu.isPart] at hread
  exact ⟨s, k, rfl, hne, hfile, hu.isPatch hread, (congrArg Prod.fst hrange).symm⟩

/-- **What is presented of a change is what an address can show**, but for fields without a value. -/
theorem View.Source.isReadChangePage {r : Route} (hmatch : r.match? path = some found) {v : View}
    (hpage : v.isChangePage = true) (h : v.Source A l (r.captured found) r) : v.IsReadChangePage := by
  cases v with
  | change w =>
    rcases h with ⟨rfl, h⟩ | ⟨rfl, h⟩ | ⟨rfl, h⟩
    · exact Or.inl (isPlain_of_handleChange hmatch h)
    · exact Or.inl (isPlain_of_handleChangeEdit hmatch h)
    · exact of_handleCommentsTab hmatch h
  | diff w =>
    rcases h with ⟨rfl, h⟩ | ⟨rfl, h⟩
    · exact Or.inl (isOfFile_of_handleDiff hmatch h)
    · exact Or.inr (isAtComment_of_handleComment hmatch h)
  | edit w =>
    obtain ⟨rfl, h⟩ := h
    exact isOfFile_of_handleDiffEdit hmatch h
  | _ => cases hpage

end Routes

end ReviewRouter
