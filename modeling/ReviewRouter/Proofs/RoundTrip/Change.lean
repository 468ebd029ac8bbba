import ReviewRouter.Proofs.Query
import ReviewRouter.Proofs.RoundTrip.Basic

/-!
# The address of a change leads back to it

The address of a change page is escaped twice, its path is undone once before the routes are tried,
and each capture once more.  No earlier route takes the path, whatever the repository is called,
and the fields of the query are read back.

* `ChangeView.IsAddressable` — the views that their address can show;
* `takes_change`, `takes_changeEdit` — what the two routes capture of the path;
* `ChangeView.action_navigate_of_rival` — the address presents the view unless another route takes it;
* `ChangeView.action_navigate_address` — **navigating to the address presents the view**.
-/

namespace ReviewRouter

open Pattern
open Percent (readable escape unescape unescapeValue)

/-! ### Tails of a change -/

section Range

variable {r : PatchRange} {base : PatchSet} {patch? : Option PatchSet}

theorem reads_changeTail_range (h : r.Shows base patch?) (b : Option Char) :
    Reads changeTail b r.tail [] (rangeCaptures base.text (patch?.map PatchSet.text)) := by
  refine reads_maybe.2 (Or.inl ⟨r.tail, [], _, [], (List.append_nil _).symm, rfl, ?_, reads_slashEnd (Or.inl rfl) _⟩)
  rw [h.tail_eq]
  refine (spells_row _ _ _ _ _).2 (reads_maybe_char.2 (Or.inl ⟨_, rfl, ?_⟩))
  have hread : Reads [.capture "base" basePart, rangePart] (some '/')
      (rangeText base.text (patch?.map PatchSet.text) ++ []) []
      ([] ++ rangeCaptures base.text (patch?.map PatchSet.text)) :=
    reads_range h.isRange fun _ => ⟨rfl, rfl⟩
  rw [List.append_nil] at hread
  exact hread

theorem unique_changeTail_range (h : r.Shows base patch?) {b : Option Char} {w rest : Text}
    {cs : List (Text × Text)} (hw : r.tail = w ++ rest) (hreads : Reads changeTail b w rest cs) :
    cs = rangeCaptures base.text (patch?.map PatchSet.text) := by
  obtain ⟨c, t, hc, hpart⟩ := h.isRange.head
  rw [h.tail_eq] at hw
  rcases exists_of_reads_changeTail hreads with
    ⟨rfl, ⟨hslash, -⟩ | ⟨front, base', patch?', back, rfl, hfront, hback, hrange, rfl⟩⟩
  · rw [List.append_nil, hc] at hw
    rcases hslash with rfl | rfl <;> cases hw
  · rw [List.append_nil] at hw
    rcases hfront with rfl | rfl
    · -- the range itself does not begin with a slash
      obtain ⟨c', t', hc', hpart'⟩ := hrange.head
      rw [List.nil_append, hc'] at hw
      obtain ⟨rfl, -⟩ := List.cons.inj hw
      exact absurd hpart' (by decide)
    · have hsame : rangeText base.text (patch?.map PatchSet.text) ++ [] =
          rangeText base' patch?' ++ back := by
        rw [List.append_nil]
        exact (List.cons.inj hw).2
      have hend : ∀ c, back.head? = some c → c = '/' := by
        rintro c hc
        rcases hback with rfl | rfl
        · cases hc
        · exact (Option.some_inj.1 hc).symm
      obtain ⟨rfl, rfl, -⟩ := rangeText_unique h.isRange hrange (by rintro c ⟨⟩) hend hsame
      rfl

end Range

/-! ### The path of a change -/

/-- Behind the number stands nothing or the range. -/
structure IsRangeTail (place : Text) : Prop where
  head : place = [] ∨ ∃ base patch?, IsRange base patch? ∧ place = '/' :: rangeText base patch?

theorem isRangeTail_tail {r : PatchRange} (h : r = {} ∨ r.IsShown) : IsRangeTail r.tail := by
  rcases h with rfl | hshown
  · exact ⟨Or.inl rfl⟩
  · obtain ⟨base, patch?, h⟩ := hshown.exists_shows
    exact ⟨Or.inr ⟨_, _, h.isRange, h.tail_eq⟩⟩

namespace IsRangeTail

variable {place : Text} (h : IsRangeTail place)

include h

theorem not_mem {c : Char} (hc : isPartChar c = false) (hdot : c ≠ '.') (hslash : c ≠ '/') :
    c ∉ place := by
  rcases h.head with rfl | ⟨base, patch?, hrange, rfl⟩
  · exact List.not_mem_nil
  · rw [List.mem_cons, not_or]
    exact ⟨hslash, hrange.not_mem hc hdot⟩

theorem isChangePath (s : Text) (change : UInt32) :
    IsChangePath (readable true s) (Numeral.ofNat change.toNat) place where
  digit := isRun_ofNat _
  tail c hc := by
    rcases h.head with rfl | ⟨base, patch?, -, rfl⟩
    · cases hc
    · obtain rfl := Option.some_inj.1 hc
      decide
  final := by
    apply IsFinal.of_not_mem
    rw [List.mem_append, not_or]
    exact ⟨Numeral.not_mem_ofNat (by decide) _, h.not_mem (by decide) (by decide) (by decide)⟩

theorem not_prefix_comment : ¬("/c" : Text) <+: place := by
  rintro ⟨t, ht⟩
  rcases h.head with rfl | ⟨base, patch?, hrange, rfl⟩
  · cases ht
  · obtain ⟨d, u, hd, hpart⟩ := hrange.head
    rw [hd] at ht
    obtain ⟨-, ht⟩ := List.cons.inj ht
    obtain ⟨rfl, -⟩ := List.cons.inj ht
    exact absurd hpart (by decide)

theorem slash_not_mem_tail : '/' ∉ place.tail := by
  rcases h.head with rfl | ⟨base, patch?, hrange, rfl⟩
  · exact List.not_mem_nil
  · exact hrange.not_mem (by decide) (by decide)

/-- No character is foreign to repositories and ranges. -/
theorem not_mem_changePath {c : Char} (hc : Percent.isSegmentChar c = false)
    (hpart : isPartChar c = false) (hdigit : c.isDigit = false) (hdot : c ≠ '.') (hslash : c ≠ '/')
    (hplus : c ≠ '+') (hletter : c ≠ 'c') (s : Text) (change : UInt32) :
    c ∉ changePath (readable true s) (Numeral.ofNat change.toNat) place := by
  show c ∉ ['/', 'c', '/'] ++ (readable true s ++ (['/', '+', '/'] ++ (_ ++ place)))
  simp only [List.mem_append, List.mem_cons, List.not_mem_nil, hslash, hletter, hplus, or_self,
    false_or, not_or]
  exact ⟨not_mem_readable hc s, Numeral.not_mem_ofNat hdigit _, h.not_mem hpart hdot hslash⟩

end IsRangeTail

/-- What is captured of a range that may be missing. -/
def shownCaptures (r : PatchRange) (cs : List (Text × Text)) : Prop :=
  (r = {} ∧ cs = []) ∨ ∃ base patch?, r.Shows base patch? ∧
    cs = rangeCaptures base.text (patch?.map PatchSet.text)

/-- The route of a change takes the path unless that of a comparison does, and captures repository,
number and range. -/
theorem takes_change {s : Text} (hne : s ≠ []) (change : UInt32) {r : PatchRange}
    (hr : r = {} ∨ r.IsShown)
    (hdiff : Route.diff.match? (changePath (readable true s) (Numeral.ofNat change.toNat) r.tail) =
      none) :
    ∃ cs, shownCaptures r cs ∧
      Route.change.Takes (changePath (readable true s) (Numeral.ofNat change.toNat) r.tail)
        (cs ++ changeCaptures (readable true s) (Numeral.ofNat change.toNat)) := by
  have htail := isRangeTail_tail hr
  have hpath := htail.isChangePath s change
  have hcomma := htail.not_mem_changePath (c := ',') (by decide) (by decide) (by decide) (by decide)
    (by decide) (by decide) (by decide) s change
  have hat := htail.not_mem_changePath (c := '@') (by decide) (by decide) (by decide) (by decide)
    (by decide) (by decide) (by decide) s change
  have hmatch : ∃ cs, shownCaptures r cs ∧ Route.change.match?
      (changePath (readable true s) (Numeral.ofNat change.toNat) r.tail) =
        some (cs ++ changeCaptures (readable true s) (Numeral.ofNat change.toNat)) := by
    have hrow := fun cs => @match?_changeRow changeTail _ _ r.tail cs
      (fun h => hne (Percent.readable_eq_nil.1 h)) (isRun_dot_readable true s) (isNumber_ofNat _)
      hpath.tail (hpath.final.not_holdsRow _)
    rcases hr with rfl | hshown
    · exact ⟨[], Or.inl ⟨rfl, rfl⟩, hrow [] (reads_changeTail_slash (Or.inl rfl))
        fun _ _ _ _ => unique_changeTail_slash (Or.inl rfl)⟩
    · obtain ⟨base, patch?, hshows⟩ := hshown.exists_shows
      exact ⟨_, Or.inr ⟨base, patch?, hshows, rfl⟩, hrow _ (reads_changeTail_range hshows)
        fun _ _ _ _ => unique_changeTail_range hshows⟩
  obtain ⟨cs, hcs, hmatch⟩ := hmatch
  refine ⟨cs, hcs, Route.takes_of_change hmatch ?_⟩
  have hbefore : changeRoutes.takeWhile (· != .change) = editRoutes ++ (commentRoutes ++ [.diff]) := rfl
  rw [hbefore, List.forall_mem_append, List.forall_mem_append, List.forall_mem_singleton]
  exact ⟨Route.match?_editRoutes_eq_none (number_append_ne_nil change _) hcomma hat,
    Route.match?_commentRoutes_eq_none hpath.isNumbered (fun tail _ => hpath.final.not_holdsRow tail)
      htail.not_prefix_comment, hdiff⟩

/-! ### The edit mode -/

/-- The ranges of the edit mode: none, or one patch set that is not negative. -/
def PatchRange.IsEdited (r : PatchRange) : Prop :=
  r = {} ∨ ∃ n : Int32, 0 ≤ n.toInt ∧ r = ⟨none, some (.num n)⟩

/-- What is captured of such a range. -/
def editCaptures (r : PatchRange) : List (Text × Text) :=
  match r.patch with
  | some p => [("patch", p.text)]
  | none => []

/-- Such a range in a path: nothing, or digits behind a slash. -/
theorem PatchRange.IsEdited.tail_cases {r : PatchRange} (h : r.IsEdited) :
    (r.tail = [] ∧ editCaptures r = []) ∨
      ∃ m, r.tail = '/' :: Numeral.ofNat m ∧ editCaptures r = [("patch".toList, Numeral.ofNat m)] := by
  rcases h with rfl | ⟨n, hn, rfl⟩
  · exact Or.inl ⟨rfl, rfl⟩
  · right
    cases hint : n.toInt with
    | negSucc m =>
      rw [hint] at hn
      exact absurd hn (Int.negSucc_not_nonneg m).1
    | ofNat m =>
      have htext : (PatchSet.num n).text = Numeral.ofNat m := by
        rw [PatchSet.text, hint]
        rfl
      refine ⟨m, ?_, ?_⟩
      · show (if (PatchSet.num n).text = [] then [] else '/' :: (PatchSet.num n).text) = _
        rw [htext, if_neg (Numeral.ofNat_ne_nil m)]
      · show [("patch".toList, (PatchSet.num n).text)] = _
        rw [htext]

theorem reads_editEnd (b : Option Char) : Reads (lit ",edit" ++ [slash?, stop]) b ",edit" [] [] :=
  reads_lit.2 ⟨[], rfl, reads_slashEnd (Or.inl rfl) _⟩

theorem reads_changeEditTail {r : PatchRange} (h : r.IsEdited) (b : Option Char) :
    Reads changeEditTail b (r.tail ++ ",edit") [] (editCaptures r) := by
  rcases h.tail_cases with ⟨htail, hcs⟩ | ⟨m, htail, hcs⟩
  · rw [htail, hcs]
    exact reads_maybe.2 (Or.inr (reads_editEnd b))
  · rw [htail, hcs]
    refine reads_maybe.2 (Or.inl ⟨_, _, [("patch".toList, Numeral.ofNat m)], [], rfl, rfl, ?_,
      reads_editEnd _⟩)
    refine (spells_row _ _ _ _ _).2 (reads_lit.2 ⟨Numeral.ofNat m, rfl, ?_⟩)
    exact reads_capture_plus.2 ⟨_, [], [], (List.append_nil _).symm, rfl, Numeral.ofNat_ne_nil m,
      isRun_ofNat m, rfl, rfl⟩

theorem unique_changeEditTail {r : PatchRange} (h : r.IsEdited) {b : Option Char} {w rest : Text}
    {cs : List (Text × Text)} (hw : r.tail ++ ",edit" = w ++ rest)
    (hreads : Reads changeEditTail b w rest cs) : cs = editCaptures r := by
  obtain ⟨rfl, patch?, back, rfl, hpatch, -, rfl⟩ := exists_of_reads_changeEditTail hreads
  rw [List.append_nil] at hw
  rcases h.tail_cases with ⟨htail, hcs⟩ | ⟨m, htail, hcs⟩ <;> rw [htail] at hw <;> rw [hcs]
  · cases patch? with
    | none => rfl
    | some patch =>
      obtain ⟨hcomma, -⟩ := List.cons.inj hw
      exact absurd hcomma (by decide)
  · cases patch? with
    | none =>
      obtain ⟨hcomma, -⟩ := List.cons.inj hw
      exact absurd hcomma (by decide)
    | some patch =>
      have hcomma : ∀ (t : Text) c, (",edit".toList ++ t).head? = some c →
          isDecimalDigit c = false := by
        intro t c hc
        obtain rfl := Option.some_inj.1 hc
        decide
      obtain ⟨rfl, -⟩ := tail_eq_of_digits_eq (isRun_ofNat m) (hpatch patch rfl).digits (hcomma [])
        (hcomma back) (List.cons.inj hw).2
      rfl

/-- A character that is foreign to digits does not occur in the tail. -/
theorem PatchRange.IsEdited.not_mem {r : PatchRange} (h : r.IsEdited) {c : Char}
    (hdigit : c.isDigit = false) (hslash : c ≠ '/') : c ∉ r.tail := by
  rcases h.tail_cases with ⟨htail, -⟩ | ⟨m, htail, -⟩
  · rw [htail]
    exact List.not_mem_nil
  · rw [htail, List.mem_cons, not_or]
    exact ⟨hslash, Numeral.not_mem_ofNat hdigit m⟩

/-- The path of the edit mode. -/
theorem PatchRange.IsEdited.isChangePath {r : PatchRange} (h : r.IsEdited) (s : Text) (change : UInt32) :
    IsChangePath (readable true s) (Numeral.ofNat change.toNat) (r.tail ++ ",edit") where
  digit := isRun_ofNat _
  tail c hc := by
    rcases h.tail_cases with ⟨htail, -⟩ | ⟨m, htail, -⟩ <;> rw [htail] at hc <;>
      obtain rfl := Option.some_inj.1 hc <;> decide
  final := by
    apply IsFinal.of_not_mem
    rw [List.mem_append, List.mem_append, not_or, not_or]
    exact ⟨Numeral.not_mem_ofNat (by decide) _, h.not_mem (by decide) (by decide), by decide⟩

theorem PatchRange.IsEdited.slash_not_mem_tail {r : PatchRange} (h : r.IsEdited) :
    '/' ∉ (r.tail ++ ",edit").tail := by
  rcases h.tail_cases with ⟨htail, -⟩ | ⟨m, htail, -⟩
  · rw [htail]
    decide
  · rw [htail, List.cons_append, List.tail_cons, List.mem_append, not_or]
    exact ⟨Numeral.not_mem_ofNat (by decide) m, by decide⟩

/-- The route of the edit mode takes the path unless that of an editor does. -/
theorem takes_changeEdit {s : Text} (hne : s ≠ []) (change : UInt32) {r : PatchRange} (hr : r.IsEdited)
    (hdiffEdit : Route.diffEdit.match?
      (changePath (readable true s) (Numeral.ofNat change.toNat) (r.tail ++ ",edit")) = none) :
    Route.changeEdit.Takes
      (changePath (readable true s) (Numeral.ofNat change.toNat) (r.tail ++ ",edit"))
      (editCaptures r ++ changeCaptures (readable true s) (Numeral.ofNat change.toNat)) := by
  have hpath := hr.isChangePath s change
  have hat : '@' ∉ changePath (readable true s) (Numeral.ofNat change.toNat) (r.tail ++ ",edit") := by
    simp only [changePath, List.mem_append, not_or]
    exact ⟨by decide, not_mem_readable (by decide) s, by decide, Numeral.not_mem_ofNat (by decide) _,
      hr.not_mem (by decide) (by decide), by decide⟩
  have hmatch := match?_changeRow changeEditTail
    (fun h => hne (Percent.readable_eq_nil.1 h)) (isRun_dot_readable true s) (isNumber_ofNat _)
    hpath.tail (hpath.final.not_holdsRow _) (reads_changeEditTail hr)
    (fun _ _ _ _ => unique_changeEditTail hr)
  refine Route.takes_of_change hmatch ?_
  have hbefore : changeRoutes.takeWhile (· != .changeEdit) =
      [.topic, .diffLegacyLinenum, .diffEdit] := rfl
  rw [hbefore]
  intro r' hr'
  simp only [List.mem_cons, List.not_mem_nil, or_false] at hr'
  rcases hr' with rfl | rfl | rfl
  · exact Route.match?_topic_eq_none (number_append_ne_nil change _)
  · exact Route.match?_diffLegacyLinenum_eq_none hat
  · exact hdiffEdit

/-! ### The query of a change -/

/-- A field of a query that may be missing. -/
def field? (name : Text) (value : Option Text) : List (Text × Text) :=
  match value with
  | some v => [(name, v)]
  | none => []

namespace ChangeView

/-- The fields in the query of a change. -/
def queryFields (v : ChangeView) : List (Text × Text) :=
  field? "tab" v.tab ++ field? "filter" v.filter ++ field? "select" v.select ++
    field? "attempt" (v.attempt.map fun n => Numeral.ofNat n.toNat)

theorem isFieldName_of_mem {v : ChangeView} : ∀ f ∈ v.queryFields, IsFieldName f.1 := by
  have hname : ∀ n ∈ (["tab", "filter", "select", "attempt"] : List Text), IsFieldName n := by
    have hplain : ∀ n ∈ (["tab", "filter", "select", "attempt"] : List Text),
        n ≠ [] ∧ n.all Percent.isUnescaped = true := by
      decide
    exact fun n hn => ⟨(hplain n hn).1, List.all_eq_true.1 (hplain n hn).2⟩
  have hfield : ∀ (n : Text) (value : Option Text), ∀ f ∈ field? n value, f.1 = n := by
    intro n value f hf
    cases value with
    | none => cases hf
    | some t =>
      obtain rfl := List.mem_singleton.1 hf
      rfl
  intro f hf
  apply hname
  simp only [queryFields, List.mem_append] at hf
  simp only [List.mem_cons, List.not_mem_nil, or_false]
  rcases hf with ((hf | hf) | hf) | hf
  · exact Or.inl (hfield _ _ f hf)
  · exact Or.inr (Or.inl (hfield _ _ f hf))
  · exact Or.inr (Or.inr (Or.inl (hfield _ _ f hf)))
  · exact Or.inr (Or.inr (Or.inr (hfield _ _ f hf)))

theorem queryField_eq {name : Text} {value : Option Text} (h : value ≠ some []) :
    queryField name value = (field? name value).map fieldText := by
  cases value with
  | none => rfl
  | some t =>
    have ht : t ≠ [] := fun heq => h (congrArg some heq)
    show (if t = [] then [] else [name ++ "=" ++ escape t]) = _
    rw [if_neg ht]
    rfl

theorem escape_ofNat (n : Nat) : escape (Numeral.ofNat n) = Numeral.ofNat n := by
  have hall : ∀ t : Text, (∀ c ∈ t, c.isDigit = true) → escape t = t := by
    intro t
    induction t with
    | nil => intro _; rfl
    | cons c t ih =>
      intro h
      have hc : Percent.isUnescaped c = true := by
        have hdigit := h c List.mem_cons_self
        simp only [Percent.isUnescaped, Char.isAlphanum, hdigit, Bool.or_true, Bool.true_or]
      rw [Percent.escape_cons, Percent.escapeChar_of_isUnescaped hc,
        ih fun d hd => h d (List.mem_cons_of_mem c hd)]
      rfl
  exact hall _ fun c hc => Numeral.isDigit_of_mem_ofNat hc

/-- The query of a change. -/
def query (v : ChangeView) : Text :=
  List.intercalate "&" (v.queryFields.map fieldText)

/-- The values of the fields, found by their names. -/
theorem queryValue?_eq {v : ChangeView} {l : Location} (hl : l.query = v.query) :
    l.queryValue? "tab" = v.tab ∧ l.queryValue? "filter" = v.filter ∧
      l.queryValue? "select" = v.select ∧
      l.queryValue? "attempt" = v.attempt.map fun n => Numeral.ofNat n.toNat := by
  have hpairs : queryPairs l.query = v.queryFields := by
    rw [hl, query, queryPairs_fields v.queryFields v.isFieldName_of_mem]
  simp only [Location.queryValue?, hpairs, queryFields]
  cases v.tab <;> cases v.filter <;> cases v.select <;> cases v.attempt <;> exact ⟨rfl, rfl, rfl, rfl⟩

/-! ### Addressable views -/

/-- The views of a change that their address can show: a repository without two slashes around a
space, no comment and no message, no empty value in the query, and either a range or the edit mode,
which has neither filter nor selection nor attempt. -/
structure IsAddressable (v : ChangeView) : Prop where
  project : ∃ s, v.project = some s ∧ s ≠ [] ∧ ¬("/ /" : Text) <:+: s
  comment : v.comment = none
  messageHash : v.messageHash = none
  tab : v.tab ≠ some []
  filter : v.filter ≠ some []
  select : v.select ≠ some []
  mode : (v.edit = false ∧ (v.range = {} ∨ v.range.IsShown)) ∨
    (v.edit = true ∧ v.range.IsEdited ∧ v.filter = none ∧ v.select = none ∧ v.attempt = none)

/-- The same, with any repository that has a name. -/
structure IsPlain (v : ChangeView) (s : Text) : Prop where
  project : v.project = some s
  ne_nil : s ≠ []
  comment : v.comment = none
  messageHash : v.messageHash = none
  tab : v.tab ≠ some []
  filter : v.filter ≠ some []
  select : v.select ≠ some []
  mode : (v.edit = false ∧ (v.range = {} ∨ v.range.IsShown)) ∨
    (v.edit = true ∧ v.range.IsEdited ∧ v.filter = none ∧ v.select = none ∧ v.attempt = none)

theorem IsAddressable.exists_isPlain {v : ChangeView} (h : v.IsAddressable) :
    ∃ s, v.IsPlain s ∧ ¬("/ /" : Text) <:+: s := by
  obtain ⟨s, hs, hne, hmark⟩ := h.project
  exact ⟨s, ⟨hs, hne, h.comment, h.messageHash, h.tab, h.filter, h.select, h.mode⟩, hmark⟩

/-- What stands behind the number. -/
def place (v : ChangeView) : Text :=
  v.range.tail ++ (if v.edit then ",edit" else "")

theorem place_of_not_edit {v : ChangeView} (hedit : v.edit = false) : v.place = v.range.tail := by
  rw [place, hedit]
  exact List.append_nil _

theorem place_of_edit {v : ChangeView} (hedit : v.edit = true) : v.place = v.range.tail ++ ",edit" := by
  rw [place, hedit]
  rfl

theorem address_eq {v : ChangeView} {s : Text} (h : v.IsPlain s) :
    v.address = (changeRoot (some s) v.change ++ v.place) ++
      (if v.query = [] then [] else '?' :: v.query) ++
      (if ([] : Text) = [] then [] else '#' :: []) := by
  have hfields : v.queryFields.map fieldText = queryField "tab" v.tab ++ queryField "filter" v.filter ++
      queryField "select" v.select ++
      (field? "attempt" (v.attempt.map fun n => Numeral.ofNat n.toNat)).map fieldText := by
    rw [queryFields, List.map_append, List.map_append, List.map_append, ← queryField_eq h.tab,
      ← queryField_eq h.filter, ← queryField_eq h.select]
  have haddress : v.address =
      changeRoot (some s) v.change ++ v.place ++ queryTail (v.queryFields.map fieldText) ++ [] := by
    rw [hfields]
    unfold address
    rw [h.comment, h.messageHash, h.project]
    cases v.attempt with
    | none => rfl
    | some n =>
      have hattempt : (field? "attempt" (some (Numeral.ofNat n.toNat))).map fieldText =
          ["attempt=" ++ Numeral.ofNat n.toNat] := by
        show [("attempt" : Text) ++ "=" ++ escape (Numeral.ofNat n.toNat)] = _
        rw [escape_ofNat]
        rfl
      rw [Option.map_some, hattempt]
      rfl
  rw [haddress, queryTail_eq v.isFieldName_of_mem]
  rfl

/-- The location of the address. -/
theorem parse_address {v : ChangeView} {s : Text} (h : v.IsPlain s) :
    (Location.parse v.address).path = changeRoot (some s) v.change ++ v.place ∧
      (Location.parse v.address).query = v.query := by
  have hplace : ∀ c, isPartChar c = false → c.isDigit = false → c ≠ '.' → c ≠ '/' → c ≠ ',' →
      c ∉ v.place := by
    intro c hpart hdigit hdot hslash hcomma
    rw [place, List.mem_append, not_or]
    rcases h.mode with ⟨hedit, hrange⟩ | ⟨hedit, hrange, -⟩
    · rw [hedit]
      exact ⟨(isRangeTail_tail hrange).not_mem hpart hdot hslash, List.not_mem_nil⟩
    · refine ⟨hrange.not_mem hdigit hslash, ?_⟩
      rw [hedit]
      show c ∉ [',', 'e', 'd', 'i', 't']
      intro hmem
      rcases List.mem_cons.1 hmem with rfl | hmem
      · exact hcomma rfl
      · have hletters : ['e', 'd', 'i', 't'].all isPartChar = true := by decide
        rw [List.all_eq_true.1 hletters c hmem] at hpart
        cases hpart
  have hmem : ∀ c, Percent.isSegmentChar c = false → isPartChar c = false → c.isDigit = false →
      c ≠ '.' → c ≠ '/' → c ≠ ',' → c ∉ changeRoot (some s) v.change ++ v.place := by
    intro c hc hpart hdigit hdot hslash hcomma
    rw [List.mem_append, not_or]
    exact ⟨not_mem_changeRoot hc hdigit s v.change, hplace c hpart hdigit hdot hslash hcomma⟩
  have hparse := Location.parse_eq _ [] (changeRoot_ne_nil s v.change v.place)
    (hmem '#' (by decide) (by decide) (by decide) (by decide) (by decide) (by decide))
    (hmem '?' (by decide) (by decide) (by decide) (by decide) (by decide) (by decide))
    (not_mem_fields v.isFieldName_of_mem (c := '#') (by decide) (by decide) (by decide) (by decide))
  rw [address_eq h]
  exact ⟨congrArg Location.path hparse, congrArg Location.query hparse⟩

theorem percent_not_mem_place {v : ChangeView} {s : Text} (h : v.IsPlain s) : '%' ∉ v.place := by
  rw [place, List.mem_append, not_or]
  rcases h.mode with ⟨hedit, hrange⟩ | ⟨hedit, hrange, -⟩
  · rw [hedit]
    exact ⟨(isRangeTail_tail hrange).not_mem (by decide) (by decide) (by decide), List.not_mem_nil⟩
  · rw [hedit]
    exact ⟨hrange.not_mem (by decide) (by decide), by decide⟩

/-- The path that routes see. -/
theorem matchPath_address {v : ChangeView} {s : Text} (h : v.IsPlain s) :
    (Location.parse v.address).matchPath =
      changePath (readable true s) (Numeral.ofNat v.change.toNat) v.place := by
  rw [Location.matchPath, (parse_address h).1, unescape_changeRoot_append,
    Percent.unescape_plain _ (percent_not_mem_place h)]

end ChangeView

/-! ### The handlers -/

theorem View.settle_change {v : ChangeView} {r : PatchRange} (h : r.normalize = (v.range, false)) :
    (View.change { v with range := r }).settle = .present (.change v) := by
  simp only [View.settle, View.range?, h, View.withRange]
  rfl

section Handlers

variable {A : Answers} {l : Location} {s : Text} {v : ChangeView} {result : Except Failure Action}

/-- What is captured behind the number does not hide repository and number. -/
theorem lookup_shownCaptures {r : PatchRange} {cs : List (Text × Text)} (h : shownCaptures r cs) :
    cs.lookup "repo".toList = none ∧ cs.lookup "change".toList = none := by
  rcases h with ⟨-, rfl⟩ | ⟨base, patch?, -, rfl⟩
  · exact ⟨rfl, rfl⟩
  · cases patch? <;> exact ⟨rfl, rfl⟩

/-- The captured range is read back. -/
theorem parse?_shownCaptures {r : PatchRange} {cs : List (Text × Text)} (h : shownCaptures r cs)
    (repo digits : Text) : ∃ base patch, PatchRange.normalize ⟨base, patch⟩ = (r, false) ∧
      (Route.change.captured (cs ++ changeCaptures repo digits)).parse? PatchSet.ofText? "base" =
        .ok base ∧
      (Route.change.captured (cs ++ changeCaptures repo digits)).parse? PatchSet.ofText? "patch" =
        .ok patch := by
  rcases h with ⟨rfl, rfl⟩ | ⟨base, patch?, hshows, rfl⟩
  · exact ⟨none, none, rfl, Captures.parse?_none rfl, Captures.parse?_none rfl⟩
  · have hbase := hshows.ne_parent
    refine ⟨some base, patch?, hshows.normalize, ?_, ?_⟩
    · cases patch? <;> exact parse?_patchSet .change rfl hbase
    · cases patch? <;> exact hshows.parse?_patch .change rfl

/-- The handler of a change presents the view that was shown. -/
theorem gives_handleChange (h : v.IsPlain s) (hedit : v.edit = false) (hl : l.query = v.query) {cs : List (Text × Text)} (hcs : shownCaptures v.range cs)
    (hgives : (handleChange l (Route.change.captured
      (cs ++ changeCaptures (readable true s) (Numeral.ofNat v.change.toNat)))).Gives A result) :
    result = .ok (.present (.change v)) := by
  obtain ⟨hrepo, hchange⟩ := lookup_shownCaptures hcs
  obtain ⟨base, patch, hnormal, hbase, hpatch⟩ :=
    parse?_shownCaptures hcs (readable true s) (Numeral.ofNat v.change.toNat)
  obtain ⟨htab, hfilter, hselect, hattempt⟩ := ChangeView.queryValue?_eq hl
  rw [handleChange, Handling.gives_changeTarget hrepo hchange] at hgives
  rw [hbase, hpatch, htab, hfilter, hselect, hattempt] at hgives
  have hbind : (v.attempt.map fun n => Numeral.ofNat n.toNat).bind Numeral.u32? = v.attempt := by
    cases v.attempt with
    | none => rfl
    | some n => exact Numeral.u32?_ofNat n
  rw [hbind] at hgives
  have hresult : result = .ok (View.change { v with range := ⟨base, patch⟩ }).settle := by
    refine Eq.trans hgives ?_
    simp only [h.project, h.comment, h.messageHash, hedit]
  rw [hresult, View.settle_change hnormal]

/-- So does the handler of the edit mode. -/
theorem gives_handleChangeEdit (h : v.IsPlain s) (hedit : v.edit = true) (hrange : v.range.IsEdited) (hfilter : v.filter = none)
    (hselect : v.select = none) (hattempt : v.attempt = none) (hl : l.query = v.query)
    (hgives : (handleChangeEdit l (Route.changeEdit.captured (editCaptures v.range ++
      changeCaptures (readable true s) (Numeral.ofNat v.change.toNat)))).Gives A result) :
    result = .ok (.present (.change v)) := by
  have hcaptured : ∃ patch, v.range = ⟨none, patch⟩ ∧
      (Route.changeEdit.captured (editCaptures v.range ++
        changeCaptures (readable true s) (Numeral.ofNat v.change.toNat))).parse? PatchSet.ofText?
          "patch" = .ok patch := by
    rcases hrange with hnone | ⟨n, -, hsome⟩
    · rw [hnone]
      exact ⟨none, rfl, Captures.parse?_none rfl⟩
    · rw [hsome]
      have hn : PatchSet.num n ≠ .parent := nofun
      exact ⟨some (.num n), rfl, parse?_patchSet .changeEdit rfl hn⟩
  have hlookup : (editCaptures v.range).lookup "repo".toList = none ∧
      (editCaptures v.range).lookup "change".toList = none := by
    rcases hrange with hnone | ⟨n, -, hsome⟩
    · rw [hnone]
      exact ⟨rfl, rfl⟩
    · rw [hsome]
      exact ⟨rfl, rfl⟩
  obtain ⟨patch, hpatch, hparse⟩ := hcaptured
  obtain ⟨htab, -⟩ := ChangeView.queryValue?_eq hl
  rw [handleChangeEdit, Handling.gives_changeTarget hlookup.1 hlookup.2, hparse, htab] at hgives
  have hresult : result = .ok (View.change { v with range := ⟨none, patch⟩ }).settle := by
    refine Eq.trans hgives ?_
    simp only [h.project, h.comment, h.messageHash, hedit, hfilter, hselect, hattempt]
  rw [hresult, View.settle_change (v := v)]
  rw [hpatch]
  rfl

end Handlers

/-- The route that is tried before that of a change, and could take its path. -/
def ChangeView.rival (v : ChangeView) : Route :=
  if v.edit then .diffEdit else .diff

/-- Navigating to the address of a change presents the view, unless that route takes the path. -/
theorem ChangeView.action_navigate_of_rival {σ : Type} {n : Navigator} (hn : n.IsStandard)
    {s : Session σ} {st : σ} (hs : s.Obeys .signedIn st) {v : ChangeView} {project : Text}
    (hv : v.IsPlain project)
    (hrival : v.rival.match?
      (changePath (readable true project) (Numeral.ofNat v.change.toNat) v.place) = none) :
    ((n.navigate v.address).1.run s st).1.action = .present (.change v) := by
  have hpath := matchPath_address hv
  have hquery := (parse_address hv).2
  rcases hv.mode with ⟨hedit, hrange⟩ | ⟨hedit, hrange, hfilter, hselect, hattempt⟩
  · rw [place_of_not_edit hedit] at hpath hrival
    rw [rival, hedit] at hrival
    obtain ⟨cs, hcs, htakes⟩ := takes_change hv.ne_nil v.change hrange hrival
    rw [← hpath] at htakes
    refine n.run_navigate hn hs htakes ?_
    intro initialLoad result hgives
    rw [gives_handleChange hv hedit hquery hcs (Handling.gives_guard_signedIn hgives)]
    rfl
  · rw [place_of_edit hedit] at hpath hrival
    rw [rival, hedit] at hrival
    have htakes := takes_changeEdit hv.ne_nil v.change hrange hrival
    rw [← hpath] at htakes
    refine n.run_navigate hn hs htakes ?_
    intro initialLoad result hgives
    rw [gives_handleChangeEdit hv hedit hrange hfilter hselect hattempt hquery
      (Handling.gives_guard_signedIn hgives)]
    rfl

/-- **Navigating to the address of a change presents the view.**  For every navigator over all
routes at the root of its server, and every session in a state from which the user stays signed in. -/
theorem ChangeView.action_navigate_address {σ : Type} {n : Navigator} (hn : n.IsStandard)
    {s : Session σ} {st : σ} (hs : s.Obeys .signedIn st) {v : ChangeView} (hv : v.IsAddressable) :
    ((n.navigate v.address).1.run s st).1.action = .present (.change v) := by
  obtain ⟨project, hplain, hmark⟩ := hv.exists_isPlain
  have hrepo : ¬marker <:+: readable true project := fun h => hmark (marker_infix_readable h)
  refine action_navigate_of_rival hn hs hplain ?_
  rcases hplain.mode with ⟨hedit, hrange⟩ | ⟨hedit, hrange, -⟩
  · have htail := isRangeTail_tail hrange
    rw [place_of_not_edit hedit, rival, hedit, if_neg Bool.false_ne_true]
    exact Route.match?_diff_eq_none (htail.isChangePath project v.change) hrepo htail.slash_not_mem_tail
  · rw [place_of_edit hedit, rival, hedit, if_pos rfl]
    exact Route.match?_diffEdit_eq_none_of_tail (hrange.isChangePath project v.change) hrepo
      hrange.slash_not_mem_tail

/-- A comparison of two patch sets, with a tab and an attempt, in a repository whose name holds
separators of routes. -/
def ChangeView.sample : ChangeView :=
  { project := some "plugins/a+b, c@5%", change := 42, range := ⟨some (.num (-1)), some .edit⟩,
    tab := some "checks & more", attempt := some 3 }

theorem ChangeView.isAddressable_sample : sample.IsAddressable where
  project := ⟨_, rfl, by decide, by decide +kernel⟩
  comment := rfl
  messageHash := rfl
  tab := by decide
  filter := by decide
  select := by decide
  mode := Or.inl ⟨rfl, Or.inr (Or.inr ⟨.num (-1), .edit, nofun, trivial, nofun, rfl⟩)⟩

theorem ChangeView.action_navigate_sample :
    Navigator.overAll.IsStandard ∧ Session.scripted.Obeys .signedIn { loggedIn := true } ∧
      sample.IsAddressable ∧
      ((Navigator.overAll.navigate sample.address).1.run Session.scripted
        { loggedIn := true }).1.action = .present (.change sample) :=
  ⟨Navigator.isStandard_overAll, Session.scripted_obeys_signedIn rfl rfl, isAddressable_sample,
    action_navigate_address Navigator.isStandard_overAll (Session.scripted_obeys_signedIn rfl rfl)
      isAddressable_sample⟩

end ReviewRouter
