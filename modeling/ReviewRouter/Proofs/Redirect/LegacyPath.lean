import ReviewRouter.Proofs.RoundTrip.Basic

/-!
# The paths of old links

An old link to a change does not name its project: behind `/c/` stands the number of the change.  Other paths
below `/c/` begin with the name of a project, and a name that begins with a digit looks like a number.

* `BeginsWithDigit`, `HoldsComparison` — what counts about the name of a project;
* `Route.match?_changeLegacy`, `Route.of_match?_changeLegacy` — the paths that look like old links;
* `Route.PassedBy` — the paths that no page of a change has;
* `Route.passedBy_of_number` — these are a number and what follows it without a plus sign;
* `Route.match?_diff_ne_none_of_holds`, `Route.passedBy_of_project` — **and the path of a change with a tail
  that no page has, unless a comparison can be read in the project**.
-/

namespace ReviewRouter

open Pattern
open Percent (readable escapeSegment unescape unescapeValue)

/-! ### Names of projects -/

/-- A text that begins with a digit. -/
def BeginsWithDigit (t : Text) : Prop :=
  ∃ c u, t = c :: u ∧ c.isDigit = true

/-- A repository in a path that holds the beginning of the path of a comparison, up to the slash behind the
repository. -/
def HoldsComparison (repo : Text) : Prop :=
  ∃ front digits base patch? rest,
    repo ++ ['/'] = front ++ (marker ++ (digits ++ '/' :: (rangeText base patch? ++ '/' :: rest))) ∧
      front ≠ [] ∧ IsNumber digits ∧ IsRange base patch?

/-- A repository in a path that holds a number and a part with the property between slashes, behind a
mark of its own and up to the slash behind the repository. -/
def HoldsPart (M : Text → Prop) (repo : Text) : Prop :=
  ∃ front digits m rest,
    repo ++ ['/'] = front ++ (marker ++ (digits ++ '/' :: (m ++ '/' :: rest))) ∧
      front ≠ [] ∧ IsNumber digits ∧ M m

/-- The characters that are never escaped are all in ASCII. -/
theorem toNat_lt_of_isUnescaped {c : Char} (h : Percent.isUnescaped c = true) : c.toNat < 128 := by
  rcases Bool.or_eq_true_iff.1 h with h | h
  · replace h : (decide ('A'.val ≤ c.val ∧ c.val ≤ 'Z'.val) ||
        (decide ('a'.val ≤ c.val) && decide (c.val ≤ 'z'.val)) ||
        (decide ('0'.val ≤ c.val) && decide (c.val ≤ '9'.val))) = true := h
    simp only [Bool.or_eq_true, Bool.and_eq_true, decide_eq_true_eq, UInt32.le_iff_toNat_le] at h
    show c.val.toNat < 128
    have hZ : 'Z'.val.toNat = 90 := rfl
    have hz : 'z'.val.toNat = 122 := rfl
    have h9 : '9'.val.toNat = 57 := rfl
    omega
  · have hmarks : ("-_.!~*\x27()" : Text).all (·.toNat < 128) = true := by decide
    exact of_decide_eq_true (List.all_eq_true.1 hmarks c (List.contains_iff_mem.1 h))

theorem isDigit_of_isUnescaped {c : Char} (h : Percent.isUnescaped c = true)
    (hdigit : isDecimalDigit c = true) : c.isDigit = true := by
  have hall : ∀ n < 128, CodePoints.decimalDigit.mem n = true → 48 ≤ n ∧ n ≤ 57 := by
    decide
  obtain ⟨hlow, hhigh⟩ := hall c.toNat (toNat_lt_of_isUnescaped h) hdigit
  simp only [Char.isDigit, Bool.and_eq_true, decide_eq_true_eq]
  exact ⟨hlow, hhigh⟩

theorem escapeChar_of_isDigit {c : Char} (h : c.isDigit = true) : Percent.escapeChar c = [c] := by
  refine Percent.escapeChar_of_isUnescaped ?_
  simp only [Percent.isUnescaped, Char.isAlphanum, h, Bool.or_true, Bool.true_or]

theorem readableChar_of_isDigit {c : Char} (h : c.isDigit = true) :
    Percent.readableChar true c = [c] := by
  have hspace : c ≠ ' ' := by
    rintro rfl
    cases h
  unfold Percent.readableChar
  rw [if_neg hspace]
  split
  · rfl
  · exact escapeChar_of_isDigit h

/-- In a path a name begins with a digit only if it does so itself. -/
theorem head_readable {s u : Text} {c : Char} (h : readable true s = c :: u)
    (hc : isDecimalDigit c = true) : BeginsWithDigit s := by
  cases s with
  | nil => cases h
  | cons d s =>
    refine ⟨d, s, rfl, ?_⟩
    rw [readable, List.flatMap_cons] at h
    unfold Percent.readableChar Percent.escapeChar at h
    split at h
    · obtain ⟨rfl, -⟩ := List.cons.inj h
      exact absurd hc (by decide)
    · split at h
      · next hd =>
        obtain ⟨rfl, -⟩ := List.cons.inj h
        rcases hd with rfl | ⟨-, rfl⟩
        · exact absurd hc (by decide)
        · exact absurd hc (by decide)
      · split at h
        · next hd =>
          obtain ⟨rfl, -⟩ := List.cons.inj h
          exact isDigit_of_isUnescaped hd hc
        · obtain ⟨b, bs, hb, -⟩ := Utf8.encodeChar_starts d
          rw [hb] at h
          obtain ⟨rfl, -⟩ := List.cons.inj h
          exact absurd hc (by decide)

/-! ### Paths that look like old links -/

namespace Route

/-- What an old link captures behind the number. -/
theorem exists_of_reads_legacyTail {b : Option Char} {w r : Text} {cs : List (Text × Text)}
    (h : Reads [slash?, .capture "rest" (reps .dot), stop] b w r cs) :
    r = [] ∧ isRun .dot w ∧ ∃ rest, cs = [("rest".toList, rest)] := by
  have hrest : ∀ {b w cs}, Reads [.capture "rest" (reps .dot), stop] b w r cs →
      r = [] ∧ isRun .dot w ∧ ∃ rest, cs = [("rest".toList, rest)] := by
    intro b w cs h
    obtain ⟨rest, v, cu, cv, rfl, rfl, hrest, h₁⟩ := reads_capture.1 h
    obtain ⟨rfl, rfl, rfl⟩ := reads_stop.1 h₁
    obtain ⟨hdot, rfl⟩ := (spells_star_iff _ _ _ _ _ _).1 hrest
    rw [List.append_nil]
    exact ⟨rfl, hdot, rest, rfl⟩
  rcases reads_maybe_char.1 h with ⟨v, rfl, h₁⟩ | h₁
  · obtain ⟨hr, hdot, hcs⟩ := hrest h₁
    exact ⟨hr, isRun_cons.2 ⟨by decide, hdot⟩, hcs⟩
  · exact hrest h₁

/-- The whole number is captured. -/
theorem match?_changeLegacy {digits v : Text} (hdigits : IsNumber digits)
    (hv : ∀ c, v.head? = some c → isDecimalDigit c = false) (hdot : isRun .dot v) :
    ∃ rest, Route.changeLegacy.match? ("/c/" ++ (digits ++ v)) =
      some [("rest".toList, rest), ("change".toList, digits)] := by
  have hreads : Reads [slash?, .capture "rest" (reps .dot), stop] (lastChar (some '/') digits) v []
      [("rest".toList, v)] := by
    refine reads_maybe_char.2 (Or.inr (reads_capture.2 ⟨v, [], [], [], ?_, rfl, ?_, ?_⟩))
    · exact (List.append_nil v).symm
    · exact (spells_star_iff _ _ _ _ _ _).2 ⟨hdot, rfl⟩
    · exact reads_stop.2 ⟨rfl, rfl, rfl⟩
  have hmem := mem_ends_of_reads hreads [("change".toList, digits)]
  rw [List.append_nil] at hmem
  obtain ⟨found, hfound⟩ := Option.ne_none_iff_exists'.1
    (run_ne_none (k := fun e => some e.captured) hmem (Option.some_ne_none _))
  obtain ⟨w, r, cs, -, hw, hcs⟩ := exists_reads_of_run hfound
  obtain ⟨-, -, rest, rfl⟩ := exists_of_reads_legacyTail hw
  obtain rfl := Option.some_inj.1 hcs
  refine ⟨rest, ?_⟩
  show (row (lit "/c/" ++ [.capture "change" (plus .digit), slash?, .capture "rest" (reps .dot),
    stop])).matchAt? none _ = _
  rw [matchAt?, run_lit]
  refine run_capture_plus_of_longest hdigits.ne_nil hdigits.digits hfound ?_
  -- a longer number would have to go on behind the digits
  intro x u r cs hx hne hrun _
  cases x with
  | nil => exact absurd rfl hne
  | cons c x =>
    have hc := hv c (by rw [hx]; rfl)
    have hdigit : isDecimalDigit c = true := hrun c List.mem_cons_self
    rw [hc] at hdigit
    cases hdigit

/-- Such a path begins with a digit and has no line end. -/
theorem of_match?_changeLegacy {t : Text} {found : List (Text × Text)}
    (h : Route.changeLegacy.match? ("/c/" ++ t) = some found) :
    (∃ c u, t = c :: u ∧ isDecimalDigit c = true) ∧ isRun .dot t := by
  obtain ⟨w, r, hpath, hreads⟩ := exists_reads_of_matchAt? h
  obtain ⟨v, rfl, h₁⟩ := reads_lit.1 hreads
  obtain ⟨digits, v, cv, rfl, -, hne, hrun, h₂⟩ := reads_capture_plus.1 h₁
  obtain ⟨rfl, hdot, -⟩ := exists_of_reads_legacyTail h₂
  rw [List.append_nil] at hpath
  obtain rfl : t = digits ++ v := List.append_cancel_left hpath
  cases digits with
  | nil => exact absurd rfl hne
  | cons c digits =>
    have hline : '\n' ∉ c :: digits := not_mem_of_isRun (by decide) hrun
    exact ⟨⟨c, digits ++ v, rfl, hrun c List.mem_cons_self⟩, isRun_append.2 ⟨isRun_dot_iff.2 hline, hdot⟩⟩

/-- A digit is enough to look like an old link. -/
theorem match?_changeLegacy_ne_none {c : Char} {u : Text} (hc : isDecimalDigit c = true)
    (hdot : isRun .dot u) : Route.changeLegacy.match? ("/c/" ++ c :: u) ≠ none := by
  have hreads : Reads Route.changeLegacy.shape none ("/c/" ++ c :: u) []
      ([("rest".toList, u)] ++ [("change".toList, [c])]) := by
    refine reads_lit.2 ⟨c :: u, rfl, reads_capture_plus.2 ⟨[c], u, _, rfl, rfl, ?_, ?_, ?_⟩⟩
    · exact List.cons_ne_nil c []
    · exact isRun_cons.2 ⟨hc, isRun_nil _⟩
    · refine reads_maybe_char.2 (Or.inr (reads_capture.2 ⟨u, [], [], [], ?_, rfl, ?_, ?_⟩))
      · exact (List.append_nil u).symm
      · exact (spells_star_iff _ _ _ _ _ _).2 ⟨hdot, rfl⟩
      · exact reads_stop.2 ⟨rfl, rfl, rfl⟩
  have hmatch := matchAt?_ne_none hreads
  rw [List.append_nil] at hmatch
  exact hmatch

/-! ### Paths that are taken for old links -/

/-- No page of a change has the path. -/
def PassedBy (path : Text) : Prop :=
  ∀ r ∈ changeRoutes.takeWhile (· != .changeLegacy), r.match? path = none

theorem PassedBy.takes {t : Text} {found : List (Text × Text)} (h : PassedBy ("/c/" ++ t))
    (hmatch : Route.changeLegacy.match? ("/c/" ++ t) = some found) :
    Route.changeLegacy.Takes ("/c/" ++ t) found :=
  takes_of_change hmatch h

theorem match?_topic_eq_none_of_ne {c : Char} {u : Text} (hc : c ≠ 't') :
    Route.topic.match? ("/c/" ++ c :: u) = none := by
  refine match?_eq_none_of_lit (q := "/c/topic/") rfl fun hprefix => hc ?_
  have hrest : ("topic/" : Text) <+: c :: u := (List.prefix_append_right_inj ("/c/" : Text)).1 hprefix
  exact (List.cons_prefix_cons.1 hrest).1.symm

/-- Every page of a change has a plus sign in its path. -/
theorem match?_eq_none_of_plus_not_mem {r : Route} (tail : List Pattern) (hshape : r.shape = changeRow tail)
    {path : Text} (h : '+' ∉ path) : r.match? path = none := by
  apply match?_eq_none
  intro w rest cs hpath hreads
  rw [hshape] at hreads
  obtain ⟨repo, digits, x, b, cv, rfl, -⟩ := reads_changeRow hreads
  have hplus : '+' ∈ marker := by decide
  apply h
  rw [hpath]
  simp only [List.mem_append, hplus, true_or, or_true]

/-- A number and what follows it, without a plus sign. -/
theorem passedBy_of_number {c : Char} {u : Text} (hc : isDecimalDigit c = true) (hat : '@' ∉ c :: u)
    (hplus : '+' ∉ c :: u) : PassedBy ("/c/" ++ c :: u) := by
  have hmem : ∀ d, d ∉ ("/c/" : Text) → d ∉ c :: u → d ∉ ("/c/" ++ c :: u : Text) := by
    intro d hd hu
    rw [List.mem_append, not_or]
    exact ⟨hd, hu⟩
  have hpath := hmem '+' (by decide) hplus
  have hbefore : changeRoutes.takeWhile (· != .changeLegacy) = [.topic, .diffLegacyLinenum, .diffEdit,
      .changeEdit, .comment, .commentsTab, .diff, .change] := rfl
  unfold PassedBy
  rw [hbefore]
  intro r hr
  simp only [List.mem_cons, List.not_mem_nil, or_false] at hr
  rcases hr with rfl | rfl | rfl | rfl | rfl | rfl | rfl | rfl
  · refine match?_topic_eq_none_of_ne ?_
    rintro rfl
    exact absurd hc (by decide)
  · exact match?_diffLegacyLinenum_eq_none (hmem '@' (by decide) hat)
  · exact match?_eq_none_of_plus_not_mem diffEditTail rfl hpath
  · exact match?_eq_none_of_plus_not_mem changeEditTail rfl hpath
  · exact match?_eq_none_of_plus_not_mem commentTail rfl hpath
  · exact match?_eq_none_of_plus_not_mem commentsTail rfl hpath
  · exact match?_eq_none_of_plus_not_mem diffTail rfl hpath
  · exact match?_eq_none_of_plus_not_mem changeTail rfl hpath

/-- A text before a slash that has no plus sign ends before the next mark. -/
theorem exists_of_append_marker {a file c y : Text} (ha : '+' ∉ a)
    (h : a ++ '/' :: file = c ++ (marker ++ y)) : ∃ u, c ++ ['/'] = a ++ '/' :: u := by
  rw [marker_append] at h
  rcases List.append_eq_append_iff.1 h with ⟨m, rfl, hm⟩ | ⟨m, rfl, hm⟩
  · cases m with
    | nil => exact ⟨[], by rw [List.append_nil]⟩
    | cons d m =>
      obtain ⟨rfl, -⟩ := List.cons.inj hm
      exact ⟨m ++ ['/'], by rw [List.append_assoc]; rfl⟩
  · match m, hm with
    | [], _ => exact ⟨[], by rw [List.append_nil]⟩
    | [d], hm =>
      simp only [List.cons_append, List.nil_append, List.cons.injEq] at hm
      exact absurd hm.2.1 (by decide)
    | d :: e :: m, hm =>
      simp only [List.cons_append, List.cons.injEq] at hm
      rw [← hm.2.1] at ha
      exact absurd (List.mem_append_right c (List.mem_cons_of_mem d List.mem_cons_self)) ha

/-- A page with such a part between slashes, that is not in the repository, would begin behind the
number. -/
theorem match?_eq_none_of_not_holdsPart {r : Route} (tail : List Pattern)
    (hshape : r.shape = changeRow tail) {M : Text → Prop} (hplus : ∀ m, M m → '+' ∉ m)
    (htail : ∀ {b x rest cv}, Reads tail b x rest cv →
      rest = [] ∧ ∃ m file, x = '/' :: (m ++ '/' :: file) ∧ M m)
    {repo digits t : Text} (hpath : IsChangePath repo digits t) (ht : '/' ∉ t.tail)
    (hhold : ¬HoldsPart M repo) : r.match? (changePath repo digits t) = none := by
  apply match?_eq_none
  intro w rest cs hw hreads
  rw [hshape] at hreads
  obtain ⟨repo', digits', x, b, cv, hrepo', hnumber, hx, hcut⟩ :=
    cases_of_reads_changeRow hreads hpath.final hw.symm
  obtain ⟨rfl, m, file, rfl, hm⟩ := htail hx
  rw [List.append_nil] at hcut
  rcases hcut with ⟨-, hsame⟩ | ⟨c, rfl, hinside⟩
  · have hhead : ∀ {v : Text} c, ('/' :: v).head? = some c → isDecimalDigit c = false := by
      rintro v c ⟨⟩
      decide
    obtain ⟨-, rfl⟩ := tail_eq_of_digits_eq hnumber.digits hpath.digit hhead hpath.tail hsame
    exact ht (List.mem_append_right _ List.mem_cons_self)
  · -- the part ends before the next mark, since there is no plus sign in it
    have hpart : '+' ∉ digits' ++ '/' :: m := by
      rw [List.mem_append, List.mem_cons, not_or, not_or]
      exact ⟨not_mem_of_isRun (by decide) hnumber.digits, by decide, hplus m hm⟩
    have hcut : (digits' ++ '/' :: m) ++ '/' :: file = c ++ (marker ++ (digits ++ t)) := by
      rw [List.append_assoc]
      exact hinside
    obtain ⟨u, hu⟩ := exists_of_append_marker hpart hcut
    refine hhold ⟨repo', digits', m, u, ?_, hrepo', hnumber, hm⟩
    rw [List.append_assoc, List.append_assoc, hu, List.append_assoc]
    rfl

/-- The project and the file of a page in a path without line ends have none either. -/
theorem isRun_of_changePath {t front digits m file : Text}
    (hpath : "/c/" ++ t = changePath front digits ('/' :: (m ++ '/' :: file))) (hdot : isRun .dot t) :
    isRun .dot front ∧ isRun .dot file := by
  obtain rfl : t = front ++ (marker ++ (digits ++ '/' :: (m ++ '/' :: file))) :=
    List.append_cancel_left hpath
  refine ⟨(isRun_append.1 hdot).1, fun c hc => hdot c ?_⟩
  simp only [List.mem_append, List.mem_cons]
  exact Or.inr (Or.inr (Or.inr (Or.inr (Or.inr (Or.inr hc)))))

/-- Where such a part can be read in the repository, a page can. -/
theorem exists_changePath_of_holdsPart {M : Text → Prop} {repo : Text} (hhold : HoldsPart M repo)
    (y : Text) :
    ∃ front digits m file, "/c/" ++ (repo ++ (marker ++ y)) =
        changePath front digits ('/' :: (m ++ '/' :: (file ++ ('+' :: '/' :: y)))) ∧
      front ≠ [] ∧ IsNumber digits ∧ M m := by
  obtain ⟨front, digits, m, rest, hrepo, hfront, hnumber, hm⟩ := hhold
  refine ⟨front, digits, m, rest, ?_, hfront, hnumber, hm⟩
  have hslash : repo ++ (marker ++ y) = (repo ++ ['/']) ++ '+' :: '/' :: y := by
    rw [List.append_assoc]
    rfl
  rw [hslash, hrepo, changePath]
  simp only [List.append_assoc, List.cons_append]

/-- A range in a path. -/
def IsRangeText (m : Text) : Prop :=
  ∃ base patch?, m = rangeText base patch? ∧ IsRange base patch?

theorem holdsPart_range_iff {repo : Text} : HoldsPart IsRangeText repo ↔ HoldsComparison repo := by
  constructor
  · rintro ⟨front, digits, _, rest, hrepo, hfront, hnumber, base, patch?, rfl, hrange⟩
    exact ⟨front, digits, base, patch?, rest, hrepo, hfront, hnumber, hrange⟩
  · rintro ⟨front, digits, base, patch?, rest, hrepo, hfront, hnumber, hrange⟩
    exact ⟨front, digits, _, rest, hrepo, hfront, hnumber, base, patch?, rfl, hrange⟩

/-- A comparison that is not in the repository would begin behind the number. -/
theorem match?_diff_eq_none_of_not_holds {repo digits t : Text} (hpath : IsChangePath repo digits t)
    (ht : '/' ∉ t.tail) (hhold : ¬HoldsComparison repo) :
    Route.diff.match? (changePath repo digits t) = none := by
  rw [← holdsPart_range_iff] at hhold
  refine match?_eq_none_of_not_holdsPart diffTail rfl ?_ ?_ hpath ht hhold
  · rintro _ ⟨base, patch?, rfl, hrange⟩
    exact hrange.not_mem (by decide) (by decide)
  · intro b x rest cv h
    obtain ⟨hr, base, patch?, file, hx, hrange, -⟩ := exists_of_reads_diffTail h
    exact ⟨hr, _, file, hx, base, patch?, rfl, hrange⟩

/-- Where a comparison can be read in the repository, it is. -/
theorem match?_diff_ne_none_of_holds {repo y : Text} (hhold : HoldsComparison repo)
    (hdot : isRun .dot (repo ++ (marker ++ y))) :
    Route.diff.match? ("/c/" ++ (repo ++ (marker ++ y))) ≠ none := by
  obtain ⟨front, digits, _, file, hpath, hfront, hnumber, base, patch?, rfl, hrange⟩ :=
    exists_changePath_of_holdsPart (holdsPart_range_iff.2 hhold) y
  obtain ⟨hfrontDot, hfileDot⟩ := isRun_of_changePath hpath hdot
  rw [hpath]
  have hne : file ++ '+' :: '/' :: y ≠ [] :=
    fun h => List.cons_ne_nil _ _ (List.append_eq_nil_iff.1 h).2
  have hmatch := matchAt?_ne_none (reads_changeRow_changePath hfront hfrontDot hnumber
    (reads_diffTail_of_range hrange hne hfileDot) none)
  rw [List.append_nil] at hmatch
  exact hmatch

/-- The tail of a page of a change has only some characters. -/
theorem match?_change_eq_none_of_mem {repo digits t : Text} (hpath : IsChangePath repo digits t) {c : Char}
    (hc : c ∈ t) (hpart : isPartChar c = false) (hdot : c ≠ '.') (hslash : c ≠ '/') :
    Route.change.match? (changePath repo digits t) = none := by
  apply match?_eq_none
  intro w rest cs hw hreads
  obtain ⟨repo', digits', x, b, cv, -, hnumber, hx, hcut⟩ :=
    cases_of_reads_changeRow hreads hpath.final hw.symm
  have hend : ∀ {v : Text}, IsSlash? v → c ∉ v := by
    rintro v (rfl | rfl)
    · exact List.not_mem_nil
    · rw [List.mem_singleton]
      exact hslash
  have htail : rest = [] ∧ c ∉ x := by
    obtain ⟨rfl, ⟨hx, -⟩ | ⟨front, base, patch?, back, rfl, hfront, hback, hrange, -⟩⟩ :=
      exists_of_reads_changeTail hx
    · exact ⟨rfl, hend hx⟩
    · refine ⟨rfl, ?_⟩
      rw [List.mem_append, List.mem_append, not_or, not_or]
      exact ⟨hend hfront, hrange.not_mem hpart hdot, hend hback⟩
  obtain ⟨rfl, hmiss⟩ := htail
  have hleft : c ∉ digits' ++ (x ++ []) := by
    rw [List.append_nil, List.mem_append, not_or]
    exact ⟨hnumber.isPart.not_mem hpart, hmiss⟩
  rcases hcut with ⟨-, hsame⟩ | ⟨d, -, hinside⟩
  · rw [hsame] at hleft
    exact hleft (List.mem_append_right digits hc)
  · rw [hinside] at hleft
    exact hleft (List.mem_append_right d (List.mem_append_right _ (List.mem_append_right digits hc)))

/-- The path of a change whose project holds no comparison, behind a tail that no page has. -/
theorem passedBy_of_project {repo digits : Text} (hchars : ∀ c ∈ repo, Percent.isSegmentChar c = true)
    (hhold : ¬HoldsComparison repo) (hnumber : IsNumber digits) :
    PassedBy (changePath repo digits "/x") := by
  have hdigits : ∀ {c}, isPartChar c = false → c ∉ digits := hnumber.isPart.not_mem
  have hpath : IsChangePath repo digits "/x" := by
    refine ⟨hnumber.digits, ?_, IsFinal.of_not_mem ?_⟩
    · rintro c ⟨⟩
      decide
    · rw [List.mem_append, not_or]
      exact ⟨hdigits (by decide), by decide⟩
  have hmem : ∀ c, Percent.isSegmentChar c = false → isPartChar c = false → c ∉ ("/c/" : Text) →
      c ∉ marker → c ∉ ("/x" : Text) → c ∉ changePath repo digits "/x" := by
    intro c hc hpart hopen hmark hend
    simp only [changePath, List.mem_append, not_or]
    refine ⟨hopen, ?_, hmark, hdigits hpart, hend⟩
    intro hrepo
    rw [hchars c hrepo] at hc
    cases hc
  have hcomma := hmem ',' (by decide) (by decide) (by decide) (by decide) (by decide)
  have hat := hmem '@' (by decide) (by decide) (by decide) (by decide) (by decide)
  have hbefore : changeRoutes.takeWhile (· != .changeLegacy) =
      editRoutes ++ (commentRoutes ++ [.diff, .change]) := rfl
  have hne : digits ++ ("/x" : Text) ≠ [] :=
    fun h => hnumber.ne_nil (List.append_eq_nil_iff.1 h).1
  have hcomment : ¬("/c" : Text) <+: "/x" := by decide
  have hx : 'x' ∈ ("/x" : Text) := by decide
  unfold PassedBy
  rw [hbefore, List.forall_mem_append, List.forall_mem_append, List.forall_mem_cons,
    List.forall_mem_singleton]
  exact ⟨match?_editRoutes_eq_none hne hcomma hat,
    match?_commentRoutes_eq_none hpath.isNumbered (fun tail _ => hpath.final.not_holdsRow tail) hcomment,
    match?_diff_eq_none_of_not_holds hpath (by decide) hhold,
    match?_change_eq_none_of_mem hpath hx (by decide) (by decide) (by decide)⟩

end Route

end ReviewRouter
