import ReviewRouter.Proofs.Route.Fallback
import ReviewRouter.Proofs.RoundTrip.Administration

/-!
# Lists with an empty filter

An empty filter is meant to be none, and on the first page of a list it is read as none.  The address of a
later page has the page number right behind it, and no route reads that: with a number behind it a
filter must not be empty, and without one it must not hold a comma.

* `seenListTail_emptyFilter` — an empty filter in front of a page number, as routes see it;
* `not_reads_filterOffset_emptyFilter`, `not_reads_filter_of_comma` — the rows that do not read it;
* `match?_filterOffsetRow_eq_none_of_word` — lists with a page number do not match the words of other pages;
* `AdminView.unclaimed_path`, `RepoView.unclaimed_path` — **no page claims such a path**;
* `Navigator.action_navigate_emptyFilter` — **the first page is shown without a filter, and a later page is
  not found or left to the server**.
-/

namespace ReviewRouter

open Pattern
open Percent (readable)

/-! ### Empty filters in front of a page number -/

/-- An empty filter in front of a page number, as routes see it. -/
theorem seenListTail_emptyFilter {offset : UInt32} (hoffset : offset ≠ 0) :
    seenListTail (some []) offset = "/q/filter:".toList ++ ',' :: Numeral.ofNat offset.toNat := by
  have hempty : readable false [] = [] := Percent.readable_eq_nil.2 rfl
  rw [seenListTail_some, hempty, offsetTail, if_neg hoffset]
  rfl

/-- It is in one line. -/
theorem lineEnd_not_mem_emptyFilter {offset : UInt32} (hoffset : offset ≠ 0) :
    '\n' ∉ seenListTail (some []) offset := by
  rw [seenListTail_emptyFilter hoffset, List.mem_append, List.mem_cons, not_or, not_or]
  exact ⟨by decide, by decide, Numeral.not_mem_ofNat (by decide) _⟩

section Rows

variable {ps : List Pattern} {before : Option Char} {q w r t : Text} {cs : List (Text × Text)}

/-- In front of a page number a filter is not empty. -/
theorem not_reads_filterOffset_emptyFilter (heq : q ++ ',' :: t = w ++ r) :
    ¬Reads (filterOffsetRow q ps) before w r cs := by
  intro h
  rw [filterOffsetRow_eq] at h
  obtain ⟨x, rfl, hx⟩ := reads_lit.1 h
  obtain ⟨f, y, cy, rfl, -, hne, hrun, -⟩ := reads_capture_plus.1 hx
  rw [List.append_assoc, List.append_assoc] at heq
  cases f with
  | nil => exact hne rfl
  | cons c f =>
    obtain ⟨rfl, -⟩ := List.cons.inj (List.append_cancel_left heq)
    exact CharSet.mem_besides.1 (hrun ',' List.mem_cons_self) rfl

/-- Behind a filter without a page number there is no comma. -/
theorem not_reads_filter_of_comma (hcomma : ',' ∈ t) (heq : t = w ++ r) :
    ¬Reads (filterRow "/q/filter:" [stop]) before w r cs := by
  intro h
  obtain rfl := eq_nil_of_reads_stop (by decide) h
  rw [heq, List.append_nil] at hcomma
  exact not_reads_of_not_mayRead (by decide) hcomma h

/-- A list with a filter and a page number does not match a path with a word behind its first comma. -/
theorem match?_filterOffsetRow_eq_none_of_word {r : Route} {c : Char} {u : Text} (hq : ',' ∉ q)
    (hu : ',' ∉ u) (hc : CharSet.digit.mem c = false) (hshape : r.shape = filterOffsetRow q ps) :
    r.match? (u ++ ',' :: c :: t) = none := by
  refine Route.match?_eq_none fun w rest cs hpath hreads => ?_
  rw [hshape, filterOffsetRow_eq] at hreads
  obtain ⟨x, rfl, hx⟩ := reads_lit.1 hreads
  obtain ⟨f, y, cy, rfl, -, -, hrun, hy⟩ := reads_capture_plus.1 hx
  obtain ⟨z, rfl, hz⟩ := reads_lit.1 hy
  obtain ⟨digits, v, cv, rfl, -, hne, hdigits, -⟩ := reads_capture_plus.1 hz
  have hf : ',' ∉ q ++ f := by
    rw [List.mem_append, not_or]
    exact ⟨hq, fun hmem => CharSet.mem_besides.1 (hrun ',' hmem) rfl⟩
  have hcut : u ++ ',' :: c :: t = (q ++ f) ++ ',' :: (digits ++ (v ++ rest)) := by
    rw [hpath]
    simp only [List.append_assoc]
    rfl
  obtain ⟨-, hword⟩ := cut_eq hu hf hcut
  cases digits with
  | nil => exact hne rfl
  | cons d ds =>
    obtain ⟨rfl, -⟩ := List.cons.inj hword
    rw [hdigits d List.mem_cons_self] at hc
    cases hc

end Rows

/-! ### Lists for administrators -/

namespace AdminView

variable {v : AdminView}

/-- **No page claims an empty filter in front of a page number.** -/
theorem unclaimed_path (hfilter : v.filter = some []) (hoffset : v.offset ≠ 0) :
    Route.Unclaimed v.path := by
  have hpath : v.path = (v.list.address ++ "/q/filter:,") ++ Numeral.ofNat v.offset.toNat := by
    rw [path, hfilter, seenListTail_emptyFilter hoffset, List.append_assoc]
    rfl
  have hcommas := commasLeadTo_path v
  have hcomma : ',' ∈ v.path := by
    rw [hpath]
    exact List.mem_append_left _ (List.mem_append_right _ (by decide))
  -- only the list without a filter is left, which does not go on with one
  have hrivals : ∀ list : AdminList, ∃ r : Route,
      r.shape = lit list.address ++ [offsetPart, slash?, stop] ∧
        (Route.fallback.rivals (list.address ++ "/q/filter:,") Char.isDigit).filter
          (Route.mayHold ',') = [r] := by
    intro list
    cases list with
    | groups => exact ⟨.groupListOffset, rfl, by decide⟩
    | repos => exact ⟨.repoListOffset, rfl, by decide⟩
    | plugins => exact ⟨.pluginListOffset, rfl, by decide⟩
  obtain ⟨r, hshape, hr⟩ := hrivals v.list
  rw [hpath] at hcommas hcomma ⊢
  refine Route.unclaimed_of_commas hcommas hcomma ?_
  rw [hr, ← hpath]
  intro r' hr'
  obtain rfl := List.mem_singleton.1 hr'
  refine Route.match?_append_eq_none hshape fun before w x cs heq => ?_
  rw [hfilter, seenListTail_emptyFilter hoffset] at heq
  exact not_reads_offset isEnd_slash heq

/-- What the address of a list with an empty filter leads to. -/
theorem action_navigate_unfiltered {σ : Type} {n : Navigator} {s : Session σ} {st : σ} (hn : n.IsStandard)
    (hs : s.Obeys .signedIn st) (hfilter : v.filter = some []) :
    ((n.navigate v.address).1.run s st).1.action =
      if v.offset = 0 then .present (.admin { v with filter := none, openCreate := false })
      else n.leftOver := by
  split
  · next hzero =>
    rw [action_navigate_shown hn hs fun _ => hzero, shown, canCreate, hfilter]
    rfl
  · next hoffset =>
    have hline : '\n' ∉ v.path := by
      rw [path, hfilter, List.mem_append, not_or]
      exact ⟨v.list.not_mem_address '\n' (by decide), lineEnd_not_mem_emptyFilter hoffset⟩
    exact n.action_navigate_leftOver hn s st (parse_address v).1 (unclaimed_path hfilter hoffset) hline

end AdminView

/-! ### Lists of a repository -/

namespace RepoView

variable {v : RepoView}

/-- The routes that are left for the path of a list of a repository: its own, and those of the list of
repositories. -/
theorem match?_lists (hrepo : v.repo ≠ []) (hfilter : v.filter = some []) (hoffset : v.offset ≠ 0)
    {plain page filtered : Route}
    (hplain : plain.shape = repoRow (lit (',' :: v.detail.word) ++ [offsetPart, stop]))
    (hpage : page.shape = repoRow (lit (',' :: v.detail.word) ++ filterOffsetRow "/q/filter:" [stop]))
    (hfiltered : filtered.shape = repoRow (lit (',' :: v.detail.word) ++ filterRow "/q/filter:" [stop])) :
    ∀ r ∈ [plain, page, filtered, .repoListOffset, .repoListFilterOffset], r.match? v.path = none := by
  have htail : seenListTail v.filter v.offset = "/q/filter:".toList ++ ',' :: Numeral.ofNat v.offset.toNat := by
    rw [hfilter, seenListTail_emptyFilter hoffset]
  intro r hr
  simp only [List.mem_cons, List.not_mem_nil, or_false] at hr
  rcases hr with rfl | rfl | rfl | rfl | rfl
  · refine match?_eq_none_of_tail _ hplain fun before w x cs heq => ?_
    rw [htail] at heq
    exact not_reads_offset isEnd_stop heq
  · refine match?_eq_none_of_tail _ hpage fun before w x cs heq => ?_
    rw [htail] at heq
    exact not_reads_filterOffset_emptyFilter heq
  · refine match?_eq_none_of_tail _ hfiltered fun before w x cs heq => ?_
    rw [htail] at heq
    refine not_reads_filter_of_comma ?_ heq
    exact List.mem_append_right _ List.mem_cons_self
  · exact match?_offsetRow_eq_none (q := "/admin/repos") rfl (List.append_ne_nil_of_left_ne_nil
      (fun h => hrepo (Percent.readable_eq_nil.1 h)) _)
  · have hletter : ∀ d : RepoDetail, CharSet.digit.mem d.letter = false := by
      intro d
      cases d <;> decide
    obtain ⟨u, hu⟩ := v.detail.exists_word_eq
    have hname : ',' ∉ "/admin/repos/".toList ++ readable true v.repo := by
      rw [List.mem_append, not_or]
      exact ⟨by decide, not_mem_readable (by decide) v.repo⟩
    have hpath : v.path = ("/admin/repos/".toList ++ readable true v.repo) ++
        ',' :: v.detail.letter :: (u ++ seenListTail v.filter v.offset) := by
      unfold path
      simp only [hu, List.append_assoc, List.cons_append]
    rw [hpath]
    exact match?_filterOffsetRow_eq_none_of_word (by decide) hname (hletter v.detail) rfl

/-- **No page claims an empty filter in front of a page number.** -/
theorem unclaimed_path (hrepo : v.repo ≠ []) (hlist : v.detail.isList = true) (hfilter : v.filter = some [])
    (hoffset : v.offset ≠ 0) : Route.Unclaimed v.path := by
  have hcomma : ',' ∈ v.path :=
    List.mem_append_right _ (List.mem_append_right _ List.mem_cons_self)
  have hrivals : ∀ d : RepoDetail, d.isList = true → ∃ plain page filtered : Route,
      plain.shape = repoRow (lit (',' :: d.word) ++ [offsetPart, stop]) ∧
        page.shape = repoRow (lit (',' :: d.word) ++ filterOffsetRow "/q/filter:" [stop]) ∧
        filtered.shape = repoRow (lit (',' :: d.word) ++ filterRow "/q/filter:" [stop]) ∧
        (Route.fallback.rivals "/admin/repos/" (digitOr d.letter)).filter (Route.mayHold ',') =
          [plain, page, filtered, .repoListOffset, .repoListFilterOffset] := by
    intro d hd
    cases d with
    | branches =>
      exact ⟨.branchListOffset, .branchListFilterOffset, .branchListFilter, rfl, rfl, rfl, by decide⟩
    | tags => exact ⟨.tagListOffset, .tagListFilterOffset, .tagListFilter, rfl, rfl, rfl, by decide⟩
    | _ => cases hd
  obtain ⟨plain, page, filtered, hplain, hpage, hfiltered, hrivals⟩ := hrivals v.detail hlist
  refine Route.unclaimed_of_commas (commasLeadTo_path v) hcomma ?_
  rw [hrivals]
  exact match?_lists hrepo hfilter hoffset hplain hpage hfiltered

/-- What the address of a list of a repository with an empty filter leads to. -/
theorem action_navigate_unfiltered {σ : Type} {n : Navigator} {s : Session σ} {st : σ} (hn : n.IsStandard)
    (hs : s.Obeys .signedIn st) (hrepo : v.repo ≠ []) (hlist : v.detail.isList = true)
    (hfilter : v.filter = some []) :
    ((n.navigate v.address).1.run s st).1.action =
      if v.offset = 0 then .present (.repo { v with filter := none }) else n.leftOver := by
  have hplain : v.detail.isList = false → v.filter = none ∧ v.offset = 0 := by
    intro hfalse
    rw [hlist] at hfalse
    cases hfalse
  split
  · next hzero =>
    rw [action_navigate_shown hn hs ⟨hrepo, fun _ => hzero, hplain⟩, shown, hfilter]
    rfl
  · next hoffset =>
    have hline : '\n' ∉ v.path := by
      unfold path
      simp only [hfilter, List.mem_append, List.mem_cons, not_or]
      exact ⟨by decide, not_mem_readable (by decide) v.repo, by decide,
        v.detail.not_mem_word '\n' (by decide), lineEnd_not_mem_emptyFilter hoffset⟩
    exact n.action_navigate_leftOver hn s st (matchPath_address hplain)
      (unclaimed_path hrepo hlist hfilter hoffset) hline

end RepoView

/-! ### Any list -/

namespace Navigator

/-- **The first page of a list with an empty filter is shown without a filter, and a later page is not
found, or left to the server**, for every navigator over all routes at the root of its server and every
session that is signed in. -/
theorem action_navigate_emptyFilter {σ : Type} {n : Navigator} {s : Session σ} {st : σ}
    (hn : n.IsStandard) (hs : s.Obeys .signedIn st) :
    (∀ v : AdminView, v.filter = some [] → v.openCreate = false →
      ((n.navigate v.address).1.run s st).1.action =
        if v.offset = 0 then .present (.admin { v with filter := none }) else n.leftOver) ∧
      ∀ v : RepoView, v.repo ≠ [] → v.detail.isList = true → v.filter = some [] →
        ((n.navigate v.address).1.run s st).1.action =
          if v.offset = 0 then .present (.repo { v with filter := none }) else n.leftOver := by
  constructor
  · intro v hfilter hcreate
    have haction := AdminView.action_navigate_unfiltered hn hs hfilter
    rw [← hcreate] at haction
    exact haction
  · intro v hrepo hlist hfilter
    exact RepoView.action_navigate_unfiltered hn hs hrepo hlist hfilter

end Navigator

/-- The second page of the groups, with an empty filter. -/
def AdminView.sampleUnfiltered : AdminView :=
  { list := .groups, offset := 25, filter := some [] }

/-- The first branches of a repository, with an empty filter. -/
def RepoView.sampleUnfiltered : RepoView :=
  { repo := "a, b", detail := .branches, filter := some [] }

namespace Navigator

theorem action_navigate_emptyFilter_sample :
    overAll.IsStandard ∧ Session.scripted.Obeys .signedIn { loggedIn := true } ∧
      ((overAll.navigate AdminView.sampleUnfiltered.address).1.run .scripted
        { loggedIn := true }).1.action = .notFound ∧
      ((overAll.navigate RepoView.sampleUnfiltered.address).1.run .scripted
        { loggedIn := true }).1.action = .present (.repo { repo := "a, b", detail := .branches }) := by
  have hs : Session.scripted.Obeys .signedIn { loggedIn := true } :=
    Session.scripted_obeys_signedIn rfl rfl
  have h := action_navigate_emptyFilter isStandard_overAll hs
  refine ⟨isStandard_overAll, hs, ?_, ?_⟩
  · exact h.1 AdminView.sampleUnfiltered rfl rfl
  · exact h.2 RepoView.sampleUnfiltered (by decide) rfl rfl

/-- The second page of the groups is lost, though the filter is meant to be none. -/
theorem emptyFilter_lost :
    AdminView.sampleUnfiltered.address = "/admin/groups/q/filter:,25" ∧
      ((overAll.navigate AdminView.sampleUnfiltered.address).1.run .scripted
        { loggedIn := true }).1.action ≠ .present (.admin { list := .groups, offset := 25 }) := by
  have hs : Session.scripted.Obeys .signedIn { loggedIn := true } :=
    Session.scripted_obeys_signedIn rfl rfl
  have haction := AdminView.action_navigate_unfiltered (v := .sampleUnfiltered) isStandard_overAll hs rfl
  refine ⟨by decide, fun hshown => ?_⟩
  rw [haction] at hshown
  cases hshown

end Navigator

end ReviewRouter
