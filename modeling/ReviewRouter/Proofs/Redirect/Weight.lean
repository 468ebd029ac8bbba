import ReviewRouter.Proofs.Redirect.Collapse
import ReviewRouter.Proofs.Redirect.Leads
import ReviewRouter.Proofs.Redirect.Outdated

/-!
# Redirects get lighter

No single number gets smaller with every redirect.  The routes are ranked by how many others may still
follow them, and where a redirect stays within one rank, something about the address gets smaller: the
path without escapes, the spaces in the path, or the address itself.

* `Route.rank`, `Route.remaining`, `Route.weight` — what is left to be redirected;
* `Lighter` — the order of weights, in which no chain goes down forever;
* `Route.LeadsTo.lighter` — **every redirect leads to a lighter address**, apart from links without
  their project.
-/

namespace ReviewRouter

open Pattern
open Percent (escapeSegment readable unescape)

/-! ### Weights -/

/-- Redirects lead to routes of the same rank or a lower one. -/
def Route.rank : Route → Nat
  | .root => 4
  | .customDashboard | .projectOld | .changeNumberLegacy => 3
  | .dashboard | .repo | .groupInfo | .groupSelf | .legacyCreateGroup | .agreements
  | .documentationSearch => 2
  | .diffLegacyLinenum | .diff | .change | .improperlyEncodedPlus => 2
  | .legacyProjectDashboard | .queryLegacySuffix | .documentation => 1
  | r => if r.requiresAuth then 1 else 0

/-- What gets smaller with most redirects that stay within a rank. -/
def Location.size (l : Location) : Nat × Nat × Nat :=
  ((unescape l.matchPath).length, l.matchPath.count ' ', l.address.length)

/-- What gets smaller with every redirect that stays within a rank: the root uses up its anchors, and
the documentation leads to itself only once. -/
def Route.remaining (r : Route) (l : Location) : Nat × Nat × Nat :=
  match r with
  | .root => (l.address.count '#', 0, 0)
  | .documentationSearch => (if l.matchPath = "/Documentation/q/filter:" then 0 else 1, 0, 0)
  | .documentation => (if l.matchPath = "/Documentation/index.html" then 0 else 1, 0, 0)
  | _ => l.size

/-- The weight of an address that a route takes. -/
def Route.weight (r : Route) (l : Location) : Nat × Nat × Nat × Nat :=
  (r.rank, r.remaining l)

/-- The order of what remains. -/
def Smaller : Nat × Nat × Nat → Nat × Nat × Nat → Prop :=
  Prod.Lex (· < ·) (Prod.Lex (· < ·) (· < ·))

/-- The order of weights. -/
def Lighter : Nat × Nat × Nat × Nat → Nat × Nat × Nat × Nat → Prop :=
  Prod.Lex (· < ·) Smaller

/-- No chain of weights goes down forever. -/
theorem lighter_wf : WellFounded Lighter :=
  (Prod.lex Nat.lt_wfRel (Prod.lex Nat.lt_wfRel (Prod.lex Nat.lt_wfRel Nat.lt_wfRel))).wf

section

variable {r r' : Route} {l l' : Location}

theorem lighter_of_rank (h : r'.rank < r.rank) : Lighter (r'.weight l') (r.weight l) :=
  Prod.Lex.left _ _ h

theorem lighter_of_remaining (hrank : r'.rank ≤ r.rank) (h : Smaller (r'.remaining l') (r.remaining l)) :
    Lighter (r'.weight l') (r.weight l) := by
  rcases Nat.lt_or_eq_of_le hrank with hlt | heq
  · exact lighter_of_rank hlt
  · unfold Route.weight
    rw [heq]
    exact Prod.Lex.right _ h

/-- The routes for which only the size counts. -/
abbrev Route.IsSized (r : Route) : Prop :=
  r ≠ .root ∧ r ≠ .documentationSearch ∧ r ≠ .documentation

theorem Route.IsSized.remaining_eq (h : r.IsSized) (l : Location) : r.remaining l = l.size := by
  unfold remaining
  split
  · exact absurd rfl h.1
  · exact absurd rfl h.2.1
  · exact absurd rfl h.2.2
  · rfl

end

/-! ### Routes that may follow -/

/-- Beginnings of paths, and the rank of the routes that may open with them, apart from those that
are named. -/
def openings : List (Text × List Route × Nat) :=
  [("/login/", [], 0), ("/q/", [], 1), ("/p/", [], 0), ("/c/", [], 2),
    ("/admin/groups/", [.groupInfo], 1), ("/admin/repos/", [], 2), ("/admin/repos/", [.repo], 1),
    ("/Documentation/q/filter:", [.documentationSearch], 1),
    ("/Documentation/index.html", [.documentation], 0)]

/-- Paths, and the rank of the routes that match them. -/
def arrivals : List (Text × Nat) :=
  [("/dashboard/self", 2), ("/settings/", 1), ("/admin/groups", 1), ("/admin/repos", 0)]

theorem rank_openings : ∀ p ∈ openings, ∀ r ∈ Route.all.filter (Route.mayOpen p.1),
    r ∉ p.2.1 → r.rank ≤ p.2.2 := by
  decide

theorem rank_arrivals : ∀ p ∈ arrivals, ∀ r ∈ Route.all.filter (fun r => (r.match? p.1).isSome),
    r.rank ≤ p.2 := by
  decide +kernel

section

variable {r : Route} {path q address t : Text} {found : List (Text × Text)} {k : Nat}

/-- The rank of a route that takes a path with a known beginning. -/
theorem Route.Takes.rank_le (h : r.Takes path found) (except : List Route) (hq : q <+: path)
    (hmem : (q, except, k) ∈ openings) (hr : r ∉ except) : r.rank ≤ k :=
  rank_openings _ hmem r (h.mem_filter_mayOpen hq) hr

/-- The rank of a route that takes a known path. -/
theorem Route.Takes.rank_le_of_eq (h : r.Takes (Location.parse address).matchPath found)
    (hpath : (Location.parse address).matchPath = path) (hmem : (path, k) ∈ arrivals) :
    r.rank ≤ k := by
  rw [hpath] at h
  refine rank_arrivals _ hmem r (List.mem_filter.2 ⟨r.mem_all, ?_⟩)
  rw [h.matched]
  rfl

/-- The routes whose beginnings are not those of the root and the documentation. -/
theorem Route.Takes.isSized (h : r.Takes path found) (hq : q <+: path)
    (hopen : [Route.root, .documentationSearch, .documentation].any (Route.mayOpen q) = false) :
    r.IsSized := by
  simp only [List.any_cons, List.any_nil, Bool.or_false, Bool.or_eq_false_iff] at hopen
  have hr := (List.mem_filter.1 (h.mem_filter_mayOpen hq)).2
  refine ⟨?_, ?_, ?_⟩
  · rintro rfl
    rw [hopen.1] at hr
    cases hr
  · rintro rfl
    rw [hopen.2.1] at hr
    cases hr
  · rintro rfl
    rw [hopen.2.2] at hr
    cases hr

/-! ### Ranks behind redirects -/

theorem rank_pos_of_requiresAuth {r : Route} (h : r.requiresAuth = true) : 0 < r.rank := by
  revert h
  cases r <;> decide

/-- The sign-in page presents itself. -/
theorem rank_of_login (h : r.Takes (Location.parse (loginAddress (Location.parse address))).matchPath
    found) : r.rank = 0 := by
  have hpath := Location.matchPath_parse_append (q := loginPath) (by decide)
    (Percent.escape (Location.parse address).address)
  exact Nat.le_zero.1 (h.rank_le [] ⟨_, hpath.symm⟩ (by decide) List.not_mem_nil)

/-- Searches may have a suffix to be cut off. -/
theorem rank_of_search (h : r.Takes (Location.parse t).matchPath found)
    (ht : ("/q/" : Text) <+: (Location.parse t).matchPath) : r.rank ≤ 1 ∧ r.IsSized :=
  ⟨h.rank_le [] ht (by decide) List.not_mem_nil, h.isSized ht (by decide)⟩

/-- Any page of a change. -/
theorem rank_of_change (h : r.Takes (Location.parse t).matchPath found)
    (ht : ("/c/" : Text) <+: (Location.parse t).matchPath) : r.rank ≤ 2 ∧ r.IsSized :=
  ⟨h.rank_le [] ht (by decide) List.not_mem_nil, h.isSized ht (by decide)⟩

theorem match?_groupInfo_eq_none {path : Text} (h : ',' ∉ path) :
    Route.groupInfo.match? path = none := by
  apply Route.match?_eq_none
  intro w rest cs hpath hreads
  obtain ⟨v, rfl, h₁⟩ := reads_lit.1 hreads
  have hcomma : ∀ {b : Option Char} {v : Text} {cs : List (Text × Text)},
      Reads (.capture "group" (plus (.besides ',')) :: (lit ",info" ++ [stop])) b v rest cs → ',' ∈ v := by
    intro b v cs h₂
    obtain ⟨u, v, cv, rfl, -, -, -, h₃⟩ := reads_capture_plus.1 h₂
    obtain ⟨v, rfl, -⟩ := reads_lit.1 h₃
    simp only [List.mem_append]
    exact Or.inr (Or.inl (by decide))
  have hv : ',' ∈ v := by
    rcases reads_maybe.1 h₁ with ⟨u, v, cu, cv, rfl, -, -, h₂⟩ | h₂
    · exact List.mem_append_right u (hcomma h₂)
    · exact hcomma h₂
  apply h
  rw [hpath]
  exact List.mem_append_left rest (List.mem_append_right _ hv)

theorem match?_repo_eq_none {path : Text} (h : ',' ∈ path) : Route.repo.match? path = none := by
  apply Route.match?_eq_none
  intro w rest cs hpath hreads
  obtain ⟨v, rfl, h₁⟩ := reads_lit.1 hreads
  obtain ⟨u, v, cv, rfl, -, -, hrun, h₂⟩ := reads_capture_plus.1 h₁
  obtain ⟨rfl, rfl, -⟩ := reads_stop.1 h₂
  rw [hpath, List.append_nil, List.append_nil, List.mem_append] at h
  rcases h with h | h
  · exact absurd h (by decide)
  · exact CharSet.mem_besides.1 (hrun ',' h) rfl

/-- The pages of a group, but not the one that leads here. -/
theorem rank_of_group {id : Text} (h : r.Takes (Location.parse (groupAddress id none)).matchPath found) :
    r.rank ≤ 1 := by
  have hpath : (Location.parse (groupAddress id none)).matchPath = "/admin/groups/" ++ readable true id := by
    rw [← matchPath_segmentAddress (by decide)]
    exact congrArg (fun t => (Location.parse t).matchPath) (List.append_nil _)
  refine h.rank_le [.groupInfo] ⟨_, hpath.symm⟩ (by decide) ?_
  intro hr
  obtain rfl := List.mem_singleton.1 hr
  have hmatched := h.matched
  rw [hpath, match?_groupInfo_eq_none] at hmatched
  · cases hmatched
  · rw [List.mem_append, not_or]
    exact ⟨by decide, not_mem_readable (by decide) id⟩

/-- The address of a dashboard kept in a repository. -/
theorem DashboardView.exists_address_eq (v : DashboardView) (hsections : v.sections = [])
    (hrepo : v.repo ≠ none) : ∃ rest, v.address = "/p/" ++ rest := by
  obtain ⟨r, hr⟩ := Option.ne_none_iff_exists'.1 hrepo
  simp only [address, hsections, hr, ne_eq, not_true_eq_false, if_false]
  exact ⟨_, by simp only [List.append_assoc]; rfl⟩

/-- Any page of a repository. -/
theorem rank_of_repos {rest : Text}
    (h : r.Takes (Location.parse ("/admin/repos/" ++ rest)).matchPath found) : r.rank ≤ 2 := by
  have hpath := Location.matchPath_parse_append (q := "/admin/repos/") (by decide) rest
  exact h.rank_le [] ⟨_, hpath.symm⟩ (by decide) List.not_mem_nil

/-- The general page of a repository, and not the one that leads here. -/
theorem rank_of_repo {found' : List (Text × Text)}
    (hmatch : Route.repo.match? (Location.parse address).matchPath = some found')
    (h : r.Takes (Location.parse ((Location.parse address).path ++ ",general")).matchPath found) :
    r.rank ≤ 1 := by
  obtain ⟨b, v, rest, hopen, -⟩ := opening_of_match? (q := "/admin/repos/") rfl hmatch
  have hpath : (Location.parse ((Location.parse address).path ++ ",general")).matchPath =
      (Location.parse address).matchPath ++ ",general" :=
    Location.matchPath_path_append address (by decide) (List.all_iff_forall_prop.1 (by decide))
  have hopening : ("/admin/repos/" : Text) <+:
      (Location.parse ((Location.parse address).path ++ ",general")).matchPath := by
    rw [hpath, hopen, List.append_assoc]
    exact ⟨_, rfl⟩
  refine h.rank_le [.repo] hopening (by decide) ?_
  intro hr
  obtain rfl := List.mem_singleton.1 hr
  have hmatched := h.matched
  rw [hpath, match?_repo_eq_none (List.mem_append_right _ (by decide))] at hmatched
  cases hmatched

/-! ### The documentation -/

theorem match?_documentationSearchFilter_ne_none {filter : Text} (h : filter ≠ []) :
    Route.documentationSearchFilter.match? ("/Documentation/q/filter:" ++ readable false filter) ≠
      none := by
  have hrun : isRun (.besides '/') (readable false filter) := by
    intro c hc
    rw [CharSet.mem_besides]
    rintro rfl
    exact Percent.slash_not_mem_readable filter hc
  have hreads : Reads Route.documentationSearchFilter.shape none
      ("/Documentation/q/filter:" ++ readable false filter) [] [("filter", readable false filter)] := by
    refine reads_lit.2 ⟨_, rfl, reads_capture_plus.2 ?_⟩
    refine ⟨readable false filter, [], [], (List.append_nil _).symm, rfl, ?_, hrun, ?_⟩
    · exact fun hnil => h (Percent.readable_eq_nil.1 hnil)
    · exact reads_maybe_char.2 (Or.inr (reads_stop.2 ⟨rfl, rfl, rfl⟩))
  have hmatch := matchAt?_ne_none hreads
  rwa [List.append_nil] at hmatch

/-- A search of the documentation leads to the filter that it stands for, the empty one by way of
itself. -/
theorem lighter_documentationSearch {filter : Text} {found' : List (Text × Text)}
    (hmatch : Route.documentationSearch.match? (Location.parse address).matchPath = some found')
    (hfilter : (Route.documentationSearch.captured found').require "filter" = .ok filter)
    (h : r.Takes (Location.parse ("/Documentation/q/filter:" ++
      escapeSegment false filter)).matchPath found) :
    Lighter (r.weight (Location.parse ("/Documentation/q/filter:" ++ escapeSegment false filter)))
      (Route.documentationSearch.weight (Location.parse address)) := by
  have hpath := matchPath_segmentAddress (q := "/Documentation/q/filter:") (by decide) false filter
  by_cases hr : r ∈ [Route.documentationSearch]
  case neg =>
    exact lighter_of_rank (Nat.lt_succ_of_le (h.rank_le _ ⟨_, hpath.symm⟩ (by decide) hr))
  case pos =>
    obtain rfl := List.mem_singleton.1 hr
    have hnil : filter = [] := by
      by_contra hne
      have hnone := h.first .documentationSearchFilter (by decide)
      rw [hpath] at hnone
      exact match?_documentationSearchFilter_ne_none hne hnone
    subst hnil
    replace hpath : (Location.parse ("/Documentation/q/filter:" ++ escapeSegment false [])).matchPath =
        "/Documentation/q/filter:" := hpath
    refine lighter_of_remaining (Nat.le_refl _) (Prod.Lex.left _ _ ?_)
    have hsource : (Location.parse address).matchPath ≠ "/Documentation/q/filter:" := by
      intro heq
      have hfound : Route.documentationSearch.match? "/Documentation/q/filter:" =
          some [("filter".toList, "filter:".toList)] := by
        decide +kernel
      rw [heq, hfound] at hmatch
      obtain rfl := Option.some_inj.1 hmatch
      exact absurd (Captures.get?_of_require hfilter) (by decide)
    rw [if_neg hsource, if_pos hpath]
    exact Nat.zero_lt_one

/-- The documentation leads to its first page, which presents itself. -/
theorem lighter_documentation {found' : List (Text × Text)}
    (hmatch : Route.documentation.match? (Location.parse address).matchPath = some found')
    (hpage : (Route.documentation.captured found').get? "page" = none ∨
      (Route.documentation.captured found').get? "page" = some [])
    (h : r.Takes (Location.parse "/Documentation/index.html").matchPath found) :
    Lighter (r.weight (Location.parse "/Documentation/index.html"))
      (Route.documentation.weight (Location.parse address)) := by
  have hpath : (Location.parse "/Documentation/index.html").matchPath = "/Documentation/index.html" := by
    decide
  by_cases hr : r ∈ [Route.documentation]
  case neg =>
    have hopen : ("/Documentation/index.html" : Text) <+:
        (Location.parse "/Documentation/index.html").matchPath :=
      ⟨[], by rw [hpath, List.append_nil]⟩
    exact lighter_of_rank (Nat.lt_succ_of_le (h.rank_le _ hopen (by decide) hr))
  case pos =>
    obtain rfl := List.mem_singleton.1 hr
    refine lighter_of_remaining (Nat.le_refl _) (Prod.Lex.left _ _ ?_)
    have hsource : (Location.parse address).matchPath ≠ "/Documentation/index.html" := by
      intro heq
      have hfound : Route.documentation.match? "/Documentation/index.html" =
          some [("page".toList, "index.html".toList)] := by
        decide +kernel
      rw [heq, hfound] at hmatch
      obtain rfl := Option.some_inj.1 hmatch
      exact absurd hpage (by decide)
    rw [if_neg hsource, if_pos hpath]
    exact Nat.zero_lt_one

/-! ### Every redirect -/

/-- The root leads to other routes, or uses up an anchor. -/
theorem lighter_anchor (hhash : (Location.parse address).hash ≠ [])
    (h : r.Takes (Location.parse (anchorAddress (Location.parse address))).matchPath found) :
    Lighter (r.weight (Location.parse (anchorAddress (Location.parse address))))
      (Route.root.weight (Location.parse address)) := by
  have hall : ∀ r : Route, r ≠ .root → r.rank < Route.root.rank := by
    intro r
    cases r <;> decide
  by_cases hr : r = .root
  · subst hr
    exact lighter_of_remaining (Nat.le_refl _) (Prod.Lex.left _ _ (count_hash_anchorAddress_lt hhash))
  · exact lighter_of_rank (hall r hr)

/-- Where the path of a change gets shorter without escapes, the address gets lighter. -/
theorem lighter_of_shortens {r' : Route} {q : Text} (hrank : r.rank ≤ r'.rank) (hr : r.IsSized)
    (hr' : r'.IsSized) (hshort : Shortens q (Location.parse address).matchPath t) :
    Lighter (r.weight (Location.parse t)) (r'.weight (Location.parse address)) := by
  refine lighter_of_remaining hrank ?_
  rw [hr.remaining_eq, hr'.remaining_eq]
  exact Prod.Lex.left _ _ hshort.lt

/-- Putting back a plus sign uses up a space, or else the query. -/
theorem lighter_plus {found' : List (Text × Text)}
    (hmatch : Route.improperlyEncodedPlus.match? (Location.parse address).matchPath = some found')
    (hne : plusRestored (Location.parse address) ≠ address)
    (h : r.Takes (Location.parse (plusRestored (Location.parse address))).matchPath found) :
    Lighter (r.weight (Location.parse (plusRestored (Location.parse address))))
      (Route.improperlyEncodedPlus.weight (Location.parse address)) := by
  obtain ⟨b, v, rest, hpath, -⟩ := opening_of_match? (q := "/c/") rfl hmatch
  obtain ⟨hopen, hlength, hless⟩ := plusRestored_cases ⟨_, hpath.symm⟩
  obtain ⟨hrank, hsized⟩ := rank_of_change h hopen
  refine lighter_of_remaining hrank ?_
  rw [hsized.remaining_eq, Route.IsSized.remaining_eq (by decide)]
  unfold Location.size
  rw [hlength]
  refine Prod.Lex.right _ ?_
  rcases hless with hspaces | ⟨hsame, heq | hlt⟩
  · exact Prod.Lex.left _ _ hspaces
  · exact absurd heq hne
  · rw [hsame]
    exact Prod.Lex.right _ hlt

/-- **Every redirect leads to a lighter address**, apart from links without their project and from
redirects to the very address they come from, which are not followed. -/
theorem Route.LeadsTo.lighter {A : Answers} {r' : Route} {found' : List (Text × Text)}
    (hlead : r'.LeadsTo A (Location.parse address) (r'.captured found') t)
    (hmatch : r'.match? (Location.parse address).matchPath = some found') (hne : t ≠ address)
    (hlegacy : r' ≠ .changeLegacy) (h : r.Takes (Location.parse t).matchPath found) :
    Lighter (r.weight (Location.parse t)) (r'.weight (Location.parse address)) := by
  cases hlead with
  | login auth =>
    apply lighter_of_rank
    rw [rank_of_login h]
    exact rank_pos_of_requiresAuth auth
  | anchor hhash => exact lighter_anchor hhash h
  | home =>
    have hrank : r.rank ≤ 2 := h.rank_le_of_eq rfl (by decide)
    exact lighter_of_rank (Nat.lt_of_le_of_lt hrank (by decide))
  | homeOfVisitor =>
    have hrank := (rank_of_search h (by decide)).1
    exact lighter_of_rank (Nat.lt_of_le_of_lt hrank (by decide))
  | ownDashboard =>
    apply lighter_of_rank
    rw [rank_of_login h]
    decide
  | dashboardOf user =>
    have hpath := Location.matchPath_parse_append (q := "/q/owner:") (by decide) (Percent.escape user)
    have hrank := (rank_of_search h ⟨_, hpath.symm⟩).1
    exact lighter_of_rank (Nat.lt_of_le_of_lt hrank (by decide))
  | customDashboard =>
    have hrank : r.rank ≤ 2 := h.rank_le_of_eq rfl (by decide)
    exact lighter_of_rank (Nat.lt_of_le_of_lt hrank (by decide))
  | projectDashboard v sections repo =>
    obtain ⟨rest, hv⟩ := v.exists_address_eq sections repo
    rw [hv] at h
    have hpath := Location.matchPath_parse_append (q := "/p/") (by decide) rest
    have hrank : r.rank ≤ 0 := h.rank_le [] ⟨_, hpath.symm⟩ (by decide) List.not_mem_nil
    exact lighter_of_rank (Nat.lt_of_le_of_lt hrank (by decide))
  | group id => exact lighter_of_rank (Nat.lt_of_le_of_lt (rank_of_group h) (by decide))
  | ownGroups =>
    have hrank : r.rank ≤ 1 := h.rank_le_of_eq rfl (by decide)
    exact lighter_of_rank (Nat.lt_of_le_of_lt hrank (by decide))
  | newGroup =>
    have hrank : r.rank ≤ 1 := h.rank_le_of_eq rfl (by decide)
    exact lighter_of_rank (Nat.lt_of_le_of_lt hrank (by decide))
  | newProject =>
    have hrank : r.rank ≤ 0 := h.rank_le_of_eq rfl (by decide)
    exact lighter_of_rank (Nat.lt_of_le_of_lt hrank (by decide))
  | repos rest => exact lighter_of_rank (Nat.lt_of_le_of_lt (rank_of_repos h) (by decide))
  | repo => exact lighter_of_rank (Nat.lt_of_le_of_lt (rank_of_repo hmatch h) (by decide))
  | query =>
    have hshort := shortens_withoutLegacySuffix hmatch
    obtain ⟨hrank, hsized⟩ := rank_of_search h hshort.opening
    exact lighter_of_shortens hrank hsized (by decide) hshort
  | line =>
    have hshort := shortens_lineToAnchor hmatch
    obtain ⟨hrank, hsized⟩ := rank_of_change h hshort.opening
    exact lighter_of_shortens hrank hsized (by decide) hshort
  | number n =>
    have hpath := Location.matchPath_parse_append (q := "/c/") (by decide) (Numeral.ofNat n)
    have hrank := (rank_of_change h ⟨_, hpath.symm⟩).1
    exact lighter_of_rank (Nat.lt_of_le_of_lt hrank (by decide))
  | change v repo number base patch shown =>
    have hshort := collapse_change hmatch repo number base patch shown
    obtain ⟨hrank, hsized⟩ := rank_of_change h hshort.opening
    exact lighter_of_shortens hrank hsized (by decide) hshort
  | diff v repo number base patch file shown =>
    have hshort := collapse_diff hmatch repo number base patch file shown
    obtain ⟨hrank, hsized⟩ := rank_of_change h hshort.opening
    exact lighter_of_shortens hrank hsized (by decide) hshort
  | project => exact absurd rfl hlegacy
  | agreements =>
    have hrank : r.rank ≤ 1 := h.rank_le_of_eq rfl (by decide)
    exact lighter_of_rank (Nat.lt_of_le_of_lt hrank (by decide))
  | plus => exact lighter_plus hmatch hne h
  | documentationSearch text => exact lighter_documentationSearch hmatch text h
  | documentation page => exact lighter_documentation hmatch page h

end

end ReviewRouter
