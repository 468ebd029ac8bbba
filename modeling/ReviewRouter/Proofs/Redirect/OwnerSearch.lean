import ReviewRouter.Proofs.Deployed
import ReviewRouter.Proofs.Presented
import ReviewRouter.Proofs.Redirect.SignIn
import ReviewRouter.Proofs.RoundTrip.Dashboard
import ReviewRouter.Proofs.RoundTrip.Names
import ReviewRouter.Proofs.RoundTrip.Search

/-!
# A visitor at the dashboard of another user

A visitor who asks for the dashboard of another user is led to a search for what that user owns.  The name
is escaped once for this address, and unescaped twice on the way to the search: once for the path, and once
for what is captured of it.

* `matchPath_ownerAddress` — on the path of the search the name stands as it is;
* `ofResult_of_otherDashboard`, `action_navigate_otherDashboard` — a visitor is led there;
* `action_navigate_owner` — what the search is for, if the name has no comma;
* `comma_not_mem_of_presented` — with a comma it is never for the whole name;
* `Navigator.visitor_owner_search` — **the search is for the name exactly if it has no comma and unescaping
  leaves it as it is**.
-/

namespace ReviewRouter

open Pattern
open Percent (escape escapeSegment readable unescapeValue)

variable {u : Text}

/-- The address of the search for what a user owns. -/
def ownerAddress (u : Text) : Text :=
  "/q/owner:" ++ escape u

/-- The query for what a user owns. -/
def ownerQuery (u : Text) : Text :=
  "owner:" ++ u

/-- The view of the search with this query, from the first change on. -/
def ownerSearch (u : Text) : View :=
  .search { query := some (ownerQuery u) }

theorem ownerQuery_ne_nil (u : Text) : ownerQuery u ≠ [] := by
  intro h
  have howner := (List.append_eq_nil_iff.1 h).1
  cases howner

theorem comma_mem_ownerQuery : ',' ∈ ownerQuery u ↔ ',' ∈ u := by
  have howner : ',' ∉ ("owner:" : Text) := by decide
  exact List.mem_append.trans (or_iff_right howner)

/-! ### The way to the search -/

/-- A visitor at the dashboard of another user is led to the search. -/
theorem ofResult_of_otherDashboard {d : Deployment} {initialLoad : Bool} {l : Location} {c : Captures}
    {address : Text} (huser : c.get? "user" = some u) (hself : u.map Char.toLower ≠ "self")
    (hquery : l.query = []) (hother : ownerAddress u ≠ address) {result : Except Failure Action}
    (h : (guard Route.dashboard.requiresAuth l (Route.dashboard.handle d initialLoad l c)).Gives .visitor
      result) : Action.ofResult address result = .redirect (ownerAddress u) := by
  have hplain : DashboardView.ofQuery? l.query (some u) = none := by
    rw [hquery]
    rfl
  replace h : (handleUserDashboard l c).Gives .visitor result := h
  unfold handleUserDashboard at h
  rw [Captures.require_eq huser, Handling.lift_ok_bind, hplain] at h
  rcases (Handling.gives_bind _ _ _).1 h with ⟨login, hlogin, h⟩ | ⟨e, he, -⟩
  · obtain rfl : login = false := Except.ok.inj ((Handling.gives_loggedIn _).1 hlogin)
    rw [if_neg Bool.false_ne_true, if_neg hself] at h
    obtain rfl : result = .ok (.redirect (ownerAddress u)) := h
    exact Action.ofResult_redirect hother
  · cases (Handling.gives_loggedIn _).1 he

/-- The address of a dashboard has no query. -/
theorem query_dashboardAddress (u : Text) :
    (Location.parse ("/dashboard/" ++ escapeSegment true u)).query = [] := by
  have habsent : ∀ c, Percent.isSegmentChar c = false → c ∉ ("/dashboard/" : Text) →
      c ∉ "/dashboard/".toList ++ escapeSegment true u := by
    intro c hc hopening
    rw [List.mem_append, not_or]
    exact ⟨hopening, not_mem_escapeSegment hc u⟩
  have hparse := Location.parse_eq [] [] (fun h => by cases h) (habsent '#' (by decide) (by decide))
    (habsent '?' (by decide) (by decide)) List.not_mem_nil
  simp only [if_true, List.append_nil] at hparse
  exact congrArg Location.query hparse

theorem takes_otherDashboard (hne : u ≠ []) :
    Route.dashboard.Takes (Location.parse ("/dashboard/" ++ escapeSegment true u)).matchPath
      [("user", readable true u)] := by
  rw [matchPath_segmentAddress (by decide)]
  exact DashboardView.takes_dashboard (fun h => hne (Percent.readable_eq_nil.1 h))
    (not_mem_readable (by decide) u)

theorem action_navigate_otherDashboard {σ : Type} {n : Navigator} (hn : n.IsStandard) {s : Session σ} {st : σ}
    (hs : s.Obeys .visitor st) (hne : u ≠ []) (hself : u.map Char.toLower ≠ "self") :
    ((n.navigate ("/dashboard/" ++ escapeSegment true u)).1.run s st).1.action =
      .redirect (ownerAddress u) := by
  have huser : (Route.dashboard.captured [("user", readable true u)]).get? "user" = some u :=
    get?_readable .dashboard true rfl
  have hother : ownerAddress u ≠ "/dashboard/" ++ escapeSegment true u := by
    intro h
    cases h
  exact n.run_navigate hn hs (takes_otherDashboard hne) fun _ _ =>
    ofResult_of_otherDashboard huser hself (query_dashboardAddress u) hother

/-! ### The search -/

/-- On the path of the search the name stands as it is. -/
theorem matchPath_ownerAddress (u : Text) :
    (Location.parse (ownerAddress u)).matchPath = "/q/" ++ ownerQuery u := by
  have hopening : Location.IsOpening "/q/owner:" := by decide
  exact (matchPath_parse_escape hopening u).trans (List.append_assoc "/q/".toList "owner:".toList u)

/-- What the route of a search has captured is read once more. -/
theorem unescapeValue_ownerQuery (u : Text) :
    unescapeValue (ownerQuery u) = ownerQuery (unescapeValue u) := by
  have hplus : '+' ∉ ("owner:" : Text) := by decide
  have hpercent : '%' ∉ ("owner:" : Text) := by decide
  unfold unescapeValue ownerQuery
  rw [Percent.substitute_append, Percent.substitute_of_not_mem ' ' _ hplus,
    Percent.unescape_plain_append _ hpercent]

/-- Without a comma the route of a search takes the path. -/
theorem takes_owner (hcomma : ',' ∉ u) :
    Route.query.Takes (Location.parse (ownerAddress u)).matchPath (queryCaptures (ownerQuery u) 0) := by
  have htakes := Route.takes_query (ownerQuery_ne_nil u) (fun h => hcomma (comma_mem_ownerQuery.1 h)) 0
  have htail : ownerQuery u ++ offsetTail 0 = ownerQuery u := List.append_nil _
  rw [htail] at htakes
  rw [matchPath_ownerAddress]
  exact htakes

/-- Then the search is for the name unescaped. -/
theorem action_navigate_owner {σ : Type} {n : Navigator} (hn : n.IsStandard) (s : Session σ) (st : σ)
    (hcomma : ',' ∉ u) :
    ((n.navigate (ownerAddress u)).1.run s st).1.action = .present (ownerSearch (unescapeValue u)) := by
  refine n.run_navigate hn (s.obeys_any st) (takes_owner hcomma) ?_
  intro initialLoad result hgives
  have hresult := gives_query (unescapeValue_ownerQuery u) (Handling.gives_guard_open.1 hgives)
  rw [hresult]
  rfl

/-- The route of a search captures what stands before the comma of a page number. -/
theorem exists_of_match?_query {t : Text} {found : List (Text × Text)}
    (h : Route.query.match? ("/q/" ++ t) = some found) :
    ∃ seen rest, t = seen ++ rest ∧ (rest = [] ∨ ∃ digits, rest = ',' :: digits) ∧ ',' ∉ seen ∧
      (Route.query.captured found).get? "query" = some (unescapeValue seen) := by
  obtain ⟨w, r, hpath, hreads⟩ := exists_reads_of_matchAt? h
  obtain ⟨x, rfl, hx⟩ := reads_lit.1 hreads
  obtain ⟨seen, y, cv, rfl, rfl, -, hrun, hy⟩ := reads_capture_plus.1 hx
  have hcut : t = seen ++ (y ++ r) := by
    simp only [List.append_assoc] at hpath
    exact List.append_cancel_left hpath
  obtain ⟨hr, hy⟩ := reads_offset.1 hy
  have hlookup : cv.lookup "query".toList = none := by
    rcases hy with ⟨-, rfl⟩ | ⟨digits, -, -, -, rfl⟩ <;> rfl
  refine ⟨seen, y ++ r, hcut, ?_, fun hmem => CharSet.mem_besides.1 (hrun ',' hmem) rfl, ?_⟩
  · rw [hr, List.append_nil]
    exact hy.imp And.left fun ⟨digits, hdigits, _⟩ => ⟨digits, hdigits⟩
  · rw [Route.get?_captured, List.lookup_append, hlookup]
    rfl

/-- A search for the whole name was captured whole, and so the name has no comma. -/
theorem comma_not_mem_of_presented {σ : Type} {n : Navigator} (hn : n.IsStandard) {s : Session σ} {st : σ}
    (h : ((n.navigate (ownerAddress u)).1.run s st).1.action = .present (ownerSearch u)) : ',' ∉ u := by
  obtain ⟨r, found, htakes, hsource⟩ := n.exists_source hn h
  have hmatched := htakes.matched
  rw [matchPath_ownerAddress] at hmatched
  rcases hsource with ⟨rfl, q, hq, offset, hview⟩ | ⟨rfl, -⟩
  · obtain ⟨seen, rest, hcut, -, hcomma, hget⟩ := exists_of_match?_query hmatched
    have hquery : some (ownerQuery u) = some q := congrArg SearchView.query hview
    rw [hget, ← hquery, Option.some_inj] at hq
    -- unescaping makes nothing longer, so nothing was cut off
    have hlength := congrArg List.length hcut
    rw [← hq, List.length_append, Percent.length_unescapeValue] at hlength
    have hle := Percent.length_unescape_le seen
    obtain rfl : rest = [] := List.length_eq_zero_iff.1 (by omega)
    rw [List.append_nil] at hcut
    rw [← hcut, comma_mem_ownerQuery] at hcomma
    exact hcomma
  · -- the query for a change begins otherwise
    have hclosed : Route.changeIdQuery.mayOpen "/q/" = false := by decide
    rw [Route.match?_eq_none_of_not_mayOpen hclosed] at hmatched
    cases hmatched

/-! ### From the dashboard to the search -/

namespace Navigator

/-- **A visitor at the dashboard of another user is led to a search, and it is for the name of that user
exactly if the name has no comma and unescaping leaves it as it is.**  A name without a comma is searched for
as unescaping leaves it.  For every deployment, and the search for every session. -/
theorem visitor_owner_search {σ : Type} {n : Navigator} (htable : RouteTable.standard = .ok n.table)
    {s : Session σ} {st : σ} (hs : s.Obeys .visitor st) (hne : u ≠ []) (hself : u.map Char.toLower ≠ "self") :
    ∃ target : Text,
      ((n.navigate (n.deployment.absolute ("/dashboard/" ++ escapeSegment true u))).1.run s st).1.action =
        .redirect target ∧
      ∀ {τ : Type} (s' : Session τ) (st' : τ) (m : Navigator), RouteTable.standard = .ok m.table →
        (',' ∉ u → ((m.navigate (m.deployment.absolute target)).1.run s' st').1.action =
          .present (ownerSearch (unescapeValue u))) ∧
        (((m.navigate (m.deployment.absolute target)).1.run s' st').1.action = .present (ownerSearch u) ↔
          ',' ∉ u ∧ unescapeValue u = u) := by
  refine ⟨ownerAddress u, ?_, ?_⟩
  · obtain ⟨n', hn', hsame⟩ := exists_rooted htable
    rw [hsame _ (Or.inl rfl)]
    exact action_navigate_otherDashboard hn' hs hne hself
  · intro τ s' st' m hm
    obtain ⟨m', hm', hsame⟩ := exists_rooted hm
    rw [hsame _ (Or.inl rfl)]
    have hread := fun hcomma => action_navigate_owner (u := u) hm' s' st' hcomma
    refine ⟨hread, ?_, ?_⟩
    · intro h
      have hcomma := comma_not_mem_of_presented hm' h
      rw [hread hcomma] at h
      have hquery := congrArg SearchView.query (View.search.inj (Action.present.inj h))
      exact ⟨hcomma, List.append_cancel_left (Option.some_inj.1 hquery)⟩
    · rintro ⟨hcomma, hsame⟩
      rw [hread hcomma, hsame]

/-- The plus sign in this name has become a space when the search begins. -/
theorem owner_search_misread :
    ((overAll.navigate ("/dashboard/" ++ escapeSegment true "a+b")).1.run .scripted {}).1.action =
        .redirect "/q/owner:a%2Bb" ∧
      ((overAll.navigate "/q/owner:a%2Bb").1.run .scripted {}).1.action = .present (ownerSearch "a b") ∧
      ownerSearch "a b" ≠ ownerSearch "a+b" := by
  decide +kernel

theorem visitor_owner_search_sample :
    RouteTable.standard = .ok overAll.table ∧ Session.scripted.Obeys .visitor {} ∧
      ("a+b" : Text) ≠ [] ∧ ("a+b" : Text).map Char.toLower ≠ "self" ∧
      ∃ target : Text, ((overAll.navigate (overAll.deployment.absolute
          ("/dashboard/" ++ escapeSegment true "a+b"))).1.run .scripted {}).1.action = .redirect target ∧
        ((overAll.navigate (overAll.deployment.absolute target)).1.run .scripted {}).1.action ≠
          .present (ownerSearch "a+b") := by
  have htable := isStandard_overAll.table
  have hs : Session.scripted.Obeys .visitor {} := Session.scripted_obeys_visitor rfl rfl
  have hne : ("a+b" : Text) ≠ [] := by decide
  have hself : ("a+b" : Text).map Char.toLower ≠ "self" := by decide
  obtain ⟨target, hled, hsearch⟩ := visitor_owner_search htable hs hne hself
  refine ⟨htable, hs, hne, hself, target, hled, fun h => ?_⟩
  have hmisread : unescapeValue ("a+b" : Text) ≠ "a+b" := by decide +kernel
  exact hmisread ((hsearch .scripted {} overAll htable).2.1 h).2

end Navigator

end ReviewRouter
