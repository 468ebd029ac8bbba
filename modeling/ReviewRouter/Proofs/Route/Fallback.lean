import ReviewRouter.Proofs.Route.Comma

/-!
# Paths that no page claims

The last route is meant to take every path that the routes before it leave.  Its pattern is a run of
dots, and a dot stands for every character but a line end, so a path with an escaped line end in it
goes past this route as well.

* `Route.match?_fallback_eq_none_iff` — the paths that the last route does not match;
* `Route.Unclaimed` — no route before the last one matches;
* `Route.match?_standard_eq_none_iff` — **a path is without a route exactly if it is unclaimed and has
  a line end**;
* `Route.unclaimed_of_commas` — paths that no route claims for what stands behind their commas;
* `Navigator.action_navigate_unclaimed`, `Navigator.action_navigate_leftOver` — what becomes of an
  unclaimed path;
* `Navigator.action_of_unclaimed` — where unclaimed paths are left to the server, these are not.
-/

namespace ReviewRouter

open Pattern

/-! ### The last route -/

namespace Route

/-- The last route matches every path without a line end, and no other. -/
theorem match?_fallback_eq_none_iff (path : Text) : fallback.match? path = none ↔ '\n' ∈ path := by
  constructor
  · intro hnone
    by_cases hend : '\n' ∈ path
    · exact hend
    · have hrun : isRun .dot path := isRun_dot_iff.2 hend
      have hreads : Reads fallback.shape none path [] [] :=
        ⟨path, [], [], [], (List.append_nil path).symm, rfl,
          (spells_star_iff .dot true _ _ _ _).2 ⟨hrun, rfl⟩, reads_stop.2 ⟨rfl, rfl, rfl⟩⟩
      have hsome := matchAt?_ne_none hreads
      rw [List.append_nil] at hsome
      exact absurd hnone hsome
  · intro hend
    refine match?_eq_none fun w r cs hpath hreads => ?_
    obtain ⟨u, v, cu, cv, rfl, -, hu, hv⟩ := hreads
    obtain ⟨hrun, -⟩ := (spells_star_iff .dot true _ _ _ _).1 hu
    obtain ⟨rfl, rfl, -⟩ := reads_stop.1 hv
    rw [List.append_nil, List.append_nil] at hpath
    rw [hpath] at hend
    exact isRun_dot_iff.1 hrun hend

/-- No route before the last one matches. -/
def Unclaimed (path : Text) : Prop :=
  ∀ r : Route, r ≠ .fallback → r.match? path = none

theorem mem_before_fallback {r : Route} (hr : r ≠ .fallback) : r ∈ fallback.before := by
  have hall : r ∈ before fallback ++ fallback :: after fallback := by
    rw [← all_eq]
    exact r.mem_all
  have hafter : after fallback = [] := rfl
  rw [hafter, List.mem_append, List.mem_singleton] at hall
  exact hall.resolve_right hr

/-- A path with a comma is unclaimed if the routes do not match it that have a comma and may open and go
on as it does. -/
theorem unclaimed_of_commas {q t : Text} {s : Char → Bool} (hcommas : CommasLeadTo s (q ++ t))
    (hcomma : ',' ∈ q ++ t)
    (hrivals : ∀ r ∈ (fallback.rivals q s).filter (mayHold ','), r.match? (q ++ t) = none) :
    Unclaimed (q ++ t) := by
  intro r hr
  refine match?_before_of_commas hcommas ?_ r (mem_before_fallback hr)
  intro r' hr'
  cases hhold : r'.mayHold ',' with
  | false => exact match?_eq_none_of_not_mayHold hhold hcomma
  | true => exact hrivals r' (List.mem_filter.2 ⟨hr', hhold⟩)

/-- **A path is without a route exactly if it is unclaimed and has a line end.** -/
theorem match?_standard_eq_none_iff (path : Text) :
    RouteTable.match? (all.map entry) path = none ↔ Unclaimed path ∧ '\n' ∈ path := by
  constructor
  · intro hnone
    have hall := match?_standard_eq_none hnone
    exact ⟨fun r _ => hall r, (match?_fallback_eq_none_iff path).1 (hall .fallback)⟩
  · rintro ⟨hunclaimed, hend⟩
    cases hmatch : RouteTable.match? (all.map entry) path with
    | none => rfl
    | some found =>
      obtain ⟨e, c⟩ := found
      obtain ⟨r, found, -, -, hr, -⟩ := exists_of_match?_standard hmatch
      have hnone : r.match? path = none := by
        by_cases hlast : r = .fallback
        · rw [hlast, match?_fallback_eq_none_iff]
          exact hend
        · exact hunclaimed r hlast
      rw [hnone] at hr
      cases hr

end Route

/-! ### Leaving a path to the server -/

namespace Navigator

variable {n : Navigator}

/-- What the last route makes of a path: once the application runs it can be left to the server. -/
def leftOver (n : Navigator) : Action :=
  if n.deployment.serverFallback && n.issued != 0 then .passThrough else .notFound

theorem ofResult_of_gives_fallback {A : Answers} {l : Location} {c : Captures}
    {result : Except Failure Action}
    (h : (guard Route.fallback.requiresAuth l
      (Route.fallback.handle n.deployment (n.issued == 0) l c)).Gives A result) :
    Action.ofResult l.address result = n.leftOver := by
  rw [show Route.fallback.requiresAuth = false from rfl] at h
  simp only [guard, Bool.false_eq_true, if_false] at h
  delta Route.handle at h
  unfold leftOver bne
  cases hleft : n.deployment.serverFallback && !n.issued == 0 with
  | true =>
    simp only [hleft, if_true] at h
    rw [(Handling.gives_pure _ _).1 h]
    rfl
  | false =>
    simp only [hleft, Bool.false_eq_true, if_false] at h
    rw [(Handling.gives_throw _ _).1 h]
    rfl

/-- What becomes of an unclaimed path, wherever the navigator is deployed. -/
theorem action_navigate_unclaimed {σ : Type} (hn : RouteTable.standard = .ok n.table) (s : Session σ)
    (st : σ) {url : Text} (hurl : Route.Unclaimed (Location.ofAddress n.deployment url).matchPath) :
    ((n.navigate url).1.run s st).1.action =
      if '\n' ∈ (Location.ofAddress n.deployment url).matchPath then .notFound else n.leftOver := by
  have hyields := (Plan.yields_run (s.obeys_any st) (n.navigate url).1).1
  rcases navigate_yields_route hn hyields with ⟨hnone, haction⟩ | ⟨r, found, result, htakes, hresult, haction⟩
  · have hend := (Route.match?_fallback_eq_none_iff _).1 (hnone .fallback)
    rw [haction, if_pos hend]
  · have hr := htakes.matched
    obtain rfl : r = .fallback := by
      by_cases hlast : r = .fallback
      · exact hlast
      · rw [hurl r hlast] at hr
        cases hr
    have hend : '\n' ∉ (Location.ofAddress n.deployment url).matchPath := by
      intro hend
      rw [(Route.match?_fallback_eq_none_iff _).2 hend] at hr
      cases hr
    rw [haction, ofResult_of_gives_fallback hresult, if_neg hend]

/-- At the root of the server, if it is in one line. -/
theorem action_navigate_leftOver {σ : Type} (hn : n.IsStandard) (s : Session σ) (st : σ) {url path : Text}
    (hpath : (Location.parse url).matchPath = path) (hurl : Route.Unclaimed path) (hline : '\n' ∉ path) :
    ((n.navigate url).1.run s st).1.action = n.leftOver := by
  rw [← Location.ofAddress_eq_parse hn.base] at hpath
  subst hpath
  rw [action_navigate_unclaimed hn.table s st hurl, if_neg hline]

/-- An unclaimed path is left to the server unless it has a line end. -/
theorem action_of_unclaimed {σ : Type} (hn : RouteTable.standard = .ok n.table)
    (hfallback : n.deployment.serverFallback = true) (hissued : 0 < n.issued) (s : Session σ) (st : σ)
    {url : Text} (hurl : Route.Unclaimed (Location.ofAddress n.deployment url).matchPath) :
    ((n.navigate url).1.run s st).1.action =
      if '\n' ∈ (Location.ofAddress n.deployment url).matchPath then .notFound else .passThrough := by
  have hleft : n.leftOver = .passThrough := by
    rw [leftOver, hfallback, bne_iff_ne.2 (Nat.pos_iff_ne_zero.1 hissued)]
    rfl
  rw [action_navigate_unclaimed hn s st hurl, hleft]

/-- The same navigator, leaving unknown pages to the server, after its first navigation. -/
def afterFirst : Navigator :=
  { overAll with deployment := { serverFallback := true }, issued := 1 }

/-- **Exactly the unclaimed paths without a line end have the last route**, and these alone are left
to the server. -/
theorem unclaimed_paths (hn : RouteTable.standard = .ok n.table) :
    (∀ path, n.table.match? path = none ↔ Route.Unclaimed path ∧ '\n' ∈ path) ∧
      (n.deployment.serverFallback = true → 0 < n.issued →
        ∀ {σ : Type} (s : Session σ) (st : σ) (url : Text),
          Route.Unclaimed (Location.ofAddress n.deployment url).matchPath →
            ((n.navigate url).1.run s st).1.action =
              if '\n' ∈ (Location.ofAddress n.deployment url).matchPath then .notFound
              else .passThrough) := by
  constructor
  · intro path
    have htable := hn
    rw [RouteTable.standard_eq] at htable
    rw [← Except.ok.inj htable]
    exact Route.match?_standard_eq_none_iff path
  · intro hfallback hissued σ s st url hurl
    exact action_of_unclaimed hn hfallback hissued s st hurl

/-- The page of no route at all is left to the server. -/
theorem unclaimed_paths_sample :
    RouteTable.standard = .ok afterFirst.table ∧ Route.Unclaimed "/nowhere" ∧
      ((afterFirst.navigate "/nowhere").1.run .scripted {}).1.action = .passThrough := by
  have hunclaimed : Route.Unclaimed "/nowhere" := by
    intro r hr
    have hall : ∀ r ∈ Route.all, r = .fallback ∨ r.match? "/nowhere" = none := by
      decide +kernel
    exact (hall r r.mem_all).resolve_left hr
  have haction := (unclaimed_paths (n := afterFirst) RouteTable.standard_eq).2 rfl Nat.zero_lt_one
    .scripted {} "/nowhere" hunclaimed
  have hend : '\n' ∉ (Location.ofAddress afterFirst.deployment "/nowhere").matchPath := by
    decide +kernel
  rw [if_neg hend] at haction
  exact ⟨RouteTable.standard_eq, hunclaimed, haction⟩

/-- With an escaped line end there is no route, and the page is not left to the server. -/
theorem lineEnd_unrouted :
    afterFirst.table.match? "/\n" = none ∧
      ((afterFirst.navigate "/%0A").1.run .scripted {}).1.action = .notFound := by
  decide +kernel

end Navigator

end ReviewRouter
