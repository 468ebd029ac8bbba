import ReviewRouter.Proofs.Handling
import ReviewRouter.Proofs.Route.Dispatch

/-!
# One navigation

A navigator over all routes, deployed at the root of its server, takes an address apart, finds the
first route that matches and runs its handler behind the gate.

* `Navigator.IsStandard` — such a navigator;
* `Location.parse` — an address at the root of the server, taken apart;
* `Route.Takes` — a route matches a path and no earlier one does;
* `Action.ofResult`, `ofResult_cases` — what becomes of the result of a handler;
* `Navigator.resolve_yields_entry`, `navigate_yields_entry` — every outcome of a navigation comes
  from the handler of the entry that matches, for any table and deployment;
* `Navigator.navigate_yields_route` — over all routes, from that of the route that takes the path;
* `Navigator.navigate_yields` — **every outcome of a navigation comes from the handler of the route
  that takes the path**;
* `Navigator.run_navigate` — if the handler can give only one result, that is the outcome;
* `Navigator.action_of_redirect` — a route that leads to another address at once is followed;
* `Navigator.navigate_of_pure`, `Navigator.navigate_of_present` — a route that answers at once asks
  nothing.
-/

namespace ReviewRouter

/-! ### Locations at the root of the server -/

/-- The location of an address at the root of the server. -/
def Location.parse (address : Text) : Location :=
  .ofAddress {} address

theorem Location.ofAddress_eq_parse {d : Deployment} (hd : d.base = []) (address : Text) :
    ofAddress d address = parse address := by
  have hinside : d.relative address = address := if_pos hd
  unfold parse ofAddress
  rw [hinside]
  rfl

/-- The path and the query of an address with an anchor or without. -/
theorem Location.parse_eq {path : Text} (query anchor : Text) (hne : path ≠ []) (hpath : '#' ∉ path)
    (hquestion : '?' ∉ path) (hquery : '#' ∉ query) :
    parse (path ++ (if query = [] then [] else '?' :: query) ++
        (if anchor = [] then [] else '#' :: anchor)) =
      { address := path ++ (if query = [] then [] else '?' :: query) ++
          (if anchor = [] then [] else '#' :: anchor)
        path := path
        query := query
        hash := Percent.unescapeValue anchor } := by
  have hfront : '#' ∉ path ++ (if query = [] then [] else '?' :: query) := by
    rw [List.mem_append, not_or]
    refine ⟨hpath, ?_⟩
    split
    · exact List.not_mem_nil
    · rw [List.mem_cons, not_or]
      exact ⟨by decide, hquery⟩
  have hcut : ∀ front : Text, '#' ∉ front →
      (Text.splitOnce? '#' (front ++ if anchor = [] then [] else '#' :: anchor)).getD
        (front ++ (if anchor = [] then [] else '#' :: anchor), []) = (front, anchor) := by
    intro front hfront
    split
    · next h => rw [List.append_nil, Text.splitOnce?_eq_none '#' front hfront, h]; rfl
    · rw [Text.splitOnce?_append '#' front anchor hfront]; rfl
  have hcut' : (Text.splitOnce? '?' (path ++ if query = [] then [] else '?' :: query)).getD
      (path ++ (if query = [] then [] else '?' :: query), []) = (path, query) := by
    split
    · next h => rw [List.append_nil, Text.splitOnce?_eq_none '?' path hquestion, h]; rfl
    · rw [Text.splitOnce?_append '?' path query hquestion]; rfl
  have hrel : ∀ address : Text, ({} : Deployment).relative address = address := fun _ => rfl
  simp only [parse, ofAddress, hrel, hcut _ hfront, hcut', if_neg hne]

/-! ### Routes -/

/-- A route matches a path with these captures, and no earlier one does. -/
structure Route.Takes (r : Route) (path : Text) (found : List (Text × Text)) : Prop where
  matched : r.match? path = some found
  first : ∀ r' ∈ r.before, r'.match? path = none

/-- Of the earlier routes only those count that may open with what the path begins with. -/
theorem Route.takes_of_opening {r : Route} {q t : Text} {found : List (Text × Text)}
    (hr : r.match? (q ++ t) = some found)
    (hbefore : ∀ r' ∈ r.before.filter (mayOpen q), r'.match? (q ++ t) = none) :
    r.Takes (q ++ t) found where
  matched := hr
  first r' hr' := by
    cases hopen : r'.mayOpen q with
    | true => exact hbefore r' (List.mem_filter.2 ⟨hr', hopen⟩)
    | false => exact match?_eq_none_of_not_mayOpen hopen t

/-- Where no earlier route may open with what the path begins with, none counts. -/
theorem Route.takes_of_first {r : Route} {q t : Text} {found : List (Text × Text)}
    (hr : r.match? (q ++ t) = some found) (hbefore : r.before.filter (mayOpen q) = []) :
    r.Takes (q ++ t) found := by
  refine takes_of_opening hr ?_
  rw [hbefore]
  exact fun _ h => absurd h List.not_mem_nil

/-- A route that takes a path with a known beginning is one of those that may open with it. -/
theorem Route.Takes.mem_filter_mayOpen {r : Route} {q path : Text} {found : List (Text × Text)}
    (h : r.Takes path found) (hq : q <+: path) : r ∈ all.filter (mayOpen q) := by
  obtain ⟨t, rfl⟩ := hq
  exact List.mem_filter.2 ⟨r.mem_all, mayOpen_of_match? h.matched⟩

/-- Only one route takes a path. -/
theorem Route.Takes.unique {r r' : Route} {path : Text} {found found' : List (Text × Text)}
    (h : r.Takes path found) (h' : r'.Takes path found') : r = r' ∧ found = found' := by
  have heq := (match?_standard_eq h.matched h.first).symm.trans (match?_standard_eq h'.matched h'.first)
  rw [Option.some_inj, Prod.mk.injEq] at heq
  obtain rfl : r = r' := congrArg RouteEntry.route heq.1
  exact ⟨rfl, Option.some_inj.1 (h.matched.symm.trans h'.matched)⟩

/-! ### Navigators -/

/-- The standard table has one entry for each route. -/
theorem RouteTable.eq_of_standard {t : RouteTable} (h : standard = .ok t) :
    t = Route.all.map Route.entry := by
  rw [standard_eq] at h
  exact (Except.ok.inj h).symm

/-- A navigator over all routes, deployed at the root of its server. -/
structure Navigator.IsStandard (n : Navigator) : Prop where
  table : RouteTable.standard = .ok n.table
  base : n.deployment.base = []

/-- Such a navigator before its first navigation. -/
def Navigator.overAll : Navigator :=
  { table := Route.all.map Route.entry }

theorem Navigator.isStandard_overAll : overAll.IsStandard :=
  ⟨RouteTable.standard_eq, rfl⟩

/-- What becomes of the result of a handler. -/
def Action.ofResult (address : Text) : Except Failure Action → Action
  | .ok (.redirect target) => if target = address then .notFound else .redirect target
  | .ok action => action
  | .error e => .pageError e.status

/-- A redirect to another address is followed. -/
theorem Action.ofResult_redirect {address target : Text} (h : target ≠ address) :
    ofResult address (.ok (.redirect target)) = .redirect target :=
  if_neg h

/-- It is the result, or the page that says that nothing was found, or an error page. -/
theorem Action.ofResult_cases (address : Text) (result : Except Failure Action) :
    result = .ok (ofResult address result) ∨
      (result = .ok (.redirect address) ∧ ofResult address result = .notFound) ∨
        ∃ f, result = .error f ∧ ofResult address result = .pageError f.status := by
  cases result with
  | error f => exact Or.inr (Or.inr ⟨f, rfl, rfl⟩)
  | ok action =>
    cases action with
    | redirect target =>
      by_cases htarget : target = address
      · subst htarget
        exact Or.inr (Or.inl ⟨rfl, if_pos rfl⟩)
      · exact Or.inl (congrArg Except.ok (ofResult_redirect htarget).symm)
    | _ => exact Or.inl rfl

/-- Only a handler that presents a view leads to one. -/
theorem Action.ofResult_eq_present_iff {address : Text} {result : Except Failure Action} {v : View} :
    ofResult address result = .present v ↔ result = .ok (.present v) := by
  constructor
  · intro h
    rcases ofResult_cases address result with hok | ⟨-, hnone⟩ | ⟨f, -, herror⟩
    · rw [h] at hok
      exact hok
    · rw [h] at hnone
      cases hnone
    · rw [h] at herror
      cases herror
  · rintro rfl
    rfl

namespace Navigator

variable {n : Navigator} {A : Answers}

theorem IsStandard.table_eq (hn : n.IsStandard) : n.table = Route.all.map Route.entry :=
  RouteTable.eq_of_standard hn.table

/-- The same navigator after any number of navigations. -/
theorem IsStandard.navigate (hn : n.IsStandard) (url : Text) : (n.navigate url).2.IsStandard :=
  ⟨hn.table, hn.base⟩

/-- What becomes of a result is known at once; at most it is reported before. -/
theorem conclude_eq (seq : Nat) (r : Route) (l : Location) (result : Except Failure Action) :
    conclude seq r l result = .done (.ofResult l.address result) ∨
      ∃ e, conclude seq r l result = .note e (.done (.ofResult l.address result)) := by
  cases result with
  | error f => exact Or.inr ⟨_, rfl⟩
  | ok action =>
    cases action with
    | redirect target =>
      unfold conclude Action.ofResult
      dsimp only
      split
      · exact Or.inr ⟨_, rfl⟩
      · exact Or.inl rfl
    | _ => exact Or.inl rfl

theorem conclude_yields {seq : Nat} {r : Route} {l : Location} {result : Except Failure Action}
    {action : Action} (h : (conclude seq r l result).Yields A action) :
    action = .ofResult l.address result := by
  rcases conclude_eq seq r l result with hdone | ⟨e, hnote⟩
  · rw [hdone] at h
    exact h
  · rw [hnote] at h
    exact h

/-- What a navigation comes to once it is resolved comes from the handler of the entry that matches,
whatever the table holds. -/
theorem resolve_yields_entry {p : PendingNavigation} {nav : Navigation}
    (h : (n.resolve p).Yields A nav) :
    (n.table.match? p.location.matchPath = none ∧ nav.action = .notFound) ∨
      ∃ (e : RouteEntry) (c : Captures) (result : Except Failure Action),
        n.table.match? p.location.matchPath = some (e, c) ∧
        (guard e.requiresAuth p.location
          (e.route.handle n.deployment (p.seq == 1) p.location c)).Gives A result ∧
        nav.action = .ofResult p.location.address result := by
  simp only [resolve] at h
  split at h
  · next hnone => exact Or.inl ⟨hnone, congrArg Navigation.action h⟩
  · next e c hmatch =>
    obtain ⟨result, hresult, h⟩ := (Plan.yields_bind _ _ _).1 h
    obtain ⟨action, haction, h⟩ := (Plan.yields_bind _ _ _).1 h
    refine Or.inr ⟨e, c, result, hmatch, hresult, ?_⟩
    rw [show nav.action = action from congrArg Navigation.action h]
    exact conclude_yields haction

/-- Every outcome of a navigation comes from the handler of the entry that matches, whatever the
table holds. -/
theorem navigate_yields_entry {url : Text} {nav : Navigation} (h : (n.navigate url).1.Yields A nav) :
    (n.table.match? (Location.ofAddress n.deployment url).matchPath = none ∧
        nav.action = .notFound) ∨
      ∃ (e : RouteEntry) (c : Captures) (result : Except Failure Action),
        n.table.match? (Location.ofAddress n.deployment url).matchPath = some (e, c) ∧
        (guard e.requiresAuth (Location.ofAddress n.deployment url)
          (e.route.handle n.deployment (n.issued == 0) (Location.ofAddress n.deployment url) c)).Gives A
            result ∧
        nav.action = .ofResult (Location.ofAddress n.deployment url).address result := by
  have hseq : (n.issued + 1 == 1) = (n.issued == 0) := by
    cases n.issued <;> rfl
  have hentry := resolve_yields_entry (p := ⟨n.issued + 1, Location.ofAddress n.deployment url⟩) h
  rw [hseq] at hentry
  exact hentry

/-- Over all routes every outcome comes from the handler of the route that takes the path, wherever
the navigator is deployed. -/
theorem navigate_yields_route (htable : RouteTable.standard = .ok n.table) {url : Text}
    {nav : Navigation} (h : (n.navigate url).1.Yields A nav) :
    ((∀ r : Route, r.match? (Location.ofAddress n.deployment url).matchPath = none) ∧
        nav.action = .notFound) ∨
      ∃ (r : Route) (found : List (Text × Text)) (result : Except Failure Action),
        r.Takes (Location.ofAddress n.deployment url).matchPath found ∧
        (guard r.requiresAuth (Location.ofAddress n.deployment url)
          (r.handle n.deployment (n.issued == 0) (Location.ofAddress n.deployment url)
            (r.captured found))).Gives A result ∧
        nav.action = .ofResult (Location.ofAddress n.deployment url).address result := by
  have hentry := navigate_yields_entry h
  rw [RouteTable.eq_of_standard htable] at hentry
  rcases hentry with ⟨hnone, haction⟩ | ⟨e, c, result, hmatch, hresult, haction⟩
  · exact Or.inl ⟨Route.match?_standard_eq_none hnone, haction⟩
  · obtain ⟨r, found, rfl, rfl, hr, hbefore⟩ := Route.exists_of_match?_standard hmatch
    exact Or.inr ⟨r, found, result, ⟨hr, hbefore⟩, hresult, haction⟩

/-- **Every outcome of a navigation comes from the handler of the route that takes the path.** -/
theorem navigate_yields (hn : n.IsStandard) {url : Text} {nav : Navigation}
    (h : (n.navigate url).1.Yields A nav) :
    ((∀ r : Route, r.match? (Location.parse url).matchPath = none) ∧ nav.action = .notFound) ∨
      ∃ (r : Route) (found : List (Text × Text)) (result : Except Failure Action),
        r.Takes (Location.parse url).matchPath found ∧
        (guard r.requiresAuth (Location.parse url)
          (r.handle n.deployment (n.issued == 0) (Location.parse url) (r.captured found))).Gives A
            result ∧
        nav.action = .ofResult url result := by
  have hroute := navigate_yields_route hn.table h
  rw [Location.ofAddress_eq_parse hn.base] at hroute
  exact hroute

/-- If the handler of the route that takes the path can give only one result, that is the
outcome. -/
theorem run_navigate {σ : Type} {s : Session σ} {st : σ} (hn : n.IsStandard) (hs : s.Obeys A st)
    {url : Text}
    {r : Route} {found : List (Text × Text)} {action : Action}
    (htakes : r.Takes (Location.parse url).matchPath found)
    (hgives : ∀ initialLoad result,
      (guard r.requiresAuth (Location.parse url)
        (r.handle n.deployment initialLoad (Location.parse url) (r.captured found))).Gives A result →
      Action.ofResult url result = action) :
    ((n.navigate url).1.run s st).1.action = action := by
  rcases navigate_yields hn (Plan.yields_run hs (n.navigate url).1).1 with
    ⟨hnone, -⟩ | ⟨r', found', result, htakes', hresult, haction⟩
  · have hmatched := htakes.matched
    rw [hnone r] at hmatched
    cases hmatched
  · obtain ⟨rfl, rfl⟩ := htakes.unique htakes'
    rw [haction]
    exact hgives _ _ hresult

/-- A route that leads to another address at once is followed. -/
theorem action_of_redirect (hn : n.IsStandard) (s : Session σ) (st : σ) {url target : Text} {r : Route}
    {found : List (Text × Text)} (htakes : r.Takes (Location.parse url).matchPath found)
    (hopen : r.requiresAuth = false)
    (hhandle : ∀ initialLoad, r.handle n.deployment initialLoad (Location.parse url) (r.captured found) =
      pure (.redirect target))
    (hother : target ≠ url) : ((n.navigate url).1.run s st).1.action = .redirect target := by
  refine n.run_navigate hn (s.obeys_any st) htakes ?_
  intro initialLoad result hgives
  rw [hopen, hhandle] at hgives
  obtain rfl : result = .ok (.redirect target) := hgives
  exact Action.ofResult_redirect hother

/-- A route that answers at once, and does not lead on, asks nothing. -/
theorem navigate_of_pure (hn : n.IsStandard) {url : Text} {r : Route} {found : List (Text × Text)}
    {action : Action} (htakes : r.Takes (Location.parse url).matchPath found)
    (hopen : r.requiresAuth = false) (hstays : ∀ target, action ≠ .redirect target)
    (hhandle : ∀ initialLoad, r.handle n.deployment initialLoad (Location.parse url)
      (r.captured found) = pure action) :
    (n.navigate url).1 = .note (.routeMatched (n.issued + 1) r.name (Location.parse url).path)
      (.done ⟨n.issued + 1, action⟩) := by
  have hmatch : n.table.match? (Location.parse url).matchPath = some (r.entry, r.captured found) := by
    rw [hn.table_eq]
    exact Route.match?_standard_eq htakes.matched htakes.first
  have hauth : r.entry.requiresAuth = false := hopen
  simp only [navigate, begin, resolve, Location.ofAddress_eq_parse hn.base, hmatch, hauth]
  show Plan.note _ ((guard false _ (r.handle _ _ _ _)).run.bind _) = _
  rw [hhandle]
  cases action with
  | redirect target => exact absurd rfl (hstays target)
  | _ => rfl

/-- A route that presents a view at once asks nothing. -/
theorem navigate_of_present (hn : n.IsStandard) {url : Text} {r : Route} {found : List (Text × Text)}
    {v : View} (htakes : r.Takes (Location.parse url).matchPath found) (hopen : r.requiresAuth = false)
    (hhandle : ∀ initialLoad, r.handle n.deployment initialLoad (Location.parse url)
      (r.captured found) = pure (.present v)) :
    (n.navigate url).1 = .note (.routeMatched (n.issued + 1) r.name (Location.parse url).path)
      (.done ⟨n.issued + 1, .present v⟩) :=
  navigate_of_pure hn htakes hopen nofun hhandle

end Navigator

end ReviewRouter
