import ReviewRouter.Proofs.Redirect.Weight

/-!
# Chains of redirects

A redirect is followed by navigating to the address it leads to, with the same navigator and the same
session, which may have changed in the meantime.

* `Visit` — an address that is about to be navigated to;
* `Visit.next?`, `Visit.after` — following one redirect, and several in a row;
* `Visit.exists_leadsTo_of_next?` — what one redirect leaves behind;
* `Visit.Shows`, `Visit.shows_iff` — the view at which following redirects ends;
* `Visit.exists_end` — **every chain of redirects comes to an end**, or to a link without its project.
-/

namespace ReviewRouter

/-- The route of an address, if there is one. -/
def Navigator.route? (n : Navigator) (address : Text) : Option Route :=
  (n.table.match? (Location.ofAddress n.deployment address).matchPath).map fun (e, _) => e.route

/-- A navigator over all routes finds the one that takes the path. -/
theorem Navigator.route?_eq_some_iff {n : Navigator} (hn : n.IsStandard) {address : Text} {r : Route} :
    n.route? address = some r ↔ ∃ found, r.Takes (Location.parse address).matchPath found := by
  unfold Navigator.route?
  rw [Location.ofAddress_eq_parse hn.base, hn.table_eq, Option.map_eq_some_iff]
  constructor
  · rintro ⟨⟨e, c⟩, hmatch, hroute⟩
    obtain ⟨r', found, rfl, -, htakes, hbefore⟩ := Route.exists_of_match?_standard hmatch
    obtain rfl : r' = r := hroute
    exact ⟨found, htakes, hbefore⟩
  · rintro ⟨found, htakes⟩
    exact ⟨_, Route.match?_standard_eq htakes.matched htakes.first, rfl⟩

/-- An address that is about to be navigated to. -/
structure Visit (σ : Type) where
  navigator : Navigator
  state : σ
  address : Text

namespace Visit

variable {σ : Type}

/-- What a visit comes to. -/
def action (s : Session σ) (v : Visit σ) : Action :=
  ((v.navigator.navigate v.address).1.run s v.state).1.action

/-- The visit to an address after this one. -/
def follow (s : Session σ) (v : Visit σ) (target : Text) : Visit σ where
  navigator := (v.navigator.navigate v.address).2
  state := ((v.navigator.navigate v.address).1.run s v.state).2
  address := target

/-- The visit that a redirect leads to. -/
def next? (s : Session σ) (v : Visit σ) : Option (Visit σ) :=
  match v.action s with
  | .redirect target => some (v.follow s target)
  | _ => none

/-- The visit after a number of redirects, if there are so many. -/
def after (s : Session σ) : Nat → Visit σ → Option (Visit σ)
  | 0, v => some v
  | k + 1, v => (v.next? s).bind (after s k)

/-! ### One redirect -/

theorem next?_eq_some {s : Session σ} {v w : Visit σ} (h : v.next? s = some w) :
    v.action s = .redirect w.address ∧ w = v.follow s w.address := by
  unfold next? at h
  split at h
  · next target haction =>
    obtain rfl := Option.some_inj.1 h
    exact ⟨haction, rfl⟩
  · cases h

theorem next?_of_action {s : Session σ} {v : Visit σ} {target : Text} (h : v.action s = .redirect target) :
    v.next? s = some (v.follow s target) := by
  unfold next?
  rw [h]

theorem action_ne_redirect {s : Session σ} {v : Visit σ} (h : v.next? s = none) (target : Text) :
    v.action s ≠ .redirect target := by
  intro haction
  unfold next? at h
  rw [haction] at h
  cases h

theorem redirect_of_ofResult {address t : Text} {result : Except Failure Action}
    (h : Action.ofResult address result = .redirect t) : result = .ok (.redirect t) ∧ t ≠ address := by
  rcases Action.ofResult_cases address result with hok | ⟨-, hnone⟩ | ⟨f, -, herror⟩
  · rw [h] at hok
    refine ⟨hok, ?_⟩
    rintro rfl
    rw [hok, show Action.ofResult t (.ok (.redirect t)) = .notFound from if_pos rfl] at h
    cases h
  · rw [h] at hnone
    cases hnone
  · rw [h] at herror
    cases herror

/-- A redirect comes from the route that takes the path, and not from the address itself. -/
theorem exists_leadsTo_of_next? {s : Session σ} {A : Answers} {v w : Visit σ}
    (hv : v.navigator.IsStandard) (hs : s.Obeys A v.state) (h : v.next? s = some w) :
    w.navigator.IsStandard ∧ s.Obeys A w.state ∧ w.address ≠ v.address ∧
      ∃ (r : Route) (found : List (Text × Text)),
        r.Takes (Location.parse v.address).matchPath found ∧
        r.LeadsTo A (Location.parse v.address) (r.captured found) w.address := by
  obtain ⟨haction, hw⟩ := next?_eq_some h
  obtain ⟨hyields, hobeys⟩ := Plan.yields_run hs (v.navigator.navigate v.address).1
  rw [hw]
  refine ⟨hv.navigate v.address, hobeys, ?_⟩
  rcases Navigator.navigate_yields hv hyields with
    ⟨-, hnotFound⟩ | ⟨r, found, result, htakes, hgives, hresult⟩
  · rw [show v.action s = .notFound from hnotFound] at haction
    cases haction
  · have hredirect := hresult.symm.trans haction
    obtain ⟨rfl, hne⟩ := redirect_of_ofResult hredirect
    exact ⟨hne, r, found, htakes, Route.leadsTo_of_gives hgives⟩

/-! ### Several redirects -/

/-- Following redirects from the visit ends at a view. -/
def Shows (s : Session σ) (v : Visit σ) (view : View) : Prop :=
  ∃ k w, v.after s k = some w ∧ w.action s = .present view

/-- A view is presented at once, or behind a redirect. -/
theorem shows_iff {s : Session σ} {v : Visit σ} {view : View} :
    v.Shows s view ↔ v.action s = .present view ∨ ∃ w, v.next? s = some w ∧ w.Shows s view := by
  constructor
  · rintro ⟨k, w, hafter, hshown⟩
    cases k with
    | zero =>
      obtain rfl := Option.some_inj.1 hafter
      exact Or.inl hshown
    | succ k =>
      obtain ⟨x, hnext, hafter⟩ := Option.bind_eq_some_iff.1 hafter
      exact Or.inr ⟨x, hnext, k, w, hafter, hshown⟩
  · rintro (hshown | ⟨x, hnext, k, w, hafter, hshown⟩)
    · exact ⟨0, v, rfl, hshown⟩
    · exact ⟨k + 1, w, Option.bind_eq_some_iff.2 ⟨x, hnext, hafter⟩, hshown⟩

/-- A redirect shows what the address shows that it leads to. -/
theorem shows_iff_of_redirect {s : Session σ} {v : Visit σ} {view : View} {target : Text}
    (h : v.action s = .redirect target) : v.Shows s view ↔ (v.follow s target).Shows s view := by
  rw [shows_iff, h, next?_of_action h]
  constructor
  · rintro (hshown | ⟨w, hw, hshown⟩)
    · cases hshown
    · rw [Option.some_inj.1 hw]
      exact hshown
  · exact fun hshown => Or.inr ⟨_, rfl, hshown⟩

/-- Following redirects ends at one view. -/
theorem shows_unique {s : Session σ} {v : Visit σ} {view view' : View} (h : v.Shows s view)
    (h' : v.Shows s view') : view = view' := by
  obtain ⟨k, w, hafter, hshown⟩ := h
  induction k generalizing v with
  | zero =>
    obtain rfl := Option.some_inj.1 hafter
    rcases shows_iff.1 h' with hshown' | ⟨x, hnext, -⟩
    · exact Action.present.inj (hshown.symm.trans hshown')
    · cases hshown.symm.trans (next?_eq_some hnext).1
  | succ k ih =>
    obtain ⟨x, hnext, hafter⟩ := Option.bind_eq_some_iff.1 hafter
    rcases shows_iff.1 h' with hshown' | ⟨y, hnext', h'⟩
    · cases hshown'.symm.trans (next?_eq_some hnext).1
    · obtain rfl := Option.some_inj.1 (hnext.symm.trans hnext')
      exact ih h' hafter

/-- A visit that comes to something else than a redirect, or a link without its project. -/
def IsEnd (s : Session σ) (w : Visit σ) : Prop :=
  (∀ target, w.action s ≠ .redirect target) ∨ w.navigator.route? w.address = some .changeLegacy

theorem exists_end_of_takes (s : Session σ) {v : Visit σ} (hv : v.navigator.IsStandard) {r : Route}
    {found : List (Text × Text)} (h : r.Takes (Location.parse v.address).matchPath found) :
    ∃ k w, v.after s k = some w ∧ w.IsEnd s := by
  generalize hm : r.weight (Location.parse v.address) = m
  induction m using lighter_wf.induction generalizing v r found with
  | _ m ih =>
    subst hm
    cases hnext : v.next? s with
    | none => exact ⟨0, v, rfl, Or.inl (action_ne_redirect hnext)⟩
    | some w =>
      obtain ⟨hw, -, hne, r', found', htakes, hlead⟩ :=
        exists_leadsTo_of_next? hv (s.obeys_any v.state) hnext
      obtain ⟨rfl, rfl⟩ := h.unique htakes
      by_cases hlegacy : r = .changeLegacy
      · subst hlegacy
        exact ⟨0, v, rfl, Or.inr ((Navigator.route?_eq_some_iff hv).2 ⟨found, h⟩)⟩
      · -- the next visit is taken by a route as well, or it is the last one
        cases hlast : w.next? s with
        | none =>
          refine ⟨1, w, ?_, Or.inl (action_ne_redirect hlast)⟩
          rw [after, hnext]
          rfl
        | some x =>
          obtain ⟨-, -, -, r', found', htakes', -⟩ :=
            exists_leadsTo_of_next? hw (s.obeys_any w.state) hlast
          have hlighter := hlead.lighter h.matched hne hlegacy htakes'
          obtain ⟨k, y, hk, hy⟩ := ih _ hlighter hw htakes' rfl
          refine ⟨k + 1, y, ?_, hy⟩
          rw [after, hnext]
          exact hk

/-- **Every chain of redirects comes to an end**, or to a link without its project: for every navigator
over all routes at the root of its server, every session, and every address. -/
theorem exists_end (s : Session σ) (v : Visit σ) (hv : v.navigator.IsStandard) :
    ∃ k w, v.after s k = some w ∧ w.IsEnd s := by
  cases hnext : v.next? s with
  | none => exact ⟨0, v, rfl, Or.inl (action_ne_redirect hnext)⟩
  | some w =>
    obtain ⟨-, -, -, r, found, htakes, -⟩ := exists_leadsTo_of_next? hv (s.obeys_any v.state) hnext
    exact exists_end_of_takes s hv htakes

/-- A root page that leads through another one, by way of an anchor in an anchor. -/
theorem exists_end_sample :
    Navigator.overAll.IsStandard ∧
      ∃ k w, after Session.scripted k ⟨Navigator.overAll, {}, "/#/#/dashboard/"⟩ = some w ∧
        w.IsEnd Session.scripted :=
  ⟨Navigator.isStandard_overAll, exists_end _ _ Navigator.isStandard_overAll⟩

end Visit

end ReviewRouter
