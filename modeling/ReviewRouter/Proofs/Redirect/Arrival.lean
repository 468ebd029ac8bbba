import ReviewRouter.Proofs.Deployed
import ReviewRouter.Proofs.Presented
import ReviewRouter.Proofs.Redirect.Chain

/-!
# Redirects of a deployed application

A redirect leads to an address inside the application.  The shell puts the base of the deployment in
front of it, and the next navigation takes the base off again, but only where it ends a path segment.  So
an address has to begin with a slash to arrive as it was sent.

* `IsRooted` — such an address;
* `Deployment.relative_absolute` — it arrives as it was sent;
* `View.isRooted_address`, `Route.LeadsTo.isRooted` — addresses of views and of redirects are rooted;
* `Visit.hop?`, `Visit.hops` — following a redirect or a registration through the base, and several of
  them in a row;
* `Visit.IsInside`, `Visit.IsInside.hop`, `Visit.IsInside.hops` — what every hop preserves;
* `Visit.target_arrives` — **whatever a chain of hops leads to arrives unchanged**.
-/

namespace ReviewRouter

open Pattern
open Percent (unescape unescapeValue)

/-! ### Rooted texts -/

/-- The text begins with a slash. -/
def IsRooted (t : Text) : Prop :=
  t.head? = some '/'

instance (t : Text) : Decidable (IsRooted t) :=
  inferInstanceAs (Decidable (_ = _))

namespace IsRooted

variable {t u : Text}

theorem exists_eq (h : IsRooted t) : ∃ u, t = '/' :: u := by
  cases t with
  | nil => cases h
  | cons c u => exact ⟨u, congrArg (· :: u) (Option.some_inj.1 h)⟩

theorem front_ne_nil (h : IsRooted t) : front t ≠ [] := by
  obtain ⟨u, rfl⟩ := h.exists_eq
  rw [front_cons (by decide)]
  exact List.cons_ne_nil _ _

theorem append (h : IsRooted t) (u : Text) : IsRooted (t ++ u) := by
  obtain ⟨rest, rfl⟩ := h.exists_eq
  rfl

/-- What stands before a separator is rooted with the whole, for a slash is no separator. -/
theorem of_append_cons {kept rest : Text} {c : Char} (hc : c ≠ '/') (h : IsRooted (kept ++ c :: rest)) :
    IsRooted kept := by
  cases kept with
  | nil => exact absurd (Option.some_inj.1 h) hc
  | cons d kept => exact h

theorem unescape (h : IsRooted t) : IsRooted (unescape t) := by
  obtain ⟨u, rfl⟩ := h.exists_eq
  rw [Percent.unescape_cons (by decide)]
  rfl

theorem replaceFirst {fresh : Text} (hfresh : IsRooted fresh) (part : Text) (h : IsRooted t) :
    IsRooted (Text.replaceFirst part fresh t) := by
  obtain ⟨u, rfl⟩ := h.exists_eq
  unfold Text.replaceFirst
  split
  · exact hfresh.append _
  · rfl

theorem replaceAll {fresh : Text} (hfresh : IsRooted fresh) (part : Text) (h : IsRooted t) :
    IsRooted (Text.replaceAll part fresh t) := by
  obtain ⟨u, rfl⟩ := h.exists_eq
  unfold Text.replaceAll Text.replaceFrom
  split
  · exact hfresh.append _
  · rfl

end IsRooted

/-! ### Through the base of a deployment -/

namespace Deployment

/-- **A rooted address arrives as it was sent**, whatever the base is. -/
theorem relative_absolute (d : Deployment) {t : Text} (ht : IsRooted t) :
    d.relative (d.absolute t) = t :=
  d.relative_absolute_of_isLocal (Or.inl ht)

/-- Below the base a rooted address stays rooted, or only a query or an anchor is left. -/
theorem relative_cases (d : Deployment) {t : Text} (ht : IsRooted t) :
    IsRooted (d.relative t) ∨ front (d.relative t) = [] := by
  unfold relative
  split
  · exact Or.inl ht
  · split
    · exact Or.inl rfl
    · next c rest _ =>
      split
      · next hc =>
        rcases hc with rfl | hc
        · exact Or.inl rfl
        · exact Or.inr (front_stop hc rest)
      · exact Or.inl ht
    · exact Or.inl ht

end Deployment

/-- The path of a location is rooted, if its address is. -/
theorem Location.isRooted_path (d : Deployment) {url : Text} (hurl : IsRooted url) :
    IsRooted (ofAddress d url).path := by
  show IsRooted (parse (d.relative url)).path
  rw [path_parse]
  split
  · rfl
  · next hfront =>
    have hroot := (d.relative_cases hurl).resolve_right hfront
    obtain ⟨u, hu⟩ := hroot.exists_eq
    rw [hu, front_cons (by decide)]
    rfl

/-! ### Addresses of views -/

theorem isRooted_changeRoot (project : Option Text) (change : UInt32) :
    IsRooted (changeRoot project change) := by
  cases project <;> rfl

theorem ChangeView.isRooted_address (v : ChangeView) : IsRooted v.address := by
  unfold address
  exact (((isRooted_changeRoot v.project v.change).append _).append _).append _

theorem DiffView.isRooted_address (v : DiffView) : IsRooted v.address := by
  unfold address
  split
  · exact ((isRooted_changeRoot v.project v.change).append _).append _ |>.append _
  · exact (((isRooted_changeRoot v.project v.change).append _).append _).append _

theorem EditView.isRooted_address (v : EditView) : IsRooted v.address := by
  unfold address
  exact (((((isRooted_changeRoot v.project v.change).append _).append _).append _).append _).append _

theorem DashboardView.isRooted_address (v : DashboardView) : IsRooted v.address := by
  unfold address
  split
  · rfl
  · split <;> rfl

/-- The address of every view is rooted. -/
theorem View.isRooted_address (v : View) : IsRooted v.address := by
  cases v with
  | admin w =>
    obtain ⟨list, offset, filter, openCreate⟩ := w
    cases list <;> rfl
  | change w => exact w.isRooted_address
  | dashboard w => exact w.isRooted_address
  | diff w => exact w.isRooted_address
  | edit w => exact w.isRooted_address
  | settings emailToken => cases emailToken <;> rfl
  | _ => rfl

/-! ### Targets of redirects -/

section Targets

variable {A : Answers} {l : Location} {c : Captures} {r : Route} {t : Text}

theorem isRooted_mark : IsRooted ("/+/" : Text) :=
  rfl

/-- An anchor leads to an address of its own, to which a slash is added if it has none. -/
theorem isRooted_anchorAddress (l : Location) : IsRooted (anchorAddress l) := by
  have hpath : ∀ raw : Text, IsRooted (if raw.head? = some '/' then raw else '/' :: raw) := by
    intro raw
    split
    · next hraw => exact hraw
    · rfl
  have hsettings : ∀ path : Text, IsRooted path →
      IsRooted (if ("/VE/" : Text).isPrefixOf path then "/settings" ++ path else path) := by
    intro path h
    split
    · rfl
    · exact h
  unfold anchorAddress
  dsimp only
  split
  · exact isRooted_mark.replaceAll _ (hsettings _ (hpath _))
  · exact hsettings _ (hpath _)

/-- Whether the suffix was written or escaped, it is cut from the end of a rooted path. -/
theorem isRooted_withoutLegacySuffix (hl : IsRooted l.path) : IsRooted (withoutLegacySuffix l) := by
  unfold withoutLegacySuffix
  split
  · next kept hkept =>
    have hpath : l.path = kept ++ ',' :: "n,z" := Text.dropSuffix?_eq_some hkept
    rw [hpath] at hl
    exact hl.of_append_cons (by decide)
  · cases hdrop : Text.dropSuffix? ",n,z" l.matchPath with
    | none => exact hl.unescape
    | some kept =>
      have hpath : l.matchPath = kept ++ ',' :: "n,z" := Text.dropSuffix?_eq_some hdrop
      have hmatch : IsRooted l.matchPath := hl.unescape
      rw [hpath] at hmatch
      exact hmatch.of_append_cons (by decide)

theorem isRooted_lineToAnchor (hl : IsRooted l.path) : IsRooted (lineToAnchor l) := by
  have hpath : IsRooted (if l.path.contains '@' then l.path else l.matchPath) := by
    split
    · exact hl
    · exact hl.unescape
  unfold lineToAnchor
  dsimp only
  split
  · next file line hsplit =>
    rw [Text.splitLast?_eq_some hsplit] at hpath
    exact ((hpath.of_append_cons (by decide)).append _).append _
  · exact hpath

theorem isRooted_plusRestored (hl : IsRooted l.path) : IsRooted (plusRestored l) :=
  (isRooted_mark.replaceFirst _ (isRooted_mark.replaceFirst _ hl)).append _

/-- Every redirect of a route is rooted, if the path is. -/
theorem Route.LeadsTo.isRooted (h : r.LeadsTo A l c t) (hl : IsRooted l.path) : IsRooted t := by
  cases h with
  | anchor hash => exact isRooted_anchorAddress l
  | projectDashboard v sections repo => exact v.isRooted_address
  | repo => exact hl.append _
  | query => exact isRooted_withoutLegacySuffix hl
  | line => exact isRooted_lineToAnchor hl
  | change v => exact v.isRooted_address
  | diff v => exact v.isRooted_address
  | plus => exact isRooted_plusRestored hl
  | _ => rfl

/-- The page to come back to stands in the path behind the registration, with its slash. -/
theorem isRooted_next {path : Text} {found : List (Text × Text)}
    (hmatch : Route.register.match? path = some found) {next : Text}
    (hget : (Route.register.captured found).get? "next" = some next) : IsRooted next := by
  obtain ⟨p, u, before, after, cs, hp, hspells, rfl⟩ := Route.isCaptured hmatch hget
  have hparts : ∀ x ∈ (row Route.register.shape).parts, x.2 = row (lit "/" ++ [reps .dot]) :=
    List.all_iff_forall_prop.1 (by decide)
  obtain rfl := hparts _ hp
  obtain ⟨v, rfl, -⟩ := reads_lit.1 ((spells_row _ _ _ _ _).1 hspells)
  show IsRooted (unescapeValue ('/' :: v))
  rw [Percent.unescapeValue_cons (by decide) (by decide)]
  rfl

/-- After the registration the way leads back, or to the start. -/
theorem isRooted_afterRegistration {path : Text} {found : List (Text × Text)}
    (hmatch : Route.register.match? path = some found) :
    IsRooted (afterRegistration (Route.register.captured found)) := by
  unfold afterRegistration
  dsimp only
  split
  · rfl
  · next hnext =>
    cases hget : (Route.register.captured found).get? "next" with
    | none =>
      rw [hget] at hnext
      exact absurd (Or.inl rfl) hnext
    | some next => exact isRooted_next hmatch hget

end Targets

/-! ### Hops -/

/-- The address inside the application that the shell goes on to. -/
def Action.target? : Action → Option Text
  | .redirect target => some target
  | .registered target => some target
  | _ => none

/-- A handler behind the gate sends only to rooted addresses, if the path is rooted. -/
theorem isRooted_of_gives {A : Answers} {d : Deployment} {initialLoad : Bool} {l : Location} {r : Route}
    {found : List (Text × Text)} (hmatch : r.match? l.matchPath = some found) (hl : IsRooted l.path)
    {action : Action}
    (h : (guard r.requiresAuth l (r.handle d initialLoad l (r.captured found))).Gives A (.ok action))
    {t : Text} (ht : action.target? = some t) : IsRooted t := by
  cases action with
  | redirect target =>
    obtain rfl := Option.some_inj.1 ht
    exact (Route.leadsTo_of_gives h).isRooted hl
  | registered target =>
    obtain rfl := Option.some_inj.1 ht
    obtain ⟨rfl, rfl⟩ := succeedsOnly_guard (succeedsOnly_handle d initialLoad r) _ h
    exact isRooted_afterRegistration hmatch
  | _ => cases ht

namespace Visit

variable {σ : Type} {s : Session σ} {d : Deployment}

/-- The visit that the shell goes on to: the base stands before the target again. -/
def hop? (s : Session σ) (v : Visit σ) : Option (Visit σ) :=
  (v.action s).target?.map fun target => v.follow s (v.navigator.deployment.absolute target)

/-- The visit after a number of hops, if there are so many. -/
def hops (s : Session σ) : Nat → Visit σ → Option (Visit σ)
  | 0, v => some v
  | k + 1, v => (v.hop? s).bind (hops s k)

/-- The visit is to an address of the deployment, with all routes.  Its path is rooted, though the address
need not be: nothing but a query may follow the base. -/
structure IsInside (d : Deployment) (v : Visit σ) : Prop where
  table : RouteTable.standard = .ok v.navigator.table
  deployment : v.navigator.deployment = d
  path : IsRooted (Location.ofAddress d v.address).path

namespace IsInside

variable {v w : Visit σ} {t : Text}

theorem of_isRooted (htable : RouteTable.standard = .ok v.navigator.table) (hurl : IsRooted v.address) :
    v.IsInside v.navigator.deployment :=
  ⟨htable, rfl, Location.isRooted_path _ hurl⟩

/-- Such a visit leads only to rooted addresses. -/
theorem isRooted_target (h : v.IsInside d) (ht : (v.action s).target? = some t) : IsRooted t := by
  have hpath := h.path
  rw [← h.deployment] at hpath
  rcases Navigator.navigate_yields_route h.table
      (Plan.yields_run (s.obeys_any v.state) (v.navigator.navigate v.address).1).1 with
    ⟨-, hnotFound⟩ | ⟨r, found, result, htakes, hgives, hresult⟩
  · rw [show v.action s = .notFound from hnotFound] at ht
    cases ht
  · rw [show v.action s = .ofResult _ result from hresult] at ht
    rcases Action.ofResult_cases _ result with hok | ⟨-, hself⟩ | ⟨f, -, herror⟩
    · rw [hok] at hgives
      exact isRooted_of_gives htakes.matched hpath hgives ht
    · rw [hself] at ht
      cases ht
    · rw [herror] at ht
      cases ht

/-- A hop stays inside. -/
theorem hop (h : v.IsInside d) (hw : v.hop? s = some w) : w.IsInside d := by
  obtain ⟨target, htarget, rfl⟩ := Option.map_eq_some_iff.1 hw
  have hroot := h.isRooted_target htarget
  refine ⟨h.table, h.deployment, ?_⟩
  show IsRooted (Location.parse (d.relative (v.navigator.deployment.absolute target))).path
  rw [h.deployment, d.relative_absolute hroot]
  exact Location.isRooted_path {} hroot

/-- So do several. -/
theorem hops {k : Nat} (h : v.IsInside d) (hw : v.hops s k = some w) : w.IsInside d := by
  induction k generalizing v with
  | zero =>
    obtain rfl := Option.some_inj.1 hw
    exact h
  | succ k ih =>
    obtain ⟨next, hnext, hw⟩ := Option.bind_eq_some_iff.1 hw
    exact ih (h.hop hnext) hw

end IsInside

/-- **Whatever a chain of hops leads to arrives unchanged.**  Wherever the application is deployed, and
however many redirects and registrations have been followed: the next target begins with a slash, and
the navigation to it through the base finds the same address inside. -/
theorem target_arrives {v : Visit σ} (htable : RouteTable.standard = .ok v.navigator.table)
    (hurl : IsRooted v.address) (k : Nat) {w : Visit σ} (hw : v.hops s k = some w) {t : Text}
    (ht : w.action s = .redirect t ∨ w.action s = .registered t) :
    IsRooted t ∧ (Location.ofAddress v.navigator.deployment
      (v.navigator.deployment.absolute t)).address = t := by
  have htarget : (w.action s).target? = some t := by
    rcases ht with ht | ht
    · rw [ht]
      rfl
    · rw [ht]
      rfl
  have hroot := ((IsInside.of_isRooted htable hurl).hops hw).isRooted_target htarget
  exact ⟨hroot, v.navigator.deployment.relative_absolute hroot⟩

/-- An application below a base, opened at an older link in an anchor. -/
def deployedSample : Visit Scripted where
  navigator := { table := Navigator.overAll.table, deployment := .ofBase "/review/" }
  state := { projects := [(1, "p")] }
  address := "/review/#/c/1"

/-- The anchor leads to the link, and that to the page with its project. -/
theorem target_arrives_sample :
    RouteTable.standard = .ok deployedSample.navigator.table ∧ IsRooted deployedSample.address ∧
      ∃ w, deployedSample.hops .scripted 1 = some w ∧ w.action .scripted = .redirect "/c/p/+/1" ∧
        (Location.ofAddress deployedSample.navigator.deployment
          (deployedSample.navigator.deployment.absolute "/c/p/+/1")).address = "/c/p/+/1" := by
  have htable : RouteTable.standard = .ok deployedSample.navigator.table :=
    Navigator.isStandard_overAll.table
  have hrooted : IsRooted deployedSample.address := rfl
  have hfirst : deployedSample.action .scripted = .redirect "/c/1" := by
    decide +kernel
  have hsecond : (deployedSample.follow .scripted "/review/c/1").action .scripted =
      .redirect "/c/p/+/1" := by
    decide +kernel
  have hhop : deployedSample.hops .scripted 1 = some (deployedSample.follow .scripted "/review/c/1") := by
    unfold hops hop?
    rw [hfirst]
    rfl
  exact ⟨htable, hrooted, _, hhop, hsecond,
    (target_arrives htable hrooted 1 hhop (Or.inl hsecond)).2⟩

end Visit

end ReviewRouter
