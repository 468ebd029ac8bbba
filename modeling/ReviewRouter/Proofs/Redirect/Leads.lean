import ReviewRouter.Proofs.Handlers

/-!
# Where redirects lead

Most routes present a page.  The others are outdated links and entrances, and each of them leads to
addresses of one shape; a page of a change leads on if the two sides of its range are the same, and
every protected route leads to the sign-in page.

* `Route.LeadsTo` — where a route may lead, one case for each redirect;
* `View.settle_eq_redirect` — when a page leads to another range;
* `Route.leadsTo_of_gives` — **a handler behind the gate leads nowhere else**.
-/

namespace ReviewRouter

/-- Where a route may lead, from a location and the captures of its path, if the session gives such
answers. -/
inductive Route.LeadsTo (A : Answers) (l : Location) (c : Captures) : Route → Text → Prop where
  | login {r : Route} (auth : r.requiresAuth = true) : LeadsTo A l c r (loginAddress l)
  | anchor (hash : l.hash ≠ []) : LeadsTo A l c .root (anchorAddress l)
  | home : LeadsTo A l c .root homeSignedIn
  | homeOfVisitor : LeadsTo A l c .root homeSignedOut
  | ownDashboard : LeadsTo A l c .dashboard (loginAddress l)
  | dashboardOf (user : Text) : LeadsTo A l c .dashboard ("/q/owner:" ++ Percent.escape user)
  | customDashboard : LeadsTo A l c .customDashboard homeSignedIn
  | projectDashboard (v : DashboardView) (sections : v.sections = []) (repo : v.repo ≠ none) :
      LeadsTo A l c .legacyProjectDashboard v.address
  | group (id : Text) : LeadsTo A l c .groupInfo (groupAddress id none)
  | ownGroups : LeadsTo A l c .groupSelf "/settings/#Groups"
  | newGroup : LeadsTo A l c .legacyCreateGroup "/admin/groups#create"
  | newProject : LeadsTo A l c .legacyCreateProject "/admin/repos#create"
  | repos (rest : Text) : LeadsTo A l c .projectOld ("/admin/repos/" ++ rest)
  | repo : LeadsTo A l c .repo (l.path ++ ",general")
  | query : LeadsTo A l c .queryLegacySuffix (withoutLegacySuffix l)
  | line : LeadsTo A l c .diffLegacyLinenum (lineToAnchor l)
  | number (n : Nat) : LeadsTo A l c .changeNumberLegacy ("/c/" ++ Numeral.ofNat n)
  | change {project : Text} {n : UInt32} {p : PatchSet} (v : ChangeView)
      (repo : c.require "repo" = .ok project) (number : c.parse Numeral.u32? "change" = .ok n)
      (base : c.parse? PatchSet.ofText? "base" = .ok (some p))
      (patch : c.parse? PatchSet.ofText? "patch" = .ok (some p))
      (shown : v.project = some project ∧ v.change = n ∧ v.range = ⟨some .parent, some p⟩ ∧
        v.edit = false ∧ v.comment = none ∧ v.messageHash = none) :
      LeadsTo A l c .change v.address
  | diff {project path : Text} {n : UInt32} {p : PatchSet} (v : DiffView)
      (repo : c.require "repo" = .ok project) (number : c.parse Numeral.u32? "change" = .ok n)
      (base : c.parse? PatchSet.ofText? "base" = .ok (some p))
      (patch : c.parse? PatchSet.ofText? "patch" = .ok (some p))
      (file : c.require "path" = .ok path)
      (shown : v.project = some project ∧ v.change = n ∧ v.range = ⟨some .parent, some p⟩ ∧
        v.path = some path ∧ v.comment = none) :
      LeadsTo A l c .diff v.address
  | project {n : UInt32} {written project : Text} (number : c.parse Numeral.u32? "change" = .ok n)
      (known : A.project n (.ok (some project))) (asWritten : c.require "change" = .ok written) :
      LeadsTo A l c .changeLegacy (legacyChangeAddress l written project n)
  | agreements : LeadsTo A l c .agreements "/settings/#Agreements"
  | plus : LeadsTo A l c .improperlyEncodedPlus (plusRestored l)
  | documentationSearch {filter : Text} (text : c.require "filter" = .ok filter) :
      LeadsTo A l c .documentationSearch
        ("/Documentation/q/filter:" ++ Percent.escapeSegment false filter)
  | documentation (page : c.get? "page" = none ∨ c.get? "page" = some []) :
      LeadsTo A l c .documentation "/Documentation/index.html"

/-! ### Ranges that move -/

/-- A range moves if its two sides are the same. -/
theorem PatchRange.normalize_moved {r : PatchRange} (h : r.normalize.2 = true) :
    ∃ p, r = ⟨some p, some p⟩ ∧ r.normalize.1 = ⟨some .parent, some p⟩ := by
  obtain ⟨base, patch⟩ := r
  cases base with
  | none => cases h
  | some b =>
    cases patch with
    | none => cases h
    | some p =>
      by_cases hp : p = b
      · subst hp
        refine ⟨p, rfl, ?_⟩
        simp only [normalize, if_true]
      · rw [show normalize ⟨some b, some p⟩ = (⟨some b, some p⟩, false) from if_neg hp] at h
        cases h

/-- A page leads on if the two sides of its range are the same. -/
theorem View.settle_eq_redirect {v : View} {t : Text} (h : v.settle = .redirect t) :
    ∃ p, v.range? = some ⟨some p, some p⟩ ∧ t = (v.withRange ⟨some .parent, some p⟩).address := by
  cases hr : v.range? with
  | none =>
    simp only [settle, hr] at h
    cases h
  | some r =>
    simp only [settle, hr] at h
    split at h
    · next hmoved =>
      obtain ⟨p, rfl, hnormal⟩ := r.normalize_moved hmoved
      rw [hnormal] at h
      exact ⟨p, rfl, (Action.redirect.inj h).symm⟩
    · cases h

/-! ### Handlers -/

section Handlers

variable {A : Answers} {l : Location} {c : Captures} {t : Text}

theorem leadsTo_root (h : (handleRoot l).Gives A (.ok (.redirect t))) :
    Route.root.LeadsTo A l c t := by
  rcases exists_of_handleRoot h with hclose | ⟨hhash, hanchor⟩ | hhome | hhome
  · cases hclose
  · cases hanchor
    exact .anchor hhash
  · cases hhome
    exact .home
  · cases hhome
    exact .homeOfVisitor

theorem leadsTo_dashboard (h : (handleUserDashboard l c).Gives A (.ok (.redirect t))) :
    Route.dashboard.LeadsTo A l c t := by
  obtain ⟨user, -, ⟨v, -, hshown⟩ | ⟨-, hshown⟩ | hlogin | howner⟩ := exists_of_handleUserDashboard h
  · cases hshown
  · cases hshown
  · cases hlogin
    exact .ownDashboard
  · cases howner
    exact .dashboardOf user

theorem leadsTo_change (h : (handleChange l c).Gives A (.ok (.redirect t))) :
    Route.change.LeadsTo A l c t := by
  obtain ⟨project, n, base, patch, hrepo, hnumber, hbase, hpatch, hsettle⟩ := settles_of_handleChange h
  obtain ⟨p, hrange, rfl⟩ := View.settle_eq_redirect hsettle.symm
  cases hrange
  exact .change _ hrepo hnumber hbase hpatch ⟨rfl, rfl, rfl, rfl, rfl, rfl⟩

theorem leadsTo_diff (h : (handleDiff l c).Gives A (.ok (.redirect t))) :
    Route.diff.LeadsTo A l c t := by
  obtain ⟨project, n, base, patch, path, hrepo, hnumber, hbase, hpatch, hpath, hsettle⟩ :=
    settles_of_handleDiff h
  obtain ⟨p, hrange, rfl⟩ := View.settle_eq_redirect hsettle.symm
  cases hrange
  let address := LineAddress.ofText? l.hash
  let v : DiffView :=
    { project := some project
      change := n
      range := ⟨some .parent, some p⟩
      path := some path
      line := address.map LineAddress.line
      leftSide := address.any LineAddress.leftSide }
  exact .diff v hrepo hnumber hbase hpatch hpath ⟨rfl, rfl, rfl, rfl, rfl⟩

/-- In the editor, and where only comments are shown, no base is given and nothing moves. -/
theorem not_gives_redirect_of_base {v : View} {r : PatchRange} (hv : v.range? = some r)
    (hr : r.base = none) : v.settle ≠ .redirect t := by
  intro h
  obtain ⟨p, hp, -⟩ := View.settle_eq_redirect h
  rw [hv] at hp
  cases hp
  cases hr

theorem not_gives_changeEdit : ¬(handleChangeEdit l c).Gives A (.ok (.redirect t)) := by
  intro h
  obtain ⟨project, n, patch, -, -, -, hsettle⟩ := settles_of_handleChangeEdit h
  exact not_gives_redirect_of_base rfl rfl hsettle.symm

theorem not_gives_commentsTab : ¬(handleCommentsTab c).Gives A (.ok (.redirect t)) := by
  intro h
  obtain ⟨project, n, -, -, hsettle⟩ := settles_of_handleCommentsTab h
  exact not_gives_redirect_of_base rfl rfl hsettle.symm

theorem not_gives_comment : ¬(handleComment c).Gives A (.ok (.redirect t)) := by
  intro h
  obtain ⟨project, n, comment, -, -, -, hsettle⟩ := settles_of_handleComment h
  exact not_gives_redirect_of_base rfl rfl hsettle.symm

theorem not_gives_diffEdit : ¬(handleDiffEdit l c).Gives A (.ok (.redirect t)) := by
  intro h
  obtain ⟨project, n, patch, path, -, -, -, -, hsettle⟩ := settles_of_handleDiffEdit h
  exact not_gives_redirect_of_base rfl rfl hsettle.symm

theorem leadsTo_changeLegacy (h : (handleLegacyChange l c).Gives A (.ok (.redirect t))) :
    Route.changeLegacy.LeadsTo A l c t := by
  obtain ⟨n, project, written, hnumber, hknown, hwritten, htarget⟩ := exists_of_handleLegacyChange h
  cases htarget
  exact .project hnumber hknown hwritten

/-- A handler leads nowhere else. -/
theorem leadsTo_of_handle {d : Deployment} {initialLoad : Bool} {r : Route}
    (h : (r.handle d initialLoad l c).Gives A (.ok (.redirect t))) : r.LeadsTo A l c t := by
  delta Route.handle at h
  cases r <;> dsimp only at h
  case root => exact leadsTo_root h
  case dashboard => exact leadsTo_dashboard h
  case customDashboard =>
    split at h
    · cases h
    · cases h
      exact .customDashboard
  case legacyProjectDashboard =>
    simp only [repoDashboard, Handling.gives_bind_ok, Handling.gives_lift, Handling.gives_pure] at h
    obtain ⟨v, ⟨repo, -, dashboard, -, hv⟩, h⟩ := h
    cases hv
    cases h
    exact .projectDashboard { repo := some repo, dashboard := some dashboard } rfl
      (Option.some_ne_none repo)
  case groupInfo =>
    obtain ⟨id, -, h⟩ := (Handling.gives_bind_ok _ _ _).1 h
    cases h
    exact .group id
  case groupSelf =>
    cases h
    exact .ownGroups
  case legacyCreateGroup =>
    cases h
    exact .newGroup
  case legacyCreateProject =>
    cases h
    exact .newProject
  case projectOld =>
    cases h
    exact .repos _
  case repo =>
    cases h
    exact .repo
  case queryLegacySuffix =>
    cases h
    exact .query
  case diffLegacyLinenum =>
    cases h
    exact .line
  case changeNumberLegacy =>
    obtain ⟨n, -, h⟩ := (Handling.gives_bind_ok _ _ _).1 h
    cases h
    exact .number n.toNat
  case diffEdit => exact absurd h not_gives_diffEdit
  case changeEdit => exact absurd h not_gives_changeEdit
  case comment => exact absurd h not_gives_comment
  case commentsTab => exact absurd h not_gives_commentsTab
  case diff => exact leadsTo_diff h
  case change => exact leadsTo_change h
  case changeLegacy => exact leadsTo_changeLegacy h
  case agreements =>
    cases h
    exact .agreements
  case improperlyEncodedPlus =>
    cases h
    exact .plus
  case documentationSearch =>
    simp only [Handling.gives_bind_ok, Handling.gives_lift, Handling.gives_pure] at h
    obtain ⟨filter, hfilter, h⟩ := h
    cases h
    exact .documentationSearch hfilter.symm
  case documentation =>
    split at h
    · cases h
    · next hpage =>
      cases h
      refine .documentation ?_
      cases hget : c.get? "page" with
      | none => exact Or.inl rfl
      | some page =>
        cases page with
        | nil => exact Or.inr rfl
        | cons a page => exact absurd hget (hpage a page)
  case fallback =>
    split at h
    · cases h
    · cases h
  -- the others only present pages
  all_goals
    simp only [groupPage, repoPage, adminPage, repoDashboard, Handling.gives_bind_ok,
      Handling.gives_lift, Handling.gives_pure, Except.ok.injEq, reduceCtorEq, and_false,
      exists_false] at h

/-- **A handler behind the gate leads nowhere else.** -/
theorem Route.leadsTo_of_gives {d : Deployment} {initialLoad : Bool} {r : Route}
    (h : (guard r.requiresAuth l (r.handle d initialLoad l c)).Gives A (.ok (.redirect t))) :
    r.LeadsTo A l c t := by
  rcases exists_of_guard h with ⟨hauth, -, hlogin⟩ | ⟨-, h⟩
  · cases hlogin
    exact .login hauth
  · exact leadsTo_of_handle h

end Handlers

end ReviewRouter
