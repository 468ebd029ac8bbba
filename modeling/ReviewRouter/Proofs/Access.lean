import ReviewRouter.Proofs.Exchanges
import ReviewRouter.Proofs.Navigation
import ReviewRouter.Proofs.Redirect.Leads
import ReviewRouter.Proofs.Segment

/-!
# What visitors get to see

Some views are for signed-in users only.  Each of them comes from a protected route, whose handler
runs behind the gate, or from the dashboard of a user, whose handler asks by itself.

* `View.isProtected` — the views that are for signed-in users only;
* `Answers.signedOut` — a visitor, or a session that cannot tell;
* `not_isProtected_of_handle` — a route without protection presents no protected view to a visitor;
* `Navigator.navigate_protected` — a protected route, step by step;
* `Navigator.navigate_signedOut` — **no protected view reaches a visitor, and of a protected route the
  session hears one question only**.
-/

namespace ReviewRouter

/-- The views that are for signed-in users only: groups, editors, settings, agreements, the lists of
groups and plugins, the commands of a repository, the edit mode of a change, and the dashboard of a
user. -/
def View.isProtected : View → Bool
  | .group _ _ => true
  | .edit _ => true
  | .settings _ => true
  | .agreements => true
  | .admin v => v.list != .repos
  | .repo v => v.detail == .commands
  | .change v => v.edit
  | .dashboard v => v.user.isSome && v.sections.isEmpty
  | _ => false

/-- A visitor, or a session that cannot tell. -/
def Answers.signedOut : Answers where
  login r := r ≠ .ok true
  project _ _ := True

/-- A scripted visitor stays one, and a scripted failure lasts. -/
theorem Session.scripted_obeys_signedOut {st : Scripted}
    (h : st.failLogin = true ∨ st.loggedIn = false) : Session.scripted.Obeys .signedOut st := by
  refine scripted_obeys_of_login ?_ fun _ _ => trivial
  show (if st.failLogin then .error _ else .ok st.loggedIn) ≠ (.ok true : Except Failure Bool)
  split
  · nofun
  · next hfail =>
    rw [h.resolve_left hfail]
    nofun

/-! ### Handlers -/

section Handlers

variable {l : Location} {c : Captures} {v : View}

/-- Settling a view changes at most its range. -/
theorem View.isProtected_of_settle {w : View} (h : w.settle = .present v) :
    v.isProtected = w.isProtected := by
  have hrange : ∀ r, (w.withRange r).isProtected = w.isProtected := by
    intro r
    cases w <;> rfl
  cases hr : w.range? with
  | none =>
    simp only [settle, hr, Action.present.injEq] at h
    rw [h]
  | some r =>
    simp only [settle, hr] at h
    split at h
    · cases h
    · rw [← Action.present.inj h, hrange]

/-- A dashboard that is read from a query has sections. -/
theorem DashboardView.sections_of_ofQuery? {query : Text} {user : Option Text} {d : DashboardView}
    (h : ofQuery? query user = some d) : d.sections ≠ [] := by
  have hif : ∀ (sections : List DashboardSection) (user title : Option Text),
      (if sections = [] then none else some { user, sections, title : DashboardView }) = some d →
        d.sections ≠ [] := by
    intro sections user title hsome
    by_cases hnil : sections = []
    · rw [if_pos hnil] at hsome
      cases hsome
    · rw [if_neg hnil] at hsome
      rw [← Option.some_inj.1 hsome]
      exact hnil
  exact hif _ _ _ h

theorem View.not_isProtected_dashboard {d : DashboardView} (h : d.sections ≠ []) :
    (View.dashboard d).isProtected = false := by
  simp only [isProtected, List.isEmpty_eq_false_iff.2 h, Bool.and_false]

/-- Visitors see only dashboards with sections. -/
theorem not_isProtected_userDashboard
    (h : (handleUserDashboard l c).Gives .signedOut (.ok (.present v))) : v.isProtected = false := by
  obtain ⟨user, -, ⟨d, hquery, hshown⟩ | ⟨hlogin, -⟩ | hled | hled⟩ := exists_of_handleUserDashboard h
  · obtain rfl := Action.present.inj hshown
    exact View.not_isProtected_dashboard (DashboardView.sections_of_ofQuery? hquery)
  · exact absurd rfl hlogin
  · cases hled
  · cases hled

/-- The root page only leads on. -/
theorem not_gives_present_root {A : Answers} : ¬(handleRoot l).Gives A (.ok (.present v)) := by
  intro h
  rcases exists_of_handleRoot h with hclose | ⟨-, hled⟩ | hled | hled
  · cases hclose
  · cases hled
  · cases hled
  · cases hled

/-- Of the pages of a repository only its commands are protected. -/
theorem not_isProtected_repoPage {detail : RepoDetail} (hdetail : detail ≠ .commands) {A : Answers}
    (h : (repoPage c detail).Gives A (.ok (.present v))) : v.isProtected = false := by
  simp only [repoPage, Handling.gives_bind_ok, Handling.gives_lift, Handling.gives_pure] at h
  obtain ⟨repo, -, offset, -, h⟩ := h
  obtain rfl := Action.present.inj (Except.ok.inj h)
  exact beq_eq_false_iff_ne.2 hdetail

/-- Of the lists for administrators that of the repositories is open. -/
theorem not_isProtected_adminPage {canCreate : Bool} {A : Answers}
    (h : (adminPage l c .repos canCreate).Gives A (.ok (.present v))) : v.isProtected = false := by
  simp only [adminPage, Handling.gives_bind_ok, Handling.gives_lift, Handling.gives_pure] at h
  obtain ⟨offset, -, h⟩ := h
  obtain rfl := Action.present.inj (Except.ok.inj h)
  rfl

theorem not_isProtected_change {A : Answers} (h : (handleChange l c).Gives A (.ok (.present v))) :
    v.isProtected = false := by
  obtain ⟨project, change, base, patch, -, -, -, -, hsettle⟩ := settles_of_handleChange h
  exact View.isProtected_of_settle hsettle.symm

theorem not_isProtected_commentsTab {A : Answers}
    (h : (handleCommentsTab c).Gives A (.ok (.present v))) : v.isProtected = false := by
  obtain ⟨project, change, -, -, hsettle⟩ := settles_of_handleCommentsTab h
  exact View.isProtected_of_settle hsettle.symm

theorem not_isProtected_comment {A : Answers} (h : (handleComment c).Gives A (.ok (.present v))) :
    v.isProtected = false := by
  obtain ⟨project, change, comment, -, -, -, hsettle⟩ := settles_of_handleComment h
  exact View.isProtected_of_settle hsettle.symm

theorem not_isProtected_diff {A : Answers} (h : (handleDiff l c).Gives A (.ok (.present v))) :
    v.isProtected = false := by
  obtain ⟨project, change, base, patch, path, -, -, -, -, -, hsettle⟩ := settles_of_handleDiff h
  exact View.isProtected_of_settle hsettle.symm

/-- Old links to changes only lead on. -/
theorem not_gives_present_legacyChange {A : Answers} :
    ¬(handleLegacyChange l c).Gives A (.ok (.present v)) := by
  intro h
  obtain ⟨change, project, written, -, -, -, hled⟩ := exists_of_handleLegacyChange h
  cases hled

/-- A route without protection presents no protected view to a visitor. -/
theorem not_isProtected_of_handle {d : Deployment} {initialLoad : Bool} {r : Route}
    (hopen : r.requiresAuth = false)
    (h : (r.handle d initialLoad l c).Gives .signedOut (.ok (.present v))) : v.isProtected = false := by
  have hroute : r.definition.requiresAuth = false := hopen
  clear hopen
  delta Route.handle at h
  delta Route.definition at hroute
  cases r <;> dsimp only at h hroute
  -- the protected routes fall away
  all_goals cases hroute
  case root => exact absurd h not_gives_present_root
  case dashboard => exact not_isProtected_userDashboard h
  case customDashboard =>
    split at h
    · next dashboard hquery =>
      obtain rfl := Action.present.inj (Except.ok.inj h)
      exact View.not_isProtected_dashboard (DashboardView.sections_of_ofQuery? hquery)
    · cases h
  case projectDashboard =>
    simp only [repoDashboard, Handling.gives_bind_ok, Handling.gives_lift, Handling.gives_pure] at h
    obtain ⟨dashboard, ⟨repo, -, name, -, hdashboard⟩, h⟩ := h
    obtain rfl := Except.ok.inj hdashboard
    obtain rfl := Action.present.inj (Except.ok.inj h)
    rfl
  case repoGeneral | repoAccess | repoDashboards | branchListOffset | branchListFilterOffset
      | branchListFilter | tagListOffset | tagListFilterOffset | tagListFilter =>
    exact not_isProtected_repoPage (by decide) h
  case repoListOffset | repoListFilterOffset | repoListFilter => exact not_isProtected_adminPage h
  case comment => exact not_isProtected_comment h
  case commentsTab => exact not_isProtected_commentsTab h
  case diff => exact not_isProtected_diff h
  case change => exact not_isProtected_change h
  case changeLegacy => exact absurd h not_gives_present_legacyChange
  case query | pluginScreen =>
    simp only [Handling.gives_bind_ok, Handling.gives_lift, Handling.gives_pure] at h
    obtain ⟨first, -, second, -, h⟩ := h
    obtain rfl := Action.present.inj (Except.ok.inj h)
    rfl
  case topic | changeIdQuery | documentationSearchFilter =>
    simp only [Handling.gives_bind_ok, Handling.gives_lift, Handling.gives_pure] at h
    obtain ⟨text, -, h⟩ := h
    obtain rfl := Action.present.inj (Except.ok.inj h)
    rfl
  case documentation | fallback =>
    split at h <;> cases h
  -- the others present nothing
  all_goals
    simp only [repoDashboard, Handling.gives_bind_ok, Handling.gives_lift, Handling.gives_pure,
      Except.ok.injEq, reduceCtorEq, and_false, exists_false] at h

/-- Behind the gate visitors see nothing, so no handler presents a protected view to them. -/
theorem not_isProtected_of_gives {d : Deployment} {initialLoad : Bool} {r : Route}
    (h : (guard r.requiresAuth l (r.handle d initialLoad l c)).Gives .signedOut (.ok (.present v))) :
    v.isProtected = false := by
  rcases exists_of_guard h with ⟨-, -, hled⟩ | ⟨hlogin, hhandle⟩
  · cases hled
  · cases hauth : r.requiresAuth with
    | false => exact not_isProtected_of_handle hauth hhandle
    | true => exact absurd rfl (hlogin hauth)

end Handlers

/-! ### The gate -/

/-- Escaping makes no text shorter. -/
theorem Percent.length_le_length_escape (t : Text) : t.length ≤ (escape t).length := by
  induction t with
  | nil => exact Nat.le_refl 0
  | cons c t ih =>
    have hchar : 1 ≤ (escapeChar c).length := by
      unfold escapeChar
      split
      · exact Nat.le_refl 1
      · obtain ⟨b, bs, hb, -⟩ := Utf8.encodeChar_starts c
        have hbyte : (escapeByte b).length = 3 := rfl
        rw [hb, List.flatMap_cons, List.length_append, hbyte]
        omega
    rw [escape_cons, List.length_append, List.length_cons]
    omega

/-- The sign-in page comes from no page itself. -/
theorem loginAddress_ne_address (l : Location) : loginAddress l ≠ l.address := by
  intro heq
  have hlength := congrArg List.length heq
  have hescape := Percent.length_le_length_escape l.address
  have hpath : loginPath.length = 7 := by decide
  rw [loginAddress, List.length_append] at hlength
  omega

namespace Navigator

variable {n : Navigator} {url : Text} {e : RouteEntry} {c : Captures}

/-- A protected route, step by step: one question, and the handler runs only for a `true`. -/
theorem navigate_protected
    (hmatch : n.table.match? (Location.ofAddress n.deployment url).matchPath = some (e, c))
    (hauth : e.requiresAuth = true) :
    ∃ signedIn : Plan Navigation, (n.navigate url).1 =
      .note (.routeMatched (n.issued + 1) e.route.name (Location.ofAddress n.deployment url).path)
        (.askLogin fun answer => match answer with
          | .ok true => signedIn
          | .ok false =>
            .note (.loginNeeded (Location.ofAddress n.deployment url).address)
              (.done ⟨n.issued + 1, .redirect (loginAddress (Location.ofAddress n.deployment url))⟩)
          | .error failure =>
            .note (.navigationFailed (n.issued + 1) e.route.name failure)
              (.done ⟨n.issued + 1, .pageError failure.status⟩)) := by
  let l := Location.ofAddress n.deployment url
  let handler := e.route.handle n.deployment (n.issued + 1 == 1) l c
  let conclusion (result : Except Failure Action) : Plan Navigation :=
    (conclude (n.issued + 1) e.route l result).bind fun action => .done ⟨n.issued + 1, action⟩
  refine ⟨handler.run.bind conclusion, ?_⟩
  have hresolve : (n.navigate url).1 =
      .note (.routeMatched (n.issued + 1) e.route.name l.path)
        ((guard e.requiresAuth l handler).run.bind conclusion) := by
    simp only [Navigator.navigate, begin, resolve, hmatch]
    rfl
  have hredirect : conclusion (.ok (.redirect (loginAddress l))) =
      .done ⟨n.issued + 1, .redirect (loginAddress l)⟩ := by
    simp only [conclusion, conclude, if_neg (loginAddress_ne_address l)]
    rfl
  rw [hresolve, hauth]
  refine congrArg (Plan.note _) (congrArg Plan.askLogin (funext fun answer => ?_))
  rcases answer with failure | signedIn
  · rfl
  · cases signedIn with
    | true => rfl
    | false => exact congrArg (Plan.note _) hredirect

/-- **No protected view reaches a visitor, and of a protected route the session hears one question
only.**  For every table, deployment and address, and every session in a state from which no user is
signed in. -/
theorem navigate_signedOut {σ : Type} {s : Session σ} {st : σ} (hs : s.Obeys .signedOut st)
    (n : Navigator) (url : Text) :
    (∀ v : View, ((n.navigate url).1.run s st).1.action = .present v → v.isProtected = false) ∧
      ∀ (e : RouteEntry) (c : Captures),
        n.table.match? (Location.ofAddress n.deployment url).matchPath = some (e, c) →
        e.requiresAuth = true →
        ∃ answer : Except Failure Bool, (n.navigate url).1.exchanges s st = [.loggedIn answer] ∧
          (answer = .ok false → ((n.navigate url).1.run s st).1.action =
            .redirect (loginAddress (Location.ofAddress n.deployment url))) ∧
          ∀ failure, answer = .error failure →
            ((n.navigate url).1.run s st).1.action = .pageError failure.status := by
  constructor
  · intro v hv
    have hyields := (Plan.yields_run hs (n.navigate url).1).1
    rcases navigate_yields_entry hyields with ⟨-, haction⟩ | ⟨e, c, result, -, hresult, haction⟩
    · rw [hv] at haction
      cases haction
    · have hpresent : result = .ok (.present v) := by
        rw [hv] at haction
        exact Action.ofResult_eq_present_iff.1 haction.symm
      rw [hpresent] at hresult
      exact not_isProtected_of_gives hresult
  · intro e c hmatch hauth
    obtain ⟨signedIn, hplan⟩ := navigate_protected hmatch hauth
    obtain ⟨I, hI, hst⟩ := hs
    have hanswer := (hI.loggedIn _ (hI.note
      (.routeMatched (n.issued + 1) e.route.name (Location.ofAddress n.deployment url).path) st hst)).1
    -- the question is put once, and its answer decides how the run goes on
    rw [hplan, Plan.run_question, Plan.exchanges_question]
    generalize s.loggedIn _ = answered at hanswer ⊢
    obtain ⟨answer, later⟩ := answered
    refine ⟨answer, ?_⟩
    rcases answer with failure | login
    · refine ⟨rfl, nofun, ?_⟩
      intro failure' heq
      rw [← Except.error.inj heq]
      rfl
    · cases login with
      | true => exact absurd rfl hanswer
      | false => exact ⟨rfl, fun _ => rfl, nofun⟩

/-- At the settings the session is asked once, and the visitor is sent to sign in. -/
theorem navigate_signedOut_sample :
    Session.scripted.Obeys .signedOut {} ∧
      ((overAll.navigate "/settings").1.run .scripted {}).2.calls = [.loggedIn] ∧
      ((overAll.navigate "/settings").1.run .scripted {}).1.action = .redirect "/login/%2Fsettings" := by
  have hs : Session.scripted.Obeys .signedOut {} := Session.scripted_obeys_signedOut (Or.inr rfl)
  have hmatch : overAll.table.match?
      (Location.ofAddress overAll.deployment "/settings").matchPath =
        some (Route.settings.entry, Route.settings.captured []) := by
    decide +kernel
  obtain ⟨answer, hexchanges, -⟩ := (navigate_signedOut hs overAll "/settings").2 _ _ hmatch rfl
  refine ⟨hs, ?_, by decide +kernel⟩
  rw [Plan.calls_run_scripted, hexchanges]
  rfl

end Navigator

end ReviewRouter
