import ReviewRouter.Proofs.Captures
import ReviewRouter.Proofs.Handlers
import ReviewRouter.Proofs.Navigation
import ReviewRouter.Proofs.Pattern.Always
import ReviewRouter.Proofs.Session.Replies
import ReviewRouter.Session.Server

/-!
# How a navigation can fail

A handler fails if the session does, if a capture is missing or cannot be read, if nobody knows the
project of a change, or if no page is there at all.  A capture that a handler insists on takes part in
every match of its route, so over all routes none is ever missing.

* `Handling.FailsOnly` — the failures of a plan, with one lemma for each of its steps;
* `Route.required` — the captures that the handler of a route insists on;
* `Route.FailsWith`, `failsOnly_handle` — **how a handler can fail**, whatever its captures are;
* `Route.get?_ne_none` — these captures are in every match of the route;
* `Answers.failingByRest` — sessions that fail only because a request failed, as both do that there are;
* `Navigator.failures_of_standard` — **over all routes no capture is missing, and every error page says
  that nothing was found**.
-/

namespace ReviewRouter

open Pattern

/-! ### Plans that may fail -/

namespace Handling

variable {α β : Type} {A : Answers} {P : Failure → Prop}

/-- Every failure of the plan has the property. -/
def FailsOnly (A : Answers) (P : Failure → Prop) (h : Handling α) : Prop :=
  ∀ f, h.Gives A (.error f) → P f

theorem failsOnly_pure (a : α) : FailsOnly A P (pure a) :=
  fun _ h => nomatch (gives_pure a _).1 h

theorem failsOnly_throw {f : Failure} (hf : P f) : FailsOnly A P (throw f : Handling α) := by
  intro f' h
  obtain rfl := Except.error.inj ((gives_throw f _).1 h)
  exact hf

theorem failsOnly_lift {x : Except Failure α} (hx : ∀ f, x = .error f → P f) :
    FailsOnly A P (liftM x : Handling α) :=
  fun f h => hx f ((gives_lift x _).1 h).symm

theorem failsOnly_loggedIn (hlogin : ∀ f, A.login (.error f) → P f) : FailsOnly A P loggedIn :=
  fun f h => hlogin f ((gives_loggedIn _).1 h)

theorem failsOnly_projectOf {change : UInt32} (hproject : ∀ f, A.project change (.error f) → P f) :
    FailsOnly A P (projectOf change) :=
  fun f h => hproject f ((gives_projectOf change _).1 h)

theorem failsOnly_record (change : UInt32) (project : Text) : FailsOnly A P (record change project) :=
  fun _ h => nomatch (gives_record change project _).1 h

theorem failsOnly_note (e : Event) : FailsOnly A P (note e) :=
  fun _ h => nomatch (gives_note e _).1 h

/-- A plan fails where its first step does, or where it goes on from a result of it. -/
theorem FailsOnly.bind {h : Handling α} {f : α → Handling β} (hh : h.FailsOnly A P)
    (hf : ∀ a, h.Gives A (.ok a) → (f a).FailsOnly A P) : (h >>= f).FailsOnly A P := by
  intro e he
  rcases (gives_bind h f _).1 he with ⟨a, ha, he⟩ | ⟨e', he', heq⟩
  · exact hf a ha e he
  · obtain rfl := Except.error.inj heq
    exact hh e he'

end Handling

/-! ### Failures of a handler -/

/-- The captures that the handler of a route insists on. -/
def Route.required : Route → List Text
  | .dashboard => ["user"]
  | .projectDashboard | .legacyProjectDashboard => ["repo", "dashboard"]
  | .groupInfo | .groupAuditLog | .groupMembers | .group => ["group"]
  | .repoCommands | .repoGeneral | .repoAccess | .repoDashboards | .branchListOffset
  | .branchListFilterOffset | .branchListFilter | .tagListOffset | .tagListFilterOffset
  | .tagListFilter => ["repo"]
  | .query => ["query"]
  | .topic => ["topic"]
  | .changeIdQuery => ["change_id"]
  | .changeNumberLegacy | .changeLegacy => ["change"]
  | .changeEdit | .commentsTab | .change => ["repo", "change"]
  | .comment => ["repo", "change", "comment"]
  | .diff => ["repo", "change", "path"]
  | .diffEdit => ["repo", "change", "patch", "path"]
  | .settingsLegacy => ["token"]
  | .pluginScreen => ["plugin", "screen"]
  | .documentationSearchFilter | .documentationSearch => ["filter"]
  | _ => []

/-- How a route can fail, from a location and the captures of its path, if the session gives such
answers. -/
inductive Route.FailsWith (A : Answers) (l : Location) (c : Captures) : Route → Failure → Prop where
  | login {r : Route} {f : Failure} (answer : A.login (.error f)) : FailsWith A l c r f
  | project {r : Route} {f : Failure} {change : UInt32} (answer : A.project change (.error f)) :
      FailsWith A l c r f
  | missing {r : Route} {name : Text} (insists : name ∈ r.required) (absent : c.get? name = none) :
      FailsWith A l c r (.missingCapture c.route name)
  | invalid {r : Route} {name value : Text} (there : c.get? name = some value)
      (refused : Numeral.u32? value = none ∨ PatchSet.ofText? value = none) :
      FailsWith A l c r (.invalidCapture c.route name value)
  | unknown {change : UInt32} (number : c.parse Numeral.u32? "change" = .ok change)
      (answer : A.project change (.ok none)) : FailsWith A l c .changeLegacy (.unknownChange change)
  | noRoute : FailsWith A l c .fallback (.noRoute l.path)

section Handlers

open Handling

variable {A : Answers} {l : Location} {c : Captures} {r : Route} {name : Text}

theorem failsOnly_require (hname : name ∈ r.required) :
    FailsOnly A (r.FailsWith A l c) (liftM (c.require name) : Handling Text) := by
  refine failsOnly_lift fun f hf => ?_
  obtain ⟨hnone, rfl⟩ := Captures.of_require_error hf
  exact .missing hname hnone

theorem failsOnly_parse {α : Type} {read : Text → Option α} (hname : name ∈ r.required)
    (hread : ∀ t, read t = none → Numeral.u32? t = none ∨ PatchSet.ofText? t = none) :
    FailsOnly A (r.FailsWith A l c) (liftM (c.parse read name) : Handling α) := by
  refine failsOnly_lift fun f hf => ?_
  rcases Captures.of_parse_error hf with ⟨hnone, rfl⟩ | ⟨t, ht, hnone, rfl⟩
  · exact .missing hname hnone
  · exact .invalid ht (hread t hnone)

theorem failsOnly_patchSet? :
    FailsOnly A (r.FailsWith A l c)
      (liftM (c.parse? PatchSet.ofText? name) : Handling (Option PatchSet)) := by
  refine failsOnly_lift fun f hf => ?_
  obtain ⟨t, ht, hnone, rfl⟩ := Captures.of_parse?_error hf
  exact .invalid ht (Or.inr hnone)

theorem failsOnly_offset :
    FailsOnly A (r.FailsWith A l c) (liftM (c.offset name) : Handling UInt32) := by
  refine failsOnly_lift fun f hf => ?_
  obtain ⟨t, ht, hnone, rfl⟩ := Captures.of_offset_error hf
  exact .invalid ht (Or.inl hnone)

/-! ### Single handlers -/

theorem failsOnly_root : FailsOnly A (Route.root.FailsWith A l c) (handleRoot l) := by
  unfold handleRoot
  split
  · exact failsOnly_pure _
  · split
    · exact failsOnly_pure _
    · refine (failsOnly_loggedIn fun f => .login).bind fun login _ => ?_
      split <;> exact failsOnly_pure _

theorem failsOnly_userDashboard :
    FailsOnly A (Route.dashboard.FailsWith A l c) (handleUserDashboard l c) := by
  refine (failsOnly_require (by decide)).bind fun user _ => ?_
  split
  · exact failsOnly_pure _
  · refine (failsOnly_loggedIn fun f => .login).bind fun login _ => ?_
    split
    · exact failsOnly_pure _
    · split <;> exact failsOnly_pure _

theorem failsOnly_repoDashboard (hrepo : "repo".toList ∈ r.required)
    (hdashboard : "dashboard".toList ∈ r.required) :
    FailsOnly A (r.FailsWith A l c) (repoDashboard c) :=
  (failsOnly_require hrepo).bind fun _ _ =>
    (failsOnly_require hdashboard).bind fun _ _ => failsOnly_pure _

theorem failsOnly_groupPage {detail : Option GroupDetail} (hgroup : "group".toList ∈ r.required) :
    FailsOnly A (r.FailsWith A l c) (groupPage c detail) :=
  (failsOnly_require hgroup).bind fun _ _ => failsOnly_pure _

theorem failsOnly_repoPage {detail : RepoDetail} (hrepo : "repo".toList ∈ r.required) :
    FailsOnly A (r.FailsWith A l c) (repoPage c detail) :=
  (failsOnly_require hrepo).bind fun _ _ => failsOnly_offset.bind fun _ _ => failsOnly_pure _

theorem failsOnly_adminPage {list : AdminList} {canCreate : Bool} :
    FailsOnly A (r.FailsWith A l c) (adminPage l c list canCreate) :=
  failsOnly_offset.bind fun _ _ => failsOnly_pure _

theorem failsOnly_changeNumber (hchange : "change".toList ∈ r.required) :
    FailsOnly A (r.FailsWith A l c) (liftM (c.parse Numeral.u32? "change") : Handling UInt32) :=
  failsOnly_parse hchange fun _ => Or.inl

theorem failsOnly_changeTarget (hrepo : "repo".toList ∈ r.required)
    (hchange : "change".toList ∈ r.required) : FailsOnly A (r.FailsWith A l c) (changeTarget c) :=
  (failsOnly_require hrepo).bind fun _ _ => (failsOnly_changeNumber hchange).bind fun _ _ =>
    (failsOnly_record _ _).bind fun _ _ => failsOnly_pure _

theorem failsOnly_change : FailsOnly A (Route.change.FailsWith A l c) (handleChange l c) :=
  (failsOnly_changeTarget (by decide) (by decide)).bind fun _ _ =>
    failsOnly_patchSet?.bind fun _ _ => failsOnly_patchSet?.bind fun _ _ => failsOnly_pure _

theorem failsOnly_changeEdit :
    FailsOnly A (Route.changeEdit.FailsWith A l c) (handleChangeEdit l c) :=
  (failsOnly_changeTarget (by decide) (by decide)).bind fun _ _ =>
    failsOnly_patchSet?.bind fun _ _ => failsOnly_pure _

theorem failsOnly_commentsTab :
    FailsOnly A (Route.commentsTab.FailsWith A l c) (handleCommentsTab c) :=
  (failsOnly_changeTarget (by decide) (by decide)).bind fun _ _ => failsOnly_pure _

theorem failsOnly_comment : FailsOnly A (Route.comment.FailsWith A l c) (handleComment c) :=
  (failsOnly_changeTarget (by decide) (by decide)).bind fun _ _ =>
    (failsOnly_require (by decide)).bind fun _ _ => failsOnly_pure _

theorem failsOnly_diff : FailsOnly A (Route.diff.FailsWith A l c) (handleDiff l c) :=
  (failsOnly_changeTarget (by decide) (by decide)).bind fun _ _ =>
    failsOnly_patchSet?.bind fun _ _ => failsOnly_patchSet?.bind fun _ _ =>
      (failsOnly_require (by decide)).bind fun _ _ => failsOnly_pure _

theorem failsOnly_diffEdit : FailsOnly A (Route.diffEdit.FailsWith A l c) (handleDiffEdit l c) :=
  (failsOnly_changeTarget (by decide) (by decide)).bind fun _ _ =>
    (failsOnly_parse (by decide) fun _ => Or.inr).bind fun _ _ =>
      (failsOnly_require (by decide)).bind fun _ _ => failsOnly_pure _

/-- The only handler that asks for a project, and so the only one that may not find it. -/
theorem failsOnly_legacyChange :
    FailsOnly A (Route.changeLegacy.FailsWith A l c) (handleLegacyChange l c) := by
  refine (failsOnly_changeNumber (by decide)).bind fun change hchange => ?_
  refine (failsOnly_projectOf fun f => .project).bind fun project hproject => ?_
  cases project with
  | none =>
    refine failsOnly_throw (.unknown ((gives_lift _ _).1 hchange).symm ?_)
    exact (gives_projectOf change _).1 hproject
  | some project =>
    exact (failsOnly_note _).bind fun _ _ => (failsOnly_require (by decide)).bind fun _ _ =>
      failsOnly_pure _

/-! ### All handlers -/

/-- **How a handler can fail**, whatever its captures are. -/
theorem failsOnly_handle (d : Deployment) (initialLoad : Bool) (r : Route) :
    FailsOnly A (r.FailsWith A l c) (r.handle d initialLoad l c) := by
  delta Route.handle
  cases r <;> dsimp only
  case root => exact failsOnly_root
  case dashboard => exact failsOnly_userDashboard
  case customDashboard =>
    split <;> exact failsOnly_pure _
  case projectDashboard | legacyProjectDashboard =>
    exact (failsOnly_repoDashboard (by decide) (by decide)).bind fun _ _ => failsOnly_pure _
  case groupAuditLog | groupMembers | group => exact failsOnly_groupPage (by decide)
  case repoCommands | repoGeneral | repoAccess | repoDashboards | branchListOffset
      | branchListFilterOffset | branchListFilter | tagListOffset | tagListFilterOffset
      | tagListFilter =>
    exact failsOnly_repoPage (by decide)
  case groupListOffset | groupListFilterOffset | groupListFilter | repoListOffset
      | repoListFilterOffset | repoListFilter | pluginListOffset | pluginListFilterOffset
      | pluginListFilter =>
    exact failsOnly_adminPage
  case query =>
    exact failsOnly_offset.bind fun _ _ => (failsOnly_require (by decide)).bind fun _ _ =>
      failsOnly_pure _
  case groupInfo | topic | changeIdQuery | settingsLegacy | documentationSearchFilter
      | documentationSearch =>
    exact (failsOnly_require (by decide)).bind fun _ _ => failsOnly_pure _
  case pluginScreen =>
    exact (failsOnly_require (by decide)).bind fun _ _ => (failsOnly_require (by decide)).bind
      fun _ _ => failsOnly_pure _
  case changeNumberLegacy =>
    exact (failsOnly_changeNumber (by decide)).bind fun _ _ => failsOnly_pure _
  case diffEdit => exact failsOnly_diffEdit
  case changeEdit => exact failsOnly_changeEdit
  case comment => exact failsOnly_comment
  case commentsTab => exact failsOnly_commentsTab
  case diff => exact failsOnly_diff
  case change => exact failsOnly_change
  case changeLegacy => exact failsOnly_legacyChange
  case documentation =>
    split <;> exact failsOnly_pure _
  case fallback =>
    split
    · exact failsOnly_pure _
    · exact failsOnly_throw .noRoute
  -- the others always have a result
  all_goals exact failsOnly_pure _

/-- The gate fails only if the session does. -/
theorem failsOnly_guard {protect : Bool} {handler : Handling Action}
    (h : FailsOnly A (r.FailsWith A l c) handler) :
    FailsOnly A (r.FailsWith A l c) (guard protect l handler) := by
  cases protect with
  | false => exact h
  | true =>
    refine (failsOnly_loggedIn fun f => .login).bind fun login _ => ?_
    cases login with
    | true => exact h
    | false => exact (failsOnly_note _).bind fun _ _ => failsOnly_pure _

end Handlers

/-! ### Captures that are never missing -/

theorem Route.mem_always_of_required :
    ∀ r ∈ all, ∀ name ∈ r.required, name ∈ (row r.shape).always := by
  decide

/-- What a handler insists on is in every match of its route. -/
theorem Route.get?_ne_none {r : Route} {path name : Text} {found : List (Text × Text)}
    (hmatch : r.match? path = some found) (hname : name ∈ r.required) :
    (r.captured found).get? name ≠ none := by
  rw [get?_captured]
  intro hnone
  exact lookup_ne_none_of_mem_always hmatch (mem_always_of_required r r.mem_all name hname)
    (Option.map_eq_none_iff.1 hnone)

/-! ### Sessions that fail by their requests -/

/-- The failures of such a session are those of its requests. -/
def Answers.failingByRest : Answers where
  login r := ∀ f, r = .error f → ∃ reason, f = .rest reason
  project _ r := ∀ f, r = .error f → ∃ reason, f = .rest reason

theorem readBody_error {α : Type} {read : Json → Option α} {body : Text} {f : Failure}
    (h : readBody read body = .error f) : ∃ reason, f = .rest reason := by
  unfold readBody at h
  split at h
  · cases h
  · exact ⟨_, (Except.error.inj h).symm⟩

theorem map_eq_error {ε α β : Type} {g : α → β} {x : Except ε α} {e : ε}
    (h : x.map g = .error e) : x = .error e := by
  cases x with
  | error e' => exact congrArg Except.error (Except.error.inj h)
  | ok a => cases h

namespace RestCache

theorem loginOf_error {r : Response} {f : Failure} (h : loginOf r = .error f) :
    ∃ reason, f = .rest reason := by
  unfold loginOf at h
  split at h
  · cases h
  · split at h
    · exact readBody_error (map_eq_error h)
    · exact ⟨_, (Except.error.inj h).symm⟩

theorem projectOf_error {r : Response} {f : Failure} (h : projectOf r = .error f) :
    ∃ reason, f = .rest reason := by
  unfold projectOf at h
  split at h
  · cases h
  · split at h
    · exact readBody_error (map_eq_error h)
    · exact ⟨_, (Except.error.inj h).symm⟩

/-- Whatever the reply is, taking it in fails only as a request. -/
theorem login_error {c : RestCache} {url : Text} {reply : Reply} {f : Failure}
    (h : (c.login url reply).1 = .error f) : ∃ reason, f = .rest reason := by
  rw [(c.login_eq url reply).1] at h
  cases reply with
  | error e => exact ⟨_, (Except.error.inj h).symm⟩
  | ok r => exact loginOf_error (map_eq_error h)

theorem project_error {c : RestCache} {change : UInt32} {url : Text} {reply : Reply} {f : Failure}
    (h : (c.project change url reply).1 = .error f) : ∃ reason, f = .rest reason := by
  rw [(c.project_eq change url reply).1] at h
  cases reply with
  | error e => exact ⟨_, (Except.error.inj h).symm⟩
  | ok r => exact projectOf_error h

end RestCache

/-- The session of a review server is one of them. -/
theorem Session.rest_obeys_failingByRest (st : RestSession) :
    Session.rest.Obeys .failingByRest st := by
  refine obeys_of_answers ?_ ?_ st
  · intro st f hf
    replace hf : (RestSession.loggedIn st).1 = .error f := hf
    unfold RestSession.loggedIn at hf
    split at hf
    · cases hf
    · exact RestCache.login_error hf
  · intro change st f hf
    replace hf : (RestSession.projectOf change st).1 = .error f := hf
    unfold RestSession.projectOf at hf
    split at hf
    · cases hf
    · exact RestCache.project_error hf

/-- So is the scripted session. -/
theorem Session.scripted_obeys_failingByRest (st : Scripted) :
    Session.scripted.Obeys .failingByRest st := by
  refine obeys_of_answers ?_ ?_ st
  · intro st f hf
    replace hf : (if st.failLogin then .error (.rest "login check failed") else .ok st.loggedIn :
      Except Failure Bool) = .error f := hf
    split at hf
    · exact ⟨_, (Except.error.inj hf).symm⟩
    · cases hf
  · intro change st f hf
    replace hf : (if st.failLookup then .error (.rest "lookup failed")
      else .ok (st.projects.lookup change) : Except Failure (Option Text)) = .error f := hf
    split at hf
    · exact ⟨_, (Except.error.inj hf).symm⟩
    · cases hf

/-! ### Navigations -/

/-- The failures that are left: a capture that is there but cannot be read, a change that nobody knows,
a request, and a path without a page. -/
def Failure.IsOrdinary (l : Location) (c : Captures) (r : Route) : Failure → Prop
  | .invalidCapture route name value => route = c.route ∧ c.get? name = some value
  | .unknownChange change => r = .changeLegacy ∧ c.parse Numeral.u32? "change" = .ok change
  | .rest _ => True
  | .noRoute path => r = .fallback ∧ path = l.path
  | .missingCapture _ _ | .invalidPattern _ _ | .undeclaredCapture _ _ => False

/-- If nothing is missing, what is left is ordinary. -/
theorem Route.FailsWith.isOrdinary {l : Location} {c : Captures} {r : Route} {f : Failure}
    (hfail : r.FailsWith .failingByRest l c f) (hc : ∀ name ∈ r.required, c.get? name ≠ none) :
    f.IsOrdinary l c r := by
  cases hfail with
  | login answer =>
    obtain ⟨reason, rfl⟩ := answer _ rfl
    exact trivial
  | project answer =>
    obtain ⟨reason, rfl⟩ := answer _ rfl
    exact trivial
  | missing insists absent => exact absurd absent (hc _ insists)
  | invalid there refused => exact ⟨rfl, there⟩
  | unknown number answer => exact ⟨rfl, number⟩
  | noRoute => exact ⟨rfl, rfl⟩

/-- Also with a missing capture nothing is found. -/
theorem Route.FailsWith.status_eq {l : Location} {c : Captures} {r : Route} {f : Failure}
    (hfail : r.FailsWith .failingByRest l c f) : f.status = 404 := by
  cases hfail with
  | login answer =>
    obtain ⟨reason, rfl⟩ := answer _ rfl
    rfl
  | project answer =>
    obtain ⟨reason, rfl⟩ := answer _ rfl
    rfl
  | _ => rfl

namespace Navigator

/-- **Over all routes no capture is missing, and every error page says that nothing was found.**  For
every deployment, address and session that fails only by its requests, whether or not it is the first
load; the error pages for every table and every navigation. -/
theorem failures_of_standard {σ : Type} {s : Session σ} {st : σ} (hs : s.Obeys .failingByRest st) :
    (∀ (t : RouteTable) (d : Deployment) (url : Text) (initialLoad : Bool) (e : RouteEntry) (c : Captures)
        (f : Failure), RouteTable.standard = .ok t →
        t.match? (Location.ofAddress d url).matchPath = some (e, c) →
        ((e.route.handle d initialLoad (Location.ofAddress d url) c).run.run s st).1 = .error f →
        f.IsOrdinary (Location.ofAddress d url) c e.route) ∧
      ∀ (n : Navigator) (p : PendingNavigation) (status : Nat),
        ((n.resolve p).run s st).1.action = .pageError status → status = 404 := by
  constructor
  · intro t d url initialLoad e c f htable hmatch hfail
    rw [RouteTable.eq_of_standard htable] at hmatch
    obtain ⟨r, found, rfl, rfl, hr, -⟩ := Route.exists_of_match?_standard hmatch
    have hyields := (Plan.yields_run hs
      (r.handle d initialLoad (Location.ofAddress d url) (r.captured found)).run).1
    replace hfail : ((r.handle d initialLoad (Location.ofAddress d url) (r.captured found)).run.run
      s st).1 = .error f := hfail
    rw [hfail] at hyields
    exact (failsOnly_handle d initialLoad r f hyields).isOrdinary
      fun name hname => Route.get?_ne_none hr hname
  · intro n p status haction
    rcases resolve_yields_entry (Plan.yields_run hs (n.resolve p)).1 with
      ⟨-, hnone⟩ | ⟨e, c, result, -, hresult, hof⟩
    · exact (Action.pageError.inj (hnone.symm.trans haction)).symm
    · rw [haction] at hof
      rcases Action.ofResult_cases p.location.address result with hok | ⟨-, hself⟩ | ⟨f, rfl, herror⟩
      · -- no handler gives an error page itself
        rw [hok, ← hof] at hresult
        exact (succeedsOnly_guard (succeedsOnly_handle n.deployment (p.seq == 1) e.route) _ hresult).elim
      · exact Action.pageError.inj (hof.trans hself)
      · rw [Action.pageError.inj (hof.trans herror)]
        exact (failsOnly_guard (failsOnly_handle _ _ _) f hresult).status_eq

/-- A change number that no machine word holds is there and cannot be read. -/
theorem failures_of_standard_sample :
    Session.scripted.Obeys .failingByRest {} ∧
      ((Route.change.handle {} true (Location.ofAddress {} "/c/p/+/99999999999")
        ⟨"CHANGE", [("change", "99999999999"), ("repo", "p")]⟩).run.run .scripted {}).1 =
          .error (.invalidCapture "CHANGE" "change" "99999999999") ∧
      (Failure.invalidCapture "CHANGE" "change" "99999999999").IsOrdinary
        (Location.ofAddress {} "/c/p/+/99999999999")
        ⟨"CHANGE", [("change", "99999999999"), ("repo", "p")]⟩ .change := by
  have hs := Session.scripted_obeys_failingByRest {}
  have hmatch : overAll.table.match? (Location.ofAddress {} "/c/p/+/99999999999").matchPath =
      some (Route.change.entry, ⟨"CHANGE", [("change", "99999999999"), ("repo", "p")]⟩) := by
    decide +kernel
  have hfail : ((Route.change.handle {} true (Location.ofAddress {} "/c/p/+/99999999999")
      ⟨"CHANGE", [("change", "99999999999"), ("repo", "p")]⟩).run.run Session.scripted {}).1 =
        .error (.invalidCapture "CHANGE" "change" "99999999999") :=
    rfl
  exact ⟨hs, hfail, (failures_of_standard hs).1 overAll.table {} "/c/p/+/99999999999" true
    Route.change.entry _ _ isStandard_overAll.table hmatch hfail⟩

end Navigator

end ReviewRouter
