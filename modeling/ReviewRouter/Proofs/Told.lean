import ReviewRouter.Proofs.Exchanges
import ReviewRouter.Proofs.Failures

/-!
# What the session has been told when a handler fails

The pages of a change tell the session which project the change belongs to, and go on reading their
path.  If a side of the range cannot be read then, the session has been told already.

* `Plan.told` — what the session is told in a run;
* `Handling.Tells` — the results of a plan, each with what the session has been told by then;
* `Handling.IsSilent`, `isSilent_handle` — only the pages of a change tell the session anything;
* `Failure.RefusesRange` — a side of a range that cannot be read;
* `failsTelling_of_handle` — **a handler that fails has told nothing, unless it is a range that it
  refuses**;
* `Navigator.Reaches`, `navigate_of_reaches` — a navigation that gets to a handler ends as it does;
* `Navigator.failed_navigation_told` — the same for navigations over all routes.
-/

namespace ReviewRouter

/-! ### Plans -/

/-- What an exchange tells the session. -/
def Exchange.told? : Exchange → Option (UInt32 × Text)
  | .record change project => some (change, project)
  | _ => none

namespace Plan

variable {σ α β : Type}

/-- What the session is told in a run, in order. -/
def told (s : Session σ) (p : Plan α) (st : σ) : List (UInt32 × Text) :=
  (p.exchanges s st).filterMap Exchange.told?

/-- The results of a plan, each with what the session has been told by then. -/
def Tells : Plan α → α → List (UInt32 × Text) → Prop
  | .done b, a, ts => a = b ∧ ts = []
  | .askLogin next, a, ts => ∃ r, (next r).Tells a ts
  | .askProject _ next, a, ts => ∃ r, (next r).Tells a ts
  | .record change project next, a, ts => ∃ rest, ts = (change, project) :: rest ∧ next.Tells a rest
  | .note _ next, a, ts => next.Tells a ts

/-- A run is one of these. -/
theorem tells_run (s : Session σ) (p : Plan α) (st : σ) : p.Tells (p.run s st).1 (p.told s st) := by
  induction p generalizing st with
  | done a => exact ⟨rfl, rfl⟩
  | askLogin next ih => exact ⟨_, ih _ _⟩
  | askProject change next ih => exact ⟨_, ih _ _⟩
  | record change project next ih => exact ⟨_, rfl, ih _⟩
  | note e next ih => exact ih _

theorem tells_bind (p : Plan α) (f : α → Plan β) (b : β) (ts : List (UInt32 × Text)) :
    (p.bind f).Tells b ts ↔ ∃ a before after, p.Tells a before ∧ (f a).Tells b after ∧
      ts = before ++ after := by
  induction p generalizing ts with
  | done a =>
    constructor
    · intro h
      exact ⟨a, [], ts, ⟨rfl, rfl⟩, h, rfl⟩
    · rintro ⟨_, _, after, ⟨rfl, rfl⟩, h, rfl⟩
      exact h
  | askLogin next ih | askProject change next ih =>
    simp only [bind, Tells, ih]
    constructor
    · rintro ⟨r, a, before, after, ha, hb⟩
      exact ⟨a, before, after, ⟨r, ha⟩, hb⟩
    · rintro ⟨a, before, after, ⟨r, ha⟩, hb⟩
      exact ⟨r, a, before, after, ha, hb⟩
  | record change project next ih =>
    simp only [bind, Tells, ih]
    constructor
    · rintro ⟨_, rfl, a, before, after, ha, hb, rfl⟩
      exact ⟨a, (change, project) :: before, after, ⟨before, rfl, ha⟩, hb, rfl⟩
    · rintro ⟨a, _, after, ⟨before, rfl, ha⟩, hb, rfl⟩
      exact ⟨before ++ after, rfl, a, before, after, ha, hb, rfl⟩
  | note e next ih => exact ih ts

/-- Without what is told these are the results under any answers. -/
theorem yields_of_tells {p : Plan α} {a : α} {ts : List (UInt32 × Text)} (h : p.Tells a ts) :
    p.Yields .any a := by
  induction p generalizing ts with
  | done b => exact h.1
  | askLogin next ih =>
    obtain ⟨r, h⟩ := h
    exact ⟨r, trivial, ih r h⟩
  | askProject change next ih =>
    obtain ⟨r, h⟩ := h
    exact ⟨r, trivial, ih r h⟩
  | record change project next ih =>
    obtain ⟨rest, -, h⟩ := h
    exact ih h
  | note e next ih => exact ih h

/-- A run goes on from the result of its first part. -/
theorem run_bind (s : Session σ) (p : Plan α) (f : α → Plan β) (st : σ) :
    (p.bind f).run s st = (f (p.run s st).1).run s (p.run s st).2 := by
  induction p generalizing st with
  | done a => rfl
  | askLogin next ih => exact ih _ _
  | askProject change next ih => exact ih _ _
  | record change project next ih => exact ih _
  | note e next ih => exact ih _

theorem told_bind (s : Session σ) (p : Plan α) (f : α → Plan β) (st : σ) :
    (p.bind f).told s st = p.told s st ++ (f (p.run s st).1).told s (p.run s st).2 := by
  induction p generalizing st with
  | done a => rfl
  | askLogin next ih => exact ih _ _
  | askProject change next ih => exact ih _ _
  | record change project next ih => exact congrArg ((change, project) :: ·) (ih _)
  | note e next ih => exact ih _

end Plan

/-! ### Plans that may fail -/

namespace Handling

variable {α β : Type} {h : Handling α} {r : Except Failure α} {ts : List (UInt32 × Text)}

/-- The results of a plan that may fail, each with what the session has been told by then. -/
def Tells (h : Handling α) (r : Except Failure α) (ts : List (UInt32 × Text)) : Prop :=
  Plan.Tells h.run r ts

theorem gives_of_tells (htells : h.Tells r ts) : h.Gives .any r :=
  Plan.yields_of_tells htells

theorem tells_bind (h : Handling α) (f : α → Handling β) (r : Except Failure β)
    (ts : List (UInt32 × Text)) :
    (h >>= f).Tells r ts ↔
      (∃ a before after, h.Tells (.ok a) before ∧ (f a).Tells r after ∧ ts = before ++ after) ∨
        ∃ e, h.Tells (.error e) ts ∧ r = .error e := by
  show (Plan.bind h.run _).Tells r ts ↔ _
  rw [Plan.tells_bind]
  constructor
  · rintro ⟨a | e, before, after, ha, hr, rfl⟩
    · obtain ⟨rfl, rfl⟩ := hr
      rw [List.append_nil]
      exact Or.inr ⟨a, ha, rfl⟩
    · exact Or.inl ⟨e, before, after, ha, hr, rfl⟩
  · rintro (⟨a, before, after, ha, hr, rfl⟩ | ⟨e, he, rfl⟩)
    · exact ⟨.ok a, before, after, ha, hr, rfl⟩
    · exact ⟨.error e, ts, [], he, ⟨rfl, rfl⟩, (List.append_nil ts).symm⟩

/-- The session is told nothing. -/
def IsSilent (h : Handling α) : Prop :=
  ∀ r ts, h.Tells r ts → ts = []

theorem isSilent_pure (a : α) : IsSilent (pure a) :=
  fun _ _ h => h.2

theorem isSilent_throw (f : Failure) : IsSilent (throw f : Handling α) :=
  fun _ _ h => h.2

theorem isSilent_lift (x : Except Failure α) : IsSilent (liftM x : Handling α) :=
  fun _ _ h => h.2

theorem isSilent_note (e : Event) : IsSilent (note e) :=
  fun _ _ h => h.2

theorem isSilent_loggedIn : IsSilent loggedIn :=
  fun _ _ ⟨_, h⟩ => h.2

theorem isSilent_projectOf (change : UInt32) : IsSilent (projectOf change) :=
  fun _ _ ⟨_, h⟩ => h.2

theorem IsSilent.bind {f : α → Handling β} (hh : h.IsSilent) (hf : ∀ a, (f a).IsSilent) :
    (h >>= f).IsSilent := by
  intro r ts htells
  rcases (tells_bind h f r ts).1 htells with ⟨a, before, after, ha, hr, rfl⟩ | ⟨e, he, -⟩
  · rw [hh _ _ ha, hf a _ _ hr]
    rfl
  · exact hh _ _ he

end Handling

/-! ### Silent handlers -/

/-- The pages of a change, whose handlers begin by telling the session about it. -/
def Route.changePages : List Route :=
  [.diffEdit, .changeEdit, .comment, .commentsTab, .diff, .change]

section Handlers

open Handling

variable {l : Location} {c : Captures} {r : Route}

theorem isSilent_root : (handleRoot l).IsSilent := by
  unfold handleRoot
  split
  · exact isSilent_pure _
  · split
    · exact isSilent_pure _
    · refine isSilent_loggedIn.bind fun login => ?_
      split <;> exact isSilent_pure _

theorem isSilent_userDashboard : (handleUserDashboard l c).IsSilent := by
  refine (isSilent_lift _).bind fun user => ?_
  split
  · exact isSilent_pure _
  · refine isSilent_loggedIn.bind fun login => ?_
    split
    · exact isSilent_pure _
    · split <;> exact isSilent_pure _

theorem isSilent_legacyChange : (handleLegacyChange l c).IsSilent := by
  refine (isSilent_lift _).bind fun change => (isSilent_projectOf change).bind fun project? => ?_
  cases project? with
  | none => exact isSilent_throw _
  | some project =>
    exact (isSilent_note _).bind fun _ => (isSilent_lift _).bind fun _ => isSilent_pure _

theorem isSilent_repoDashboard : (repoDashboard c).IsSilent :=
  (isSilent_lift _).bind fun _ => (isSilent_lift _).bind fun _ => isSilent_pure _

/-- **Only the pages of a change tell the session anything.** -/
theorem isSilent_handle (d : Deployment) (initialLoad : Bool) (hr : r ∉ Route.changePages) :
    (r.handle d initialLoad l c).IsSilent := by
  delta Route.handle
  cases r <;> dsimp only
  case diffEdit | changeEdit | comment | commentsTab | diff | change => exact absurd (by decide) hr
  case root => exact isSilent_root
  case dashboard => exact isSilent_userDashboard
  case changeLegacy => exact isSilent_legacyChange
  case projectDashboard | legacyProjectDashboard =>
    exact isSilent_repoDashboard.bind fun _ => isSilent_pure _
  case customDashboard | documentation =>
    split <;> exact isSilent_pure _
  case fallback =>
    split
    · exact isSilent_pure _
    · exact isSilent_throw _
  case repoCommands | repoGeneral | repoAccess | repoDashboards | branchListOffset
      | branchListFilterOffset | branchListFilter | tagListOffset | tagListFilterOffset
      | tagListFilter | query | pluginScreen =>
    exact (isSilent_lift _).bind fun _ => (isSilent_lift _).bind fun _ => isSilent_pure _
  case groupInfo | groupAuditLog | groupMembers | group | groupListOffset | groupListFilterOffset
      | groupListFilter | repoListOffset | repoListFilterOffset | repoListFilter | pluginListOffset
      | pluginListFilterOffset | pluginListFilter | topic | changeIdQuery | changeNumberLegacy
      | settingsLegacy | documentationSearchFilter | documentationSearch =>
    exact (isSilent_lift _).bind fun _ => isSilent_pure _
  -- the others ask nothing and read nothing
  all_goals exact isSilent_pure _

/-! ### Pages of a change -/

/-- The pages of a change that show a range. -/
def Route.rangePages : List Route :=
  [.diffEdit, .changeEdit, .diff, .change]

/-- A side of the range in the path that is no patch set. -/
def Failure.RefusesRange (r : Route) (c : Captures) (f : Failure) : Prop :=
  r ∈ Route.rangePages ∧ ∃ name value, (name = "base".toList ∨ name = "patch".toList) ∧
    c.get? name = some value ∧ PatchSet.ofText? value = none ∧ f = .invalidCapture c.route name value

/-- The first step tells the session what has been read, and fails only before that. -/
theorem tells_changeTarget {result : Except Failure (Text × UInt32)} {ts : List (UInt32 × Text)}
    (h : (changeTarget c).Tells result ts) :
    (∃ project change, c.require "repo" = .ok project ∧ c.parse Numeral.u32? "change" = .ok change ∧
        result = .ok (project, change) ∧ ts = [(change, project)]) ∨
      ∃ f, result = .error f ∧ ts = [] ∧
        (c.require "repo" = .error f ∨ c.parse Numeral.u32? "change" = .error f) := by
  rcases (tells_bind _ _ _ _).1 h with ⟨project, _, _, ⟨hproject, rfl⟩, hrest, rfl⟩ | ⟨f, ⟨hf, rfl⟩, rfl⟩
  · rcases (tells_bind _ _ _ _).1 hrest with
      ⟨change, _, _, ⟨hchange, rfl⟩, hrest, rfl⟩ | ⟨f, ⟨hf, rfl⟩, rfl⟩
    · rcases (tells_bind _ _ _ _).1 hrest with
        ⟨_, _, _, ⟨_, rfl, -, rfl⟩, ⟨hresult, rfl⟩, rfl⟩ | ⟨f, ⟨_, -, hf, -⟩, -⟩
      · exact Or.inl ⟨project, change, hproject.symm, hchange.symm, hresult, rfl⟩
      · cases hf
    · exact Or.inr ⟨f, rfl, rfl, Or.inr hf.symm⟩
  · exact Or.inr ⟨f, rfl, rfl, Or.inl hf.symm⟩

/-- Repository and number are no side of a range. -/
theorem not_refusesRange_of_target {f : Failure}
    (h : c.require "repo" = .error f ∨ c.parse Numeral.u32? "change" = .error f) :
    ¬f.RefusesRange r c := by
  rintro ⟨-, name, value, hname, -, -, rfl⟩
  have hside : name ≠ "change".toList := by
    rcases hname with rfl | rfl <;> decide
  rcases h with h | h
  · obtain ⟨-, h⟩ := Captures.of_require_error h
    cases h
  · rcases Captures.of_parse_error h with ⟨-, h⟩ | ⟨_, -, -, h⟩
    · cases h
    · exact hside (Failure.invalidCapture.inj h).2.1

/-- What a handler that failed has told the session. -/
def Route.FailsTelling (r : Route) (c : Captures) (f : Failure) (ts : List (UInt32 × Text)) : Prop :=
  (¬f.RefusesRange r c ∧ ts = []) ∨
    (f.RefusesRange r c ∧ ∃ project change, c.require "repo" = .ok project ∧
      c.parse Numeral.u32? "change" = .ok change ∧ ts = [(change, project)])

/-- A page of a change fails before the session is told, or it refuses the range. -/
theorem failsTelling_of_changeTarget {f : Failure} {ts : List (UInt32 × Text)}
    {page : Text × UInt32 → Handling Action} (hsilent : ∀ target, (page target).IsSilent)
    (hfails : ∀ target, (page target).FailsOnly .any (Failure.RefusesRange r c))
    (h : (changeTarget c >>= page).Tells (.error f) ts) : r.FailsTelling c f ts := by
  rcases (tells_bind _ _ _ _).1 h with ⟨target, _, _, htarget, hpage, rfl⟩ | ⟨f', htarget, hf⟩
  · rw [hsilent target _ _ hpage, List.append_nil]
    rcases tells_changeTarget htarget with ⟨project, change, hproject, hchange, -, rfl⟩ | ⟨f', hok, -⟩
    · exact Or.inr ⟨hfails target f (gives_of_tells hpage), project, change, hproject, hchange, rfl⟩
    · cases hok
  · obtain rfl := Except.error.inj hf
    rcases tells_changeTarget htarget with ⟨_, _, -, -, herror, -⟩ | ⟨f', herror, rfl, hcause⟩
    · cases herror
    · obtain rfl := Except.error.inj herror
      exact Or.inl ⟨not_refusesRange_of_target hcause, rfl⟩

theorem failsOnly_range? {name : Text} (hr : r ∈ Route.rangePages)
    (hname : name = "base".toList ∨ name = "patch".toList) :
    FailsOnly .any (Failure.RefusesRange r c)
      (liftM (c.parse? PatchSet.ofText? name) : Handling (Option PatchSet)) := by
  refine failsOnly_lift fun f hf => ?_
  obtain ⟨t, ht, hnone, rfl⟩ := Captures.of_parse?_error hf
  exact ⟨hr, name, t, hname, ht, hnone, rfl⟩

/-- A capture that is not missing is there. -/
theorem failsOnly_there {name : Text} {P : Failure → Prop} (hname : c.get? name ≠ none) :
    FailsOnly .any P (liftM (c.require name) : Handling Text) :=
  failsOnly_lift fun _ hf => absurd (Captures.of_require_error hf).1 hname

/-- The editor insists on its patch set. -/
theorem failsOnly_patch (hpatch : c.get? "patch" ≠ none) :
    FailsOnly .any (Failure.RefusesRange .diffEdit c)
      (liftM (c.parse PatchSet.ofText? "patch") : Handling PatchSet) := by
  refine failsOnly_lift fun f hf => ?_
  rcases Captures.of_parse_error hf with ⟨hnone, -⟩ | ⟨t, ht, hnone, rfl⟩
  · exact absurd hnone hpatch
  · exact ⟨by decide, "patch".toList, t, Or.inr rfl, ht, hnone, rfl⟩

variable {f : Failure} {ts : List (UInt32 × Text)}

/-- **A handler that fails has told the session nothing, unless it is a range that it refuses.**  Then it
has told the project and the number in its captures, once. -/
theorem failsTelling_of_handle {d : Deployment} {initialLoad : Bool}
    (hc : ∀ name ∈ r.required, c.get? name ≠ none)
    (h : (r.handle d initialLoad l c).Tells (.error f) ts) : r.FailsTelling c f ts := by
  by_cases hr : r ∈ Route.changePages
  · simp only [Route.changePages, List.mem_cons, List.not_mem_nil, or_false] at hr
    rcases hr with rfl | rfl | rfl | rfl | rfl | rfl
    · refine failsTelling_of_changeTarget (fun _ => ?_) (fun _ => ?_) h
      · exact (isSilent_lift _).bind fun _ => (isSilent_lift _).bind fun _ => isSilent_pure _
      · exact (failsOnly_patch (hc _ (by decide))).bind fun _ _ =>
          (failsOnly_there (hc _ (by decide))).bind fun _ _ => failsOnly_pure _
    · refine failsTelling_of_changeTarget (fun _ => ?_) (fun _ => ?_) h
      · exact (isSilent_lift _).bind fun _ => isSilent_pure _
      · exact (failsOnly_range? (by decide) (Or.inr rfl)).bind fun _ _ => failsOnly_pure _
    · refine failsTelling_of_changeTarget (fun _ => ?_) (fun _ => ?_) h
      · exact (isSilent_lift _).bind fun _ => isSilent_pure _
      · exact (failsOnly_there (hc _ (by decide))).bind fun _ _ => failsOnly_pure _
    · refine failsTelling_of_changeTarget (fun _ => ?_) (fun _ => ?_) h
      · exact isSilent_pure _
      · exact failsOnly_pure _
    · refine failsTelling_of_changeTarget (fun _ => ?_) (fun _ => ?_) h
      · exact (isSilent_lift _).bind fun _ => (isSilent_lift _).bind fun _ =>
          (isSilent_lift _).bind fun _ => isSilent_pure _
      · exact (failsOnly_range? (by decide) (Or.inl rfl)).bind fun _ _ =>
          (failsOnly_range? (by decide) (Or.inr rfl)).bind fun _ _ =>
            (failsOnly_there (hc _ (by decide))).bind fun _ _ => failsOnly_pure _
    · refine failsTelling_of_changeTarget (fun _ => ?_) (fun _ => ?_) h
      · exact (isSilent_lift _).bind fun _ => (isSilent_lift _).bind fun _ => isSilent_pure _
      · exact (failsOnly_range? (by decide) (Or.inl rfl)).bind fun _ _ =>
          (failsOnly_range? (by decide) (Or.inr rfl)).bind fun _ _ => failsOnly_pure _
  · refine Or.inl ⟨?_, isSilent_handle d initialLoad hr _ _ h⟩
    rintro ⟨hrange, -⟩
    have hsub : ∀ r ∈ Route.rangePages, r ∈ Route.changePages := by decide
    exact hr (hsub r hrange)

end Handlers

/-! ### Navigations -/

namespace Navigator

variable {σ : Type} {n : Navigator} {url : Text} {s : Session σ} {st begins : σ} {e : RouteEntry}
  {c : Captures}

/-- The session when a navigation has found its route. -/
def matchedState (n : Navigator) (url : Text) (e : RouteEntry) (s : Session σ) (st : σ) : σ :=
  s.note (.routeMatched (n.issued + 1) e.route.name (Location.ofAddress n.deployment url).path) st

/-- A navigation gets to the handler of an entry, with these captures and the session in the given state:
the route is for everybody, or the session says that the user is signed in. -/
inductive Reaches (n : Navigator) (url : Text) (s : Session σ) (st : σ) (e : RouteEntry) (c : Captures) :
    σ → Prop where
  | everybody (matched : n.table.match? (Location.ofAddress n.deployment url).matchPath = some (e, c))
      (unprotected : e.requiresAuth = false) : Reaches n url s st e c (n.matchedState url e s st)
  | signedIn (matched : n.table.match? (Location.ofAddress n.deployment url).matchPath = some (e, c))
      (protects : e.requiresAuth = true)
      (answer : (s.loggedIn (n.matchedState url e s st)).1 = .ok true) :
      Reaches n url s st e c (s.loggedIn (n.matchedState url e s st)).2

/-- The handler of an entry on the way to the given address. -/
def handlerOf (n : Navigator) (url : Text) (e : RouteEntry) (c : Captures) : Handling Action :=
  e.route.handle n.deployment (n.issued == 0) (Location.ofAddress n.deployment url) c

/-- Concluding says nothing to the session. -/
theorem run_conclude (seq : Nat) (r : Route) (l : Location) (result : Except Failure Action)
    (s : Session σ) (st : σ) :
    ((conclude seq r l result).run s st).1 = .ofResult l.address result ∧
      (conclude seq r l result).told s st = [] := by
  rcases conclude_eq seq r l result with hdone | ⟨e, hnote⟩
  · rw [hdone]
    exact ⟨rfl, rfl⟩
  · rw [hnote]
    exact ⟨rfl, rfl⟩

/-- The gate lets signed-in users through to the handler. -/
theorem run_guard {l : Location} {handler : Handling Action} (hlogin : (s.loggedIn st).1 = .ok true) :
    (guard true l handler).run.run s st = handler.run.run s (s.loggedIn st).2 ∧
      (guard true l handler).run.told s st = handler.run.told s (s.loggedIn st).2 := by
  have hguard : (guard true l handler).run = .askLogin fun answer => ExceptT.bindCont (fun login =>
      if login then handler else do
        Handling.note (.loginNeeded l.address)
        return .redirect (loginAddress l)) answer := rfl
  rw [hguard]
  simp only [Plan.run, Plan.told, Plan.exchanges, hlogin]
  exact ⟨rfl, rfl⟩

/-- Such a navigation ends as its handler does, and the session is told by the handler alone. -/
theorem navigate_of_reaches (h : n.Reaches url s st e c begins) :
    ((n.navigate url).1.run s st).1.action =
        .ofResult (Location.ofAddress n.deployment url).address ((n.handlerOf url e c).run.run s begins).1 ∧
      (n.navigate url).1.told s st = (n.handlerOf url e c).run.told s begins := by
  have hseq : (n.issued + 1 == 1) = (n.issued == 0) := by
    cases n.issued <;> rfl
  have hmatch : n.table.match? (Location.ofAddress n.deployment url).matchPath = some (e, c) := by
    cases h <;> assumption
  have hplan : (n.navigate url).1 = .note (.routeMatched (n.issued + 1) e.route.name
      (Location.ofAddress n.deployment url).path)
      ((guard e.requiresAuth (Location.ofAddress n.deployment url) (n.handlerOf url e c)).run.bind
        fun result => (conclude (n.issued + 1) e.route (Location.ofAddress n.deployment url) result).bind
          fun action => .done ⟨n.issued + 1, action⟩) := by
    simp only [navigate, begin, resolve, hmatch, hseq]
    rfl
  have hguard : ((guard e.requiresAuth (Location.ofAddress n.deployment url) (n.handlerOf url e c)).run.run
        s (n.matchedState url e s st) = (n.handlerOf url e c).run.run s begins) ∧
      (guard e.requiresAuth (Location.ofAddress n.deployment url) (n.handlerOf url e c)).run.told
        s (n.matchedState url e s st) = (n.handlerOf url e c).run.told s begins := by
    cases h with
    | everybody _ hopen =>
      rw [hopen]
      exact ⟨rfl, rfl⟩
    | signedIn _ hprotects hlogin =>
      rw [hprotects]
      exact run_guard hlogin
  have hconclude := run_conclude (n.issued + 1) e.route (Location.ofAddress n.deployment url)
    ((n.handlerOf url e c).run.run s begins).1 s ((n.handlerOf url e c).run.run s begins).2
  rw [hplan]
  constructor
  · show Navigation.action (Plan.run s (Plan.bind _ _) (n.matchedState url e s st)).1 = _
    rw [Plan.run_bind, hguard.1, Plan.run_bind]
    exact hconclude.1
  · show (Plan.bind _ _).told s (n.matchedState url e s st) = _
    rw [Plan.told_bind, hguard.1, hguard.2, Plan.told_bind, hconclude.2]
    exact List.append_nil _

/-- **A failed navigation has told the session nothing, unless it is a range that the handler refuses.**
Then it has told the project and the number in the path, once.  For every address, deployment and session:
the handler that the navigation gets to fails, and the navigation ends with the error page. -/
theorem failed_navigation_told (htable : RouteTable.standard = .ok n.table)
    (hreaches : n.Reaches url s st e c begins) {f : Failure}
    (hfails : ((n.handlerOf url e c).run.run s begins).1 = .error f) :
    ((n.navigate url).1.run s st).1.action = .pageError f.status ∧
      ((¬f.RefusesRange e.route c ∧ (n.navigate url).1.told s st = []) ∨
        (f.RefusesRange e.route c ∧ ∃ project change, c.require "repo" = .ok project ∧
          c.parse Numeral.u32? "change" = .ok change ∧
          (n.navigate url).1.told s st = [(change, project)])) := by
  obtain ⟨haction, htold⟩ := navigate_of_reaches hreaches
  have hmatch : n.table.match? (Location.ofAddress n.deployment url).matchPath = some (e, c) := by
    cases hreaches <;> assumption
  rw [RouteTable.eq_of_standard htable] at hmatch
  obtain ⟨r, found, rfl, rfl, hr, -⟩ := Route.exists_of_match?_standard hmatch
  rw [haction, htold, hfails]
  refine ⟨rfl, ?_⟩
  have htells := Plan.tells_run s (n.handlerOf url r.entry (r.captured found)).run begins
  rw [hfails] at htells
  exact failsTelling_of_handle (fun name hname => Route.get?_ne_none hr hname) htells

/-- What is captured of `/c/p/+/1/99999999999`. -/
def refusedSample : Captures :=
  ⟨"CHANGE", [("base", "99999999999"), ("change", "1"), ("repo", "p")]⟩

theorem reaches_refusedSample :
    overAll.Reaches "/c/p/+/1/99999999999" Session.scripted {} Route.change.entry refusedSample
      (overAll.matchedState "/c/p/+/1/99999999999" Route.change.entry .scripted {}) :=
  .everybody (by decide +kernel) rfl

theorem fails_refusedSample :
    ((overAll.handlerOf "/c/p/+/1/99999999999" Route.change.entry refusedSample).run.run .scripted
      (overAll.matchedState "/c/p/+/1/99999999999" Route.change.entry .scripted {})).1 =
        .error (.invalidCapture "CHANGE" "base" "99999999999") :=
  rfl

/-- No machine word holds the patch set; but the session has been told about the change before that. -/
theorem refused_range_told :
    overAll.Reaches "/c/p/+/1/99999999999" Session.scripted {} Route.change.entry refusedSample
        (overAll.matchedState "/c/p/+/1/99999999999" Route.change.entry .scripted {}) ∧
      ((overAll.handlerOf "/c/p/+/1/99999999999" Route.change.entry refusedSample).run.run .scripted
        (overAll.matchedState "/c/p/+/1/99999999999" Route.change.entry .scripted {})).1 =
          .error (.invalidCapture "CHANGE" "base" "99999999999") ∧
      (overAll.navigate "/c/p/+/1/99999999999").1.told Session.scripted {} = [(1, "p".toList)] :=
  ⟨reaches_refusedSample, fails_refusedSample, by decide +kernel⟩

theorem failed_navigation_told_sample :
    RouteTable.standard = .ok overAll.table ∧
      overAll.Reaches "/c/p/+/1/99999999999" Session.scripted {} Route.change.entry refusedSample
        (overAll.matchedState "/c/p/+/1/99999999999" Route.change.entry .scripted {}) ∧
      ((overAll.handlerOf "/c/p/+/1/99999999999" Route.change.entry refusedSample).run.run .scripted
        (overAll.matchedState "/c/p/+/1/99999999999" Route.change.entry .scripted {})).1 =
          .error (.invalidCapture "CHANGE" "base" "99999999999") ∧
      ((overAll.navigate "/c/p/+/1/99999999999").1.run Session.scripted {}).1.action = .pageError 404 ∧
      ∃ project change, refusedSample.require "repo" = .ok project ∧
        refusedSample.parse Numeral.u32? "change" = .ok change ∧
        (overAll.navigate "/c/p/+/1/99999999999").1.told Session.scripted {} = [(change, project)] := by
  have htable := isStandard_overAll.table
  have hrefuses : (Failure.invalidCapture "CHANGE" "base" "99999999999").RefusesRange .change
      refusedSample :=
    ⟨by decide, "base".toList, "99999999999".toList, Or.inl rfl, rfl, by decide +kernel, rfl⟩
  obtain ⟨haction, htold⟩ :=
    failed_navigation_told htable reaches_refusedSample fails_refusedSample
  rcases htold with ⟨hother, -⟩ | ⟨-, htold⟩
  · exact absurd hrefuses hother
  · exact ⟨htable, reaches_refusedSample, fails_refusedSample, haction, htold⟩

end Navigator

end ReviewRouter
