import ReviewRouter.Proofs.Handling
import ReviewRouter.Route.Handler

/-!
# What handlers come to

The handlers that ask the session or look at more than one part of the location, each with all that it can
come to, and the kinds of outcome of all handlers.

* `exists_of_handleRoot`, `exists_of_handleUserDashboard`, `exists_of_handleLegacyChange` — one lemma for
  each handler that branches;
* `exists_of_guard` — what comes from behind the gate;
* `exists_of_changeTarget`, `settles_of_handleChange`, `settles_of_handleDiff`, … — the first step of
  every page of a change, and the last;
* `Handling.SucceedsOnly` — the successes of a plan, with one lemma for each of its steps;
* `Action.IsOutcome`, `succeedsOnly_handle` — **handlers present pages or lead on**; none gives an error page
  itself, and only the registration registers.
-/

namespace ReviewRouter

/-! ### Handlers that branch -/

section Branches

variable {A : Answers} {l : Location} {c : Captures} {action : Action}

theorem exists_of_handleRoot (h : (handleRoot l).Gives A (.ok action)) :
    action = .closeWindow ∨ (l.hash ≠ [] ∧ action = .redirect (anchorAddress l)) ∨
      action = .redirect homeSignedIn ∨ action = .redirect homeSignedOut := by
  unfold handleRoot at h
  split at h
  · exact Or.inl (Except.ok.inj h)
  · split at h
    · next hhash => exact Or.inr (Or.inl ⟨hhash, Except.ok.inj h⟩)
    · obtain ⟨login, -, h⟩ := (Handling.gives_bind_ok _ _ _).1 h
      cases login with
      | true => exact Or.inr (Or.inr (Or.inl (Except.ok.inj h)))
      | false => exact Or.inr (Or.inr (Or.inr (Except.ok.inj h)))

/-- A dashboard without sections is only for users who are signed in. -/
theorem exists_of_handleUserDashboard (h : (handleUserDashboard l c).Gives A (.ok action)) :
    ∃ user, c.require "user" = .ok user ∧
      ((∃ v, DashboardView.ofQuery? l.query (some user) = some v ∧ action = .present (.dashboard v)) ∨
        (A.login (.ok true) ∧ action = .present (.dashboard { user := some user })) ∨
          action = .redirect (loginAddress l) ∨
            action = .redirect ("/q/owner:" ++ Percent.escape user)) := by
  obtain ⟨user, huser, h⟩ := (Handling.gives_bind_ok _ _ _).1 h
  refine ⟨user, ((Handling.gives_lift _ _).1 huser).symm, ?_⟩
  split at h
  · next v hquery => exact Or.inl ⟨v, hquery, Except.ok.inj h⟩
  · obtain ⟨login, hlogin, h⟩ := (Handling.gives_bind_ok _ _ _).1 h
    cases login with
    | true => exact Or.inr (Or.inl ⟨(Handling.gives_loggedIn _).1 hlogin, Except.ok.inj h⟩)
    | false =>
      rw [if_neg Bool.false_ne_true] at h
      split at h
      · exact Or.inr (Or.inr (Or.inl (Except.ok.inj h)))
      · exact Or.inr (Or.inr (Or.inr (Except.ok.inj h)))

/-- A link without its project leads to the one with it, if the project is known. -/
theorem exists_of_handleLegacyChange (h : (handleLegacyChange l c).Gives A (.ok action)) :
    ∃ change project written, c.parse Numeral.u32? "change" = .ok change ∧
      A.project change (.ok (some project)) ∧ c.require "change" = .ok written ∧
      action = .redirect (legacyChangeAddress l written project change) := by
  obtain ⟨change, hchange, h⟩ := (Handling.gives_bind_ok _ _ _).1 h
  obtain ⟨project?, hproject, h⟩ := (Handling.gives_bind_ok _ _ _).1 h
  cases project? with
  | none => cases h
  | some project =>
    simp only [Handling.gives_bind_ok, Handling.gives_lift, Handling.gives_pure] at h
    obtain ⟨-, -, written, hwritten, h⟩ := h
    exact ⟨change, project, written, hchange.symm, (Handling.gives_projectOf change _).1 hproject,
      hwritten.symm, Except.ok.inj h⟩

/-- The gate sends visitors to the sign-in page, and lets users who are signed in through to the
handler. -/
theorem exists_of_guard {protect : Bool} {handler : Handling Action}
    (h : (guard protect l handler).Gives A (.ok action)) :
    (protect = true ∧ A.login (.ok false) ∧ action = .redirect (loginAddress l)) ∨
      ((protect = true → A.login (.ok true)) ∧ handler.Gives A (.ok action)) := by
  cases protect with
  | false => exact Or.inr ⟨nofun, h⟩
  | true =>
    obtain ⟨login, hlogin, h⟩ := (Handling.gives_bind_ok _ _ _).1 h
    cases login with
    | true => exact Or.inr ⟨fun _ => (Handling.gives_loggedIn _).1 hlogin, h⟩
    | false =>
      obtain ⟨-, -, h⟩ := (Handling.gives_bind_ok _ _ _).1 h
      exact Or.inl ⟨rfl, (Handling.gives_loggedIn _).1 hlogin, Except.ok.inj h⟩

/-! ### Pages of a change -/

/-- The first step of every page of a change. -/
theorem exists_of_changeTarget {f : Text × UInt32 → Handling Action}
    (h : (changeTarget c >>= f).Gives A (.ok action)) :
    ∃ project change, c.require "repo" = .ok project ∧ c.parse Numeral.u32? "change" = .ok change ∧
      (f (project, change)).Gives A (.ok action) := by
  obtain ⟨target, htarget, h⟩ := (Handling.gives_bind_ok _ _ _).1 h
  simp only [changeTarget, Handling.gives_bind_ok, Handling.gives_lift, Handling.gives_record,
    Handling.gives_pure] at htarget
  obtain ⟨project, hproject, change, hchange, -, -, htarget⟩ := htarget
  obtain rfl := Except.ok.inj htarget
  exact ⟨project, change, hproject.symm, hchange.symm, h⟩

/-- The last step of every page of a change settles the view that was read. -/
theorem settles_of_handleChange (h : (handleChange l c).Gives A (.ok action)) :
    ∃ project change base patch, c.require "repo" = .ok project ∧
      c.parse Numeral.u32? "change" = .ok change ∧ c.parse? PatchSet.ofText? "base" = .ok base ∧
      c.parse? PatchSet.ofText? "patch" = .ok patch ∧
      action = (View.change
        { project := some project, change, range := ⟨base, patch⟩
          tab := l.queryValue? "tab", filter := l.queryValue? "filter"
          select := l.queryValue? "select"
          attempt := (l.queryValue? "attempt").bind Numeral.u32? }).settle := by
  obtain ⟨project, change, hproject, hchange, h⟩ := exists_of_changeTarget h
  simp only [Handling.gives_bind_ok, Handling.gives_lift, Handling.gives_pure] at h
  obtain ⟨base, hbase, patch, hpatch, h⟩ := h
  exact ⟨project, change, base, patch, hproject, hchange, hbase.symm, hpatch.symm, Except.ok.inj h⟩

theorem settles_of_handleChangeEdit (h : (handleChangeEdit l c).Gives A (.ok action)) :
    ∃ project change patch, c.require "repo" = .ok project ∧
      c.parse Numeral.u32? "change" = .ok change ∧ c.parse? PatchSet.ofText? "patch" = .ok patch ∧
      action = (View.change
        { project := some project, change, range := ⟨none, patch⟩, edit := true
          tab := l.queryValue? "tab" }).settle := by
  obtain ⟨project, change, hproject, hchange, h⟩ := exists_of_changeTarget h
  simp only [Handling.gives_bind_ok, Handling.gives_lift, Handling.gives_pure] at h
  obtain ⟨patch, hpatch, h⟩ := h
  exact ⟨project, change, patch, hproject, hchange, hpatch.symm, Except.ok.inj h⟩

theorem settles_of_handleCommentsTab (h : (handleCommentsTab c).Gives A (.ok action)) :
    ∃ project change, c.require "repo" = .ok project ∧ c.parse Numeral.u32? "change" = .ok change ∧
      action = (View.change
        { project := some project, change, comment := c.get? "comment" }).settle := by
  obtain ⟨project, change, hproject, hchange, h⟩ := exists_of_changeTarget h
  exact ⟨project, change, hproject, hchange, Except.ok.inj h⟩

theorem settles_of_handleComment (h : (handleComment c).Gives A (.ok action)) :
    ∃ project change comment, c.require "repo" = .ok project ∧
      c.parse Numeral.u32? "change" = .ok change ∧ c.require "comment" = .ok comment ∧
      action = (View.diff { project := some project, change, comment := some comment }).settle := by
  obtain ⟨project, change, hproject, hchange, h⟩ := exists_of_changeTarget h
  simp only [Handling.gives_bind_ok, Handling.gives_lift, Handling.gives_pure] at h
  obtain ⟨comment, hcomment, h⟩ := h
  exact ⟨project, change, comment, hproject, hchange, hcomment.symm, Except.ok.inj h⟩

theorem settles_of_handleDiff (h : (handleDiff l c).Gives A (.ok action)) :
    ∃ project change base patch path, c.require "repo" = .ok project ∧
      c.parse Numeral.u32? "change" = .ok change ∧ c.parse? PatchSet.ofText? "base" = .ok base ∧
      c.parse? PatchSet.ofText? "patch" = .ok patch ∧ c.require "path" = .ok path ∧
      action = (View.diff
        { project := some project, change, range := ⟨base, patch⟩, path := some path
          line := (LineAddress.ofText? l.hash).map LineAddress.line
          leftSide := (LineAddress.ofText? l.hash).any LineAddress.leftSide }).settle := by
  obtain ⟨project, change, hproject, hchange, h⟩ := exists_of_changeTarget h
  simp only [Handling.gives_bind_ok, Handling.gives_lift, Handling.gives_pure] at h
  obtain ⟨base, hbase, patch, hpatch, path, hpath, h⟩ := h
  exact ⟨project, change, base, patch, path, hproject, hchange, hbase.symm, hpatch.symm, hpath.symm,
    Except.ok.inj h⟩

theorem settles_of_handleDiffEdit (h : (handleDiffEdit l c).Gives A (.ok action)) :
    ∃ project change patch path, c.require "repo" = .ok project ∧
      c.parse Numeral.u32? "change" = .ok change ∧ c.parse PatchSet.ofText? "patch" = .ok patch ∧
      c.require "path" = .ok path ∧
      action = (View.edit
        { project := some project, change, range := ⟨none, some patch⟩, path
          line := Numeral.u32? l.hash }).settle := by
  obtain ⟨project, change, hproject, hchange, h⟩ := exists_of_changeTarget h
  simp only [Handling.gives_bind_ok, Handling.gives_lift, Handling.gives_pure] at h
  obtain ⟨patch, hpatch, path, hpath, h⟩ := h
  exact ⟨project, change, patch, path, hproject, hchange, hpatch.symm, hpath.symm, Except.ok.inj h⟩

end Branches

/-! ### Kinds of outcome -/

namespace Handling

variable {α β : Type} {A : Answers} {Q : α → Prop}

/-- Every success of the plan has the property. -/
def SucceedsOnly (A : Answers) (Q : α → Prop) (h : Handling α) : Prop :=
  ∀ a, h.Gives A (.ok a) → Q a

theorem succeedsOnly_pure {a : α} (ha : Q a) : SucceedsOnly A Q (pure a) := by
  intro b h
  obtain rfl := Except.ok.inj ((gives_pure a _).1 h)
  exact ha

theorem succeedsOnly_throw (f : Failure) : SucceedsOnly A Q (throw f) :=
  fun _ h => nomatch (gives_throw f _).1 h

/-- A plan succeeds as it goes on from a result of its first step. -/
theorem succeedsOnly_bind {h : Handling β} {f : β → Handling α}
    (hf : ∀ b, (f b).SucceedsOnly A Q) : (h >>= f).SucceedsOnly A Q := by
  intro a ha
  obtain ⟨b, -, ha⟩ := (gives_bind_ok h f a).1 ha
  exact hf b a ha

end Handling

/-- What a handler may come to: it presents a page, leads on, leaves the address to the server or closes
the window.  Only the registration registers, and none gives an error page. -/
def Action.IsOutcome (r : Route) (c : Captures) : Action → Prop
  | .registered address => r = .register ∧ address = afterRegistration c
  | .pageError _ => False
  | .present _ | .redirect _ | .passThrough | .closeWindow => True

section Outcomes

open Handling

variable {A : Answers} {l : Location} {c : Captures} {r : Route}

/-- A page of a change is presented or moves. -/
theorem View.isOutcome_settle (v : View) : v.settle.IsOutcome r c := by
  unfold settle
  split
  · exact trivial
  · dsimp only
    split
    · exact trivial
    · exact trivial

/-- **Handlers present pages or lead on.** -/
theorem succeedsOnly_handle (d : Deployment) (initialLoad : Bool) (r : Route) :
    SucceedsOnly A (Action.IsOutcome r c) (r.handle d initialLoad l c) := by
  delta Route.handle
  cases r <;> dsimp only
  case root =>
    intro action h
    rcases exists_of_handleRoot h with rfl | ⟨-, rfl⟩ | rfl | rfl <;> exact trivial
  case dashboard =>
    intro action h
    obtain ⟨user, -, ⟨v, -, rfl⟩ | ⟨-, rfl⟩ | rfl | rfl⟩ := exists_of_handleUserDashboard h <;>
      exact trivial
  case changeLegacy =>
    intro action h
    obtain ⟨change, project, written, -, -, -, rfl⟩ := exists_of_handleLegacyChange h
    exact trivial
  case customDashboard | documentation =>
    split <;> exact succeedsOnly_pure trivial
  case fallback =>
    split
    · exact succeedsOnly_pure trivial
    · exact succeedsOnly_throw _
  case register => exact succeedsOnly_pure ⟨rfl, rfl⟩
  case change =>
    intro action h
    obtain ⟨project, change, base, patch, -, -, -, -, rfl⟩ := settles_of_handleChange h
    exact View.isOutcome_settle _
  case changeEdit =>
    intro action h
    obtain ⟨project, change, patch, -, -, -, rfl⟩ := settles_of_handleChangeEdit h
    exact View.isOutcome_settle _
  case commentsTab =>
    intro action h
    obtain ⟨project, change, -, -, rfl⟩ := settles_of_handleCommentsTab h
    exact View.isOutcome_settle _
  case comment =>
    intro action h
    obtain ⟨project, change, comment, -, -, -, rfl⟩ := settles_of_handleComment h
    exact View.isOutcome_settle _
  case diff =>
    intro action h
    obtain ⟨project, change, base, patch, path, -, -, -, -, -, rfl⟩ := settles_of_handleDiff h
    exact View.isOutcome_settle _
  case diffEdit =>
    intro action h
    obtain ⟨project, change, patch, path, -, -, -, -, rfl⟩ := settles_of_handleDiffEdit h
    exact View.isOutcome_settle _
  case repoCommands | repoGeneral | repoAccess | repoDashboards | branchListOffset
      | branchListFilterOffset | branchListFilter | tagListOffset | tagListFilterOffset
      | tagListFilter | query | pluginScreen =>
    exact succeedsOnly_bind fun _ => succeedsOnly_bind fun _ => succeedsOnly_pure trivial
  case projectDashboard | legacyProjectDashboard | groupInfo | groupAuditLog | groupMembers | group
      | groupListOffset | groupListFilterOffset | groupListFilter | repoListOffset
      | repoListFilterOffset | repoListFilter | pluginListOffset | pluginListFilterOffset
      | pluginListFilter | topic | changeIdQuery | changeNumberLegacy | settingsLegacy
      | documentationSearchFilter | documentationSearch =>
    exact succeedsOnly_bind fun _ => succeedsOnly_pure trivial
  -- the others lead to one address, present one page, or leave it to the server
  all_goals exact succeedsOnly_pure trivial

/-- The gate only leads to the sign-in page. -/
theorem succeedsOnly_guard {protect : Bool} {handler : Handling Action}
    (h : SucceedsOnly A (Action.IsOutcome r c) handler) :
    SucceedsOnly A (Action.IsOutcome r c) (guard protect l handler) := by
  intro action haction
  rcases exists_of_guard haction with ⟨-, -, rfl⟩ | ⟨-, haction⟩
  · exact trivial
  · exact h action haction

end Outcomes

end ReviewRouter
