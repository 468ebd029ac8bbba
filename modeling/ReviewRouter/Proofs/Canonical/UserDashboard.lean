import ReviewRouter.Proofs.Deployed
import ReviewRouter.Proofs.PlainNames
import ReviewRouter.Proofs.Presented
import ReviewRouter.Proofs.RoundTrip.Dashboard

/-!
# The dashboard of a user

The address of the dashboard of a user holds the name as it is.  The route of the dashboard captures it behind
one layer of escapes, and the handler is given it behind another, with spaces for plus signs.

* `userDashboard`, `matchPath_userDashboard` — the page, and the path of its address;
* `exists_of_match?_dashboard` — what the route captures;
* `action_navigate_userDashboard` — **without a query or an anchor the name is read back**;
* `eq_readBack_of_presented` — whatever page of a user is presented, it is that of the name read back;
* `Navigator.userDashboard_address_iff` — **the address leads back exactly if the name is plain and in one
  line**.
-/

namespace ReviewRouter

open Pattern
open Percent (unescape unescapeValue)

variable {u : Text}

/-- The dashboard of a user, without sections of its own. -/
def userDashboard (u : Text) : View :=
  .dashboard { user := some u }

theorem userDashboard_injective {u w : Text} (h : userDashboard u = userDashboard w) : u = w :=
  Option.some_inj.1 (congrArg DashboardView.user (View.dashboard.inj h))

/-! ### The address and its path -/

theorem matchPath_userDashboard (u : Text) :
    (Location.parse (userDashboard u).address).matchPath = "/dashboard/" ++ unescape (front u) :=
  Location.matchPath_parse_append (by decide) u

/-- Without a `?` in the name the address has no query. -/
theorem query_userDashboard (hquestion : '?' ∉ u) (hhash : '#' ∉ u) :
    (Location.parse (userDashboard u).address).query = [] := by
  have habsent : ∀ c, c ∉ u → c ∉ ("/dashboard/" : Text) → c ∉ "/dashboard/".toList ++ u := by
    intro c hc hopening
    rw [List.mem_append, not_or]
    exact ⟨hopening, hc⟩
  have hparse := Location.parse_eq [] [] (fun h => by cases h) (habsent '#' hhash (by decide))
    (habsent '?' hquestion (by decide)) List.not_mem_nil
  simp only [if_true, List.append_nil] at hparse
  exact congrArg Location.query hparse

/-- The route of a dashboard captures all of one line. -/
theorem exists_of_match?_dashboard {t : Text} {found : List (Text × Text)}
    (h : Route.dashboard.match? ("/dashboard/" ++ t) = some found) :
    '\n' ∉ t ∧ (Route.dashboard.captured found).get? "user" = some (unescapeValue t) := by
  obtain ⟨w, r, hpath, hreads⟩ := exists_reads_of_matchAt? h
  obtain ⟨x, rfl, hx⟩ := reads_lit.1 hreads
  obtain ⟨seen, y, cv, rfl, rfl, -, hrun, hy⟩ := reads_capture_plus.1 hx
  obtain ⟨rfl, rfl, rfl⟩ := reads_stop.1 hy
  obtain rfl : t = seen := by
    rw [List.append_nil, List.append_nil] at hpath
    exact List.append_cancel_left hpath
  refine ⟨isRun_dot_iff.1 hrun, ?_⟩
  rw [Route.get?_captured]
  rfl

/-! ### There and back -/

/-- A user who is signed in is shown the dashboard of any other. -/
theorem gives_userDashboard {l : Location} {c : Captures} (huser : c.get? "user" = some u)
    (hquery : l.query = []) {result : Except Failure Action}
    (h : (handleUserDashboard l c).Gives .signedIn result) : result = .ok (.present (userDashboard u)) := by
  have hplain : DashboardView.ofQuery? l.query (some u) = none := by
    rw [hquery]
    rfl
  unfold handleUserDashboard at h
  rw [Captures.require_eq huser, Handling.lift_ok_bind, hplain] at h
  rcases (Handling.gives_bind _ _ _).1 h with ⟨login, hlogin, h⟩ | ⟨e, he, -⟩
  · obtain rfl : login = true := Except.ok.inj ((Handling.gives_loggedIn _).1 hlogin)
    exact h
  · cases (Handling.gives_loggedIn _).1 he

section Navigation

variable {σ : Type} {n : Navigator} {s : Session σ} {st : σ}

/-- **An address without a query or an anchor presents the dashboard of the name read back**, if its path is in
one line. -/
theorem action_navigate_userDashboard (hn : n.IsStandard) (hs : s.Obeys .signedIn st) (hne : u ≠ [])
    (hquestion : '?' ∉ u) (hhash : '#' ∉ u) (hline : '\n' ∉ unescape u) :
    ((n.navigate (userDashboard u).address).1.run s st).1.action = .present (userDashboard (readBack u)) := by
  have htakes := DashboardView.takes_dashboard (Percent.unescape_ne_nil hne) hline
  have hpath := matchPath_userDashboard u
  rw [front_eq_self hquestion hhash] at hpath
  rw [show "/dashboard/".toList ++ unescape u = _ from hpath.symm] at htakes
  refine n.run_navigate hn hs htakes ?_
  intro initialLoad result hgives
  have huser : (Route.dashboard.captured [("user", unescape u)]).get? "user" = some (readBack u) := by
    rw [Route.get?_captured, readBack, front_eq_self hquestion hhash]
    rfl
  rw [gives_userDashboard huser (query_userDashboard hquestion hhash) (Handling.gives_guard_open.1 hgives)]
  rfl

/-- Below this path there are the dashboards of users, those made of sections, and no other page. -/
theorem mayOpen_dashboard : Route.all.filter (Route.mayOpen "/dashboard/") =
    [.dashboard, .customDashboard, .fallback] := by
  decide

/-- **Whatever page of a user is presented, it is that of the name read back**, and the path is in one
line. -/
theorem eq_readBack_of_presented (hn : n.IsStandard) {w : Text}
    (h : ((n.navigate (userDashboard u).address).1.run s st).1.action = .present (userDashboard w)) :
    w = readBack u ∧ '\n' ∉ unescape (front u) := by
  have hsections : ∀ {query : Text} {user : Option Text} {d : DashboardView},
      DashboardView.ofQuery? query user = some d → Action.present (userDashboard w) ≠ .present (.dashboard d) := by
    intro query user d hquery hshown
    have hview := View.dashboard.inj (Action.present.inj hshown)
    exact DashboardView.sections_of_ofQuery? hquery (congrArg DashboardView.sections hview).symm
  obtain ⟨r, found, htakes, hgives⟩ := Navigator.exists_handle hn h
  rw [matchPath_userDashboard] at htakes
  have hmatched := htakes.matched
  have hroute := htakes.mem_filter_mayOpen (List.prefix_append _ _)
  rw [mayOpen_dashboard] at hroute
  delta Route.handle at hgives
  simp only [List.mem_cons, List.not_mem_nil, or_false] at hroute
  rcases hroute with rfl | rfl | rfl <;> dsimp only at hgives
  · obtain ⟨hline, hget⟩ := exists_of_match?_dashboard hmatched
    obtain ⟨user, huser, ⟨d, hquery, hshown⟩ | ⟨-, hshown⟩ | hled | hled⟩ :=
      exists_of_handleUserDashboard hgives
    · exact absurd hshown (hsections hquery)
    · rw [Captures.get?_of_require huser] at hget
      have hsame : w = user := userDashboard_injective (Action.present.inj hshown)
      exact ⟨hsame.trans (Option.some_inj.1 hget), hline⟩
    · cases hled
    · cases hled
  · split at hgives
    · next d hquery => exact absurd (Except.ok.inj hgives) (hsections hquery)
    · cases hgives
  · split at hgives <;> cases hgives

end Navigation

namespace Navigator

/-- **The address of the dashboard of a user leads back to it exactly if the name is plain and in one
line.**  If it leads to the dashboard of any user, it is that of the name read back.  For every deployment and
every session that is signed in. -/
theorem userDashboard_address_iff {σ : Type} {n : Navigator} (htable : RouteTable.standard = .ok n.table)
    {s : Session σ} {st : σ} (hs : s.Obeys .signedIn st) (hne : u ≠ []) :
    (∀ w, ((n.navigate (n.deployment.absolute (userDashboard u).address)).1.run s st).1.action =
        .present (userDashboard w) → w = readBack u) ∧
      (((n.navigate (n.deployment.absolute (userDashboard u).address)).1.run s st).1.action =
        .present (userDashboard u) ↔ IsPlainName u ∧ '\n' ∉ u) := by
  obtain ⟨m, hm, hsame⟩ := exists_rooted htable
  rw [hsame _ (Or.inl rfl)]
  refine ⟨fun w h => (eq_readBack_of_presented hm h).1, ?_, ?_⟩
  · intro h
    obtain ⟨hread, hline⟩ := eq_readBack_of_presented hm h
    have hplain := readBack_eq_self_iff.1 hread.symm
    rw [hplain.unescape_front_eq] at hline
    exact ⟨hplain, hline⟩
  · rintro ⟨hplain, hline⟩
    rw [← hplain.unescape_eq] at hline
    have hshown := action_navigate_userDashboard hm hs hne hplain.question hplain.hash hline
    rwa [readBack_eq_self_iff.2 hplain] at hshown

/-- A name with a plus sign, and one with an escape. -/
theorem userDashboard_misread :
    ((overAll.navigate (userDashboard "a+b").address).1.run .scripted { loggedIn := true }).1.action =
        .present (userDashboard "a b") ∧
      ((overAll.navigate (userDashboard "100%25").address).1.run .scripted { loggedIn := true }).1.action =
        .present (userDashboard "100%") ∧
      userDashboard "a b" ≠ userDashboard "a+b" ∧ userDashboard "100%" ≠ userDashboard "100%25" := by
  have hs : Session.scripted.Obeys .signedIn { loggedIn := true } :=
    Session.scripted_obeys_signedIn rfl rfl
  have hplus := action_navigate_userDashboard isStandard_overAll hs (by decide : ("a+b" : Text) ≠ [])
    (by decide) (by decide) (by decide)
  have hescape := action_navigate_userDashboard isStandard_overAll hs (by decide : ("100%25" : Text) ≠ [])
    (by decide) (by decide) (by decide)
  have hspace : readBack "a+b" = "a b" := by decide
  have hpercent : readBack "100%25" = "100%" := by decide
  rw [hspace] at hplus
  rw [hpercent] at hescape
  exact ⟨hplus, hescape, fun h => absurd (userDashboard_injective h) (by decide),
    fun h => absurd (userDashboard_injective h) (by decide)⟩

theorem userDashboard_address_sample :
    RouteTable.standard = .ok overAll.table ∧
      Session.scripted.Obeys .signedIn { loggedIn := true } ∧ ("100% é@example.org" : Text) ≠ [] ∧
      ((overAll.navigate (overAll.deployment.absolute (userDashboard "100% é@example.org").address)).1.run
        .scripted { loggedIn := true }).1.action = .present (userDashboard "100% é@example.org") := by
  have htable := isStandard_overAll.table
  have hs : Session.scripted.Obeys .signedIn { loggedIn := true } :=
    Session.scripted_obeys_signedIn rfl rfl
  have hne : ("100% é@example.org" : Text) ≠ [] := by decide
  have hplain : IsPlainName "100% é@example.org" :=
    readBack_eq_self_iff.1 (by decide)
  exact ⟨htable, hs, hne, (userDashboard_address_iff htable hs hne).2.2 ⟨hplain, by decide⟩⟩

end Navigator

end ReviewRouter
