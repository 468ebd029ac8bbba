import ReviewRouter.Proofs.Access
import ReviewRouter.Proofs.Captures
import ReviewRouter.Proofs.Query
import ReviewRouter.Proofs.Redirect.Path

/-!
# The detour by way of the sign-in page

A visitor who asks for a page that is for signed-in users is sent to sign in.  The address of the sign-in
page holds that of the page, so that the server can lead back to it; the application itself leaves this
address to the server.

* `Answers.visitor` — a visitor;
* `Route.NeedsSignIn` — the pages that send a visitor to sign in;
* `gives_of_needsSignIn` — **they send nowhere else**;
* `matchPath_loginAddress`, `takes_signIn` — the sign-in page is found under its address, whatever page is
  to come back to;
* `Navigator.signIn_detour` — **nothing of the address is lost on the way**.
-/

namespace ReviewRouter

open Pattern
open Percent (escape unescapeValue)

/-! ### Pages that send to sign in -/

/-- A visitor: the session says that nobody is signed in. -/
def Answers.visitor : Answers where
  login r := r = .ok false
  project _ _ := True

/-- A scripted visitor stays one. -/
theorem Session.scripted_obeys_visitor {st : Scripted} (h : st.loggedIn = false)
    (hfail : st.failLogin = false) : Session.scripted.Obeys .visitor st := by
  refine scripted_obeys_of_login ?_ fun _ _ => trivial
  simp only [scripted, hfail, h, Answers.visitor, Bool.false_eq_true, if_false]

/-- The page is for signed-in users: its route is, or it is the user's own dashboard, without sections in
the query that anybody could be shown. -/
inductive Route.NeedsSignIn (l : Location) (c : Captures) : Route → Prop
  | gated {r : Route} (auth : r.requiresAuth = true) : NeedsSignIn l c r
  | ownDashboard {user : Text} (isUser : c.get? "user" = some user)
      (isSelf : user.map Char.toLower = "self")
      (plain : DashboardView.ofQuery? l.query (some user) = none) : NeedsSignIn l c .dashboard

/-- **Such a page sends a visitor to sign in**, and nowhere else. -/
theorem gives_of_needsSignIn {d : Deployment} {initialLoad : Bool} {l : Location} {c : Captures}
    {r : Route} (hneeds : r.NeedsSignIn l c) {result : Except Failure Action}
    (h : (guard r.requiresAuth l (r.handle d initialLoad l c)).Gives .visitor result) :
    result = .ok (.redirect (loginAddress l)) := by
  cases hneeds with
  | gated auth =>
    rw [auth] at h
    rcases (Handling.gives_bind _ _ _).1 h with ⟨login, hlogin, h⟩ | ⟨e, he, -⟩
    · obtain rfl : login = false := Except.ok.inj ((Handling.gives_loggedIn _).1 hlogin)
      exact h
    · cases (Handling.gives_loggedIn _).1 he
  | ownDashboard isUser isSelf plain =>
    replace h : (handleUserDashboard l c).Gives .visitor result := h
    unfold handleUserDashboard at h
    rw [Captures.require_eq isUser, Handling.lift_ok_bind, plain] at h
    rcases (Handling.gives_bind _ _ _).1 h with ⟨login, hlogin, h⟩ | ⟨e, he, -⟩
    · obtain rfl : login = false := Except.ok.inj ((Handling.gives_loggedIn _).1 hlogin)
      rw [if_neg Bool.false_ne_true, if_pos isSelf] at h
      exact h
    · cases (Handling.gives_loggedIn _).1 he

/-! ### The sign-in page -/

/-- On a path one layer of escapes is undone. -/
theorem matchPath_parse_escape {q : Text} (hq : Location.IsOpening q) (t : Text) :
    (Location.parse (q ++ escape t)).matchPath = q ++ t := by
  have hfront : front (escape t) = escape t :=
    front_eq_self (not_mem_escape (by decide) (by decide) t) (not_mem_escape (by decide) (by decide) t)
  rw [Location.matchPath_parse_append hq, hfront, Percent.unescape_escape]

/-- On the path of the sign-in page the whole address stands unescaped. -/
theorem matchPath_loginAddress (l : Location) :
    (Location.parse (loginAddress l)).matchPath = loginPath ++ l.address :=
  matchPath_parse_escape (by decide) l.address

/-- The sign-in page takes its path, whatever stands there to come back to. -/
theorem takes_signIn {address : Text} (hne : address ≠ []) (hline : '\n' ∉ address) :
    ∃ found, Route.logInOrOut.Takes (loginPath ++ address) found := by
  have hback : (row (lit "/" ++ [plus .dot])).Spells (lastChar (lastChar none "/log") "in")
      ('/' :: address) [] [] := by
    have hdots : Reads [plus .dot] (lastChar (lastChar (lastChar none "/log") "in") "/") address [] [] :=
      reads_plus.2 ⟨address, [], (List.append_nil address).symm, hne, isRun_dot_iff.2 hline, rfl, rfl⟩
    exact (spells_row _ _ _ _ _).2 (reads_lit.2 ⟨address, rfl, hdots⟩)
  have hin : (row (lit "in")).Spells (lastChar none "/log") "in" ('/' :: address) [] :=
    (spells_row _ _ _ _ _).2 (show Reads (lit "in" ++ []) _ _ _ _ from reads_lit.2 ⟨[], rfl, rfl, rfl⟩)
  have hreads : Reads Route.logInOrOut.shape none (loginPath ++ address) [] [] := by
    refine reads_lit.2 ⟨"in".toList ++ ('/' :: address), rfl, ?_⟩
    refine ⟨"in".toList, '/' :: address, [], [], rfl, rfl, Or.inl ?_, ?_⟩
    · rw [List.append_nil]
      exact hin
    · exact reads_maybe.2 (Or.inl ⟨'/' :: address, [], [], [], (List.append_nil _).symm, rfl, hback,
        reads_stop.2 ⟨rfl, rfl, rfl⟩⟩)
  have hbefore : Route.logInOrOut.before.filter (Route.mayOpen loginPath) = [] := by
    decide
  cases hmatch : Route.logInOrOut.match? (loginPath ++ address) with
  | none =>
    have hsome := matchAt?_ne_none hreads
    rw [List.append_nil] at hsome
    exact absurd hmatch hsome
  | some found =>
    exact ⟨found, Route.takes_of_first hmatch hbefore⟩

/-! ### There and back -/

namespace Navigator

variable {n : Navigator} {σ : Type}

/-- The address of the sign-in page is left to the server, and the session is not asked. -/
theorem navigate_loginAddress (hn : n.IsStandard) {l : Location} (hne : l.address ≠ [])
    (hline : '\n' ∉ l.address) : ∃ e, (n.navigate (loginAddress l)).1 =
      .note e (.done ⟨n.issued + 1, .passThrough⟩) := by
  obtain ⟨found, htakes⟩ := takes_signIn hne hline
  rw [← matchPath_loginAddress] at htakes
  exact ⟨_, n.navigate_of_pure hn htakes rfl nofun fun _ => rfl⟩

/-- The page of the empty address is the root, which is for everybody. -/
theorem ne_nil_of_needsSignIn {url : Text} {r : Route} {found : List (Text × Text)}
    (htakes : r.Takes (Location.parse url).matchPath found)
    (hneeds : r.NeedsSignIn (Location.parse url) (r.captured found)) : url ≠ [] := by
  rintro rfl
  have hroot : Route.root.Takes (Location.parse []).matchPath [] :=
    ⟨by decide, fun _ h => absurd h List.not_mem_nil⟩
  obtain ⟨rfl, -⟩ := htakes.unique hroot
  cases hneeds with
  | gated auth => cases auth

/-- **Nothing of the address is lost on the way by the sign-in page.**  A visitor who asks for a page that is
for signed-in users is sent to an address below `/login/` that holds the whole address of the page, query and
anchor included; and this address is left to the server, without a word to the session. -/
theorem signIn_detour {s : Session σ} {st : σ} (hs : s.Obeys .visitor st) (hn : n.IsStandard) {url : Text}
    (hline : '\n' ∉ url) {r : Route} {found : List (Text × Text)}
    (htakes : r.Takes (Location.parse url).matchPath found)
    (hneeds : r.NeedsSignIn (Location.parse url) (r.captured found)) :
    ∃ written : Text, ((n.navigate url).1.run s st).1.action = .redirect ("/login/" ++ written) ∧
      unescapeValue written = url ∧
      ∀ {τ : Type} (s' : Session τ) (st' : τ) (m : Navigator), m.IsStandard →
        ((m.navigate ("/login/" ++ written)).1.run s' st').1.action = .passThrough ∧
          (m.navigate ("/login/" ++ written)).1.exchanges s' st' = [] := by
  refine ⟨escape url, ?_, Percent.unescapeValue_escape url, ?_⟩
  · refine run_navigate hn hs htakes ?_
    intro initialLoad result hgives
    rw [gives_of_needsSignIn hneeds hgives]
    exact if_neg (loginAddress_ne_address (Location.parse url))
  · intro τ s' st' m hm
    obtain ⟨e, hplan⟩ := navigate_loginAddress hm (l := Location.parse url)
      (ne_nil_of_needsSignIn htakes hneeds) hline
    replace hplan : (m.navigate ("/login/" ++ escape url)).1 = _ := hplan
    rw [hplan]
    exact ⟨rfl, rfl⟩

/-- The own dashboard, written with a capital letter and an escape, a query and an anchor. -/
def ownDashboardSample : Text :=
  "/dashboard/%53elf?a+b#%2B"

/-- The visitor comes back to the address as it was written. -/
theorem signIn_detour_sample :
    Session.scripted.Obeys .visitor {} ∧ overAll.IsStandard ∧ '\n' ∉ ownDashboardSample ∧
      Route.dashboard.Takes (Location.parse ownDashboardSample).matchPath [("user", "Self")] ∧
      Route.dashboard.NeedsSignIn (Location.parse ownDashboardSample)
        (Route.dashboard.captured [("user", "Self")]) ∧
      ∃ written, ((overAll.navigate ownDashboardSample).1.run .scripted {}).1.action =
          .redirect ("/login/" ++ written) ∧
        unescapeValue written = "/dashboard/%53elf?a+b#%2B" ∧
        (overAll.navigate ("/login/" ++ written)).1.exchanges .scripted {} = [] := by
  have hs : Session.scripted.Obeys .visitor {} := Session.scripted_obeys_visitor rfl rfl
  have hline : '\n' ∉ ownDashboardSample := by decide
  have htakes : Route.dashboard.Takes (Location.parse ownDashboardSample).matchPath [("user", "Self")] :=
    ⟨by decide +kernel, by decide +kernel⟩
  have huser : (Route.dashboard.captured [("user", "Self")]).get? "user" = some "Self" := by
    decide +kernel
  have hplain : DashboardView.ofQuery? (Location.parse ownDashboardSample).query (some "Self") = none := by
    decide +kernel
  have hneeds : Route.dashboard.NeedsSignIn (Location.parse ownDashboardSample)
      (Route.dashboard.captured [("user", "Self")]) := .ownDashboard huser (by decide) hplain
  obtain ⟨written, haction, hwritten, hback⟩ := signIn_detour hs isStandard_overAll hline htakes hneeds
  exact ⟨hs, isStandard_overAll, hline, htakes, hneeds, written, haction, hwritten,
    (hback .scripted {} overAll isStandard_overAll).2⟩

end Navigator

end ReviewRouter
