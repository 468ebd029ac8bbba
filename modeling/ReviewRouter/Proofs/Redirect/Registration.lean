import ReviewRouter.Proofs.PlainNames
import ReviewRouter.Proofs.Redirect.Arrival

/-!
# The way back from the registration

A new user is sent on to the page that was asked for, unless that is the registration.  The guard looks at the
page after it was unescaped twice, and the navigation that follows unescapes it once more, so what the guard
lets pass may be the registration after all.

* `IsRegistration`, `match?_register_iff` — the paths that register, and what is captured of them;
* `not_prefix_afterRegistration` — what the guard keeps out;
* `Navigator.action_of_match?_register`, `Navigator.registers_iff` — **the addresses that register**, and where they
  lead;
* `Navigator.length_registered` — a registration leads to a shorter address;
* `Navigator.not_registered_of_plain` — where no escape is left the guard is enough;
* `Navigator.registration_repeats_iff` — **the way back is a registration again exactly if it is one without its
  escapes**;
* `Visit.registrations_end` — **registrations in a row come to an end**.
-/

namespace ReviewRouter

open Pattern
open Percent (unescape unescapeValue HoldsEscape)

/-! ### Paths that register -/

/-- The paths that register: there is nothing behind the word, or a page to go on to in one line. -/
def IsRegistration (path : Text) : Prop :=
  path = "/register" ∨ ∃ rest : Text, path = "/register/" ++ rest ∧ '\n' ∉ rest

section Paths

variable {path : Text} {found : List (Text × Text)}

theorem IsRegistration.begins (h : IsRegistration path) : ("/register" : Text) <+: path := by
  rcases h with rfl | ⟨rest, rfl, -⟩
  · exact List.prefix_refl _
  · exact ⟨'/' :: rest, rfl⟩

/-- The page to go on to is captured with its slash. -/
theorem spells_next {before : Option Char} {w after : Text} {cs : List (Text × Text)} :
    (Pattern.capture "next" (row (lit "/" ++ [reps .dot]))).Spells before w after cs ↔
      ∃ rest, w = '/' :: rest ∧ '\n' ∉ rest ∧ cs = [("next".toList, w)] := by
  constructor
  · rintro ⟨cu, hw, rfl⟩
    obtain ⟨rest, rfl, hrest⟩ := reads_lit.1 ((spells_row _ _ _ _ _).1 hw)
    obtain ⟨hrun, rfl⟩ := (spells_star_iff _ _ _ _ _ _).1 ((spells_row [reps .dot] _ _ _ _).2 hrest)
    exact ⟨rest, rfl, isRun_dot_iff.1 hrun, rfl⟩
  · rintro ⟨rest, rfl, hline, rfl⟩
    refine ⟨[], (spells_row _ _ _ _ _).2 (reads_lit.2 ⟨rest, rfl, ?_⟩), rfl⟩
    exact (spells_row [reps .dot] _ _ _ _).1 ((spells_star_iff _ _ _ _ _ _).2 ⟨isRun_dot_iff.2 hline, rfl⟩)

/-- What the registration reads, and what it captures of it. -/
theorem reads_register {before : Option Char} {w after : Text} {cs : List (Text × Text)} :
    Reads Route.register.shape before w after cs ↔ after = [] ∧
      ((w = "/register" ∧ cs = []) ∨
        ∃ rest : Text, w = "/register/" ++ rest ∧ '\n' ∉ rest ∧ cs = [("next".toList, '/' :: rest)]) := by
  constructor
  · intro h
    obtain ⟨v, rfl, hv⟩ := reads_lit.1 h
    rcases reads_maybe.1 hv with ⟨u, x, cu, cv, rfl, rfl, hu, hx⟩ | hx
    · obtain ⟨rfl, rfl, rfl⟩ := reads_stop.1 hx
      obtain ⟨rest, rfl, hline, rfl⟩ := spells_next.1 hu
      rw [List.append_nil]
      exact ⟨rfl, Or.inr ⟨rest, rfl, hline, rfl⟩⟩
    · obtain ⟨rfl, rfl, rfl⟩ := reads_stop.1 hx
      exact ⟨rfl, Or.inl ⟨rfl, rfl⟩⟩
  · rintro ⟨rfl, ⟨rfl, rfl⟩ | ⟨rest, rfl, hline, rfl⟩⟩
    · exact reads_lit.2 ⟨[], rfl, reads_maybe.2 (Or.inr (reads_stop.2 ⟨rfl, rfl, rfl⟩))⟩
    · refine reads_lit.2 ⟨'/' :: rest, rfl, reads_maybe.2 (Or.inl ⟨'/' :: rest, [], _, [], ?_, rfl,
        spells_next.2 ⟨rest, rfl, hline, rfl⟩, reads_stop.2 ⟨rfl, rfl, rfl⟩⟩)⟩
      exact (List.append_nil _).symm

/-- **The paths that register, and what is captured of them.** -/
theorem match?_register_iff : Route.register.match? path = some found ↔
    (path = "/register" ∧ found = []) ∨
      ∃ rest : Text, path = "/register/" ++ rest ∧ '\n' ∉ rest ∧ found = [("next".toList, '/' :: rest)] := by
  have hread : ∀ {cs}, Route.register.match? path = some cs → Reads Route.register.shape none path [] cs := by
    intro cs h
    obtain ⟨w, r, rfl, hreads⟩ := exists_reads_of_matchAt? h
    obtain ⟨rfl, -⟩ := reads_register.1 hreads
    rw [List.append_nil]
    exact hreads
  constructor
  · exact fun h => (reads_register.1 (hread h)).2
  · intro h
    have hne := matchAt?_ne_none (reads_register.2 ⟨rfl, h⟩ : Reads Route.register.shape none path [] found)
    rw [List.append_nil] at hne
    obtain ⟨cs, hcs⟩ := Option.ne_none_iff_exists'.1 hne
    -- of one path only one thing is captured
    have hsame : cs = found := by
      rcases h with ⟨rfl, rfl⟩ | ⟨rest, rfl, -, rfl⟩
      · rcases (reads_register.1 (hread hcs)).2 with ⟨-, rfl⟩ | ⟨rest, hpath, -⟩
        · rfl
        · cases hpath
      · rcases (reads_register.1 (hread hcs)).2 with ⟨hpath, -⟩ | ⟨rest', hpath, -, rfl⟩
        · cases hpath
        · rw [List.append_cancel_left hpath]
    exact hsame ▸ hcs

theorem exists_match?_register_iff : (∃ found, Route.register.match? path = some found) ↔ IsRegistration path := by
  constructor
  · rintro ⟨found, h⟩
    exact (match?_register_iff.1 h).imp And.left fun ⟨rest, hpath, hline, _⟩ => ⟨rest, hpath, hline⟩
  · rintro (hpath | ⟨rest, hpath, hline⟩)
    · exact ⟨[], match?_register_iff.2 (Or.inl ⟨hpath, rfl⟩)⟩
    · exact ⟨_, match?_register_iff.2 (Or.inr ⟨rest, hpath, hline, rfl⟩)⟩

/-- No other route opens with the word. -/
theorem takes_register (h : Route.register.match? path = some found) : Route.register.Takes path found := by
  obtain ⟨t, rfl⟩ := (exists_match?_register_iff.1 ⟨found, h⟩).begins
  refine Route.takes_of_opening h ?_
  have hbefore : Route.register.before.filter (Route.mayOpen "/register") = [] := by
    decide
  rw [hbefore]
  exact fun _ hr => absurd hr List.not_mem_nil

/-! ### The page to go on to -/

/-- The guard keeps out what begins with the word. -/
theorem not_prefix_afterRegistration (c : Captures) : ¬("/register" : Text) <+: afterRegistration c := by
  unfold afterRegistration
  dsimp only
  split
  · decide
  · next hnext => exact fun h => hnext (Or.inr (List.isPrefixOf_iff_prefix.2 h))

/-- The word is left behind. -/
theorem length_afterRegistration_le (h : Route.register.match? path = some found) :
    (afterRegistration (Route.register.captured found)).length + 8 ≤ path.length := by
  rcases match?_register_iff.1 h with ⟨rfl, rfl⟩ | ⟨rest, rfl, -, rfl⟩
  · decide
  · have hget : (Route.register.captured [("next".toList, '/' :: rest)]).get? "next" =
        some (unescapeValue ('/' :: rest)) := Route.get?_captured _ _ _
    have hnext := Percent.length_unescape_le ('/' :: rest)
    rw [← Percent.length_unescapeValue, List.length_cons] at hnext
    have hpath : ("/register/" ++ rest : Text).length = 10 + rest.length := List.length_append
    have hroot : ("/" : Text).length = 1 := rfl
    unfold afterRegistration
    rw [hget]
    dsimp only
    split
    · omega
    · rw [Option.getD_some]
      omega

end Paths

/-! ### Registrations -/

namespace Navigator

variable {σ τ : Type} {n n' : Navigator} {s : Session σ} {st : σ} {s' : Session τ} {st' : τ} {url target : Text}

/-- What a registration leads to is what its route captures. -/
theorem exists_of_registered (hn : n.IsStandard) (h : ((n.navigate url).1.run s st).1.action = .registered target) :
    ∃ found, Route.register.match? (Location.parse url).matchPath = some found ∧
      target = afterRegistration (Route.register.captured found) := by
  rcases navigate_yields hn (Plan.yields_run (s.obeys_any st) (n.navigate url).1).1 with
    ⟨-, hnone⟩ | ⟨r, found, result, htakes, hgives, hresult⟩
  · rw [h] at hnone
    cases hnone
  · rw [h] at hresult
    rcases Action.ofResult_cases url result with hok | ⟨-, hself⟩ | ⟨f, -, herror⟩
    · rw [hok, ← hresult] at hgives
      obtain ⟨rfl, htarget⟩ := succeedsOnly_guard (succeedsOnly_handle _ _ _) _ hgives
      exact ⟨found, htakes.matched, htarget⟩
    · rw [hself] at hresult
      cases hresult
    · rw [herror] at hresult
      cases hresult

/-- Who registers is sent on to the page that was captured. -/
theorem action_of_match?_register (hn : n.IsStandard) {found : List (Text × Text)}
    (hmatch : Route.register.match? (Location.parse url).matchPath = some found) :
    ((n.navigate url).1.run s st).1.action = .registered (afterRegistration (Route.register.captured found)) := by
  refine n.run_navigate hn (s.obeys_any st) (takes_register hmatch) ?_
  intro initialLoad result hgives
  rw [show result = .ok (.registered (afterRegistration (Route.register.captured found))) from
    Handling.gives_guard_open.1 hgives]
  rfl

/-- **The addresses that register.** -/
theorem registers_iff (hn : n.IsStandard) :
    (∃ target, ((n.navigate url).1.run s st).1.action = .registered target) ↔
      IsRegistration (Location.parse url).matchPath := by
  rw [← exists_match?_register_iff]
  constructor
  · rintro ⟨target, h⟩
    obtain ⟨found, hmatch, -⟩ := exists_of_registered hn h
    exact ⟨found, hmatch⟩
  · rintro ⟨found, hmatch⟩
    exact ⟨_, action_of_match?_register hn hmatch⟩

/-- A registration leads to a shorter address. -/
theorem length_registered (hn : n.IsStandard) (h : ((n.navigate url).1.run s st).1.action = .registered target) :
    target.length + 8 ≤ url.length := by
  obtain ⟨found, hmatch, rfl⟩ := exists_of_registered hn h
  have htarget := length_afterRegistration_le hmatch
  have hfront : front url ≠ [] := by
    intro hempty
    have hpath : (Location.parse url).matchPath = "/" := by
      rw [Location.matchPath, Location.path_parse, if_pos hempty]
      rfl
    have hroot : ("/" : Text).length = 1 := rfl
    rw [hpath, hroot] at htarget
    omega
  rw [Location.matchPath_parse hfront] at htarget
  have hunescape := Percent.length_unescape_le (front url)
  have hcut := length_front_le url
  omega

/-- The path of the way back. -/
theorem matchPath_registered (hn : n.IsStandard)
    (h : ((n.navigate url).1.run s st).1.action = .registered target) :
    (Location.parse target).matchPath = unescape (front target) := by
  obtain ⟨found, hmatch, rfl⟩ := exists_of_registered hn h
  exact Location.matchPath_parse (isRooted_afterRegistration hmatch).front_ne_nil

/-- Where no escape is left the guard is enough. -/
theorem not_registered_of_plain (hn : n.IsStandard) (hn' : n'.IsStandard)
    (h : ((n.navigate url).1.run s st).1.action = .registered target) (hplain : ¬HoldsEscape (front target))
    (later : Text) : ((n'.navigate target).1.run s' st').1.action ≠ .registered later := by
  intro hlater
  have hagain := (registers_iff hn').1 ⟨later, hlater⟩
  rw [matchPath_registered hn h, Percent.unescape_eq_self_iff.2 hplain] at hagain
  obtain ⟨found, -, rfl⟩ := exists_of_registered hn h
  exact not_prefix_afterRegistration _ (hagain.begins.trans (List.takeWhile_prefix _))

/-- **The way back from a registration is a registration again exactly if it is one without its escapes.**  It
never begins like one as it stands, and it is shorter, for every address, all navigators over all routes at the
root of their server and all sessions. -/
theorem registration_repeats_iff (hn : n.IsStandard) (hn' : n'.IsStandard)
    (h : ((n.navigate url).1.run s st).1.action = .registered target) :
    ¬("/register" : Text) <+: target ∧ target.length < url.length ∧
      ((∃ later, ((n'.navigate target).1.run s' st').1.action = .registered later) ↔
        IsRegistration (unescape (front target))) := by
  refine ⟨?_, ?_, ?_⟩
  · obtain ⟨found, -, rfl⟩ := exists_of_registered hn h
    exact not_prefix_afterRegistration _
  · have hlength := length_registered hn h
    omega
  · rw [registers_iff hn', matchPath_registered hn h]

/-- An escape hides the word from the guard, and the way back is a registration. -/
theorem registration_repeats :
    ((overAll.navigate "/register/%252572egister").1.run .scripted {}).1.action = .registered "/%72egister" ∧
      ((overAll.navigate "/%72egister").1.run .scripted {}).1.action = .registered "/" := by
  have hfirst : Route.register.match? (Location.parse "/register/%252572egister").matchPath =
      some [("next".toList, "/%2572egister".toList)] :=
    match?_register_iff.2 (Or.inr ⟨"%2572egister", by decide, by decide, rfl⟩)
  have hsecond : Route.register.match? (Location.parse "/%72egister").matchPath = some [] :=
    match?_register_iff.2 (Or.inl ⟨by decide, rfl⟩)
  exact ⟨action_of_match?_register isStandard_overAll hfirst, action_of_match?_register isStandard_overAll hsecond⟩

theorem registration_repeats_sample :
    overAll.IsStandard ∧
      ((overAll.navigate "/register/q/a%253Fb").1.run .scripted {}).1.action = .registered "/q/a?b" ∧
      ¬∃ later, ((overAll.navigate "/q/a?b").1.run .scripted {}).1.action = .registered later := by
  have hfirst : ((overAll.navigate "/register/q/a%253Fb").1.run .scripted {}).1.action =
      .registered "/q/a?b" :=
    action_of_match?_register isStandard_overAll
      (match?_register_iff.2 (Or.inr ⟨"q/a%3Fb", by decide, by decide, rfl⟩))
  refine ⟨isStandard_overAll, hfirst, fun h => ?_⟩
  have hagain := (registration_repeats_iff isStandard_overAll isStandard_overAll hfirst).2.2.1 h
  exact absurd hagain.begins (by decide)

end Navigator

/-! ### Registrations in a row -/

namespace Visit

variable {σ : Type} {s : Session σ} {v : Visit σ}

/-- **Registrations in a row come to an end**: each of them takes eight characters of the address. -/
theorem registrations_end (hv : v.navigator.IsStandard) {k : Nat}
    (h : ∀ i < k, ∃ w target, v.hops s i = some w ∧ w.action s = .registered target) :
    8 * k ≤ v.address.length := by
  induction k generalizing v with
  | zero => exact Nat.zero_le _
  | succ k ih =>
    obtain ⟨w, target, hw, haction⟩ := h 0 (Nat.succ_pos k)
    obtain rfl := Option.some_inj.1 hw
    have hlength := Navigator.length_registered hv haction
    have hhop : v.hop? s = some (v.follow s target) := by
      have habsolute : v.navigator.deployment.absolute target = target :=
        congrArg (· ++ target) hv.base
      unfold hop?
      rw [haction]
      exact congrArg (fun address => some (v.follow s address)) habsolute
    have hrest := ih (v := v.follow s target) (hv.navigate v.address) fun i hi => by
      obtain ⟨w, later, hw, hlater⟩ := h (i + 1) (Nat.succ_lt_succ hi)
      rw [hops, hhop] at hw
      exact ⟨w, later, hw, hlater⟩
    have haddress : (v.follow s target).address = target := rfl
    rw [haddress] at hrest
    omega

end Visit

end ReviewRouter
