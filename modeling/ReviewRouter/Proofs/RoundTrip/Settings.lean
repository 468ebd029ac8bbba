import Mathlib.Data.Bool.AllAny
import ReviewRouter.Proofs.RoundTrip.Names

/-!
# Settings, and all pages addressed by names

The token that confirms a mail address stands in the address of the settings as it was sent, and there a
plus sign is a plus sign.  What is captured is read as a value all the same, which makes it a space, and the
handler puts the plus signs back.

* `IsMailToken` — the tokens that survive: no blank, and nothing that ends a path or begins an escape;
* `IsMailToken.plusRestored` — **a token is read with its plus signs**;
* `action_navigate_settingsAddress` — so the address of the settings leads back to them;
* `View.IsNamedPage` — topics, searches in the documentation, screens of plugins and settings;
* `Navigator.action_navigate_namedPage` — **the addresses of all these pages lead back to them**.
-/

namespace ReviewRouter

open Pattern
open Percent (unescapeValue)

/-! ### Tokens -/

/-- A token that stands in an address as it is. -/
structure IsMailToken (token : Text) : Prop where
  ne_nil : token ≠ []
  marks : ∀ c ∈ ['%', '?', '#'], c ∉ token
  unbroken : ∀ c ∈ token, isBlank c = false

namespace IsMailToken

variable {token : Text}

theorem isRun (h : IsMailToken token) : isRun (.compl .blank) token := by
  intro c hc
  show (!isBlank c) = true
  rw [h.unbroken c hc]
  rfl

theorem space_not_mem (h : IsMailToken token) : ' ' ∉ token := by
  intro hmem
  have hblank : isBlank ' ' = true := by decide
  rw [h.unbroken ' ' hmem] at hblank
  cases hblank

/-- **A token is read with its plus signs**, for the only spaces are those that they became. -/
theorem plusRestored (h : IsMailToken token) : Text.substitute ' ' '+' (unescapeValue token) = token := by
  have hpercent : '%' ∉ Text.substitute '+' ' ' token :=
    Percent.not_mem_substitute (by decide) (h.marks '%' (by decide))
  rw [unescapeValue, Percent.unescape_plain _ hpercent, Percent.substitute_substitute,
    Percent.substitute_of_not_mem '+' token h.space_not_mem]

end IsMailToken

/-! ### Settings -/

section Settings

variable {σ : Type} {n : Navigator} {s : Session σ} {st : σ} {token : Text}

theorem shape_settingsLegacy :
    Route.settingsLegacy.shape = lit "/settings/VE/" ++ [.capture "token" (plus (.compl .blank))] :=
  rfl

theorem takes_settingsLegacy (hne : token ≠ []) (hrun : isRun (.compl .blank) token) :
    Route.settingsLegacy.Takes ("/settings/VE/".toList ++ token) [("token", token)] := by
  have hmatch : Route.settingsLegacy.match? ("/settings/VE/".toList ++ token) =
      some [("token".toList, token)] := by
    rw [Route.match?, shape_settingsLegacy, matchAt?, run_lit, ← List.append_nil token]
    refine run_capture_plus_of_longest hne hrun ?_ ?_
    · rw [List.append_nil]
      rfl
    · -- nothing follows the token
      intro x u r cs heq hx
      exact absurd (List.append_eq_nil_iff.1 heq.symm).1 hx
  have hbefore : Route.settingsLegacy.before.filter (Route.mayOpen "/settings/VE/") = [] := by
    decide
  exact Route.takes_of_first hmatch hbefore

theorem takes_settings : Route.settings.Takes ("/settings".toList ++ []) [] := by
  have hend : ReadsOnly [slash?] [] [] := by
    refine ⟨fun _ => reads_maybe_char.2 (Or.inr ⟨rfl, rfl⟩), ?_⟩
    intro before w r cs _ hw
    rcases reads_maybe_char.1 hw with ⟨v, -, -, hcs⟩ | ⟨-, hcs⟩
    · exact hcs
    · exact hcs
  have hreads : ReadsOnly Route.settings.shape ("/settings".toList ++ []) [] :=
    readsOnly_lit "/settings" hend
  refine Route.takes_of_opening (matchAt?_of_readsOnly hreads none) ?_
  have hbefore : Route.settings.before.filter (Route.mayOpen "/settings") =
      [.agreements, .newAgreements, .settingsLegacy] := by
    decide
  rw [hbefore, List.append_nil, List.forall_mem_cons, List.forall_mem_cons, List.forall_mem_singleton]
  have hagreements : Route.agreements.shape = lit "/settings/agreements" ++ [slash?] := rfl
  have hnew : Route.newAgreements.shape = lit "/settings/new-agreement" ++ [slash?] := rfl
  exact ⟨Route.match?_eq_none_of_lit hagreements (by decide), Route.match?_eq_none_of_lit hnew (by decide),
    Route.match?_eq_none_of_lit shape_settingsLegacy (by decide)⟩

/-- The address of the settings leads back to them, with the token or without one. -/
theorem action_navigate_settingsAddress (hn : n.IsStandard) (hs : s.Obeys .signedIn st) {token? : Option Text}
    (htoken : ∀ token, token? = some token → IsMailToken token) :
    ((n.navigate (View.settings token?).address).1.run s st).1.action = .present (.settings token?) := by
  cases token? with
  | none =>
    have hpath : (Location.parse (View.settings none).address).matchPath = "/settings" := by
      decide
    have htakes := takes_settings
    rw [← hpath] at htakes
    refine n.run_navigate hn hs htakes ?_
    intro initialLoad result hgives
    obtain rfl : result = .ok (.present (.settings none)) := Handling.gives_guard_signedIn hgives
    rfl
  | some token =>
    have ht := htoken token rfl
    have hopening : Location.IsOpening "/settings/VE/" := by decide
    have hpath : (Location.parse (View.settings (some token)).address).matchPath =
        "/settings/VE/".toList ++ token := by
      rw [show (View.settings (some token)).address = "/settings/VE/".toList ++ token from rfl,
        Location.matchPath_parse_append hopening,
        front_eq_self (ht.marks '?' (by decide)) (ht.marks '#' (by decide)),
        Percent.unescape_plain token (ht.marks '%' (by decide))]
    have htakes := takes_settingsLegacy ht.ne_nil ht.isRun
    rw [← hpath] at htakes
    have hread : (Route.settingsLegacy.captured [("token".toList, token)]).require "token" =
        .ok (unescapeValue token) :=
      Captures.require_eq (Route.get?_captured _ _ _)
    refine n.run_navigate hn hs htakes ?_
    intro initialLoad result hgives
    replace hgives := Handling.gives_guard_signedIn hgives
    unfold Route.handle at hgives
    dsimp only at hgives
    rw [hread, Handling.lift_ok_bind, ht.plusRestored] at hgives
    obtain rfl : result = .ok (.present (.settings (some token))) := hgives
    rfl

end Settings

/-! ### There and back -/

/-- The pages whose address is made of names, as far as their address can show them. -/
def View.IsNamedPage : View → Prop
  | .topic _ => True
  | .documentationSearch filter => ∃ text, filter = some text ∧ text ≠ []
  | .pluginScreen plugin screen => IsScreenName plugin ∧ IsScreenName screen
  | .settings token? => ∀ token, token? = some token → IsMailToken token
  | _ => False

/-- **Navigating to the address of a page made of names presents the page**, for every navigator over all
routes at the root of its server and every session that is signed in. -/
theorem Navigator.action_navigate_namedPage {σ : Type} {n : Navigator} {s : Session σ} {st : σ}
    (hn : n.IsStandard) (hs : s.Obeys .signedIn st) {v : View} (hv : v.IsNamedPage) :
    ((n.navigate v.address).1.run s st).1.action = .present v := by
  cases v with
  | topic t => exact action_navigate_topicAddress hn s st t
  | documentationSearch filter =>
    obtain ⟨text, rfl, hne⟩ := hv
    exact action_navigate_documentationAddress hn s st hne
  | pluginScreen plugin screen => exact action_navigate_screenAddress hn s st hv.1 hv.2
  | settings token? => exact action_navigate_settingsAddress hn hs hv
  | _ => exact hv.elim

/-- A token in the base64 alphabet. -/
theorem isMailToken_sample : IsMailToken "a+b/c+Zg==" where
  ne_nil := by decide
  marks := List.all_iff_forall_prop.1 (by decide)
  unbroken := List.all_iff_forall_prop.1 (by decide)

theorem isScreenName_samples : IsScreenName "my-plugin" ∧ IsScreenName "über_uns" :=
  ⟨⟨by decide, List.all_iff_forall_prop.1 (by decide)⟩,
    ⟨by decide, List.all_iff_forall_prop.1 (by decide)⟩⟩

theorem Navigator.action_navigate_namedPage_sample :
    overAll.IsStandard ∧ Session.scripted.Obeys .signedIn { loggedIn := true } ∧
      View.IsNamedPage (.topic []) ∧ View.IsNamedPage (.documentationSearch (some "a+b/c")) ∧
      View.IsNamedPage (.pluginScreen "my-plugin" "über_uns") ∧
      View.IsNamedPage (.settings (some "a+b/c+Zg==")) ∧
      ((overAll.navigate (View.topic []).address).1.run .scripted { loggedIn := true }).1.action =
        .present (.topic []) ∧
      ((overAll.navigate (View.documentationSearch (some "a+b/c")).address).1.run .scripted
        { loggedIn := true }).1.action = .present (.documentationSearch (some "a+b/c")) ∧
      ((overAll.navigate (View.pluginScreen "my-plugin" "über_uns").address).1.run .scripted
        { loggedIn := true }).1.action = .present (.pluginScreen "my-plugin" "über_uns") ∧
      ((overAll.navigate (View.settings (some "a+b/c+Zg==")).address).1.run .scripted
        { loggedIn := true }).1.action = .present (.settings (some "a+b/c+Zg==")) := by
  have hs : Session.scripted.Obeys .signedIn { loggedIn := true } :=
    Session.scripted_obeys_signedIn rfl rfl
  have htopic : View.IsNamedPage (.topic []) := trivial
  have hsearch : View.IsNamedPage (.documentationSearch (some "a+b/c")) := ⟨_, rfl, by decide⟩
  have hscreen : View.IsNamedPage (.pluginScreen "my-plugin" "über_uns") := isScreenName_samples
  have hsettings : View.IsNamedPage (.settings (some "a+b/c+Zg==")) := by
    rintro _ ⟨⟩
    exact isMailToken_sample
  exact ⟨isStandard_overAll, hs, htopic, hsearch, hscreen, hsettings,
    action_navigate_namedPage isStandard_overAll hs htopic,
    action_navigate_namedPage isStandard_overAll hs hsearch,
    action_navigate_namedPage isStandard_overAll hs hscreen,
    action_navigate_namedPage isStandard_overAll hs hsettings⟩

end ReviewRouter
