import ReviewRouter.Proofs.PlainNames
import ReviewRouter.Proofs.Redirect.BareRepository

/-!
# Old links to a project

A project used to be what a repository is now.  An old link to one holds the name escaped for a path; the
redirect to the repository holds it as it is, so from there on it is read back from an address that was never
escaped.

* `match?_projectOld`, `takes_projectOld` — the name that an old link holds;
* `action_projectLink` — **an old link leads to the name as it is**;
* `Visit.shows_readBack`, `Visit.shows_general_iff` — what that address shows, and when it is the general page of
  the name;
* `Visit.projectLink_shows_iff` — **an old link shows the general page of its repository exactly if the name is
  plain, in one line, without commas, and not that of a list**.
-/

namespace ReviewRouter

open Pattern
open Percent (escapeSegment readable unescape unescapeValue)

variable {name : Text}

/-- An old link to a project. -/
def projectLink (name : Text) : Text :=
  "/admin/projects/" ++ escapeSegment true name

/-- A name that stands in the address of a repository as it is, and is read back from there. -/
structure IsRepositoryName (name : Text) : Prop where
  plain : IsPlainName name
  line : '\n' ∉ name
  comma : ',' ∉ name
  filter : ¬("q/filter:" : Text) <+: name

/-! ### Old links -/

/-- The slash is no part of the name. -/
theorem match?_projectOld {t : Text} (hne : t ≠ []) (hline : '\n' ∉ t) :
    Route.projectOld.match? ("/admin/projects/".toList ++ t) = some [("repo".toList, t)] := by
  show (row (lit "/admin/projects" ++
    (maybe (row (lit "/")) :: [maybe (.capture "repo" (plus .dot)), stop]))).matchAt? none
      ("/admin/projects".toList ++ ("/".toList ++ t)) = _
  rw [matchAt?, run_lit]
  refine run_maybe_lit "/" (run_maybe_of_some ?_)
  rw [← run_row_cons, ← List.append_nil t]
  refine run_capture_plus_of_longest hne (isRun_dot_iff.2 hline) ?_ ?_
  · rw [List.append_nil]
    rfl
  · intro x u r cs heq hx
    exact absurd (List.append_eq_nil_iff.1 heq.symm).1 hx

theorem matchPath_projectLink (name : Text) :
    (Location.parse (projectLink name)).matchPath = "/admin/projects/" ++ readable true name :=
  matchPath_segmentAddress (by decide) true name

theorem takes_projectOld (hne : name ≠ []) :
    Route.projectOld.Takes (Location.parse (projectLink name)).matchPath
      [("repo".toList, readable true name)] := by
  rw [matchPath_projectLink]
  have hseen : readable true name ≠ [] := fun h => hne (Percent.readable_eq_nil.1 h)
  have hbefore : Route.projectOld.before.filter (Route.mayOpen "/admin/projects/") = [] := by
    decide
  exact Route.takes_of_first (match?_projectOld hseen (not_mem_readable (by decide) name)) hbefore

/-- **An old link leads to the name as it is.** -/
theorem action_projectLink {σ : Type} {n : Navigator} {s : Session σ} {st : σ} (hn : n.IsStandard)
    (hne : name ≠ []) :
    ((n.navigate (projectLink name)).1.run s st).1.action = .redirect ("/admin/repos/" ++ name) := by
  have hrepo : (Route.projectOld.captured [("repo".toList, readable true name)]).get? "repo" = some name :=
    get?_readable .projectOld true rfl
  have hother : ("/admin/repos/" ++ name : Text) ≠ projectLink name := by
    intro h
    have hletter := congrArg (fun t : Text => t[7]?) h
    cases hletter
  refine n.action_of_redirect hn s st (takes_projectOld hne) rfl (fun _ => ?_) hother
  show pure (Action.redirect ("/admin/repos/" ++
    ((Route.projectOld.captured [("repo".toList, readable true name)]).get? "repo").getD [])) = _
  rw [hrepo, Option.getD_some]

/-! ### The repository -/

namespace Visit

variable {σ : Type} {s : Session σ} {v : Visit σ}

theorem matchPath_of_address (haddress : v.address = "/admin/repos/" ++ name) :
    (Location.parse v.address).matchPath = "/admin/repos/" ++ unescape (front name) := by
  rw [haddress]
  exact Location.matchPath_parse_append (by decide) name

/-- The address of a repository, with its name as it is, shows the general page of the name read back. -/
theorem shows_readBack (hv : v.navigator.IsStandard) (haddress : v.address = "/admin/repos/" ++ name)
    (hne : unescape (front name) ≠ []) (hcomma : ',' ∉ unescape (front name))
    (hfilter : ¬("q/filter:" : Text) <+: unescape (front name)) (hline : '\n' ∉ unescape (front name)) :
    v.Shows s (generalPage (readBack name)) :=
  shows_of_bareRepository hv (matchPath_of_address haddress) hne hcomma hfilter hline

/-- It shows that of the name itself exactly if nothing in the name means something there. -/
theorem shows_general_iff (hv : v.navigator.IsStandard) (haddress : v.address = "/admin/repos/" ++ name)
    (hne : name ≠ []) : v.Shows s (generalPage name) ↔ IsRepositoryName name := by
  constructor
  · intro hshown
    obtain ⟨hvalue, hcut⟩ := length_readBack_le name
    have hfront := length_front_le name
    rcases general_of_shows hv (matchPath_of_address haddress) hshown with
      ⟨u, hu, hname⟩ | ⟨hcomma, hfilter, hline, hname⟩
    · -- a name before the word would be longer than itself
      have hread := Percent.length_unescape_le u
      rw [← Percent.length_unescapeValue, ← hname] at hread
      have hword : (",general" : Text).length = 8 := rfl
      rw [hu, List.length_append, hword] at hcut
      omega
    · have hplain : IsPlainName name := readBack_eq_self_iff.1 hname.symm
      rw [hplain.unescape_front_eq] at hcomma hfilter hline
      exact ⟨hplain, hline, hcomma, hfilter⟩
  · rintro ⟨hplain, hline, hcomma, hfilter⟩
    rw [← hplain.unescape_front_eq] at hne hline hcomma hfilter
    have hshown := shows_readBack (s := s) hv haddress hne hcomma hfilter hline
    rwa [readBack_eq_self_iff.2 hplain] at hshown

/-- An old link shows what the address of the repository shows. -/
theorem shows_projectLink_iff (hv : v.navigator.IsStandard) (haddress : v.address = projectLink name)
    (hne : name ≠ []) {view : View} :
    v.Shows s view ↔ (v.follow s ("/admin/repos/" ++ name)).Shows s view := by
  refine shows_iff_of_redirect ?_
  unfold action
  rw [haddress]
  exact action_projectLink hv hne

/-- **An old link shows the general page of its repository exactly if the name is plain, in one line, without
commas, and not that of a list.**  For every navigator over all routes at the root of its server and every
session, and after any number of redirects. -/
theorem projectLink_shows_iff (hv : v.navigator.IsStandard) (haddress : v.address = projectLink name)
    (hne : name ≠ []) : v.Shows s (generalPage name) ↔ IsRepositoryName name := by
  rw [shows_projectLink_iff hv haddress hne]
  exact shows_general_iff (hv.navigate v.address) rfl hne

/-- The plus sign in this name has become a space when the general page is shown. -/
theorem projectLink_misled :
    Shows Session.scripted ⟨Navigator.overAll, {}, projectLink "a+b"⟩ (generalPage "a b") ∧
      ¬Shows Session.scripted ⟨Navigator.overAll, {}, projectLink "a+b"⟩ (generalPage "a+b") := by
  have hv := Navigator.isStandard_overAll
  have hspace : readBack "a+b" = "a b" := by decide
  have hshown : ∀ v : Visit _, v.navigator.IsStandard → v.address = projectLink "a+b" →
      v.Shows Session.scripted (generalPage "a b") := by
    intro v hv haddress
    have hread := shows_readBack (s := Session.scripted) (hv.navigate v.address)
      (rfl : (v.follow Session.scripted ("/admin/repos/" ++ "a+b".toList)).address = _)
      (by decide) (by decide) (by decide) (by decide)
    rw [hspace] at hread
    exact (shows_projectLink_iff hv haddress (by decide)).2 hread
  have hfirst := hshown ⟨Navigator.overAll, {}, projectLink "a+b"⟩ hv rfl
  refine ⟨hfirst, fun h => ?_⟩
  exact absurd (generalPage_injective (shows_unique hfirst h)) (by decide)

theorem projectLink_shows_sample :
    Navigator.overAll.IsStandard ∧ ("a/b é%2" : Text) ≠ [] ∧
      Shows Session.scripted ⟨Navigator.overAll, {}, projectLink "a/b é%2"⟩ (generalPage "a/b é%2") := by
  have hne : ("a/b é%2" : Text) ≠ [] := by decide
  have hname : IsRepositoryName "a/b é%2" :=
    ⟨readBack_eq_self_iff.1 (by decide), by decide, by decide, by decide⟩
  exact ⟨Navigator.isStandard_overAll, hne,
    (projectLink_shows_iff Navigator.isStandard_overAll rfl hne).2 hname⟩

end Visit

end ReviewRouter
