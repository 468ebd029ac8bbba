import ReviewRouter.Proofs.Presented
import ReviewRouter.Proofs.Redirect.Chain
import ReviewRouter.Proofs.Redirect.SignIn
import ReviewRouter.Proofs.RoundTrip.Administration

/-!
# Repositories without a page

The address of a repository that names none of its pages leads to the general page.  The redirect is the path
as it was written with a word behind it, so the page is that of the same repository however it was spelled.

* `Route.exists_of_match?_repo`, `Route.takes_repo_iff` — the paths of repositories without a page;
* `Route.takes_repoGeneral`, `exists_of_presented_general` — the paths of general pages;
* `Navigator.action_navigate_general` — the general page is for everybody;
* `action_bareRepository`, `Visit.shows_of_bareRepository` — **a repository without a page leads to its
  general page**;
* `action_navigate_general_iff`, `Navigator.bareRepository_leads_to_general` — the next navigation presents it
  exactly if the name is in one line;
* `Visit.not_shows_general_of_signIn` — the sign-in page leads to none;
* `Visit.general_of_shows` — **below this path nothing else does**.
-/

namespace ReviewRouter

open Pattern
open Percent (unescapeValue)

/-- The general page of a repository. -/
def generalPage (repo : Text) : View :=
  .repo { repo, detail := .general }

theorem generalPage_injective {a b : Text} (h : generalPage a = generalPage b) : a = b :=
  congrArg RepoView.repo (View.repo.inj h)

/-! ### Paths -/

namespace Route

variable {path t : Text} {found : List (Text × Text)}

/-- A repository without a page is what has no comma. -/
theorem exists_of_match?_repo (h : Route.repo.match? path = some found) :
    ∃ t, path = "/admin/repos/" ++ t ∧ t ≠ [] ∧ ',' ∉ t ∧ found = [("repo".toList, t)] := by
  obtain ⟨w, r, rfl, hreads⟩ := exists_reads_of_matchAt? h
  obtain ⟨x, rfl, hx⟩ := reads_lit.1 hreads
  obtain ⟨t, y, cv, rfl, rfl, hne, hrun, hy⟩ := reads_capture_plus.1 hx
  obtain ⟨rfl, rfl, rfl⟩ := reads_stop.1 hy
  refine ⟨t, ?_, hne, fun hmem => CharSet.mem_besides.1 (hrun ',' hmem) rfl, rfl⟩
  rw [List.append_nil, List.append_nil]

theorem match?_repo (hne : t ≠ []) (hcomma : ',' ∉ t) :
    Route.repo.match? ("/admin/repos/".toList ++ t) = some [("repo".toList, t)] := by
  have hrun : isRun (.besides ',') t := by
    intro c hc
    rw [CharSet.mem_besides]
    rintro rfl
    exact hcomma hc
  have hend : ReadsOnly [.capture "repo" (plus (.besides ',')), stop] (t ++ []) [("repo".toList, t)] :=
    readsOnly_capture_word (bare_plus hne hrun) []
  rw [List.append_nil] at hend
  exact matchAt?_of_readsOnly (readsOnly_lit "/admin/repos/" hend) none

/-- Without a comma the lists of repositories are tried before. -/
theorem rivals_repo : Route.repo.rivals "/admin/repos/" (fun _ => false) =
    [.repoListOffset, .repoListFilterOffset, .repoListFilter] := by
  decide

/-- **The paths of repositories without a page**: those without a comma, apart from a list with a filter. -/
theorem takes_repo_iff : Route.repo.Takes ("/admin/repos/".toList ++ t) [("repo", t)] ↔
    t ≠ [] ∧ ',' ∉ t ∧ ¬("q/filter:" : Text) <+: t := by
  constructor
  · intro htakes
    obtain ⟨t', hpath, hne, hcomma, -⟩ := exists_of_match?_repo htakes.matched
    obtain rfl : t = t' := List.append_cancel_left hpath
    refine ⟨hne, hcomma, fun hfilter => ?_⟩
    exact match?_filterRow_ne_none (q := "/admin/repos") rfl hcomma hfilter
      (htakes.first .repoListFilter (by decide))
  · rintro ⟨hne, hcomma, hfilter⟩
    have hpath : ',' ∉ "/admin/repos/".toList ++ t := by
      rw [List.mem_append, not_or]
      exact ⟨by decide, hcomma⟩
    have hcommas : CommasLeadTo (fun _ => false) ("/admin/repos/".toList ++ t) :=
      commasLeadTo_of_not_mem hpath
    refine takes_of_commas (match?_repo hne hcomma) hcommas ?_
    rw [rivals_repo]
    intro r hr
    simp only [List.mem_cons, List.not_mem_nil, or_false] at hr
    rcases hr with rfl | rfl | rfl
    · exact match?_offsetRow_eq_none (q := "/admin/repos") rfl hne
    · exact match?_filterOffsetRow_eq_none rfl hpath
    · exact match?_filterRow_eq_none (q := "/admin/repos") rfl hfilter

/-- The general page of a repository is marked by the last word. -/
theorem exists_of_match?_repoGeneral (h : Route.repoGeneral.match? path = some found) :
    ∃ t, path = "/admin/repos/" ++ (t ++ ",general") ∧ '\n' ∉ t ∧ found = [("repo".toList, t)] := by
  obtain ⟨w, r, rfl, hreads⟩ := exists_reads_of_matchAt? h
  obtain ⟨x, rfl, hx⟩ := reads_lit.1 hreads
  obtain ⟨t, y, cv, rfl, rfl, -, hrun, hy⟩ := reads_capture_plus.1 hx
  obtain ⟨z, rfl, hz⟩ := reads_lit.1 hy
  obtain ⟨rfl, rfl, rfl⟩ := reads_stop.1 hz
  refine ⟨t, ?_, isRun_dot_iff.1 hrun, rfl⟩
  rw [List.append_nil, List.append_nil]

/-- Behind a name without commas it is the only word. -/
theorem takes_repoGeneral (hne : t ≠ []) (hcomma : ',' ∉ t) (hline : '\n' ∉ t) :
    Route.repoGeneral.Takes ("/admin/repos/".toList ++ (t ++ ",general")) [("repo", t)] := by
  have hend : ReadsOnly (.capture "repo" (plus .dot) :: (lit ",general" ++ [stop])) (t ++ ",general")
      [("repo".toList, t)] :=
    readsOnly_capture_word (bare_plus hne (isRun_dot_iff.2 hline)) ",general"
  have hcommas : CommasLeadTo (· == 'g') ("/admin/repos/".toList ++ (t ++ ",general")) :=
    CommasLeadTo.append_left (by decide) (CommasLeadTo.append_left hcomma
      (CommasLeadTo.comma rfl (commasLeadTo_of_not_mem (by decide))))
  have hrivals : Route.repoGeneral.rivals "/admin/repos/" (· == 'g') = [] := by
    decide
  refine takes_of_commas (matchAt?_of_readsOnly (readsOnly_lit "/admin/repos/" hend) none) hcommas ?_
  rw [hrivals]
  exact fun _ h => absurd h List.not_mem_nil

end Route

/-! ### Pages -/

section Navigation

variable {σ : Type} {n : Navigator} {s : Session σ} {st : σ} {url t : Text}

/-- What was captured of the repository is its name. -/
theorem get?_repo (r : Route) (t : Text) :
    (r.captured [("repo", t)]).get? "repo" = some (unescapeValue t) := by
  rw [Route.get?_captured]
  rfl

/-- The general page is for everybody. -/
theorem Navigator.action_navigate_general (hn : n.IsStandard)
    (hpath : (Location.parse url).matchPath = "/admin/repos/" ++ (t ++ ",general")) (hne : t ≠ [])
    (hcomma : ',' ∉ t) (hline : '\n' ∉ t) :
    ((n.navigate url).1.run s st).1.action = .present (generalPage (unescapeValue t)) := by
  have htakes := Route.takes_repoGeneral hne hcomma hline
  rw [← hpath] at htakes
  refine n.run_navigate hn (s.obeys_any st) htakes ?_
  intro initialLoad result hgives
  replace hgives : (repoPage (Route.repoGeneral.captured [("repo", t)]) .general).Gives .any result := hgives
  rw [repoPage, Captures.require_eq (get?_repo .repoGeneral t)] at hgives
  rw [show result = .ok (.present (generalPage (unescapeValue t))) from hgives]
  rfl

/-- A general page is presented only at its own path. -/
theorem exists_of_presented_general (hn : n.IsStandard) {repo : Text}
    (h : ((n.navigate url).1.run s st).1.action = .present (generalPage repo)) :
    ∃ t, (Location.parse url).matchPath = "/admin/repos/" ++ (t ++ ",general") ∧ '\n' ∉ t ∧
      repo = unescapeValue t := by
  obtain ⟨r, found, htakes, hdetail, hrepo, -, -⟩ := n.exists_source hn h
  have hgeneral : ∀ r : Route, r.repoDetail? = some .general → r = .repoGeneral := by
    intro r
    cases r <;> decide
  obtain rfl := hgeneral r hdetail
  obtain ⟨t, hpath, hline, rfl⟩ := Route.exists_of_match?_repoGeneral htakes.matched
  rw [get?_repo] at hrepo
  exact ⟨t, hpath, hline, (Option.some_inj.1 hrepo).symm⟩

theorem matchPath_general (url : Text) :
    (Location.parse ((Location.parse url).path ++ ",general")).matchPath =
      (Location.parse url).matchPath ++ ",general" :=
  Location.matchPath_path_append url (by decide) (List.all_iff_forall_prop.1 (by decide))

/-- A repository without a page leads to the general one. -/
theorem action_bareRepository (hn : n.IsStandard) {found : List (Text × Text)}
    (htakes : Route.repo.Takes (Location.parse url).matchPath found) :
    ((n.navigate url).1.run s st).1.action = .redirect ((Location.parse url).path ++ ",general") := by
  have hother : (Location.parse url).path ++ ",general" ≠ url := by
    intro heq
    -- the path of the target would be a word longer than itself
    have hpath := matchPath_general url
    rw [heq] at hpath
    exact List.cons_ne_nil _ _ (List.append_cancel_left ((List.append_nil _).trans hpath)).symm
  exact n.action_of_redirect hn s st htakes rfl (fun _ => rfl) hother

/-- The target of the redirect presents the general page exactly if the name is in one line. -/
theorem action_navigate_general_iff (hn : n.IsStandard)
    (hpath : (Location.parse url).matchPath = "/admin/repos/" ++ (t ++ ",general")) (hne : t ≠ [])
    (hcomma : ',' ∉ t) :
    ((n.navigate url).1.run s st).1.action = .present (generalPage (unescapeValue t)) ↔ '\n' ∉ t := by
  constructor
  · intro hpresented
    obtain ⟨t', hpath', hline, -⟩ := exists_of_presented_general hn hpresented
    rw [hpath] at hpath'
    obtain rfl : t = t' := List.append_cancel_right (List.append_cancel_left hpath')
    exact hline
  · exact fun hline => Navigator.action_navigate_general hn hpath hne hcomma hline

/-- **The link to a repository without a page leads to the general page of the same repository exactly if its
name is in one line**, however the path is spelled.  For every address that the route takes, every session in
any state, and any navigator over all routes for the second navigation. -/
theorem Navigator.bareRepository_leads_to_general (hn : n.IsStandard) (s : Session σ) (st : σ)
    {found : List (Text × Text)} (htakes : Route.repo.Takes (Location.parse url).matchPath found) :
    ∃ t target, found = [("repo".toList, t)] ∧
      ((n.navigate url).1.run s st).1.action = .redirect target ∧
      ∀ m : Navigator, m.IsStandard → ∀ st' : σ,
        (((m.navigate target).1.run s st').1.action =
            .present (.repo { repo := unescapeValue t, detail := .general, filter := none, offset := 0 }) ↔
          '\n' ∉ t) := by
  obtain ⟨t, hpath, hne, hcomma, rfl⟩ := Route.exists_of_match?_repo htakes.matched
  refine ⟨t, (Location.parse url).path ++ ",general", rfl, action_bareRepository hn htakes, ?_⟩
  intro m hm st'
  refine action_navigate_general_iff hm ?_ hne hcomma
  rw [matchPath_general, hpath, List.append_assoc]

/-- The name ends in half a character and in a `%` without digits. -/
def brokenRepositoryLink : Text := "/admin/repos/a%252Bb%C3%"

theorem Navigator.bareRepository_leads_to_general_sample :
    overAll.IsStandard ∧
      Route.repo.Takes (Location.parse brokenRepositoryLink).matchPath [("repo", "a%2Bb\uFFFD%")] ∧
      '\n' ∉ ("a%2Bb\uFFFD%" : Text) ∧
      ∃ target, ((overAll.navigate brokenRepositoryLink).1.run .scripted {}).1.action = .redirect target ∧
        ((overAll.navigate target).1.run .scripted {}).1.action = .present (generalPage "a+b\uFFFD%") := by
  have hpath : (Location.parse brokenRepositoryLink).matchPath = "/admin/repos/".toList ++ "a%2Bb\uFFFD%" := by
    decide
  have htakes : Route.repo.Takes (Location.parse brokenRepositoryLink).matchPath [("repo", "a%2Bb\uFFFD%")] := by
    rw [hpath]
    exact Route.takes_repo_iff.2 ⟨by decide, by decide, by decide⟩
  have hline : '\n' ∉ ("a%2Bb\uFFFD%" : Text) := by decide
  obtain ⟨t, target, hfound, hredirect, hgeneral⟩ :=
    bareRepository_leads_to_general isStandard_overAll .scripted {} htakes
  obtain rfl : "a%2Bb\uFFFD%".toList = t := congrArg Prod.snd (List.cons.inj hfound).1
  have hname : unescapeValue "a%2Bb\uFFFD%" = "a+b\uFFFD%" := by decide
  refine ⟨isStandard_overAll, htakes, hline, target, hredirect, ?_⟩
  rw [← hname]
  exact (hgeneral overAll isStandard_overAll {}).2 hline

end Navigation

/-! ### Following the redirects -/

namespace Visit

variable {σ : Type} {s : Session σ} {v : Visit σ} {t repo : Text}

/-- **A repository without a page leads to its general page**, however it is spelled. -/
theorem shows_of_bareRepository (hv : v.navigator.IsStandard)
    (hpath : (Location.parse v.address).matchPath = "/admin/repos/" ++ t) (hne : t ≠ []) (hcomma : ',' ∉ t)
    (hfilter : ¬("q/filter:" : Text) <+: t) (hline : '\n' ∉ t) :
    v.Shows s (generalPage (unescapeValue t)) := by
  have htakes := Route.takes_repo_iff.2 ⟨hne, hcomma, hfilter⟩
  rw [show "/admin/repos/".toList ++ t = _ from hpath.symm] at htakes
  rw [shows_iff_of_redirect (action_bareRepository hv htakes), shows_iff]
  refine Or.inl (Navigator.action_navigate_general (hv.navigate v.address) ?_ hne hcomma hline)
  show (Location.parse ((Location.parse v.address).path ++ ",general")).matchPath = _
  rw [matchPath_general, hpath, List.append_assoc]

/-- Below the path of the sign-in page nothing leads on. -/
theorem not_leadsTo_of_mayOpen_login {A : Answers} {l : Location} {c : Captures} {r : Route} {target : Text}
    (hroute : r ∈ Route.all.filter (Route.mayOpen loginPath)) : ¬r.LeadsTo A l c target := by
  have hroutes : Route.all.filter (Route.mayOpen loginPath) = [.logInOrOut, .fallback] := by
    decide
  rw [hroutes] at hroute
  intro hlead
  cases hlead with
  | login auth =>
    simp only [List.mem_cons, List.not_mem_nil, or_false] at hroute
    rcases hroute with rfl | rfl
    · cases auth
    · cases auth
  | _ => exact absurd hroute (by decide)

/-- The sign-in page leads to none. -/
theorem not_shows_general_of_signIn (hv : v.navigator.IsStandard) {l : Location}
    (haddress : v.address = loginAddress l) : ¬v.Shows s (generalPage repo) := by
  have hpath := matchPath_loginAddress l
  rw [← haddress] at hpath
  rw [shows_iff]
  rintro (hshown | ⟨w, hnext, -⟩)
  · obtain ⟨u, hgeneral, -⟩ := exists_of_presented_general hv hshown
    rw [hpath] at hgeneral
    cases hgeneral
  · obtain ⟨-, -, -, r, found, htakes, hlead⟩ := exists_leadsTo_of_next? hv (s.obeys_any v.state) hnext
    exact not_leadsTo_of_mayOpen_login (htakes.mem_filter_mayOpen ⟨_, hpath.symm⟩) hlead

/-- Below this path the pages that lead on lead to the sign-in page, apart from a repository without a
page. -/
theorem leads_of_mayOpen_repos {A : Answers} {l : Location} {c : Captures} {r : Route} {target : Text}
    (hopen : r.mayOpen "/admin/repos/" = true) (hlead : r.LeadsTo A l c target) :
    target = loginAddress l ∨ (r = .repo ∧ target = l.path ++ ",general") := by
  cases hlead with
  | login => exact Or.inl rfl
  | repo => exact Or.inr ⟨rfl, rfl⟩
  | _ => exact absurd hopen (by decide)

/-- The redirect to the general page of a repository shows no other one. -/
theorem general_of_next? (hv : v.navigator.IsStandard)
    (hpath : (Location.parse v.address).matchPath = "/admin/repos/" ++ t) {w : Visit σ}
    (hnext : v.next? s = some w) (hshown : w.Shows s (generalPage repo)) :
    Route.repo.Takes ("/admin/repos/".toList ++ t) [("repo", t)] ∧ w.navigator.IsStandard ∧
      (Location.parse w.address).matchPath = "/admin/repos/" ++ (t ++ ",general") := by
  obtain ⟨hw, -, -, r, found, htakes, hlead⟩ := exists_leadsTo_of_next? hv (s.obeys_any v.state) hnext
  have hopen := (List.mem_filter.1 (htakes.mem_filter_mayOpen ⟨t, hpath.symm⟩)).2
  rcases leads_of_mayOpen_repos hopen hlead with hlogin | ⟨rfl, hgeneral⟩
  · exact absurd hshown (not_shows_general_of_signIn hw hlogin)
  · rw [hpath] at htakes
    obtain ⟨t', htarget, -, -, rfl⟩ := Route.exists_of_match?_repo htakes.matched
    obtain rfl := List.append_cancel_left htarget
    refine ⟨htakes, hw, ?_⟩
    rw [hgeneral, matchPath_general, hpath, List.append_assoc]

/-- **Below this path nothing else does**: the general page is shown at its own path, or by a repository
without a page. -/
theorem general_of_shows (hv : v.navigator.IsStandard)
    (hpath : (Location.parse v.address).matchPath = "/admin/repos/" ++ t)
    (hshown : v.Shows s (generalPage repo)) :
    (∃ u, t = u ++ ",general" ∧ repo = unescapeValue u) ∨
      (',' ∉ t ∧ ¬("q/filter:" : Text) <+: t ∧ '\n' ∉ t ∧ repo = unescapeValue t) := by
  have hpresented : ∀ {x : Visit σ} {y : Text}, x.navigator.IsStandard →
      (Location.parse x.address).matchPath = "/admin/repos/" ++ y →
      x.action s = .present (generalPage repo) →
      ∃ u, y = u ++ ",general" ∧ '\n' ∉ u ∧ repo = unescapeValue u := by
    intro x y hx hy haction
    obtain ⟨u, hgeneral, hline, hrepo⟩ := exists_of_presented_general hx haction
    rw [hy] at hgeneral
    exact ⟨u, List.append_cancel_left hgeneral, hline, hrepo⟩
  rcases shows_iff.1 hshown with hshown | ⟨w, hnext, hshown⟩
  · obtain ⟨u, hu, -, hrepo⟩ := hpresented hv hpath hshown
    exact Or.inl ⟨u, hu, hrepo⟩
  · obtain ⟨htakes, hw, hgeneral⟩ := general_of_next? hv hpath hnext hshown
    obtain ⟨-, hcomma, hfilter⟩ := Route.takes_repo_iff.1 htakes
    rcases shows_iff.1 hshown with hshown | ⟨x, hnext', hshown⟩
    · obtain ⟨u, hu, hline, hrepo⟩ := hpresented hw hgeneral hshown
      obtain rfl := List.append_cancel_right hu
      exact Or.inr ⟨hcomma, hfilter, hline, hrepo⟩
    · -- the word behind the comma names a page
      have hword := (Route.takes_repo_iff.1 (general_of_next? hw hgeneral hnext' hshown).1).2.1
      exact absurd (List.mem_append_right t (by decide)) hword

end Visit

end ReviewRouter
