import Mathlib.Data.Bool.AllAny
import ReviewRouter.Proofs.PlainNames
import ReviewRouter.Proofs.Redirect.Chain
import ReviewRouter.Proofs.Redirect.OwnerSearch

/-!
# Outdated links to searches

An outdated link to a search ends with a suffix.  Where the suffix stands in the address as it is, it is cut off
there, and the escapes of the query stay what they are.  Where its commas are escaped, it is cut off the path that
routes see; a layer of escapes is gone from that path, and it is taken for an address again.

* `queryLink`, `searchFor` — outdated links, and the searches they are meant for;
* `withoutLegacySuffix_literal`, `withoutLegacySuffix_escaped` — where the two spellings lead;
* `Visit.query_of_presented`, `Visit.query_of_shows` — below an address a search is for all that is read there, or
  for less;
* `Visit.queryLinks_show_iff` — **the suffix as it is keeps the query; with its commas escaped it does so exactly if
  nothing in the query means something**.
-/

namespace ReviewRouter

open Pattern
open Percent (escapeSegment readable unescape unescapeValue HoldsEscape)

/-- An outdated link to a search, with the suffix spelled in some way. -/
def queryLink (q suffix : Text) : Text :=
  "/q/" ++ escapeSegment true q ++ suffix

/-- The search for a query, from the first change on. -/
def searchFor (q : Text) : View :=
  .search { query := some q }

theorem searchFor_injective {q q' : Text} (h : searchFor q = searchFor q') : q = q' :=
  Option.some_inj.1 (congrArg SearchView.query (View.search.inj h))

/-- Nothing in the query means something where values are read. -/
structure IsPlainQuery (q : Text) : Prop where
  comma : ',' ∉ q
  plus : '+' ∉ q
  escape : ¬HoldsEscape q

/-! ### The redirect -/

section Redirect

variable {t : Text}

/-- The paths of outdated searches. -/
theorem takes_queryLegacySuffix (hne : t ≠ []) (hline : '\n' ∉ t) :
    ∃ found, Route.queryLegacySuffix.Takes ("/q/".toList ++ (t ++ ",n,z")) found := by
  have hreads : Reads Route.queryLegacySuffix.shape none
      ("/q/".toList ++ (t ++ (",n,z".toList ++ []))) [] [] := by
    refine reads_lit.2 ⟨_, rfl, reads_plus.2 ⟨t, _, rfl, hne, isRun_dot_iff.2 hline, ?_⟩⟩
    exact reads_lit.2 ⟨[], rfl, reads_stop.2 ⟨rfl, rfl, rfl⟩⟩
  have hmatch := matchAt?_ne_none hreads
  rw [List.append_nil, List.append_nil] at hmatch
  obtain ⟨found, hfound⟩ := Option.ne_none_iff_exists'.1 hmatch
  have hbefore : Route.queryLegacySuffix.before.filter (Route.mayOpen "/q/") = [] := by
    decide
  exact ⟨found, Route.takes_of_first hfound hbefore⟩

/-- The suffix is cut off as it stands in the address. -/
theorem withoutLegacySuffix_of_path {l : Location} (hpath : l.path = t ++ ",n,z") :
    withoutLegacySuffix l = t := by
  unfold withoutLegacySuffix
  rw [hpath, Text.dropSuffix?_append]

/-- If it does not stand there, it is cut off the path without its escapes. -/
theorem withoutLegacySuffix_of_matchPath {l : Location} (hpath : ',' ∉ l.path)
    (hmatch : l.matchPath = t ++ ",n,z") : withoutLegacySuffix l = t := by
  have hnone : Text.dropSuffix? ",n,z" l.path = none := by
    refine Text.dropSuffix?_eq_none fun hsuffix => hpath ?_
    exact hsuffix.subset (by decide)
  unfold withoutLegacySuffix
  rw [hnone, hmatch, Text.dropSuffix?_append]
  rfl

end Redirect

/-! ### Both spellings -/

section Spellings

variable {q suffix : Text}

/-- The path of an outdated link, as it is written. -/
theorem path_queryLink (q : Text) (hsuffix : ∀ c ∈ ['?', '#'], c ∉ suffix) :
    (Location.parse (queryLink q suffix)).path = queryLink q suffix := by
  have habsent : ∀ c ∈ ['?', '#'], c ∉ queryLink q suffix := by
    intro c hc
    have hmark : Percent.isSegmentChar c = false ∧ c ∉ ("/q/" : Text) := by
      revert c
      exact List.all_iff_forall_prop.1 (by decide)
    simp only [queryLink, List.mem_append, not_or]
    exact ⟨⟨hmark.2, not_mem_escapeSegment hmark.1 q⟩, hsuffix c hc⟩
  exact Location.path_parse_eq_self nofun (habsent '?' (by decide)) (habsent '#' (by decide))

/-- As routes see it both spellings are the same. -/
theorem matchPath_queryLink (q : Text) (hsuffix : ∀ c ∈ ['?', '#'], c ∉ suffix)
    (hread : unescape suffix = ",n,z") :
    (Location.parse (queryLink q suffix)).matchPath = "/q/" ++ (readable true q ++ ",n,z") := by
  rw [Location.matchPath, path_queryLink q hsuffix, queryLink, List.append_assoc,
    Percent.unescape_plain_append _ (by decide), Percent.unescape_escapeSegment_append, hread]

/-- An outdated link is followed, in either spelling. -/
theorem action_queryLink {σ : Type} {n : Navigator} (hn : n.IsStandard) (s : Session σ) (st : σ) (hne : q ≠ [])
    (hsuffix : ∀ c ∈ ['?', '#'], c ∉ suffix) (hread : unescape suffix = ",n,z") :
    ((n.navigate (queryLink q suffix)).1.run s st).1.action =
      .redirect (withoutLegacySuffix (Location.parse (queryLink q suffix))) := by
  obtain ⟨found, htakes⟩ := takes_queryLegacySuffix (t := readable true q)
    (fun h => hne (Percent.readable_eq_nil.1 h)) (not_mem_readable (by decide) q)
  rw [← matchPath_queryLink q hsuffix hread] at htakes
  exact n.action_of_shortens hn s st htakes rfl (fun _ => rfl) (shortens_withoutLegacySuffix htakes.matched)

/-- The suffix as it is: the escapes of the query are kept. -/
theorem withoutLegacySuffix_literal (q : Text) :
    withoutLegacySuffix (Location.parse (queryLink q ",n,z")) = "/q/" ++ escapeSegment true q :=
  withoutLegacySuffix_of_path (path_queryLink q (List.all_iff_forall_prop.1 (by decide)))

/-- The suffix with its commas escaped: one layer of the escapes of the query is lost. -/
theorem withoutLegacySuffix_escaped (q : Text) :
    withoutLegacySuffix (Location.parse (queryLink q "%2Cn%2Cz")) = "/q/" ++ readable true q := by
  have hsuffix : ∀ c ∈ ['?', '#'], c ∉ ("%2Cn%2Cz" : Text) := List.all_iff_forall_prop.1 (by decide)
  refine withoutLegacySuffix_of_matchPath ?_ ?_
  · rw [path_queryLink q hsuffix]
    simp only [queryLink, List.mem_append, not_or]
    exact ⟨⟨by decide, not_mem_escapeSegment (by decide) q⟩, by decide⟩
  · rw [matchPath_queryLink q hsuffix (by decide), List.append_assoc]

end Spellings

/-! ### The searches they show -/

namespace Visit

variable {σ : Type} {s : Session σ} {v : Visit σ} {q t : Text}

/-- Below the path of a search only the outdated suffix leads on. -/
theorem leads_of_mayOpen_query {A : Answers} {l : Location} {c : Captures} {r : Route} {target : Text}
    (hopen : r ∈ Route.all.filter (Route.mayOpen "/q/")) (hlead : r.LeadsTo A l c target) :
    r = .queryLegacySuffix ∧ target = withoutLegacySuffix l := by
  have hroutes : Route.all.filter (Route.mayOpen "/q/") = [.queryLegacySuffix, .query, .fallback] := by
    decide
  rw [hroutes] at hopen
  cases hlead with
  | query => exact ⟨rfl, rfl⟩
  | login auth =>
    simp only [List.mem_cons, List.not_mem_nil, or_false] at hopen
    rcases hopen with rfl | rfl | rfl <;> cases auth
  | _ => exact absurd hopen (by decide)

/-- Below the path of a search, what a search is presented for is all of the path, or shorter. -/
theorem query_of_presented (hv : v.navigator.IsStandard)
    (hpath : (Location.parse v.address).matchPath = "/q/" ++ t) (h : v.action s = .present (searchFor q)) :
    (',' ∉ t ∧ q = unescapeValue t) ∨ q.length < (unescape t).length := by
  obtain ⟨r, found, htakes, hsource⟩ := v.navigator.exists_source hv h
  have hmatched := htakes.matched
  rw [hpath] at hmatched
  rcases hsource with ⟨rfl, q', hq', offset, hview⟩ | ⟨rfl, -⟩
  · obtain ⟨seen, rest, rfl, hrest, hcomma, hget⟩ := exists_of_match?_query hmatched
    have hquery : some q = some q' := congrArg SearchView.query hview
    rw [hget, ← hquery, Option.some_inj] at hq'
    rcases hrest with rfl | ⟨digits, rfl⟩
    · rw [List.append_nil]
      exact Or.inl ⟨hcomma, hq'.symm⟩
    · -- the page number is cut off
      rw [← hq', Percent.length_unescapeValue, Percent.unescape_append_of_boundary seen (by decide),
        List.length_append, List.length_cons]
      exact Or.inr (by omega)
  · -- the query for a change begins otherwise
    have hclosed : Route.changeIdQuery.mayOpen "/q/" = false := by decide
    rw [Route.match?_eq_none_of_not_mayOpen hclosed] at hmatched
    cases hmatched

/-- **So it is with what it shows in the end**, by induction on the redirects: each of them makes the path
shorter. -/
theorem query_of_shows (hv : v.navigator.IsStandard)
    (hpath : (Location.parse v.address).matchPath = "/q/" ++ t) (h : v.Shows s (searchFor q)) :
    (',' ∉ t ∧ q = unescapeValue t) ∨ q.length < (unescape t).length := by
  obtain ⟨k, w, hafter, hshown⟩ := h
  induction k generalizing v t with
  | zero =>
    obtain rfl := Option.some_inj.1 hafter
    exact query_of_presented hv hpath hshown
  | succ k ih =>
    obtain ⟨x, hnext, hafter⟩ := Option.bind_eq_some_iff.1 hafter
    obtain ⟨hx, -, -, r, found, htakes, hlead⟩ := exists_leadsTo_of_next? hv (s.obeys_any v.state) hnext
    obtain ⟨rfl, htarget⟩ := leads_of_mayOpen_query (htakes.mem_filter_mayOpen ⟨t, hpath.symm⟩) hlead
    obtain ⟨⟨u, hu⟩, hlt⟩ := shortens_withoutLegacySuffix htakes.matched
    rw [← htarget] at hu hlt
    have hshorter : (unescape u).length < (unescape t).length := by
      rw [← hu, hpath, Percent.unescape_plain_append _ (by decide),
        Percent.unescape_plain_append _ (by decide), List.length_append, List.length_append] at hlt
      exact Nat.lt_of_add_lt_add_left hlt
    rcases ih hx hu.symm hafter with ⟨-, rfl⟩ | hq
    · rw [Percent.length_unescapeValue]
      exact Or.inr hshorter
    · exact Or.inr (Nat.lt_trans hq hshorter)

/-- With its suffix as it is, an outdated link shows the search for its query. -/
theorem shows_queryLink_literal (hv : v.navigator.IsStandard) (haddress : v.address = queryLink q ",n,z")
    (hne : q ≠ []) : v.Shows s (searchFor q) := by
  have haction : v.action s = .redirect ("/q/" ++ escapeSegment true q) := by
    unfold action
    rw [haddress, action_queryLink hv s v.state hne (List.all_iff_forall_prop.1 (by decide)) (by decide),
      withoutLegacySuffix_literal]
  rw [shows_iff_of_redirect haction, shows_iff]
  refine Or.inl ?_
  have hsearch := SearchView.action_navigate_written (hv.navigate v.address) s
    (v.follow s ("/q/" ++ escapeSegment true q)).state (Conveys.segment true q) hne 0
  have hfirst : offsetTail 0 = [] := rfl
  rw [hfirst, List.append_nil] at hsearch
  exact hsearch

/-- With its commas escaped, it shows what the path shows that is left of the query. -/
theorem shows_iff_readable (hv : v.navigator.IsStandard)
    (haddress : v.address = queryLink q "%2Cn%2Cz") (hne : q ≠ []) {view : View} :
    v.Shows s view ↔ (v.follow s ("/q/" ++ readable true q)).Shows s view := by
  refine shows_iff_of_redirect ?_
  unfold action
  rw [haddress, action_queryLink hv s v.state hne (List.all_iff_forall_prop.1 (by decide)) (by decide),
    withoutLegacySuffix_escaped]

theorem matchPath_readable (haddress : v.address = "/q/" ++ readable true q) :
    (Location.parse v.address).matchPath = "/q/" ++ Text.substitute ' ' '+' q := by
  have hopening : Location.IsOpening "/q/" := by decide
  rw [haddress, Location.matchPath_parse_append hopening,
    front_eq_self (not_mem_readable (by decide) q) (not_mem_readable (by decide) q), Percent.unescape_readable]

/-- Without a comma that is the search for the query unescaped. -/
theorem shows_readable (hv : v.navigator.IsStandard) (haddress : v.address = "/q/" ++ readable true q)
    (hne : q ≠ []) (hcomma : ',' ∉ q) : v.Shows s (searchFor (unescapeValue q)) := by
  have hseen : Text.substitute ' ' '+' q ≠ [] := fun h => hne (List.map_eq_nil_iff.1 h)
  have htakes := Route.takes_query hseen (Percent.not_mem_substitute (by decide) hcomma) 0
  have hfirst : Text.substitute ' ' '+' q ++ offsetTail 0 = Text.substitute ' ' '+' q := List.append_nil _
  rw [hfirst] at htakes
  rw [show "/q/".toList ++ Text.substitute ' ' '+' q = _ from (matchPath_readable haddress).symm] at htakes
  rw [shows_iff]
  refine Or.inl (v.navigator.run_navigate hv (s.obeys_any v.state) htakes ?_)
  intro initialLoad result hgives
  rw [gives_query (Percent.unescapeValue_substitute q) (Handling.gives_guard_open.1 hgives)]
  rfl

/-- With its commas escaped, an outdated link to a search without a comma shows that for the query unescaped. -/
theorem shows_queryLink_escaped (hv : v.navigator.IsStandard) (haddress : v.address = queryLink q "%2Cn%2Cz")
    (hne : q ≠ []) (hcomma : ',' ∉ q) : v.Shows s (searchFor (unescapeValue q)) := by
  rw [shows_iff_readable hv haddress hne]
  exact shows_readable (hv.navigate v.address) rfl hne hcomma

/-- It is the search for the query itself exactly if the query is plain. -/
theorem shows_readable_iff (hv : v.navigator.IsStandard) (haddress : v.address = "/q/" ++ readable true q)
    (hne : q ≠ []) : v.Shows s (searchFor q) ↔ IsPlainQuery q := by
  constructor
  · intro hshown
    have hlength : (unescape (Text.substitute ' ' '+' q)).length ≤ q.length := by
      have hle := Percent.length_unescape_le (Text.substitute ' ' '+' q)
      rwa [Text.substitute, List.length_map] at hle
    rcases query_of_shows hv (matchPath_readable haddress) hshown with ⟨hcomma, hq⟩ | hlt
    · rw [Percent.unescapeValue_substitute] at hq
      obtain ⟨hplus, hescape⟩ := Percent.unescapeValue_eq_self_iff.1 hq.symm
      refine ⟨fun hmem => hcomma ?_, hplus, hescape⟩
      exact List.mem_map.2 ⟨',', hmem, rfl⟩
    · omega
  · rintro ⟨hcomma, hplus, hescape⟩
    have hshown := shows_readable (s := s) hv haddress hne hcomma
    rwa [Percent.unescapeValue_eq_self_iff.2 ⟨hplus, hescape⟩] at hshown

/-- **An outdated link to a search shows the search for its query if the suffix stands in it as it is; with
the commas escaped it does so exactly if the query is plain.**  A query without a comma is searched for as
unescaping leaves it.  For every navigator over all routes at the root of its server and every session, and
after any number of redirects. -/
theorem queryLinks_show_iff {n : Navigator} (hn : n.IsStandard) (s : Session σ) (st : σ) (hne : q ≠ []) :
    Shows s ⟨n, st, queryLink q ",n,z"⟩ (searchFor q) ∧
      (Shows s ⟨n, st, queryLink q "%2Cn%2Cz"⟩ (searchFor q) ↔ IsPlainQuery q) ∧
      (',' ∉ q → Shows s ⟨n, st, queryLink q "%2Cn%2Cz"⟩ (searchFor (unescapeValue q))) := by
  refine ⟨shows_queryLink_literal hn rfl hne, ?_, shows_queryLink_escaped hn rfl hne⟩
  rw [shows_iff_readable hn rfl hne]
  exact shows_readable_iff (hn.navigate (queryLink q "%2Cn%2Cz")) rfl hne

/-- The plus sign in this query has become a space when the search begins. -/
theorem queryLink_misread :
    Shows Session.scripted ⟨Navigator.overAll, {}, queryLink "a+b" "%2Cn%2Cz"⟩ (searchFor "a b") ∧
      ¬Shows Session.scripted ⟨Navigator.overAll, {}, queryLink "a+b" "%2Cn%2Cz"⟩ (searchFor "a+b") := by
  have hv := Navigator.isStandard_overAll
  have hspace : unescapeValue "a+b" = "a b" := by decide
  have hshown := shows_queryLink_escaped (s := Session.scripted) (q := "a+b")
    (v := ⟨Navigator.overAll, {}, queryLink "a+b" "%2Cn%2Cz"⟩) hv rfl (by decide) (by decide)
  rw [hspace] at hshown
  exact ⟨hshown, fun h => absurd (searchFor_injective (shows_unique hshown h)) (by decide)⟩

theorem queryLinks_show_sample :
    Navigator.overAll.IsStandard ∧ ("status:open é/ü%2" : Text) ≠ [] ∧
      Shows Session.scripted ⟨Navigator.overAll, {}, queryLink "status:open é/ü%2" ",n,z"⟩
        (searchFor "status:open é/ü%2") ∧
      Shows Session.scripted ⟨Navigator.overAll, {}, queryLink "status:open é/ü%2" "%2Cn%2Cz"⟩
        (searchFor "status:open é/ü%2") := by
  have hv := Navigator.isStandard_overAll
  have hne : ("status:open é/ü%2" : Text) ≠ [] := by decide
  have hplain : IsPlainQuery "status:open é/ü%2" := by
    obtain ⟨hplus, hescape⟩ :=
      Percent.unescapeValue_eq_self_iff.1 (by decide : unescapeValue "status:open é/ü%2" = _)
    exact ⟨by decide, hplus, hescape⟩
  have hboth := queryLinks_show_iff hv Session.scripted {} hne
  exact ⟨hv, hne, hboth.1, hboth.2.1.2 hplain⟩

end Visit

end ReviewRouter
