import Mathlib.Data.Bool.AllAny
import ReviewRouter.Proofs.Exchanges
import ReviewRouter.Proofs.Pattern.Only
import ReviewRouter.Proofs.Query
import ReviewRouter.Proofs.Redirect.Path
import ReviewRouter.Proofs.ReservedNames
import ReviewRouter.Proofs.RoundTrip.Basic

/-!
# The addresses of dashboards lead back to them

A dashboard made of sections carries them in its query, and one kept in a repository has two names
in its path, with a mark between them.  Both are for everybody, so the session is not asked.

* `DashboardView.IsCustom`, `DashboardView.IsProject` — the dashboards that their address can show;
* `DashboardDraft.withPairs_sections`, `DashboardView.ofQuery?_query` — **the sections are read back in order**;
* `match?_projectDashboard` — **the two names are cut at the last mark**;
* `Navigator.navigate_dashboard_address` — **navigating to the address of a dashboard presents it, and
  the session is not asked**.
-/

namespace ReviewRouter

open Pattern
open Percent (escape readable escapeSegment unescape unescapeValue)

/-! ### Sections in a query -/

/-- A section that is read as one: with a heading that is not reserved, and a query. -/
structure DashboardSection.IsNamed (s : DashboardSection) : Prop where
  name : s.name ≠ []
  title : s.name ≠ "title"
  common : s.name ≠ "foreach"
  query : s.query ≠ []

/-- Such sections are taken in as they are, one after the other. -/
theorem DashboardDraft.withPairs_sections {sections : List DashboardSection} (h : ∀ s ∈ sections, s.IsNamed)
    (draft : DashboardDraft) :
    draft.withPairs (sections.map fun s => (s.name, s.query)) =
      { draft with sections := draft.sections ++ sections } := by
  have hpairs : ∀ pair ∈ (sections.map fun s => (s.name, s.query) : List (Text × Text)),
      pair.1 ≠ "title" ∧ pair.1 ≠ "foreach" ∧ pair.2 ≠ [] := by
    intro pair hpair
    obtain ⟨s, hs, rfl⟩ := List.mem_map.1 hpair
    exact ⟨(h s hs).title, (h s hs).common, (h s hs).query⟩
  rw [withPairs, Pairs.lastValue?_eq_none fun pair hpair => (hpairs pair hpair).1,
    Pairs.lastValue?_eq_none fun pair hpair => (hpairs pair hpair).2.1, Pairs.sections_eq_map hpairs, List.map_map]
  exact congrArg (fun added => { draft with sections := draft.sections ++ added }) (List.map_id _)

namespace DashboardView

/-- A dashboard made of sections, whose user stands in the path as it is. -/
structure IsCustom (v : DashboardView) : Prop where
  repo : v.repo = none
  dashboard : v.dashboard = none
  user : ∃ u, v.user = some u ∧ u ≠ [] ∧ ∀ c ∈ ['%', '+', '?', '#', '\n'], c ∉ u
  sections : v.sections ≠ []
  named : ∀ s ∈ v.sections, s.IsNamed
  title : ∃ t, v.title = some t ∧ t ≠ []

/-- A dashboard kept in a repository. -/
structure IsProject (v : DashboardView) : Prop where
  names : ∃ r d, v = { repo := some r, dashboard := some d } ∧ r ≠ [] ∧ d ≠ [] ∧
    ¬(" /dashboard/" : Text) <:+: d

/-- The fields of the query: the sections, and the title. -/
def queryFields (v : DashboardView) : List (Text × Text) :=
  (v.sections.map fun s => (s.name, s.query)) ++ [("title".toList, v.title.getD [])]

/-- The query behind the path. -/
def query (v : DashboardView) : Text :=
  List.intercalate "&" (v.queryFields.map escapedField)

variable {v : DashboardView}

theorem address_eq_of_isCustom (hv : v.IsCustom) {u : Text} (hu : v.user = some u) :
    v.address = "/dashboard/".toList ++ u ++ "?".toList ++ v.query := by
  obtain ⟨t, ht, -⟩ := hv.title
  have htitle : escapedField ("title".toList, t) = "title=".toList ++ escape t := by
    rw [escapedField, List.append_assoc]
    rfl
  have hqueries : (v.sections.map fun s => escape s.name ++ "=".toList ++ escape (s.queryFor v.repo)) =
      (v.sections.map fun s => (s.name, s.query)).map escapedField := by
    rw [List.map_map, hv.repo]
    rfl
  rw [query, queryFields, List.map_append, List.map_singleton, ht, Option.getD_some, htitle, ← hqueries]
  simp only [address, if_pos hv.sections, hu, ht]
  rfl

/-- **The sections are read back in order**, and so is the title. -/
theorem ofQuery?_query (hv : v.IsCustom) {u : Text} (hu : v.user = some u) :
    ofQuery? v.query (some u) = some v := by
  obtain ⟨t, ht, hne⟩ := hv.title
  have hpairs : queryPairs v.query = v.queryFields := by
    refine queryPairs_escapedFields v.queryFields ?_
    intro f hf
    rcases List.mem_append.1 hf with hf | hf
    · obtain ⟨s, hs, rfl⟩ := List.mem_map.1 hf
      exact (hv.named s hs).name
    · rw [List.mem_singleton.1 hf]
      exact List.cons_ne_nil _ _
  have hdraft : v.queryFields.foldl DashboardDraft.add {} = { title := some t, sections := v.sections } := by
    rw [queryFields, List.foldl_append, DashboardDraft.foldl_add {}, DashboardDraft.withPairs_sections hv.named, ht]
    simp only [List.foldl_cons, List.foldl_nil, DashboardDraft.add, Option.getD_some, if_neg hne]
    rfl
  have hview : v = { user := some u, sections := v.sections, title := some t } := by
    rw [← hu, ← ht]
    cases v
    simp only [DashboardView.mk.injEq, true_and, and_true]
    exact ⟨hv.repo, hv.dashboard⟩
  rw [ofQuery?, hpairs, hdraft]
  simp only [if_neg hv.sections, Option.getD_some]
  exact congrArg some hview.symm

/-- The path and the query of a dashboard made of sections. -/
theorem parse_customAddress (hv : v.IsCustom) {u : Text} (hu : v.user = some u) :
    (Location.parse v.address).matchPath = "/dashboard/".toList ++ u ∧
      (Location.parse v.address).query = v.query := by
  obtain ⟨u', hu', -, habsent⟩ := hv.user
  obtain rfl : u = u' := Option.some_inj.1 (hu.symm.trans hu')
  have hpath : ∀ c ∈ ['%', '?', '#'], c ∉ "/dashboard/".toList ++ u := by
    intro c hc
    have hmark : c ∉ ("/dashboard/" : Text) ∧ c ∈ ['%', '+', '?', '#', '\n'] := by
      revert c
      exact List.all_iff_forall_prop.1 (by decide)
    rw [List.mem_append, not_or]
    exact ⟨hmark.1, habsent c hmark.2⟩
  have hquery : v.query ≠ [] := by
    intro hnil
    have hread := ofQuery?_query hv hu
    rw [hnil] at hread
    cases hread
  have hhash : '#' ∉ v.query :=
    not_mem_escapedFields (by decide) (by decide) (by decide) (by decide) v.queryFields
  have haddress : v.address = "/dashboard/".toList ++ u ++ (if v.query = [] then [] else '?' :: v.query) ++
      (if ([] : Text) = [] then [] else '#' :: []) := by
    rw [address_eq_of_isCustom hv hu, if_neg hquery, if_pos rfl, List.append_nil, List.append_assoc]
    rfl
  have hne : "/dashboard/".toList ++ u ≠ [] := List.cons_ne_nil _ _
  have hparse := Location.parse_eq v.query [] hne (hpath '#' (by decide))
    (hpath '?' (by decide)) hhash
  rw [← haddress] at hparse
  rw [hparse]
  exact ⟨Percent.unescape_plain _ (hpath '%' (by decide)), rfl⟩

theorem takes_dashboard {u : Text} (hne : u ≠ []) (hline : '\n' ∉ u) :
    Route.dashboard.Takes ("/dashboard/".toList ++ u) [("user", u)] := by
  have hrun : isRun .dot u := isRun_dot_iff.2 hline
  have hend : ReadsOnly [.capture "user" (plus .dot), stop] (u ++ []) [("user", u)] :=
    readsOnly_capture_word (bare_plus hne hrun) []
  have hreads : ReadsOnly Route.dashboard.shape ("/dashboard/".toList ++ u) [("user", u)] := by
    rw [List.append_nil] at hend
    exact readsOnly_lit "/dashboard/" hend
  have hbefore : Route.dashboard.before.filter (Route.mayOpen "/dashboard/") = [] := by
    decide
  exact Route.takes_of_first (matchAt?_of_readsOnly hreads none) hbefore

/-- The handler presents a dashboard made of sections. -/
theorem handle_dashboard (hv : v.IsCustom) {u : Text} (hu : v.user = some u) {d : Deployment}
    {initialLoad : Bool} {l : Location} (hl : l.query = v.query) :
    Route.dashboard.handle d initialLoad l (Route.dashboard.captured [("user", u)]) =
      pure (.present (.dashboard v)) := by
  obtain ⟨u', hu', -, habsent⟩ := hv.user
  obtain rfl : u = u' := Option.some_inj.1 (hu.symm.trans hu')
  have huser : (Route.dashboard.captured [("user", u)]).require "user" = .ok u := by
    apply Captures.require_eq
    rw [Route.get?_captured]
    exact congrArg some (Percent.unescapeValue_plain u (habsent '%' (by decide)) (habsent '+' (by decide)))
  show handleUserDashboard l _ = _
  rw [handleUserDashboard, huser, hl, Handling.lift_ok_bind, ofQuery?_query hv hu]

/-! ### Dashboards of repositories -/

/-- The mark between a repository and its dashboard. -/
def mark : Text := "/+/dashboard/"

/-- Behind its own beginning the mark begins again only if its second half follows it. -/
theorem mark_shift {d x y : Text} (h : mark ++ d = x ++ (mark ++ y)) (hx : x ≠ []) :
    ("+/dashboard/" : Text) <:+: d := by
  have hborders : ∀ k ≤ mark.length, k ≠ 0 → mark.drop k <+: mark →
      mark.drop k = [] ∨ mark.drop k = ['/'] := by
    decide
  rcases List.append_eq_append_iff.1 h with ⟨m, rfl, rfl⟩ | ⟨m, hm, htail⟩
  · exact ⟨m ++ ['/'], y, by rw [List.append_assoc, List.append_assoc]; rfl⟩
  · -- the rest of the first mark begins the second
    have hdrop : mark.drop x.length = m := by
      rw [hm, List.drop_left]
    have hlength : m.length ≤ mark.length := by
      rw [hm, List.length_append]
      exact Nat.le_add_left _ _
    have hprefix : m <+: mark :=
      List.prefix_of_prefix_length_le (htail ▸ List.prefix_append m d) (List.prefix_append mark y) hlength
    have hborder := hborders x.length (by rw [hm, List.length_append]; exact Nat.le_add_right _ _)
      (fun hzero => hx (List.length_eq_zero_iff.1 hzero))
    rw [hdrop] at hborder
    rcases hborder hprefix with rfl | rfl
    · exact ⟨['/'], y, htail⟩
    · exact ⟨[], y, (List.cons.inj htail).2⟩

/-- Names from outside hold the second half of the mark only if they do so before they are escaped. -/
theorem mark_infix_of_readable {d : Text} (h : ("+/dashboard/" : Text) <:+: readable true d) :
    (" /dashboard/" : Text) <:+: d := by
  obtain ⟨a, b, hab⟩ := h
  rw [List.append_assoc] at hab
  obtain ⟨x, y, rfl, -, hy⟩ := Percent.readable_eq_plus (b := "/dashboard/".toList ++ b) hab.symm
  have hprefix : ("/dashboard/" : Text) <+: readable true y := ⟨b, hy.symm⟩
  obtain ⟨z, rfl⟩ := Percent.prefix_of_prefix_readable (by decide) (by decide) hprefix
  exact ⟨x, z, by rw [List.append_assoc]; rfl⟩

/-- What the route of such a dashboard captures. -/
def projectCaptures (r d : Text) : List (Text × Text) :=
  [("dashboard", readable true d), ("repo", readable true r)]

/-- **The two names are cut at the last mark.** -/
theorem match?_projectDashboard {r d : Text} (hr : r ≠ []) (hd : d ≠ [])
    (hmark : ¬(" /dashboard/" : Text) <:+: d) :
    Route.projectDashboard.match? ("/p/".toList ++ (readable true r ++ (mark ++ readable true d))) =
      some (projectCaptures r d) := by
  have hseen : ∀ {t : Text}, t ≠ [] → readable true t ≠ [] := fun ht h => ht (Percent.readable_eq_nil.1 h)
  show (row (lit "/p/" ++ .capture "repo" (plus .dot) :: (lit mark ++
    [.capture "dashboard" (plus .dot)]))).matchAt? none _ = _
  rw [matchAt?, run_lit]
  refine run_capture_plus_of_longest (hseen hr) (isRun_dot_readable true r) ?_ ?_
  · rw [run_lit, ← List.append_nil (readable true d)]
    refine run_capture_plus_of_longest (hseen hd) (isRun_dot_readable true d) rfl ?_
    intro x u t cs heq hx
    exact absurd (List.append_eq_nil_iff.1 heq.symm).1 hx
  · intro x u t cs heq hx hrun hreads
    obtain ⟨v, rfl, -⟩ := reads_lit.1 hreads
    rw [List.append_assoc] at heq
    exact hmark (mark_infix_of_readable (mark_shift heq hx))

theorem takes_projectDashboard {r d : Text} (hr : r ≠ []) (hd : d ≠ [])
    (hmark : ¬(" /dashboard/" : Text) <:+: d) :
    Route.projectDashboard.Takes ("/p/".toList ++ (readable true r ++ (mark ++ readable true d)))
      (projectCaptures r d) := by
  have hbefore : Route.projectDashboard.before.filter (Route.mayOpen "/p/") = [] := by
    decide
  exact Route.takes_of_first (match?_projectDashboard hr hd hmark) hbefore

theorem matchPath_projectAddress (r d : Text) :
    (Location.parse ({ repo := some r, dashboard := some d : DashboardView }).address).matchPath =
      "/p/".toList ++ (readable true r ++ (mark ++ readable true d)) := by
  have haddress : ({ repo := some r, dashboard := some d : DashboardView }).address =
      "/p/".toList ++ (escapeSegment true r ++ (mark ++ escapeSegment true d)) := by
    rw [← List.append_assoc, ← List.append_assoc]
    rfl
  have habsent : ∀ c ∈ ['?', '#'],
      c ∉ "/p/".toList ++ (escapeSegment true r ++ (mark ++ escapeSegment true d)) := by
    intro c hc
    have hc : Percent.isSegmentChar c = false ∧ c ∉ ("/p/" : Text) ∧ c ∉ mark := by
      revert c
      exact List.all_iff_forall_prop.1 (by decide)
    simp only [List.mem_append, not_or]
    exact ⟨hc.2.1, not_mem_escapeSegment hc.1 r, hc.2.2, not_mem_escapeSegment hc.1 d⟩
  have hne : "/p/".toList ++ (escapeSegment true r ++ (mark ++ escapeSegment true d)) ≠ [] :=
    List.cons_ne_nil _ _
  have hparse := Location.matchPath_parse_of_front hne (habsent '?' (by decide)) (habsent '#' (by decide))
    front_nil
  rw [List.append_nil] at hparse
  rw [haddress, hparse, Percent.unescape_plain_append _ (by decide),
    Percent.unescape_escapeSegment_append, Percent.unescape_plain_append _ (by decide),
    unescape_segment]

/-- The handler presents a dashboard kept in a repository. -/
theorem handle_projectDashboard (r d : Text) {deployment : Deployment} {initialLoad : Bool}
    {l : Location} :
    Route.projectDashboard.handle deployment initialLoad l
        (Route.projectDashboard.captured (projectCaptures r d)) =
      pure (.present (.dashboard { repo := some r, dashboard := some d })) := by
  have hrepo : (Route.projectDashboard.captured (projectCaptures r d)).require "repo" = .ok r :=
    require_readable .projectDashboard true rfl
  have hdashboard : (Route.projectDashboard.captured (projectCaptures r d)).require "dashboard" =
      .ok d :=
    require_readable .projectDashboard true rfl
  show repoDashboard _ >>= _ = _
  rw [repoDashboard, hrepo, hdashboard]
  rfl

/-! ### There and back -/

/-- The dashboards that their address can show to everybody. -/
def IsAddressable (v : DashboardView) : Prop :=
  v.IsCustom ∨ v.IsProject

/-- Navigating to the address of such a dashboard presents it at once. -/
theorem navigate_address {n : Navigator} (hn : n.IsStandard) (hv : v.IsAddressable) :
    ∃ e, (n.navigate v.address).1 = .note e (.done ⟨n.issued + 1, .present (.dashboard v)⟩) := by
  rcases hv with hv | hv
  · obtain ⟨u, hu, hne, habsent⟩ := hv.user
    obtain ⟨hpath, hquery⟩ := parse_customAddress hv hu
    have htakes := takes_dashboard hne (habsent '\n' (by decide))
    rw [← hpath] at htakes
    exact ⟨_, Navigator.navigate_of_present hn htakes rfl fun _ => handle_dashboard hv hu hquery⟩
  · obtain ⟨r, d, rfl, hr, hd, hmark⟩ := hv.names
    have htakes := takes_projectDashboard hr hd hmark
    rw [← matchPath_projectAddress] at htakes
    exact ⟨_, Navigator.navigate_of_present hn htakes rfl fun _ => handle_projectDashboard r d⟩

end DashboardView

/-- **Navigating to the address of a dashboard presents it, and the session is not asked.**  For every
navigator over all routes at the root of its server, and every session in any state. -/
theorem Navigator.navigate_dashboard_address {σ : Type} {n : Navigator} (hn : n.IsStandard)
    (s : Session σ) (st : σ) {v : DashboardView} (hv : v.IsAddressable) :
    ((n.navigate v.address).1.run s st).1.action = .present (.dashboard v) ∧
      (n.navigate v.address).1.exchanges s st = [] := by
  obtain ⟨e, hplan⟩ := DashboardView.navigate_address hn hv
  rw [hplan]
  exact ⟨rfl, rfl⟩

namespace DashboardView

/-- Two sections of one name, and marks of addresses everywhere. -/
def sampleCustom : DashboardView :=
  { user := some "a/b,é", sections := [⟨"x&y=%", "is:open #1?"⟩, ⟨"x&y=%", "a b+c"⟩]
    title := some "100% & more" }

/-- A mark in the name of the repository. -/
def sampleProject : DashboardView :=
  { repo := some "a/ /dashboard/b", dashboard := some "+/dashboard/ c" }

theorem isCustom_sample : sampleCustom.IsCustom where
  repo := rfl
  dashboard := rfl
  user := ⟨_, rfl, by decide, List.all_iff_forall_prop.1 (by decide)⟩
  sections := by decide
  named s hs := by
    rcases List.mem_cons.1 hs with rfl | hs
    · exact ⟨by decide, by decide, by decide, by decide⟩
    · rw [List.mem_singleton.1 hs]
      exact ⟨by decide, by decide, by decide, by decide⟩
  title := ⟨_, rfl, by decide⟩

theorem isProject_sample : sampleProject.IsProject :=
  ⟨"a/ /dashboard/b", "+/dashboard/ c", rfl, by decide, by decide, by decide +kernel⟩

end DashboardView

theorem Navigator.navigate_dashboard_sample :
    overAll.IsStandard ∧ DashboardView.sampleCustom.IsAddressable ∧
      DashboardView.sampleProject.IsAddressable ∧
      ((overAll.navigate DashboardView.sampleCustom.address).1.run .scripted {}).1.action =
        .present (.dashboard .sampleCustom) ∧
      ((overAll.navigate DashboardView.sampleProject.address).1.run .scripted {}).1.action =
        .present (.dashboard .sampleProject) := by
  have hcustom : DashboardView.sampleCustom.IsAddressable := Or.inl DashboardView.isCustom_sample
  have hproject : DashboardView.sampleProject.IsAddressable := Or.inr DashboardView.isProject_sample
  exact ⟨isStandard_overAll, hcustom, hproject,
    (navigate_dashboard_address isStandard_overAll .scripted {} hcustom).1,
    (navigate_dashboard_address isStandard_overAll .scripted {} hproject).1⟩

end ReviewRouter
