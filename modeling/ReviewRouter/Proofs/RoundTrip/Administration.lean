import Mathlib.Data.Bool.AllAny
import ReviewRouter.Proofs.Redirect.Path
import ReviewRouter.Proofs.RoundTrip.ListTail

/-!
# The addresses of the administration lead back to its pages

The pages of groups and repositories and the lists of them share their beginnings, and some thirty
routes compete for them.  What tells them apart is a word or a number behind a comma.

* `RepoView.takes`, `AdminView.takes`, `takes_group` — **each page has its route**;
* `RepoView.gives_handle`, `AdminView.gives_handle`, `gives_groupPage` — whose handler presents the
  page;
* `RepoView.action_navigate_shown`, `AdminView.action_navigate_shown` — what the address of a page with a
  route shows;
* `View.IsAdministration` — the pages of the administration that their address can show;
* `Navigator.action_navigate_administration` — **navigating to the address of such a page presents
  the page**.
-/

namespace ReviewRouter

open Pattern
open Percent (readable escapeSegment unescape unescapeValue)

/-- A digit, or the first letter of a word. -/
def digitOr (letter c : Char) : Bool :=
  c == letter || c.isDigit

/-! ### Pages of a repository -/

/-- The word that a page of a repository is told apart by. -/
def RepoDetail.word : RepoDetail → Text
  | .general => "general"
  | .access => "access"
  | .commands => "commands"
  | .dashboards => "dashboards"
  | .branches => "branches"
  | .tags => "tags"

/-- The first letter of the word. -/
def RepoDetail.letter (d : RepoDetail) : Char :=
  d.word.headD ' '

/-- Whether the page is a list. -/
def RepoDetail.isList : RepoDetail → Bool
  | .branches => true
  | .tags => true
  | _ => false

theorem RepoDetail.exists_word_eq (d : RepoDetail) : ∃ u, d.word = d.letter :: u := by
  cases d <;> exact ⟨_, rfl⟩

/-- The word has no mark of an address and no line end. -/
theorem RepoDetail.not_mem_word (d : RepoDetail) : ∀ c ∈ [',', '%', '?', '#', '\n'], c ∉ d.word := by
  cases d <;> exact List.all_iff_forall_prop.1 (by decide)

namespace RepoView

/-- The pages that their address can show: of a repository with a name, with a filter that is not
empty, and with a filter or a page number only on a list. -/
structure IsAddressable (v : RepoView) : Prop where
  repo : v.repo ≠ []
  filter : v.filter ≠ some []
  plain : v.detail.isList = false → v.filter = none ∧ v.offset = 0

/-- The pages with a route of their own: a list may have an empty filter on its first page. -/
structure IsRouted (v : RepoView) : Prop where
  repo : v.repo ≠ []
  filter : v.filter = some [] → v.offset = 0
  plain : v.detail.isList = false → v.filter = none ∧ v.offset = 0

/-- The page as it is shown. -/
def shown (v : RepoView) : RepoView :=
  { v with filter := shownFilter v.filter }

/-- The route of a page. -/
def route (v : RepoView) : Route :=
  match v.detail with
  | .general => .repoGeneral
  | .access => .repoAccess
  | .commands => .repoCommands
  | .dashboards => .repoDashboards
  | .branches => listRoute .branchListOffset .branchListFilterOffset .branchListFilter v.filter v.offset
  | .tags => listRoute .tagListOffset .tagListFilterOffset .tagListFilter v.filter v.offset

/-- The row behind the word. -/
def tailRow (v : RepoView) : List Pattern :=
  if v.detail.isList then listTailRow v.filter v.offset [stop] else [stop]

/-- The path of a page, as routes see it. -/
def path (v : RepoView) : Text :=
  "/admin/repos/" ++ (readable true v.repo ++ ',' :: (v.detail.word ++ seenListTail v.filter v.offset))

def captures (v : RepoView) : List (Text × Text) :=
  listCaptures v.filter v.offset ++ [("repo".toList, readable true v.repo)]

variable {v : RepoView}

theorem IsAddressable.isRouted (hv : v.IsAddressable) : v.IsRouted where
  repo := hv.repo
  filter h := absurd h hv.filter
  plain := hv.plain

/-- A filter that is not empty is shown as it is. -/
theorem shown_eq_self (h : v.filter ≠ some []) : v.shown = v := by
  rw [shown, shownFilter_eq_self h]

theorem shape_route (v : RepoView) : v.route.shape = repoRow (lit (',' :: v.detail.word) ++ v.tailRow) := by
  obtain ⟨repo, detail, filter, offset⟩ := v
  cases detail with
  | branches | tags =>
    cases filter with
    | none => rfl
    | some f =>
      simp only [route, tailRow, listRoute, listTailRow, RepoDetail.isList, if_true]
      split <;> rfl
  | _ => rfl

theorem address_eq (hplain : v.detail.isList = false → v.filter = none ∧ v.offset = 0) :
    v.address = "/admin/repos/" ++ (escapeSegment true v.repo ++ ',' :: (v.detail.word ++
      listTail v.filter v.offset)) := by
  obtain ⟨repo, detail, filter, offset⟩ := v
  cases detail with
  | branches | tags => exact List.append_assoc _ _ _
  | _ =>
    obtain ⟨hfilter, hoffset⟩ := hplain rfl
    simp only at hfilter hoffset
    rw [hfilter, hoffset]
    exact List.append_assoc _ _ _

/-- The word is the only one behind a comma. -/
theorem word_ne {a b : Text} (h : v.detail.word ++ seenListTail v.filter v.offset = a ++ ',' :: b)
    (t : Text) : b ≠ v.detail.word ++ t := by
  rintro rfl
  have hletter : ∀ d : RepoDetail, d.letter.isDigit = false := by
    intro d
    cases d <;> rfl
  have hdigit := hletter v.detail
  obtain ⟨u, hu⟩ := v.detail.exists_word_eq
  have hleads := (commasLeadTo_listTail (fun _ h => h) v.filter v.offset).append_left
    (v.detail.not_mem_word ',' (by decide))
  rw [hu] at h hleads
  rw [hleads a v.detail.letter (u ++ t) h] at hdigit
  cases hdigit

/-- The word is found at one place only. -/
theorem cut_word {w x : Text}
    (h : readable true v.repo ++ ',' :: (v.detail.word ++ seenListTail v.filter v.offset) =
      w ++ ',' :: (v.detail.word ++ x)) : w = readable true v.repo ∧ x = seenListTail v.filter v.offset := by
  have hcomma : ',' ∉ readable true v.repo := not_mem_readable (by decide) v.repo
  rcases cut_cases hcomma h with ⟨hw, hx⟩ | ⟨z, -, hz⟩
  · exact ⟨hw, List.append_cancel_left hx⟩
  · exact absurd rfl (word_ne hz x)

theorem readsOnly_tailRow (hv : v.IsRouted) :
    ReadsOnly v.tailRow (seenListTail v.filter v.offset) (listCaptures v.filter v.offset) := by
  unfold tailRow
  cases hlist : v.detail.isList with
  | true => exact readsOnly_listTail isEnd_stop hv.filter
  | false =>
    obtain ⟨hfilter, hoffset⟩ := hv.plain hlist
    rw [hfilter, hoffset]
    exact readsOnly_end isEnd_stop

theorem match?_route (hv : v.IsRouted) : v.route.match? v.path = some v.captures := by
  have hrepo : Bare (plus .dot) (readable true v.repo) :=
    bare_plus (fun h => hv.repo (Percent.readable_eq_nil.1 h)) (isRun_dot_readable true v.repo)
  have hreads : ReadsOnly v.route.shape v.path v.captures := by
    rw [shape_route]
    refine readsOnly_lit "/admin/repos/" (readsOnly_capture hrepo
      (readsOnly_lit (',' :: v.detail.word) (readsOnly_tailRow hv)) ?_)
    intro before w x r cw cs heq hw hx
    obtain ⟨y, rfl, -⟩ := reads_lit.1 hx
    have hcut : readable true v.repo ++ ',' :: (v.detail.word ++ seenListTail v.filter v.offset) =
        w ++ ',' :: (v.detail.word ++ (y ++ r)) := by
      rw [← List.append_assoc v.detail.word y r]
      exact heq
    exact (cut_word hcut).1
  exact matchAt?_of_readsOnly hreads none

/-- Another route with the same word does not match if it does not go on with what follows the word. -/
theorem match?_eq_none_of_tail {r : Route} (ps : List Pattern)
    (hshape : r.shape = repoRow (lit (',' :: v.detail.word) ++ ps))
    (hps : ∀ before w x cs, seenListTail v.filter v.offset = w ++ x → ¬Reads ps before w x cs) :
    r.match? v.path = none := by
  refine Route.match?_append_eq_none hshape ?_
  intro before w rest cs heq hreads
  obtain ⟨u, y, cy, rfl, -, -, -, hy⟩ := reads_capture_plus.1 hreads
  obtain ⟨z, rfl, hz⟩ := reads_lit.1 hy
  have hcut : readable true v.repo ++ ',' :: (v.detail.word ++ seenListTail v.filter v.offset) =
      u ++ ',' :: (v.detail.word ++ (z ++ rest)) := by
    rw [heq, List.append_assoc, List.append_assoc]
    rfl
  exact hps _ _ _ _ (cut_word hcut).2.symm hz

/-- The routes of the same list that are tried before. -/
def rivals (v : RepoView) : List Route :=
  match v.detail with
  | .branches => listRivals .branchListOffset .branchListFilterOffset v.filter v.offset
  | .tags => listRivals .tagListOffset .tagListFilterOffset v.filter v.offset
  | _ => []

theorem rivals_eq (v : RepoView) :
    v.route.rivals "/admin/repos/" (digitOr v.detail.letter) = v.rivals := by
  have htable : ∀ p ∈ [(Route.repoGeneral, 'g', []), (.repoAccess, 'a', []), (.repoCommands, 'c', []),
      (.repoDashboards, 'd', []), (.branchListOffset, 'b', []),
      (.branchListFilterOffset, 'b', [Route.branchListOffset]),
      (.branchListFilter, 'b', [.branchListOffset, .branchListFilterOffset]), (.tagListOffset, 't', []),
      (.tagListFilterOffset, 't', [.tagListOffset]),
      (.tagListFilter, 't', [.tagListOffset, .tagListFilterOffset])],
      p.1.rivals "/admin/repos/" (digitOr p.2.1) = p.2.2 := by
    decide
  obtain ⟨repo, detail, filter, offset⟩ := v
  cases detail with
  | branches =>
    cases filter with
    | none => exact htable (.branchListOffset, 'b', []) (by decide)
    | some f =>
      simp only [route, rivals, RepoDetail.letter, listRoute, listRivals]
      split
      · exact htable (.branchListFilter, 'b', _) (by decide)
      · exact htable (.branchListFilterOffset, 'b', _) (by decide)
  | tags =>
    cases filter with
    | none => exact htable (.tagListOffset, 't', []) (by decide)
    | some f =>
      simp only [route, rivals, RepoDetail.letter, listRoute, listRivals]
      split
      · exact htable (.tagListFilter, 't', _) (by decide)
      · exact htable (.tagListFilterOffset, 't', _) (by decide)
  | general => exact htable (.repoGeneral, 'g', []) (by decide)
  | access => exact htable (.repoAccess, 'a', []) (by decide)
  | commands => exact htable (.repoCommands, 'c', []) (by decide)
  | dashboards => exact htable (.repoDashboards, 'd', []) (by decide)

theorem match?_rivals : ∀ r ∈ v.rivals, r.match? v.path = none := by
  obtain ⟨repo, detail, filter, offset⟩ := v
  cases detail with
  | branches | tags =>
    refine forall_listRivals ?_ ?_
    · intro f hf
      refine match?_eq_none_of_tail [offsetPart, stop] rfl ?_
      intro before w x cs heq
      simp only at hf heq
      rw [hf, seenListTail_some] at heq
      exact not_reads_offset isEnd_stop heq
    · intro f hf hzero
      refine match?_eq_none_of_tail (filterOffsetRow "/q/filter:" [stop]) rfl ?_
      intro before w x cs heq
      refine not_reads_filterOffset ?_ heq
      simp only at hf hzero
      rw [hf, hzero, seenListTail_some, List.mem_append, List.mem_append, not_or, not_or]
      exact ⟨by decide, not_mem_readable (by decide) f, List.not_mem_nil⟩
  | _ => exact fun _ h => absurd h List.not_mem_nil

theorem commasLeadTo_path (v : RepoView) : CommasLeadTo (digitOr v.detail.letter) v.path := by
  have htail : CommasLeadTo (digitOr v.detail.letter) (seenListTail v.filter v.offset) := by
    refine commasLeadTo_listTail ?_ v.filter v.offset
    intro c hc
    rw [digitOr, hc, Bool.or_true]
  obtain ⟨u, hu⟩ := v.detail.exists_word_eq
  have hword := htail.append_left (v.detail.not_mem_word ',' (by decide))
  have hletter : digitOr v.detail.letter v.detail.letter = true := by
    rw [digitOr, beq_self_eq_true, Bool.true_or]
  rw [hu] at hword
  refine CommasLeadTo.append_left (by decide) (CommasLeadTo.append_left ?_ ?_)
  · exact not_mem_readable (by decide) v.repo
  · rw [hu]
    exact hword.comma hletter

/-- **Each page of a repository has its route.** -/
theorem takes (hv : v.IsRouted) : v.route.Takes v.path v.captures := by
  refine Route.takes_of_commas (match?_route hv) (commasLeadTo_path v) ?_
  rw [rivals_eq]
  exact match?_rivals

theorem handle_route (v : RepoView) (d : Deployment) (initialLoad : Bool) (l : Location) (c : Captures) :
    v.route.handle d initialLoad l c = repoPage c v.detail := by
  obtain ⟨repo, detail, filter, offset⟩ := v
  cases detail with
  | branches | tags =>
    cases filter with
    | none => rfl
    | some f =>
      simp only [route, listRoute]
      split <;> rfl
  | _ => rfl

/-- The handler presents the page. -/
theorem gives_handle {A : Answers} {d : Deployment} {initialLoad : Bool} {l : Location}
    {result : Except Failure Action}
    (h : (v.route.handle d initialLoad l (v.route.captured v.captures)).Gives A result) :
    result = .ok (.present (.repo v.shown)) := by
  have hrepo : (v.route.captured v.captures).require "repo" = .ok v.repo := by
    apply require_readable v.route true
    rw [captures, List.lookup_append, lookup_listCaptures (by decide) (by decide), Option.none_or]
    rfl
  have hoffset : (v.route.captured v.captures).offset "offset" = .ok v.offset :=
    Captures.offset_listCaptures v.route v.filter v.offset rfl
  have hfilter : filterCapture? (v.route.captured v.captures) = shownFilter v.filter :=
    filterCapture?_captured v.route v.filter v.offset rfl
  rw [handle_route, repoPage, hrepo, hoffset, hfilter] at h
  exact h

theorem matchPath_address (hplain : v.detail.isList = false → v.filter = none ∧ v.offset = 0) :
    (Location.parse v.address).matchPath = v.path := by
  have hword := v.detail.not_mem_word
  have habsent : ∀ c ∈ ['?', '#'], c ∉ v.address := by
    intro c hc
    have hmark : Percent.isSegmentChar c = false ∧ c ≠ ',' ∧ c.isDigit = false ∧
        c ∉ ("/admin/repos/" : Text) ∧ c ∈ [',', '%', '?', '#', '\n'] := by
      revert c
      exact List.all_iff_forall_prop.1 (by decide)
    obtain ⟨hsegment, hcomma, hdigit, hopening, hmem⟩ := hmark
    rw [address_eq hplain]
    simp only [List.mem_append, List.mem_cons, not_or]
    exact ⟨hopening, not_mem_escapeSegment hsegment v.repo, hcomma, hword c hmem,
      not_mem_listTail hsegment hcomma hdigit v.filter v.offset⟩
  have hne : v.address ≠ [] := by
    rw [address_eq hplain]
    exact List.cons_ne_nil _ _
  have hparse := Location.matchPath_parse_of_front hne (habsent '?' (by decide)) (habsent '#' (by decide))
    front_nil
  rw [List.append_nil] at hparse
  rw [hparse, address_eq hplain, Percent.unescape_plain_append _ (by decide),
    Percent.unescape_escapeSegment_append, Percent.unescape_cons (by decide),
    Percent.unescape_plain_append _ (hword '%' (by decide)), unescape_listTail]
  rfl

/-- Navigating to the address of a page with a route shows it. -/
theorem action_navigate_shown {σ : Type} {n : Navigator} {s : Session σ} {st : σ} (hn : n.IsStandard)
    (hs : s.Obeys .signedIn st) (hv : v.IsRouted) :
    ((n.navigate v.address).1.run s st).1.action = .present (.repo v.shown) := by
  have htakes := takes hv
  rw [← matchPath_address hv.plain] at htakes
  refine n.run_navigate hn hs htakes ?_
  intro initialLoad result hgives
  rw [gives_handle (Handling.gives_guard_signedIn hgives)]
  rfl

/-- Navigating to the address of a page of a repository presents it. -/
theorem action_navigate_repoAddress {σ : Type} {n : Navigator} {s : Session σ} {st : σ}
    (hn : n.IsStandard) (hs : s.Obeys .signedIn st) (hv : v.IsAddressable) :
    ((n.navigate v.address).1.run s st).1.action = .present (.repo v) := by
  rw [action_navigate_shown hn hs hv.isRouted, shown_eq_self hv.filter]

end RepoView

/-! ### Lists for administrators -/

/-- The address of a list has no mark of an address and no line end. -/
theorem AdminList.not_mem_address (list : AdminList) :
    ∀ c ∈ [',', '%', '?', '#', '\n'], c ∉ list.address := by
  cases list <;> exact List.all_iff_forall_prop.1 (by decide)

namespace AdminView

/-- The pages that their address can show: with a filter that is not empty, and with the dialog for a
new item only without a filter on the list of groups or repositories. -/
structure IsAddressable (v : AdminView) : Prop where
  filter : v.filter ≠ some []
  create : v.openCreate = true → v.filter = none ∧ v.list ≠ .plugins

/-- The route of a page. -/
def route (v : AdminView) : Route :=
  match v.list with
  | .groups => listRoute .groupListOffset .groupListFilterOffset .groupListFilter v.filter v.offset
  | .repos => listRoute .repoListOffset .repoListFilterOffset .repoListFilter v.filter v.offset
  | .plugins => listRoute .pluginListOffset .pluginListFilterOffset .pluginListFilter v.filter v.offset

/-- The routes of the same list that are tried before. -/
def rivals (v : AdminView) : List Route :=
  match v.list with
  | .groups => listRivals .groupListOffset .groupListFilterOffset v.filter v.offset
  | .repos => listRivals .repoListOffset .repoListFilterOffset v.filter v.offset
  | .plugins => listRivals .pluginListOffset .pluginListFilterOffset v.filter v.offset

/-- The path of a page, as routes see it. -/
def path (v : AdminView) : Text :=
  v.list.address ++ seenListTail v.filter v.offset

/-- Whether the route opens the dialog for a new item. -/
def canCreate (v : AdminView) : Bool :=
  v.filter.isNone && v.list != .plugins

/-- The page as it is shown. -/
def shown (v : AdminView) : AdminView :=
  { v with filter := shownFilter v.filter, openCreate := v.canCreate && v.openCreate }

variable {v : AdminView}

/-- A page that its address can show is shown as it is. -/
theorem IsAddressable.shown_eq (hv : v.IsAddressable) : v.shown = v := by
  have hcreate : (v.canCreate && v.openCreate) = v.openCreate := by
    cases hopen : v.openCreate with
    | false => exact Bool.and_false _
    | true =>
      obtain ⟨hnone, hlist⟩ := hv.create hopen
      rw [canCreate, hnone, bne_iff_ne.2 hlist]
      rfl
  rw [shown, shownFilter_eq_self hv.filter, hcreate]

theorem shape_route (v : AdminView) :
    v.route.shape = lit v.list.address ++ listTailRow v.filter v.offset [slash?, stop] := by
  obtain ⟨list, offset, filter, openCreate⟩ := v
  cases list <;> cases filter with
  | none => rfl
  | some f =>
    simp only [route, listRoute, listTailRow]
    split <;> rfl

theorem rivals_eq (v : AdminView) : v.route.rivals v.list.address Char.isDigit = v.rivals := by
  have htable : ∀ p ∈ [(AdminList.groups, Route.groupListOffset, []),
      (.groups, .groupListFilterOffset, [Route.groupListOffset]),
      (.groups, .groupListFilter, [.groupListOffset, .groupListFilterOffset]),
      (.repos, .repoListOffset, []), (.repos, .repoListFilterOffset, [.repoListOffset]),
      (.repos, .repoListFilter, [.repoListOffset, .repoListFilterOffset]),
      (.plugins, .pluginListOffset, []), (.plugins, .pluginListFilterOffset, [.pluginListOffset]),
      (.plugins, .pluginListFilter, [.pluginListOffset, .pluginListFilterOffset])],
      p.2.1.rivals p.1.address Char.isDigit = p.2.2 := by
    decide
  obtain ⟨list, offset, filter, openCreate⟩ := v
  cases list <;> cases filter with
  | none => exact htable (_, _, []) (by decide)
  | some f =>
    simp only [route, rivals, listRoute, listRivals]
    split <;> exact htable (_, _, _) (by decide)

theorem match?_rivals : ∀ r ∈ v.rivals, r.match? v.path = none := by
  -- a list without a filter, and one with a page number, in front of the same end
  have hplain : ∀ (r : Route) (f : Text), v.filter = some f →
      r.shape = lit v.list.address ++ [offsetPart, slash?, stop] → r.match? v.path = none := by
    intro r f hf hshape
    refine Route.match?_append_eq_none hshape ?_
    intro before w x cs heq
    rw [hf, seenListTail_some] at heq
    exact not_reads_offset isEnd_slash heq
  have hpage : ∀ (r : Route) (f : Text), v.filter = some f → v.offset = 0 →
      r.shape = lit v.list.address ++ filterOffsetRow "/q/filter:" [slash?, stop] →
      r.match? v.path = none := by
    intro r f hf hzero hshape
    refine Route.match?_append_eq_none hshape ?_
    intro before w x cs heq
    refine not_reads_filterOffset ?_ heq
    rw [hf, hzero, seenListTail_some, List.mem_append, List.mem_append, not_or, not_or]
    exact ⟨by decide, not_mem_readable (by decide) f, List.not_mem_nil⟩
  obtain ⟨list, offset, filter, openCreate⟩ := v
  cases list with
  | groups | repos | plugins =>
    exact forall_listRivals (fun f hf => hplain _ f hf rfl) (fun f hf hzero => hpage _ f hf hzero rfl)

theorem commasLeadTo_path (v : AdminView) : CommasLeadTo Char.isDigit v.path :=
  (commasLeadTo_listTail (fun _ h => h) v.filter v.offset).append_left
    (v.list.not_mem_address ',' (by decide))

/-- **Each list has its route**, with an empty filter only on the first page. -/
theorem takes (hfilter : v.filter = some [] → v.offset = 0) :
    v.route.Takes v.path (listCaptures v.filter v.offset) := by
  have hreads : ReadsOnly v.route.shape v.path (listCaptures v.filter v.offset) := by
    rw [shape_route]
    exact readsOnly_lit v.list.address (readsOnly_listTail isEnd_slash hfilter)
  refine Route.takes_of_commas (matchAt?_of_readsOnly hreads none) (commasLeadTo_path v) ?_
  rw [rivals_eq]
  exact match?_rivals

theorem handle_route (v : AdminView) (d : Deployment) (initialLoad : Bool) (l : Location) (c : Captures) :
    v.route.handle d initialLoad l c = adminPage l c v.list v.canCreate := by
  obtain ⟨list, offset, filter, openCreate⟩ := v
  cases list <;> cases filter with
  | none => rfl
  | some f =>
    simp only [route, listRoute]
    split <;> rfl

/-- The handler presents the page. -/
theorem gives_handle {A : Answers} {d : Deployment} {initialLoad : Bool} {l : Location}
    (hhash : (l.hash == "create".toList) = v.openCreate) {result : Except Failure Action}
    (h : (v.route.handle d initialLoad l
      (v.route.captured (listCaptures v.filter v.offset))).Gives A result) :
    result = .ok (.present (.admin v.shown)) := by
  have hnone : ∀ name : Text, ([] : List (Text × Text)).lookup name = none := fun _ => rfl
  have hoffset := Captures.offset_listCaptures v.route v.filter v.offset (hnone _)
  have hfilter := filterCapture?_captured v.route v.filter v.offset (hnone _)
  rw [List.append_nil] at hoffset hfilter
  rw [handle_route, adminPage, hoffset, hfilter] at h
  rw [show result = .ok (.present (.admin ⟨v.list, v.offset, shownFilter v.filter,
    v.canCreate && l.hash == "create".toList⟩)) from h, hhash]
  rfl

/-- The path of the address, and its anchor. -/
theorem parse_address (v : AdminView) :
    (Location.parse v.address).matchPath = v.path ∧
      ((Location.parse v.address).hash == "create".toList) = v.openCreate := by
  have habsent : ∀ c ∈ ['?', '#'], c ∉ v.list.address ++ listTail v.filter v.offset := by
    intro c hc
    have hmark : Percent.isSegmentChar c = false ∧ c ≠ ',' ∧ c.isDigit = false ∧
        c ∈ [',', '%', '?', '#', '\n'] := by
      revert c
      exact List.all_iff_forall_prop.1 (by decide)
    obtain ⟨hsegment, hcomma, hdigit, hmem⟩ := hmark
    rw [List.mem_append, not_or]
    exact ⟨v.list.not_mem_address c hmem, not_mem_listTail hsegment hcomma hdigit v.filter v.offset⟩
  have hne : v.list.address ++ listTail v.filter v.offset ≠ [] := by
    intro heq
    have hlist : ∀ list : AdminList, list.address ≠ [] := by
      intro list
      cases list <;> decide
    exact hlist v.list (List.append_eq_nil_iff.1 heq).1
  have hseen : unescape (v.list.address ++ listTail v.filter v.offset) = v.path := by
    rw [Percent.unescape_plain_append _ (v.list.not_mem_address '%' (by decide)),
      unescape_listTail, path]
  have haddress : v.address = v.list.address ++ listTail v.filter v.offset ++
      (if ([] : Text) = [] then [] else '?' :: []) ++
        (if (if v.openCreate then "create".toList else []) = [] then []
          else '#' :: (if v.openCreate then "create".toList else [])) := by
    rw [address, if_pos rfl, List.append_nil]
    cases v.openCreate <;> rfl
  have hparse := Location.parse_eq [] (if v.openCreate then "create".toList else []) hne
    (habsent '#' (by decide)) (habsent '?' (by decide)) List.not_mem_nil
  rw [← haddress] at hparse
  have hanchor : ∀ b : Bool,
      (unescapeValue (if b then "create".toList else []) == "create".toList) = b := by
    decide
  rw [hparse]
  exact ⟨hseen, hanchor v.openCreate⟩

/-- Navigating to the address of a list with a route shows it. -/
theorem action_navigate_shown {σ : Type} {n : Navigator} {s : Session σ} {st : σ} (hn : n.IsStandard)
    (hs : s.Obeys .signedIn st) (hfilter : v.filter = some [] → v.offset = 0) :
    ((n.navigate v.address).1.run s st).1.action = .present (.admin v.shown) := by
  obtain ⟨hpath, hhash⟩ := parse_address v
  have htakes := takes hfilter
  rw [← hpath] at htakes
  refine n.run_navigate hn hs htakes ?_
  intro initialLoad result hgives
  rw [gives_handle hhash (Handling.gives_guard_signedIn hgives)]
  rfl

/-- Navigating to the address of a list presents it. -/
theorem action_navigate_adminAddress {σ : Type} {n : Navigator} {s : Session σ} {st : σ}
    (hn : n.IsStandard) (hs : s.Obeys .signedIn st) (hv : v.IsAddressable) :
    ((n.navigate v.address).1.run s st).1.action = .present (.admin v) := by
  rw [action_navigate_shown hn hs fun h => absurd h hv.filter, hv.shown_eq]

end AdminView

/-! ### Pages of a group -/

/-- The groups that an address can show: those with a name that is not taken for one of the marks
in the addresses of groups. -/
structure IsAddressableGroup (name : Text) (detail : Option GroupDetail) : Prop where
  ne_nil : name ≠ []
  uuid : ¬("uuid-" : Text) <+: name
  filter : detail = none → ¬("q/filter:" : Text) <+: name

/-- The word that a page of a group is told apart by, with its comma. -/
def groupWord : Option GroupDetail → Text
  | some .members => ",members"
  | some .log => ",audit-log"
  | none => []

/-- What stands behind the comma. -/
def groupLetter : Option GroupDetail → Char → Bool
  | some .members => (· == 'm')
  | some .log => (· == 'a')
  | none => fun _ => false

/-- The route of a page of a group. -/
def groupRoute : Option GroupDetail → Route
  | some .members => .groupMembers
  | some .log => .groupAuditLog
  | none => .group

/-- The path of a page of a group, as routes see it. -/
def groupPath (name : Text) (detail : Option GroupDetail) : Text :=
  "/admin/groups/".toList ++ (readable true name ++ groupWord detail)

/-- What a text begins with is not continued by another one with a character of its own. -/
theorem prefix_of_prefix_append {p t u : Text} (hu : ∀ c x, u = c :: x → c ∉ p) (h : p <+: t ++ u) :
    p <+: t := by
  obtain ⟨r, hr⟩ := h
  rcases List.append_eq_append_iff.1 hr with ⟨m, rfl, -⟩ | ⟨m, rfl, hm⟩
  · exact List.prefix_append p m
  · cases m with
    | nil => exact ⟨[], by rw [List.append_nil, List.append_nil]⟩
    | cons c m => exact absurd (List.mem_append_right t List.mem_cons_self) (hu c _ hm)

section Group

variable {name : Text} {detail : Option GroupDetail}

/-- The word of a page begins with a comma. -/
theorem comma_of_groupWord {c : Char} {t : Text} (h : groupWord detail = c :: t) : c = ',' := by
  match detail, h with
  | some .members, h => exact (List.cons.inj h).1.symm
  | some .log, h => exact (List.cons.inj h).1.symm

theorem shape_groupRoute (detail : Option GroupDetail) :
    (groupRoute detail).shape = groupRow (lit (groupWord detail) ++ [stop]) := by
  match detail with
  | some .members => rfl
  | some .log => rfl
  | none => rfl

/-- The name of a group ends where the word begins. -/
theorem readsOnly_groupName (hne : name ≠ []) (detail : Option GroupDetail) :
    ReadsOnly (.capture "group" (plus (.besides ',')) :: (lit (groupWord detail) ++ [stop]))
      (readable true name ++ groupWord detail) [("group".toList, readable true name)] := by
  have hname : Bare (plus (.besides ',')) (readable true name) :=
    bare_plus (fun h => hne (Percent.readable_eq_nil.1 h)) (isRun_besides_readable (by decide) true name)
  exact readsOnly_capture_word hname (groupWord detail)

theorem match?_groupRoute (hname : IsAddressableGroup name detail) :
    (groupRoute detail).match? (groupPath name detail) =
      some [("group".toList, readable true name)] := by
  have hreads : ReadsOnly (groupRoute detail).shape (groupPath name detail)
      [("group", readable true name)] := by
    rw [shape_groupRoute]
    refine readsOnly_lit "/admin/groups/" (readsOnly_skip (readsOnly_groupName hname.ne_nil detail) ?_)
    -- the name does not begin with the mark that would be skipped
    intro before w r cw heq hw
    rw [spells_row, ← List.append_nil (lit _), reads_lit] at hw
    obtain ⟨v, rfl, rfl, -⟩ := hw
    have hprefix : ("uuid-" : Text) <+: readable true name ++ groupWord detail := by
      rw [heq, List.append_nil]
      exact List.prefix_append _ r
    refine hname.uuid (Percent.prefix_of_prefix_readable (by decide) (by decide)
      (prefix_of_prefix_append ?_ hprefix))
    intro c x hword
    rw [comma_of_groupWord hword]
    decide
  exact matchAt?_of_readsOnly hreads none

theorem groupPath_none (name : Text) : groupPath name none = "/admin/groups/".toList ++ readable true name := by
  exact congrArg ("/admin/groups/".toList ++ ·) (List.append_nil (readable true name))

/-- Without a comma the lists of groups are rivals. -/
theorem match?_groupList (hne : name ≠ []) (hfilter : ¬("q/filter:" : Text) <+: name) :
    ∀ r ∈ [Route.groupListOffset, .groupListFilterOffset, .groupListFilter],
      r.match? (groupPath name none) = none := by
  have hseen : readable true name ≠ [] := fun h => hne (Percent.readable_eq_nil.1 h)
  have hfilter : ¬("q/filter:" : Text) <+: readable true name := fun h =>
    hfilter (Percent.prefix_of_prefix_readable (by decide) (by decide) h)
  have hcomma : ',' ∉ groupPath name none := by
    rw [groupPath_none, List.mem_append, not_or]
    exact ⟨by decide, not_mem_readable (by decide) name⟩
  intro r hr
  simp only [List.mem_cons, List.not_mem_nil, or_false] at hr
  rcases hr with rfl | rfl | rfl
  · rw [groupPath_none]
    exact match?_offsetRow_eq_none (q := "/admin/groups") rfl hseen
  · exact match?_filterOffsetRow_eq_none rfl hcomma
  · rw [groupPath_none]
    exact match?_filterRow_eq_none (q := "/admin/groups") rfl hfilter

/-- With a comma there are none. -/
theorem match?_groupRivals (hne : name ≠ []) (hfilter : detail = none → ¬("q/filter:" : Text) <+: name) :
    ∀ r ∈ (groupRoute detail).rivals "/admin/groups/" (groupLetter detail),
      r.match? (groupPath name detail) = none := by
  have htable : ∀ p ∈ [(some GroupDetail.members, []), (some .log, []),
      (none, [Route.groupListOffset, .groupListFilterOffset, .groupListFilter])],
      (groupRoute p.1).rivals "/admin/groups/" (groupLetter p.1) = p.2 := by
    decide
  match detail with
  | some .members =>
    rw [htable (some .members, []) (by decide)]
    exact fun _ h => absurd h List.not_mem_nil
  | some .log =>
    rw [htable (some .log, []) (by decide)]
    exact fun _ h => absurd h List.not_mem_nil
  | none =>
    rw [htable (none, [.groupListOffset, .groupListFilterOffset, .groupListFilter]) (by decide)]
    exact match?_groupList hne (hfilter rfl)

theorem commasLeadTo_groupPath (name : Text) (detail : Option GroupDetail) :
    CommasLeadTo (groupLetter detail) (groupPath name detail) := by
  have hseen : ',' ∉ readable true name := not_mem_readable (by decide) name
  refine CommasLeadTo.append_left (by decide) (CommasLeadTo.append_left hseen ?_)
  match detail with
  | some .members => exact CommasLeadTo.comma rfl (commasLeadTo_of_not_mem (by decide))
  | some .log => exact CommasLeadTo.comma rfl (commasLeadTo_of_not_mem (by decide))
  | none => exact commasLeadTo_of_not_mem List.not_mem_nil

/-- If the route of the page matches, and the name is not taken for a filter, no other route takes the
path. -/
theorem takes_group_of_match? {found : List (Text × Text)} (hne : name ≠ [])
    (hfilter : detail = none → ¬("q/filter:" : Text) <+: name)
    (hmatch : (groupRoute detail).match? (groupPath name detail) = some found) :
    (groupRoute detail).Takes (groupPath name detail) found :=
  Route.takes_of_commas hmatch (commasLeadTo_groupPath name detail) (match?_groupRivals hne hfilter)

/-- **Each page of a group has its route.** -/
theorem takes_group (hname : IsAddressableGroup name detail) :
    (groupRoute detail).Takes (groupPath name detail) [("group", readable true name)] :=
  takes_group_of_match? hname.ne_nil hname.filter (match?_groupRoute hname)

/-- The handler presents the page. -/
theorem gives_groupPage {A : Answers} {d : Deployment} {initialLoad : Bool} {l : Location}
    {result : Except Failure Action}
    (h : ((groupRoute detail).handle d initialLoad l
      ((groupRoute detail).captured [("group", readable true name)])).Gives A result) :
    result = .ok (.present (.group name detail)) := by
  have hhandle : ∀ c : Captures, (groupRoute detail).handle d initialLoad l c = groupPage c detail := by
    match detail with
    | some .members => exact fun _ => rfl
    | some .log => exact fun _ => rfl
    | none => exact fun _ => rfl
  have hgroup : ((groupRoute detail).captured [("group".toList, readable true name)]).require "group" =
      .ok name :=
    require_readable (groupRoute detail) true rfl
  rw [hhandle, groupPage, hgroup] at h
  exact h

theorem groupAddress_eq (name : Text) (detail : Option GroupDetail) :
    groupAddress name detail = "/admin/groups/".toList ++ escapeSegment true name ++ groupWord detail := by
  rcases detail with _ | _ | _
  · rfl
  · rfl
  · rfl

theorem not_mem_groupWord (detail : Option GroupDetail) : ∀ c ∈ ['%', '?', '#'], c ∉ groupWord detail := by
  rcases detail with _ | _ | _
  · exact List.all_iff_forall_prop.1 (by decide)
  · exact List.all_iff_forall_prop.1 (by decide)
  · exact List.all_iff_forall_prop.1 (by decide)

theorem matchPath_groupAddress (name : Text) (detail : Option GroupDetail) :
    (Location.parse (groupAddress name detail)).matchPath = groupPath name detail := by
  have haddress : groupAddress name detail =
      "/admin/groups/".toList ++ (escapeSegment true name ++ groupWord detail) := by
    rw [groupAddress_eq, List.append_assoc]
  have hword := not_mem_groupWord detail
  have habsent : ∀ c ∈ ['?', '#'], c ∉ groupAddress name detail := by
    intro c hc
    have hmark : Percent.isSegmentChar c = false ∧ c ∉ ("/admin/groups/" : Text) ∧
        c ∈ ['%', '?', '#'] := by
      revert c
      exact List.all_iff_forall_prop.1 (by decide)
    obtain ⟨hsegment, hopening, hmem⟩ := hmark
    rw [haddress, List.mem_append, List.mem_append, not_or, not_or]
    exact ⟨hopening, not_mem_escapeSegment hsegment name, hword c hmem⟩
  have hne : groupAddress name detail ≠ [] := by
    rw [haddress]
    exact List.cons_ne_nil _ _
  have hparse := Location.matchPath_parse_of_front hne (habsent '?' (by decide)) (habsent '#' (by decide))
    front_nil
  rw [List.append_nil] at hparse
  rw [hparse, haddress, Percent.unescape_plain_append _ (by decide),
    Percent.unescape_escapeSegment_append, Percent.unescape_plain _ (hword '%' (by decide))]
  rfl

/-- Navigating to the address of a page of a group presents the page of the name that its route captures. -/
theorem action_navigate_of_takes_group {σ : Type} {n : Navigator} {s : Session σ} {st : σ} {seen : Text}
    (hn : n.IsStandard) (hs : s.Obeys .signedIn st)
    (htakes : (groupRoute detail).Takes (groupPath name detail) [("group", readable true seen)]) :
    ((n.navigate (groupAddress name detail)).1.run s st).1.action = .present (.group seen detail) := by
  rw [← matchPath_groupAddress] at htakes
  refine n.run_navigate hn hs htakes ?_
  intro initialLoad result hgives
  rw [gives_groupPage (Handling.gives_guard_signedIn hgives)]
  rfl

/-- Navigating to the address of a page of a group presents it. -/
theorem action_navigate_groupAddress {σ : Type} {n : Navigator} {s : Session σ} {st : σ}
    (hn : n.IsStandard) (hs : s.Obeys .signedIn st) (hname : IsAddressableGroup name detail) :
    ((n.navigate (groupAddress name detail)).1.run s st).1.action = .present (.group name detail) := by
  exact action_navigate_of_takes_group hn hs (takes_group hname)

end Group

/-! ### There and back -/

/-- The pages of the administration that their address can show. -/
def View.IsAdministration : View → Prop
  | .repo v => v.IsAddressable
  | .admin v => v.IsAddressable
  | .group name detail => IsAddressableGroup name detail
  | _ => False

/-- **Navigating to the address of a page of the administration presents the page**, for every
navigator over all routes at the root of its server and every session that is signed in. -/
theorem Navigator.action_navigate_administration {σ : Type} {n : Navigator} {s : Session σ} {st : σ}
    (hn : n.IsStandard) (hs : s.Obeys .signedIn st) {v : View} (hv : v.IsAdministration) :
    ((n.navigate v.address).1.run s st).1.action = .present v := by
  cases v with
  | repo v => exact RepoView.action_navigate_repoAddress hn hs hv
  | admin v => exact AdminView.action_navigate_adminAddress hn hs hv
  | group name detail => exact action_navigate_groupAddress hn hs hv
  | _ => exact hv.elim

/-- The last page of a list with marks of addresses in the names. -/
def RepoView.sample : RepoView :=
  { repo := "a, b/ /c,access", detail := .tags, filter := some "x,1/\u0000é", offset := 4294967295 }

/-- The dialog for a new group, behind the first page. -/
def AdminView.sample : AdminView :=
  { list := .groups, offset := 25, openCreate := true }

theorem RepoView.isAddressable_sample : sample.IsAddressable :=
  ⟨by decide, by decide, by decide⟩

theorem AdminView.isAddressable_sample : sample.IsAddressable :=
  ⟨by decide, by decide⟩

theorem isAddressableGroup_sample : IsAddressableGroup "q/filter:a,info" (some .log) :=
  ⟨by decide, by decide, nofun⟩

theorem Navigator.action_navigate_administration_sample :
    overAll.IsStandard ∧ Session.scripted.Obeys .signedIn { loggedIn := true } ∧
      View.IsAdministration (.repo .sample) ∧ View.IsAdministration (.admin .sample) ∧
      View.IsAdministration (.group "q/filter:a,info" (some .log)) ∧
      ((overAll.navigate (View.repo .sample).address).1.run .scripted { loggedIn := true }).1.action =
        .present (.repo .sample) ∧
      ((overAll.navigate (View.admin .sample).address).1.run .scripted { loggedIn := true }).1.action =
        .present (.admin .sample) ∧
      ((overAll.navigate (View.group "q/filter:a,info" (some .log)).address).1.run .scripted
        { loggedIn := true }).1.action = .present (.group "q/filter:a,info" (some .log)) := by
  have hs : Session.scripted.Obeys .signedIn { loggedIn := true } :=
    Session.scripted_obeys_signedIn rfl rfl
  have hrepo : View.IsAdministration (.repo .sample) := RepoView.isAddressable_sample
  have hadmin : View.IsAdministration (.admin .sample) := AdminView.isAddressable_sample
  have hgroup : View.IsAdministration (.group "q/filter:a,info" (some .log)) := isAddressableGroup_sample
  exact ⟨isStandard_overAll, hs, hrepo, hadmin, hgroup,
    action_navigate_administration isStandard_overAll hs hrepo,
    action_navigate_administration isStandard_overAll hs hadmin,
    action_navigate_administration isStandard_overAll hs hgroup⟩

end ReviewRouter
