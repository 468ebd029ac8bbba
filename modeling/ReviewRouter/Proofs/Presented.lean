import ReviewRouter.Proofs.Access
import ReviewRouter.Proofs.Captures
import ReviewRouter.Proofs.Pattern.Parts

/-!
# Where views come from

A view that a handler presents names the route it belongs to, and its parameters are those that the
path was read with.

* `View.Source` — the route of a view, and where its parameters were read;
* `source_of_handle` — **what a handler presents comes from its route**;
* `Navigator.exists_handle`, `Navigator.exists_source` — **so does what a navigation presents**;
* `Route.isCaptured`, `Route.get?_eq_none`, `Route.get?_ne_nil` — a capture was spelled by a part of that
  name; without such a part there is none, and most are never empty.
-/

namespace ReviewRouter

open Pattern

/-! ### Routes of the administration -/

/-- The page of a repository that a route leads to. -/
def Route.repoDetail? : Route → Option RepoDetail
  | .repoGeneral => some .general
  | .repoAccess => some .access
  | .repoCommands => some .commands
  | .repoDashboards => some .dashboards
  | .branchListOffset | .branchListFilterOffset | .branchListFilter => some .branches
  | .tagListOffset | .tagListFilterOffset | .tagListFilter => some .tags
  | _ => none

/-- The list for administrators that a route leads to, and whether it opens the dialog for a new
item. -/
def Route.adminList? : Route → Option (AdminList × Bool)
  | .groupListOffset => some (.groups, true)
  | .groupListFilterOffset | .groupListFilter => some (.groups, false)
  | .repoListOffset => some (.repos, true)
  | .repoListFilterOffset | .repoListFilter => some (.repos, false)
  | .pluginListOffset | .pluginListFilterOffset | .pluginListFilter => some (.plugins, false)
  | _ => none

/-- The page of a group that a route leads to. -/
def Route.groupDetail? : Route → Option (Option GroupDetail)
  | .groupAuditLog => some (some .log)
  | .groupMembers => some (some .members)
  | .group => some none
  | _ => none

/-! ### Sources -/

/-- The route of a view, and where its parameters were read; for pages of a change the handler that
gives them. -/
def View.Source (A : Answers) (l : Location) (c : Captures) (r : Route) (v : View) : Prop :=
  match v with
  | .search w =>
    (r = .query ∧ ∃ q, c.get? "query" = some q ∧ ∃ offset, w = { query := some q, offset }) ∨
      (r = .changeIdQuery ∧ ∃ q, c.get? "change_id" = some q ∧ w = { query := some q })
  | .topic t => r = .topic ∧ c.get? "topic" = some t
  | .documentationSearch filter =>
    r = .documentationSearchFilter ∧ ∃ t, c.get? "filter" = some t ∧ filter = some t
  | .pluginScreen plugin screen =>
    r = .pluginScreen ∧ c.get? "plugin" = some plugin ∧ c.get? "screen" = some screen
  | .repo w =>
    r.repoDetail? = some w.detail ∧ c.get? "repo" = some w.repo ∧ w.filter = filterCapture? c ∧
      c.offset "offset" = .ok w.offset
  | .admin w =>
    ∃ canCreate, r.adminList? = some (w.list, canCreate) ∧ w.filter = filterCapture? c ∧
      c.offset "offset" = .ok w.offset ∧ w.openCreate = (canCreate && l.hash == "create")
  | .group id detail => r.groupDetail? = some detail ∧ c.get? "group" = some id
  | .change _ =>
    (r = .change ∧ (handleChange l c).Gives A (.ok (.present v))) ∨
      (r = .changeEdit ∧ (handleChangeEdit l c).Gives A (.ok (.present v))) ∨
        (r = .commentsTab ∧ (handleCommentsTab c).Gives A (.ok (.present v)))
  | .diff _ =>
    (r = .diff ∧ (handleDiff l c).Gives A (.ok (.present v))) ∨
      (r = .comment ∧ (handleComment c).Gives A (.ok (.present v)))
  | .edit _ => r = .diffEdit ∧ (handleDiffEdit l c).Gives A (.ok (.present v))
  | _ => True

section Handlers

variable {A : Answers} {l : Location} {c : Captures} {r : Route} {v : View}

theorem source_repoPage {detail : RepoDetail} (hr : r.repoDetail? = some detail)
    (h : (repoPage c detail).Gives A (.ok (.present v))) : v.Source A l c r := by
  simp only [repoPage, Handling.gives_bind_ok, Handling.gives_lift, Handling.gives_pure] at h
  obtain ⟨repo, hrepo, offset, hoffset, h⟩ := h
  obtain rfl := Action.present.inj (Except.ok.inj h)
  exact ⟨hr, Captures.get?_of_require hrepo.symm, rfl, hoffset.symm⟩

theorem source_adminPage {list : AdminList} {canCreate : Bool} (hr : r.adminList? = some (list, canCreate))
    (h : (adminPage l c list canCreate).Gives A (.ok (.present v))) : v.Source A l c r := by
  simp only [adminPage, Handling.gives_bind_ok, Handling.gives_lift, Handling.gives_pure] at h
  obtain ⟨offset, hoffset, h⟩ := h
  obtain rfl := Action.present.inj (Except.ok.inj h)
  exact ⟨canCreate, hr, rfl, hoffset.symm, rfl⟩

theorem source_groupPage {detail : Option GroupDetail} (hr : r.groupDetail? = some detail)
    (h : (groupPage c detail).Gives A (.ok (.present v))) : v.Source A l c r := by
  simp only [groupPage, Handling.gives_bind_ok, Handling.gives_lift, Handling.gives_pure] at h
  obtain ⟨id, hid, h⟩ := h
  obtain rfl := Action.present.inj (Except.ok.inj h)
  exact ⟨hr, Captures.get?_of_require hid.symm⟩

theorem source_userDashboard (h : (handleUserDashboard l c).Gives A (.ok (.present v))) :
    v.Source A l c r := by
  obtain ⟨user, -, ⟨d, -, hshown⟩ | ⟨-, hshown⟩ | hled | hled⟩ := exists_of_handleUserDashboard h
  · obtain rfl := Action.present.inj hshown
    exact trivial
  · obtain rfl := Action.present.inj hshown
    exact trivial
  · cases hled
  · cases hled

/-! ### Pages of a change -/

/-- What settling presents is the view itself, with its range in canonical form. -/
theorem View.of_settle {w : View} {given : PatchRange} (hgiven : w.range? = some given)
    (h : w.settle = .present v) : ∃ range, given.normalize = (range, false) ∧ v = w.withRange range := by
  cases hnormal : given.normalize with
  | mk range moved =>
    simp only [settle, hgiven, hnormal] at h
    cases moved with
    | true => cases h
    | false => exact ⟨range, rfl, (Action.present.inj h).symm⟩

theorem exists_of_handleChange (h : (handleChange l c).Gives A (.ok (.present v))) :
    ∃ project change base patch range, c.get? "repo" = some project ∧
      c.parse Numeral.u32? "change" = .ok change ∧ c.parse? PatchSet.ofText? "base" = .ok base ∧
      c.parse? PatchSet.ofText? "patch" = .ok patch ∧
      PatchRange.normalize ⟨base, patch⟩ = (range, false) ∧
      v = .change
        { project := some project, change, range
          tab := l.queryValue? "tab", filter := l.queryValue? "filter"
          select := l.queryValue? "select"
          attempt := (l.queryValue? "attempt").bind Numeral.u32? } := by
  obtain ⟨project, change, base, patch, hproject, hchange, hbase, hpatch, hsettle⟩ :=
    settles_of_handleChange h
  obtain ⟨range, hrange, rfl⟩ := View.of_settle rfl hsettle.symm
  exact ⟨project, change, base, patch, range, Captures.get?_of_require hproject, hchange, hbase, hpatch,
    hrange, rfl⟩

theorem exists_of_handleChangeEdit (h : (handleChangeEdit l c).Gives A (.ok (.present v))) :
    ∃ project change patch range, c.get? "repo" = some project ∧
      c.parse Numeral.u32? "change" = .ok change ∧ c.parse? PatchSet.ofText? "patch" = .ok patch ∧
      PatchRange.normalize ⟨none, patch⟩ = (range, false) ∧
      v = .change
        { project := some project, change, range, edit := true, tab := l.queryValue? "tab" } := by
  obtain ⟨project, change, patch, hproject, hchange, hpatch, hsettle⟩ := settles_of_handleChangeEdit h
  obtain ⟨range, hrange, rfl⟩ := View.of_settle rfl hsettle.symm
  exact ⟨project, change, patch, range, Captures.get?_of_require hproject, hchange, hpatch, hrange, rfl⟩

theorem exists_of_handleCommentsTab (h : (handleCommentsTab c).Gives A (.ok (.present v))) :
    ∃ project change, c.get? "repo" = some project ∧ c.parse Numeral.u32? "change" = .ok change ∧
      v = .change { project := some project, change, comment := c.get? "comment" } := by
  obtain ⟨project, change, hproject, hchange, hsettle⟩ := settles_of_handleCommentsTab h
  obtain ⟨range, hrange, rfl⟩ := View.of_settle rfl hsettle.symm
  obtain rfl : {} = range := congrArg Prod.fst hrange
  exact ⟨project, change, Captures.get?_of_require hproject, hchange, rfl⟩

theorem exists_of_handleComment (h : (handleComment c).Gives A (.ok (.present v))) :
    ∃ project change comment, c.get? "repo" = some project ∧
      c.parse Numeral.u32? "change" = .ok change ∧ c.get? "comment" = some comment ∧
      v = .diff { project := some project, change, comment := some comment } := by
  obtain ⟨project, change, comment, hproject, hchange, hcomment, hsettle⟩ := settles_of_handleComment h
  obtain ⟨range, hrange, rfl⟩ := View.of_settle rfl hsettle.symm
  obtain rfl : {} = range := congrArg Prod.fst hrange
  exact ⟨project, change, comment, Captures.get?_of_require hproject, hchange,
    Captures.get?_of_require hcomment, rfl⟩

theorem exists_of_handleDiff (h : (handleDiff l c).Gives A (.ok (.present v))) :
    ∃ project change base patch path range, c.get? "repo" = some project ∧
      c.parse Numeral.u32? "change" = .ok change ∧ c.parse? PatchSet.ofText? "base" = .ok base ∧
      c.parse? PatchSet.ofText? "patch" = .ok patch ∧ c.get? "path" = some path ∧
      PatchRange.normalize ⟨base, patch⟩ = (range, false) ∧
      v = .diff
        { project := some project, change, range, path := some path
          line := (LineAddress.ofText? l.hash).map LineAddress.line
          leftSide := (LineAddress.ofText? l.hash).any LineAddress.leftSide } := by
  obtain ⟨project, change, base, patch, path, hproject, hchange, hbase, hpatch, hpath, hsettle⟩ :=
    settles_of_handleDiff h
  obtain ⟨range, hrange, rfl⟩ := View.of_settle rfl hsettle.symm
  exact ⟨project, change, base, patch, path, range, Captures.get?_of_require hproject, hchange, hbase,
    hpatch, Captures.get?_of_require hpath, hrange, rfl⟩

theorem exists_of_handleDiffEdit (h : (handleDiffEdit l c).Gives A (.ok (.present v))) :
    ∃ project change patch path range, c.get? "repo" = some project ∧
      c.parse Numeral.u32? "change" = .ok change ∧ c.parse PatchSet.ofText? "patch" = .ok patch ∧
      c.get? "path" = some path ∧ PatchRange.normalize ⟨none, some patch⟩ = (range, false) ∧
      v = .edit { project := some project, change, range, path, line := Numeral.u32? l.hash } := by
  obtain ⟨project, change, patch, path, hproject, hchange, hpatch, hpath, hsettle⟩ :=
    settles_of_handleDiffEdit h
  obtain ⟨range, hrange, rfl⟩ := View.of_settle rfl hsettle.symm
  exact ⟨project, change, patch, path, range, Captures.get?_of_require hproject, hchange, hpatch,
    Captures.get?_of_require hpath, hrange, rfl⟩

/-! ### All handlers -/

/-- **What a handler presents comes from its route.** -/
theorem source_of_handle {d : Deployment} {initialLoad : Bool}
    (h : (r.handle d initialLoad l c).Gives A (.ok (.present v))) : v.Source A l c r := by
  delta Route.handle at h
  cases r <;> dsimp only at h
  case root => exact absurd h not_gives_present_root
  case dashboard => exact source_userDashboard h
  case customDashboard =>
    split at h
    · obtain rfl := Action.present.inj (Except.ok.inj h)
      exact trivial
    · cases h
  case projectDashboard =>
    simp only [repoDashboard, Handling.gives_bind_ok, Handling.gives_lift, Handling.gives_pure] at h
    obtain ⟨dashboard, ⟨repo, -, name, -, hdashboard⟩, h⟩ := h
    obtain rfl := Except.ok.inj hdashboard
    obtain rfl := Action.present.inj (Except.ok.inj h)
    exact trivial
  case groupAuditLog | groupMembers | group => exact source_groupPage rfl h
  case repoCommands | repoGeneral | repoAccess | repoDashboards | branchListOffset
      | branchListFilterOffset | branchListFilter | tagListOffset | tagListFilterOffset
      | tagListFilter =>
    exact source_repoPage rfl h
  case groupListOffset | groupListFilterOffset | groupListFilter | repoListOffset
      | repoListFilterOffset | repoListFilter | pluginListOffset | pluginListFilterOffset
      | pluginListFilter =>
    exact source_adminPage rfl h
  case query =>
    simp only [Handling.gives_bind_ok, Handling.gives_lift, Handling.gives_pure] at h
    obtain ⟨offset, -, q, hq, h⟩ := h
    obtain rfl := Action.present.inj (Except.ok.inj h)
    exact Or.inl ⟨rfl, q, Captures.get?_of_require hq.symm, offset, rfl⟩
  case changeIdQuery =>
    simp only [Handling.gives_bind_ok, Handling.gives_lift, Handling.gives_pure] at h
    obtain ⟨q, hq, h⟩ := h
    obtain rfl := Action.present.inj (Except.ok.inj h)
    exact Or.inr ⟨rfl, q, Captures.get?_of_require hq.symm, rfl⟩
  case topic =>
    simp only [Handling.gives_bind_ok, Handling.gives_lift, Handling.gives_pure] at h
    obtain ⟨t, ht, h⟩ := h
    obtain rfl := Action.present.inj (Except.ok.inj h)
    exact ⟨rfl, Captures.get?_of_require ht.symm⟩
  case documentationSearchFilter =>
    simp only [Handling.gives_bind_ok, Handling.gives_lift, Handling.gives_pure] at h
    obtain ⟨t, ht, h⟩ := h
    obtain rfl := Action.present.inj (Except.ok.inj h)
    exact ⟨rfl, t, Captures.get?_of_require ht.symm, rfl⟩
  case pluginScreen =>
    simp only [Handling.gives_bind_ok, Handling.gives_lift, Handling.gives_pure] at h
    obtain ⟨plugin, hplugin, screen, hscreen, h⟩ := h
    obtain rfl := Action.present.inj (Except.ok.inj h)
    exact ⟨rfl, Captures.get?_of_require hplugin.symm, Captures.get?_of_require hscreen.symm⟩
  case change =>
    have hpresent := h
    obtain ⟨_, _, _, _, _, _, _, _, _, _, rfl⟩ := exists_of_handleChange h
    exact Or.inl ⟨rfl, hpresent⟩
  case changeEdit =>
    have hpresent := h
    obtain ⟨_, _, _, _, _, _, _, _, rfl⟩ := exists_of_handleChangeEdit h
    exact Or.inr (Or.inl ⟨rfl, hpresent⟩)
  case commentsTab =>
    have hpresent := h
    obtain ⟨_, _, _, _, rfl⟩ := exists_of_handleCommentsTab h
    exact Or.inr (Or.inr ⟨rfl, hpresent⟩)
  case diff =>
    have hpresent := h
    obtain ⟨_, _, _, _, _, _, _, _, _, _, _, _, rfl⟩ := exists_of_handleDiff h
    exact Or.inl ⟨rfl, hpresent⟩
  case comment =>
    have hpresent := h
    obtain ⟨_, _, _, _, _, _, rfl⟩ := exists_of_handleComment h
    exact Or.inr ⟨rfl, hpresent⟩
  case diffEdit =>
    have hpresent := h
    obtain ⟨_, _, _, _, _, _, _, _, _, _, rfl⟩ := exists_of_handleDiffEdit h
    exact ⟨rfl, hpresent⟩
  case changeLegacy => exact absurd h not_gives_present_legacyChange
  case newAgreements =>
    obtain rfl := Action.present.inj (Except.ok.inj h)
    exact trivial
  case settings =>
    obtain rfl := Action.present.inj (Except.ok.inj h)
    exact trivial
  case settingsLegacy =>
    simp only [Handling.gives_bind_ok, Handling.gives_lift, Handling.gives_pure] at h
    obtain ⟨token, -, h⟩ := h
    obtain rfl := Action.present.inj (Except.ok.inj h)
    exact trivial
  case documentation | fallback =>
    split at h <;> cases h
  -- the others present nothing
  all_goals
    simp only [repoDashboard, Handling.gives_bind_ok, Handling.gives_lift, Handling.gives_pure,
      Except.ok.injEq, reduceCtorEq, and_false, exists_false] at h

end Handlers

namespace Navigator

variable {n : Navigator} {σ : Type} {s : Session σ} {st : σ} {url : Text} {v : View}

/-- What a navigation presents was presented by the handler of the route that takes its path, wherever the
navigator is deployed. -/
theorem exists_handle_of_table (htable : RouteTable.standard = .ok n.table)
    (h : ((n.navigate url).1.run s st).1.action = .present v) :
    ∃ (r : Route) (found : List (Text × Text)),
      r.Takes (Location.ofAddress n.deployment url).matchPath found ∧
        (r.handle n.deployment (n.issued == 0) (Location.ofAddress n.deployment url)
          (r.captured found)).Gives .any (.ok (.present v)) := by
  rcases navigate_yields_route htable (Plan.yields_run (s.obeys_any st) (n.navigate url).1).1 with
    ⟨-, haction⟩ | ⟨r, found, result, htakes, hresult, haction⟩
  · rw [h] at haction
    cases haction
  · rw [h] at haction
    rw [Action.ofResult_eq_present_iff.1 haction.symm] at hresult
    rcases exists_of_guard hresult with ⟨-, -, hled⟩ | ⟨-, hhandle⟩
    · cases hled
    · exact ⟨r, found, htakes, hhandle⟩

/-- What a navigation presents was presented by the handler of the route that takes its path. -/
theorem exists_handle (hn : n.IsStandard) (h : ((n.navigate url).1.run s st).1.action = .present v) :
    ∃ (r : Route) (found : List (Text × Text)), r.Takes (Location.parse url).matchPath found ∧
      (r.handle n.deployment (n.issued == 0) (Location.parse url) (r.captured found)).Gives .any
        (.ok (.present v)) := by
  have hhandle := exists_handle_of_table hn.table h
  rw [Location.ofAddress_eq_parse hn.base] at hhandle
  exact hhandle

/-- What a navigation presents comes from the route that takes its path, wherever the navigator is
deployed. -/
theorem exists_source_of_table (htable : RouteTable.standard = .ok n.table)
    (h : ((n.navigate url).1.run s st).1.action = .present v) :
    ∃ (r : Route) (found : List (Text × Text)),
      r.Takes (Location.ofAddress n.deployment url).matchPath found ∧
        v.Source .any (Location.ofAddress n.deployment url) (r.captured found) r := by
  obtain ⟨r, found, htakes, hhandle⟩ := exists_handle_of_table htable h
  exact ⟨r, found, htakes, source_of_handle hhandle⟩

/-- **What a navigation presents comes from the route that takes its path.** -/
theorem exists_source (hn : n.IsStandard) (h : ((n.navigate url).1.run s st).1.action = .present v) :
    ∃ (r : Route) (found : List (Text × Text)), r.Takes (Location.parse url).matchPath found ∧
      v.Source .any (Location.parse url) (r.captured found) r := by
  have hsource := exists_source_of_table hn.table h
  rw [Location.ofAddress_eq_parse hn.base] at hsource
  exact hsource

end Navigator

/-! ### Captures -/

namespace Route

variable {r : Route} {path name t : Text} {found : List (Text × Text)}

/-- A capture was spelled by a part of its name. -/
theorem isCaptured (hmatch : r.match? path = some found) (hget : (r.captured found).get? name = some t) :
    ∃ p u before after cs, (name, p) ∈ (row r.shape).parts ∧ p.Spells before u after cs ∧
      t = Percent.unescapeValue u := by
  rw [get?_captured] at hget
  obtain ⟨u, hu, rfl⟩ := Option.map_eq_some_iff.1 hget
  obtain ⟨p, hp, before, after, cs, hspells⟩ := isCaptured_of_matchAt? hmatch hu
  exact ⟨p, u, before, after, cs, hp, hspells, rfl⟩

/-- Without a part of its name there is no capture. -/
theorem get?_eq_none (hmatch : r.match? path = some found) (hname : (row r.shape).parts.lookup name = none) :
    (r.captured found).get? name = none := by
  cases hget : (r.captured found).get? name with
  | none => rfl
  | some t =>
    obtain ⟨p, u, before, after, cs, hp, -, -⟩ := isCaptured hmatch hget
    have hne := List.lookup_eq_none_iff.1 hname (name, p) hp
    rw [bne_self_eq_false] at hne
    cases hne

/-- The names of captures that may be empty. -/
def mayBeEmpty : List Text := ["filter", "topic", "rest"]

theorem neverEmpty_of_mem_parts :
    ∀ r ∈ all, ∀ x ∈ (row r.shape).parts, x.1 ∈ mayBeEmpty ∨ x.2.neverEmpty = true := by
  decide

/-- The other captures are never empty. -/
theorem get?_ne_nil (hmatch : r.match? path = some found) (hname : name ∉ mayBeEmpty)
    (hget : (r.captured found).get? name = some t) : t ≠ [] := by
  obtain ⟨p, u, before, after, cs, hp, hspells, rfl⟩ := isCaptured hmatch hget
  have hcertain : p.neverEmpty = true :=
    (neverEmpty_of_mem_parts r (mem_all r) (name, p) hp).resolve_left hname
  exact Percent.unescapeValue_ne_nil (ne_nil_of_neverEmpty p hcertain hspells)

end Route

end ReviewRouter
