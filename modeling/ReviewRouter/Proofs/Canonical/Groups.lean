import ReviewRouter.Proofs.Presented
import ReviewRouter.Proofs.RoundTrip.Administration

/-!
# Canonical addresses of groups

Below the path of the groups a name may stand behind a mark, which is no part of it.  The address of a group
has no mark, so a name that begins like one loses its beginning there; and one that begins like the filter of
the list of groups is taken for that.

* `IsStableGroup` — the pages of groups that are not mistaken in their own address;
* `match?_groupRoute_of_mark` — **the mark is no part of the name**, whatever stands behind it;
* `action_navigate_stableGroup` — the address of such a page presents it;
* `isStableGroup_of_presented` — and no other address of a group presents its page;
* `Navigator.group_address_stable_iff` — **the address of a page of a group that was presented presents it
  again exactly if it is one of these**.
-/

namespace ReviewRouter

open Pattern
open Percent (readable unescapeValue)

variable {id : Text} {detail : Option GroupDetail}

/-- The pages of groups that are not mistaken in their own address: nothing is left of the name behind a mark,
and it is not taken for a filter. -/
structure IsStableGroup (id : Text) (detail : Option GroupDetail) : Prop where
  uuid : ∀ rest : Text, rest ≠ [] → id ≠ "uuid-" ++ rest
  filter : detail = none → ¬("q/filter:" : Text) <+: id

/-! ### Names behind the mark -/

theorem groupPath_mark (rest : Text) (detail : Option GroupDetail) :
    groupPath ("uuid-" ++ rest) detail =
      "/admin/groups/".toList ++ ("uuid-".toList ++ (readable true rest ++ groupWord detail)) := by
  have hmark : readable true ("uuid-" ++ rest) = "uuid-".toList ++ readable true rest :=
    Percent.readable_append true "uuid-" rest
  rw [← List.append_assoc "uuid-".toList, ← hmark]
  rfl

/-- **The mark is no part of the name**, whatever stands behind it. -/
theorem match?_groupRoute_of_mark {rest : Text} (hne : rest ≠ []) (detail : Option GroupDetail) :
    (groupRoute detail).match? (groupPath ("uuid-" ++ rest) detail) =
      some [("group".toList, readable true rest)] := by
  have hname := readsOnly_groupName hne detail
  rw [groupPath_mark, Route.match?, shape_groupRoute]
  show (row (lit "/admin/groups/" ++ (maybe (row (lit "uuid-")) :: _))).matchAt? none _ = _
  rw [matchAt?, run_lit]
  refine run_maybe_lit "uuid-" ?_
  rw [← List.append_nil (readable true rest ++ groupWord detail)]
  refine run_row_of_unique (hname.reads _) fun w r cs heq hreads => ?_
  rw [List.append_nil] at heq
  exact hname.only _ w r cs heq hreads

/-- A name that is nothing but the mark is the name, for there is none behind it. -/
theorem match?_groupRoute_mark (detail : Option GroupDetail) :
    (groupRoute detail).match? (groupPath "uuid-" detail) = some [("group".toList, readable true "uuid-")] := by
  have hpath : groupPath "uuid-" detail = "/admin/groups/".toList ++ ("uuid-".toList ++ groupWord detail) :=
    groupPath_mark [] detail
  have hname := readsOnly_groupName (by decide : ("uuid-" : Text) ≠ []) detail
  -- behind the mark there is a comma, or nothing
  have hbehind : ∀ before, (row (.capture "group" (plus (.besides ',')) :: (lit (groupWord detail) ++ [stop]))).run
      (fun e => some e.captured) ⟨before, groupWord detail, []⟩ = none := by
    refine fun before => run_row_eq_none fun w r cs heq hreads => ?_
    obtain ⟨u, v, cv, rfl, -, hne, hrun, -⟩ := reads_capture_plus.1 hreads
    cases u with
    | nil => exact hne rfl
    | cons c u => exact CharSet.mem_besides.1 (hrun c List.mem_cons_self) (comma_of_groupWord heq)
  rw [hpath, Route.match?, shape_groupRoute]
  show (row (lit "/admin/groups/" ++ (maybe (row (lit "uuid-")) :: _))).matchAt? none _ = _
  rw [matchAt?, run_lit, run_maybe, ← List.append_nil (lit "uuid-".toList), run_lit]
  refine (congrArg (· <|> _) (hbehind _)).trans ?_
  exact matchAt?_of_readsOnly hname _

/-- The route of the page reads such a name as a whole. -/
theorem takes_stableGroup (hne : id ≠ []) (hstable : IsStableGroup id detail) :
    (groupRoute detail).Takes (groupPath id detail) [("group", readable true id)] := by
  refine takes_group_of_match? hne hstable.filter ?_
  by_cases hmark : ("uuid-" : Text) <+: id
  · obtain ⟨rest, rfl⟩ := hmark
    obtain rfl : rest = [] := by
      by_contra hrest
      exact hstable.uuid rest hrest rfl
    rw [List.append_nil]
    exact match?_groupRoute_mark detail
  · exact match?_groupRoute ⟨hne, hmark, hstable.filter⟩

/-! ### There and back -/

section Navigation

variable {σ : Type} {n : Navigator} {s : Session σ} {st : σ}

/-- The address of such a page presents it. -/
theorem action_navigate_stableGroup (hn : n.IsStandard) (hs : s.Obeys .signedIn st) (hne : id ≠ [])
    (hstable : IsStableGroup id detail) :
    ((n.navigate (groupAddress id detail)).1.run s st).1.action = .present (.group id detail) :=
  action_navigate_of_takes_group hn hs (takes_stableGroup hne hstable)

/-- **With a mark in front the address presents the group behind it.** -/
theorem action_navigate_markedGroup (hn : n.IsStandard) (hs : s.Obeys .signedIn st) (hne : id ≠ []) {url : Text}
    (haddress : groupAddress ("uuid-" ++ id) detail = url) :
    ((n.navigate url).1.run s st).1.action = .present (.group id detail) := by
  subst haddress
  refine action_navigate_of_takes_group hn hs (takes_group_of_match? (List.cons_ne_nil _ _) ?_
    (match?_groupRoute_of_mark hne detail))
  rintro - ⟨f, hf⟩
  cases (List.cons.inj hf).1

/-- The page of a group is presented by its own route. -/
theorem exists_of_presented_group (hn : n.IsStandard) {url : Text}
    (h : ((n.navigate url).1.run s st).1.action = .present (.group id detail)) :
    ∃ found, (groupRoute detail).Takes (Location.parse url).matchPath found ∧
      ((groupRoute detail).captured found).get? "group" = some id := by
  have hroute : ∀ r : Route, ∀ detail, r.groupDetail? = some detail → r = groupRoute detail := by
    intro r
    cases r <;> decide
  obtain ⟨r, found, htakes, hdetail, hid⟩ := n.exists_source hn h
  obtain rfl := hroute r detail hdetail
  exact ⟨found, htakes, hid⟩

/-- No other address of a group presents its page. -/
theorem isStableGroup_of_presented (hn : n.IsStandard)
    (h : ((n.navigate (groupAddress id detail)).1.run s st).1.action = .present (.group id detail)) :
    IsStableGroup id detail := by
  obtain ⟨found, htakes, hid⟩ := exists_of_presented_group hn h
  rw [matchPath_groupAddress] at htakes
  constructor
  · rintro rest hrest rfl
    -- the group that is presented has a shorter name
    obtain rfl := Option.some_inj.1 (htakes.matched.symm.trans (match?_groupRoute_of_mark hrest detail))
    rw [Route.get?_captured] at hid
    have hname : unescapeValue (readable true rest) = "uuid-" ++ rest := Option.some_inj.1 hid
    rw [Percent.unescapeValue_readable] at hname
    have hmark : ("uuid-" : Text).length = 5 := rfl
    have hlength := congrArg List.length hname
    rw [List.length_append, hmark] at hlength
    omega
  · rintro rfl hfilter
    obtain ⟨f, rfl⟩ := hfilter
    -- the list with a filter is tried before
    have hlist := htakes.first .groupListFilter (by decide)
    have hprefix : ("q/filter:" : Text) <+: readable true ("q/filter:" ++ f) := by
      rw [Percent.readable_append]
      exact List.prefix_append _ _
    rw [groupPath_none] at hlist
    exact match?_filterRow_ne_none (q := "/admin/groups") rfl (not_mem_readable (by decide) _) hprefix hlist

end Navigation

namespace Navigator

/-- **The address of a page of a group that was presented presents it again exactly if** its name is not taken
for a mark with another name behind it, nor for a filter of the list of groups: for every address that led to
it, all navigators over all routes at the root of their server, and sessions that are signed in. -/
theorem group_address_stable_iff {σ τ : Type} {n n' : Navigator} {s : Session σ} {st : σ} {s' : Session τ}
    {st' : τ} (hn : n.IsStandard) (hn' : n'.IsStandard) (hs' : s'.Obeys .signedIn st') {url : Text}
    (hpresent : ((n.navigate url).1.run s st).1.action = .present (.group id detail)) :
    ((n'.navigate (View.group id detail).address).1.run s' st').1.action = .present (.group id detail) ↔
      IsStableGroup id detail := by
  obtain ⟨found, htakes, hid⟩ := exists_of_presented_group hn hpresent
  have hne : id ≠ [] := Route.get?_ne_nil htakes.matched (by decide) hid
  exact ⟨isStableGroup_of_presented hn', action_navigate_stableGroup hn' hs' hne⟩

/-- A group whose name begins with the mark, and one whose name begins like a filter: the address of the one
presents another group, that of the other the list of groups. -/
theorem group_address_unstable :
    ((overAll.navigate "/admin/groups/uuid-uuid-a").1.run .scripted { loggedIn := true }).1.action =
        .present (.group "uuid-a" none) ∧
      ((overAll.navigate (View.group "uuid-a" none).address).1.run .scripted { loggedIn := true }).1.action =
        .present (.group "a" none) ∧
      ((overAll.navigate "/admin/groups/uuid-q/filter:a").1.run .scripted { loggedIn := true }).1.action =
        .present (.group "q/filter:a" none) ∧
      ((overAll.navigate (View.group "q/filter:a" none).address).1.run .scripted
        { loggedIn := true }).1.action = .present (.admin { list := .groups, filter := some "a" }) := by
  have hs : Session.scripted.Obeys .signedIn { loggedIn := true } :=
    Session.scripted_obeys_signedIn rfl rfl
  have hlist : AdminView.IsAddressable { list := .groups, filter := some "a" } := ⟨by decide, by decide⟩
  have haddress : AdminView.address { list := .groups, filter := some "a" } =
      (View.group "q/filter:a" none).address := by decide
  have hfiltered := AdminView.action_navigate_adminAddress isStandard_overAll hs hlist
  simp only [haddress] at hfiltered
  refine ⟨?_, ?_, ?_, hfiltered⟩
  · exact action_navigate_markedGroup isStandard_overAll hs (by decide) (by decide)
  · exact action_navigate_markedGroup isStandard_overAll hs (by decide) (by decide)
  · exact action_navigate_markedGroup isStandard_overAll hs (by decide) (by decide)

/-- The address of the page with the members of such a group is not mistaken for a list. -/
theorem group_address_stable_sample :
    overAll.IsStandard ∧ Session.scripted.Obeys .signedIn { loggedIn := true } ∧
      ((overAll.navigate "/admin/groups/uuid-q/filter:a,members").1.run .scripted
        { loggedIn := true }).1.action = .present (.group "q/filter:a" (some .members)) ∧
      ((overAll.navigate (View.group "q/filter:a" (some .members)).address).1.run .scripted
        { loggedIn := true }).1.action = .present (.group "q/filter:a" (some .members)) := by
  have hs : Session.scripted.Obeys .signedIn { loggedIn := true } :=
    Session.scripted_obeys_signedIn rfl rfl
  have hpresent : ((overAll.navigate "/admin/groups/uuid-q/filter:a,members").1.run .scripted
      { loggedIn := true }).1.action = .present (.group "q/filter:a" (some .members)) :=
    action_navigate_markedGroup isStandard_overAll hs (by decide) (by decide)
  have hstable : IsStableGroup "q/filter:a" (some .members) := by
    refine ⟨fun rest hrest h => ?_, nofun⟩
    cases (List.cons.inj h).1
  exact ⟨isStandard_overAll, hs, hpresent,
    (group_address_stable_iff isStandard_overAll isStandard_overAll hs hpresent).2 hstable⟩

end Navigator

end ReviewRouter
