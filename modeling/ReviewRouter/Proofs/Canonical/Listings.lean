import ReviewRouter.Proofs.Presented
import ReviewRouter.Proofs.RoundTrip.Administration
import ReviewRouter.Proofs.RoundTrip.Names
import ReviewRouter.Proofs.RoundTrip.Search

/-!
# Canonical addresses of searches and lists

Whatever address leads to a search or to a list, with broken escapes, padded numbers or commas that
stand in the way, the view that is presented is one of those that their own address leads back to.

* `View.isListing` — searches, topics, lists of the administration, documentation and screens;
* `View.IsStableListing` — those that their address leads back to;
* `View.Source.isStableListing` — **what is presented is one of these**;
* `Navigator.action_navigate_listingAddress` — **their address presents them**;
* `Navigator.listing_address_stable` — so the address of a listing that was presented presents it again.
-/

namespace ReviewRouter

open Pattern

/-! ### Listings -/

/-- The pages of searches and lists. -/
def View.isListing : View → Bool
  | .search _ => true
  | .topic _ => true
  | .repo _ => true
  | .admin _ => true
  | .documentationSearch _ => true
  | .pluginScreen _ _ => true
  | _ => false

/-- The pages of searches and lists that their address leads back to. -/
def View.IsStableListing : View → Prop
  | .search w => ∃ q offset, q ≠ [] ∧ w = { query := some q, offset }
  | .topic _ => True
  | .repo w => w.IsAddressable
  | .admin w => w.IsAddressable
  | .documentationSearch filter => ∃ t, t ≠ [] ∧ filter = some t
  | .pluginScreen plugin screen => IsScreenName plugin ∧ IsScreenName screen
  | _ => False

/-- The address of such a page leads back to it. -/
theorem Navigator.action_navigate_listingAddress {σ : Type} {n : Navigator} {s : Session σ} {st : σ}
    (hn : n.IsStandard) (hs : s.Obeys .signedIn st) {v : View} (hv : v.IsStableListing) :
    ((n.navigate v.address).1.run s st).1.action = .present v := by
  cases v with
  | search w =>
    obtain ⟨q, offset, hne, rfl⟩ := hv
    exact SearchView.action_navigate_written hn s st (Conveys.segment true q) hne offset
  | topic t => exact action_navigate_topicAddress hn s st t
  | repo w => exact RepoView.action_navigate_repoAddress hn hs hv
  | admin w => exact AdminView.action_navigate_adminAddress hn hs hv
  | documentationSearch filter =>
    obtain ⟨t, hne, rfl⟩ := hv
    exact action_navigate_documentationAddress hn s st hne
  | pluginScreen plugin screen => exact action_navigate_screenAddress hn s st hv.1 hv.2
  | _ => exact hv.elim

/-! ### What is presented -/

/-- A filter that is read is not empty. -/
theorem filterCapture?_ne_nil (c : Captures) : filterCapture? c ≠ some [] := by
  unfold filterCapture?
  split
  · exact nofun
  · next filter hne => exact hne

theorem filterCapture?_eq_none {c : Captures} (h : c.get? "filter" = none) : filterCapture? c = none := by
  rw [filterCapture?, h]

theorem Captures.offset_eq_zero {c : Captures} (h : c.get? "offset" = none) : c.offset "offset" = .ok 0 := by
  rw [offset, parse?_none h]
  rfl

section Presented

variable {A : Answers} {l : Location} {r : Route} {path : Text} {found : List (Text × Text)}

/-- The routes of a repository page that is no list capture neither a filter nor a page number. -/
theorem Route.lookup_parts_plain :
    ∀ r ∈ all, (r.repoDetail?.any fun detail => !detail.isList) = true →
      (row r.shape).parts.lookup "filter".toList = none ∧
        (row r.shape).parts.lookup "offset".toList = none := by
  decide

/-- The routes of a list that may open the dialog for a new item capture no filter. -/
theorem Route.lookup_parts_create :
    ∀ r ∈ all, (r.adminList?.any fun list => list.2) = true →
      (row r.shape).parts.lookup "filter".toList = none ∧
        (r.adminList?.any fun list => list.1 == .plugins) = false := by
  decide

theorem isAddressable_of_source_repo (hmatch : r.match? path = some found) {w : RepoView}
    (h : (View.repo w).Source A l (r.captured found) r) : w.IsAddressable := by
  obtain ⟨hdetail, hrepo, hfilter, hoffset⟩ := h
  refine ⟨Route.get?_ne_nil hmatch (by decide) hrepo, ?_, ?_⟩
  · rw [hfilter]
    exact filterCapture?_ne_nil _
  · intro hlist
    obtain ⟨hnofilter, hnooffset⟩ := Route.lookup_parts_plain r (Route.mem_all r) (by
      rw [hdetail, Option.any_some, hlist]
      rfl)
    rw [Captures.offset_eq_zero (Route.get?_eq_none hmatch hnooffset)] at hoffset
    refine ⟨?_, (Except.ok.inj hoffset).symm⟩
    rw [hfilter, filterCapture?_eq_none (Route.get?_eq_none hmatch hnofilter)]

theorem isAddressable_of_source_admin (hmatch : r.match? path = some found) {w : AdminView}
    (h : (View.admin w).Source A l (r.captured found) r) : w.IsAddressable := by
  obtain ⟨canCreate, hlist, hfilter, -, hcreate⟩ := h
  refine ⟨?_, ?_⟩
  · rw [hfilter]
    exact filterCapture?_ne_nil _
  · intro hopen
    rw [hcreate, Bool.and_eq_true] at hopen
    have hroute : (r.adminList?.any fun list => list.2) = true := by
      rw [hlist, Option.any_some, hopen.1]
    obtain ⟨hnofilter, hnoplugins⟩ := Route.lookup_parts_create r (Route.mem_all r) hroute
    rw [hlist, Option.any_some] at hnoplugins
    refine ⟨?_, ne_of_beq_false hnoplugins⟩
    rw [hfilter, filterCapture?_eq_none (Route.get?_eq_none hmatch hnofilter)]

/-- A name of a plugin or a screen stands in the path as it is. -/
theorem isScreenName_of_get? (hmatch : Route.pluginScreen.match? path = some found) {name t : Text}
    (hget : (Route.pluginScreen.captured found).get? name = some t) : IsScreenName t := by
  obtain ⟨p, u, before, after, cs, hp, hspells, rfl⟩ := Route.isCaptured hmatch hget
  have hparts : (row Route.pluginScreen.shape).parts =
      [("plugin".toList, plus screenSet), ("screen".toList, plus screenSet)] := rfl
  rw [hparts, List.mem_cons, List.mem_singleton, Prod.mk.injEq, Prod.mk.injEq] at hp
  have hplus : p = plus screenSet := hp.elim And.right And.right
  rw [hplus] at hspells
  obtain ⟨hne, hrun, -⟩ := (spells_plus_iff _ true _ _ _ _).1 hspells
  have hu : IsScreenName u := ⟨hne, hrun⟩
  rw [Percent.unescapeValue_plain u (hu.not_mem '%' (by decide)) (hu.not_mem '+' (by decide))]
  exact hu

/-- The filter of a search in the documentation is not empty. -/
theorem ne_nil_of_get?_filter (hmatch : Route.documentationSearchFilter.match? path = some found) {t : Text}
    (hget : (Route.documentationSearchFilter.captured found).get? "filter" = some t) : t ≠ [] := by
  obtain ⟨p, u, before, after, cs, hp, hspells, rfl⟩ := Route.isCaptured hmatch hget
  have hparts : (row Route.documentationSearchFilter.shape).parts =
      [("filter".toList, plus (.besides '/'))] := rfl
  rw [hparts, List.mem_singleton, Prod.mk.injEq] at hp
  rw [hp.2] at hspells
  exact Percent.unescapeValue_ne_nil ((spells_plus_iff _ true _ _ _ _).1 hspells).1

/-- **What is presented of searches and lists is what their address leads back to.** -/
theorem View.Source.isStableListing (hmatch : r.match? path = some found) {v : View}
    (hlisting : v.isListing = true) (h : v.Source A l (r.captured found) r) : v.IsStableListing := by
  cases v with
  | search w =>
    rcases h with ⟨-, q, hq, offset, rfl⟩ | ⟨-, q, hq, rfl⟩
    · exact ⟨q, offset, Route.get?_ne_nil hmatch (by decide) hq, rfl⟩
    · exact ⟨q, 0, Route.get?_ne_nil hmatch (by decide) hq, rfl⟩
  | topic t => exact trivial
  | repo w => exact isAddressable_of_source_repo hmatch h
  | admin w => exact isAddressable_of_source_admin hmatch h
  | documentationSearch filter =>
    obtain ⟨rfl, t, ht, rfl⟩ := h
    exact ⟨t, ne_nil_of_get?_filter hmatch ht, rfl⟩
  | pluginScreen plugin screen =>
    obtain ⟨rfl, hplugin, hscreen⟩ := h
    exact ⟨isScreenName_of_get? hmatch hplugin, isScreenName_of_get? hmatch hscreen⟩
  | _ => cases hlisting

end Presented

/-! ### Stability -/

namespace Navigator

/-- **The address of a search or a list that was presented presents it again**: for every address that
led to it, all navigators over all routes at the root of their server, and sessions that are signed
in. -/
theorem listing_address_stable {σ τ : Type} {n n' : Navigator} {s : Session σ} {st : σ}
    {s' : Session τ} {st' : τ} (hn : n.IsStandard) (hn' : n'.IsStandard) (hs' : s'.Obeys .signedIn st')
    {url : Text} {v : View} (hlisting : v.isListing = true)
    (hpresent : ((n.navigate url).1.run s st).1.action = .present v) :
    ((n'.navigate v.address).1.run s' st').1.action = .present v := by
  obtain ⟨r, found, htakes, hsource⟩ := exists_source hn hpresent
  exact action_navigate_listingAddress hn' hs' (hsource.isStableListing htakes.matched hlisting)

/-- Branches of a repository with a comma in its name, with a filter of bytes that are no text and a
padded page number. -/
def untidyBranches : Text := "/admin/repos/a%2Cb,branches/q/filter:%25FF+%C3,007"

/-- The same, tidied up. -/
def tidyBranches : RepoView :=
  { repo := "a,b", detail := .branches, filter := some "\uFFFD \uFFFD", offset := 7 }

theorem listing_address_stable_sample :
    overAll.IsStandard ∧ (overAll.navigate untidyBranches).2.IsStandard ∧
      Session.scripted.Obeys .signedIn { loggedIn := true } ∧
      (View.repo tidyBranches).isListing = true ∧
      ((overAll.navigate untidyBranches).1.run .scripted { loggedIn := true }).1.action =
        .present (.repo tidyBranches) ∧
      (((overAll.navigate untidyBranches).2.navigate (View.repo tidyBranches).address).1.run .scripted
        { loggedIn := true }).1.action = .present (.repo tidyBranches) := by
  have hs : Session.scripted.Obeys .signedIn { loggedIn := true } :=
    Session.scripted_obeys_signedIn rfl rfl
  have hpresent : ((overAll.navigate untidyBranches).1.run .scripted { loggedIn := true }).1.action =
      .present (.repo tidyBranches) := by
    decide +kernel
  have hnext := isStandard_overAll.navigate untidyBranches
  exact ⟨isStandard_overAll, hnext, hs, rfl, hpresent,
    listing_address_stable isStandard_overAll hnext hs rfl hpresent⟩

end Navigator

end ReviewRouter
