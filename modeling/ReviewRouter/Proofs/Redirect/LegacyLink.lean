import Mathlib.Data.Bool.AllAny
import ReviewRouter.Proofs.Redirect.Chain
import ReviewRouter.Proofs.Redirect.LegacyPath

/-!
# Links without their project

An old link to a change leads to the address with the project that the session knows.  That address should
belong to a page; but the name of the project may begin with a digit, and then the address may be taken for an old
link itself, with the number that the name begins with.

* `Answers.knowing` — what is expected of a session that knows the projects of changes;
* `parse_legacyChangeAddress` — **what an old link leads to**, with its tail, its query and its anchor;
* `Visit.action_legacyLink` — old links with a known project do lead there;
* `Navigator.legacyLinks_settle_iff` — **old links never lead to old links exactly if every known name that
  begins with a digit holds a comparison**.
-/

namespace ReviewRouter

open Pattern
open Percent (readable escapeSegment unescape unescapeValue)

/-! ### Sessions that know projects -/

/-- A session that always gives the same answers about the projects of changes. -/
def Answers.knowing (project : UInt32 → Option Text) : Answers where
  login _ := True
  project change r := r = .ok (project change)

/-- The session that always gives the same answers. -/
def Session.constant (login : Bool) (project : UInt32 → Option Text) : Session Unit where
  loggedIn st := (.ok login, st)
  projectOf change st := (.ok (project change), st)
  record _ _ st := st
  note _ st := st

theorem Session.constant_obeys (login : Bool) (project : UInt32 → Option Text) :
    (constant login project).Obeys (.knowing project) () :=
  obeys_of_answers (fun _ => trivial) (fun _ _ => rfl) ()

/-! ### Where an old link leads -/

/-- What is kept of an old link as it is written. -/
def writtenTail (l : Location) (written : Text) : Text :=
  Text.trimStart '/' ((("/c/" ++ written).isPrefixOf? l.path).getD [])

theorem not_mem_writtenTail {c : Char} {l : Location} (hc : c ∉ l.path) (written : Text) :
    c ∉ writtenTail l written := by
  intro hmem
  replace hmem := (List.dropWhile_suffix _).subset hmem
  cases hcut : ("/c/" ++ written).isPrefixOf? l.path with
  | none =>
    rw [hcut] at hmem
    exact absurd hmem List.not_mem_nil
  | some v =>
    rw [hcut] at hmem
    rw [Text.isPrefixOf?_eq_some hcut] at hc
    exact hc (List.mem_append_right _ hmem)

theorem rawHash_eq_nil {address : Text} (h : '#' ∉ address) : rawHash address = [] := by
  unfold rawHash
  rw [Text.splitOnce?_eq_none '#' address h]

theorem rawHash_append {address : Text} (h : '#' ∉ address) (anchor : Text) :
    rawHash (address ++ if anchor = [] then [] else '#' :: anchor) = anchor := by
  split
  · next hanchor => rw [List.append_nil, rawHash_eq_nil h, hanchor]
  · rw [rawHash, Text.splitOnce?_append '#' address anchor h]

/-- **An old link leads to the address of the change, with the tail behind it and the query and the anchor as
they are.** -/
theorem parse_legacyChangeAddress (url written name : Text) (change : UInt32) {tail target : Text}
    (htail : writtenTail (Location.parse url) written = tail)
    (htarget : legacyChangeAddress (Location.parse url) written name change = target) :
    (Location.parse target).matchPath = changePath (readable true name) (Numeral.ofNat change.toNat)
        (unescape (if tail = [] then [] else '/' :: tail)) ∧
      (Location.parse target).query = (Location.parse url).query ∧
      (Location.parse target).rawHash = (Location.parse url).rawHash := by
  have habsent : ∀ c ∈ ['?', '#'], c ∉ (Location.parse url).path →
      c ∉ changeRoot (some name) change ++ (if tail = [] then [] else '/' :: tail) := by
    intro c hc
    have hmark : Percent.isSegmentChar c = false ∧ c.isDigit = false ∧ c ≠ '/' := by
      revert c
      exact List.all_iff_forall_prop.1 (by decide)
    intro hpath
    have hkept : c ∉ tail := htail ▸ not_mem_writtenTail hpath written
    rw [List.mem_append, not_or]
    refine ⟨not_mem_changeRoot hmark.1 hmark.2.1 name change, ?_⟩
    split
    · exact List.not_mem_nil
    · rw [List.mem_cons, not_or]
      exact ⟨hmark.2.2, hkept⟩
  obtain ⟨hquestion, hhash⟩ := Location.not_mem_path url
  have hquery := Location.not_mem_query url
  have hparse := Location.parse_eq (Location.parse url).query (Location.parse url).rawHash
    (changeRoot_ne_nil name change _) (habsent '#' (by decide) hhash) (habsent '?' (by decide) hquestion) hquery
  have haddress : target = changeRoot (some name) change ++ (if tail = [] then [] else '/' :: tail) ++
      (if (Location.parse url).query = [] then [] else '?' :: (Location.parse url).query) ++
      (if (Location.parse url).rawHash = [] then [] else '#' :: (Location.parse url).rawHash) := by
    rw [← htarget, ← htail]
    rfl
  rw [← haddress] at hparse
  refine ⟨?_, by rw [hparse], ?_⟩
  · rw [Location.matchPath, congrArg Location.path hparse]
    exact unescape_changeRoot_append name change _
  · rw [Location.rawHash, congrArg Location.address hparse]
    show rawHash target = _
    rw [haddress, rawHash_append]
    rw [List.mem_append, not_or]
    refine ⟨habsent '#' (by decide) hhash, ?_⟩
    split
    · exact List.not_mem_nil
    · rw [List.mem_cons, not_or]
      exact ⟨by decide, hquery⟩

/-! ### Links that lead on -/

/-- What can stand behind the number of a link: one slash, and characters that mean nothing in an address. -/
structure IsLinkTail (v : Text) : Prop where
  slash : ∃ c u, v = '/' :: c :: u ∧ c ≠ '/'
  question : '?' ∉ v
  hash : '#' ∉ v
  percent : '%' ∉ v
  dot : isRun .dot v

/-- An old link to a change. -/
def legacyLink (change : UInt32) (v : Text) : Text :=
  "/c/" ++ (Numeral.ofNat change.toNat ++ v)

theorem not_mem_legacyLink {c : Char} {v : Text} (hc : c.isDigit = false) (hopen : c ∉ ("/c/" : Text))
    (hv : c ∉ v) (change : UInt32) : c ∉ legacyLink change v := by
  unfold legacyLink
  rw [List.mem_append, List.mem_append, not_or, not_or]
  exact ⟨hopen, Numeral.not_mem_ofNat hc _, hv⟩

section

variable {change : UInt32} {v : Text}

theorem IsLinkTail.parse (h : IsLinkTail v) (change : UInt32) :
    Location.parse (legacyLink change v) =
      { address := legacyLink change v, path := legacyLink change v, query := [], hash := [] } := by
  have hparse := Location.parse_eq [] [] (List.cons_ne_nil _ _ : legacyLink change v ≠ [])
    (not_mem_legacyLink (by decide) (by decide) h.hash change)
    (not_mem_legacyLink (by decide) (by decide) h.question change) List.not_mem_nil
  rw [if_pos rfl, List.append_nil, if_pos rfl, List.append_nil] at hparse
  exact hparse

theorem IsLinkTail.matchPath (h : IsLinkTail v) (change : UInt32) :
    (Location.parse (legacyLink change v)).matchPath = legacyLink change v := by
  rw [h.parse]
  exact Percent.unescape_plain _ (not_mem_legacyLink (by decide) (by decide) h.percent change)

/-- A link leads to the same tail behind the project. -/
theorem IsLinkTail.legacyChangeAddress_eq (h : IsLinkTail v) (name : Text) (change : UInt32) :
    legacyChangeAddress (Location.parse (legacyLink change v)) (Numeral.ofNat change.toNat) name change =
      changeRoot (some name) change ++ v := by
  have hash : rawHash (legacyLink change v) = [] :=
    rawHash_eq_nil (not_mem_legacyLink (by decide) (by decide) h.hash change)
  have hcut : ("/c/" ++ Numeral.ofNat change.toNat).isPrefixOf? (legacyLink change v) = some v := by
    rw [legacyLink, ← List.append_assoc]
    exact Text.isPrefixOf?_append _ v
  have htrim : '/' :: Text.trimStart '/' v = v ∧ Text.trimStart '/' v ≠ [] := by
    obtain ⟨c, u, rfl, hc⟩ := h.slash
    rw [Text.trimStart_cons_self, Text.trimStart_cons_ne hc]
    exact ⟨rfl, List.cons_ne_nil c u⟩
  rw [h.parse]
  unfold legacyChangeAddress
  rw [hcut, Option.getD_some, Location.rawHash, hash]
  show changeRoot (some name) change ++ (if Text.trimStart '/' v = [] then [] else '/' :: Text.trimStart '/' v) ++
    [] ++ [] = _
  rw [if_neg htrim.2, htrim.1, List.append_nil, List.append_nil]

theorem gives_handleLegacyChange {project : UInt32 → Option Text} {l : Location} {c : Captures}
    {written name : Text} {result : Except Failure Action}
    (hnumber : c.parse Numeral.u32? "change" = .ok change) (hwritten : c.require "change" = .ok written)
    (hproject : project change = some name)
    (h : (handleLegacyChange l c).Gives (.knowing project) result) :
    result = .ok (.redirect (legacyChangeAddress l written name change)) := by
  rw [handleLegacyChange, hnumber] at h
  rcases (Handling.gives_bind _ _ _).1 h with ⟨n, hn, h₁⟩ | ⟨e, he, -⟩
  · obtain rfl : n = change := Except.ok.inj hn
    rcases (Handling.gives_bind _ _ _).1 h₁ with ⟨known, hknown, h₂⟩ | ⟨e, he, -⟩
    · have hanswer : Except.ok known = Except.ok (project n) := (Handling.gives_projectOf _ _).1 hknown
      obtain rfl : known = some name := (Except.ok.inj hanswer).trans hproject
      rw [hwritten] at h₂
      exact h₂
    · cases (Handling.gives_projectOf _ _).1 he
  · cases he

end

namespace Visit

variable {σ : Type} {s : Session σ} {st : σ} {project : UInt32 → Option Text} {n : Navigator}
  {change : UInt32} {name v : Text}

/-- An old link that is taken for one leads to the same tail behind the project. -/
theorem action_legacyLink (hs : s.Obeys (.knowing project) st) (hn : n.IsStandard)
    (hproject : project change = some name) (hv : IsLinkTail v)
    (hpassed : Route.PassedBy (legacyLink change v))
    (hne : changeRoot (some name) change ++ v ≠ legacyLink change v) :
    n.route? (legacyLink change v) = some .changeLegacy ∧
      action s ⟨n, st, legacyLink change v⟩ = .redirect (changeRoot (some name) change ++ v) := by
  have hhead : ∀ c, v.head? = some c → isDecimalDigit c = false := by
    obtain ⟨c, u, rfl, -⟩ := hv.slash
    rintro d ⟨⟩
    decide
  obtain ⟨rest, hmatch⟩ := Route.match?_changeLegacy (isNumber_ofNat change.toNat) hhead hv.dot
  have htakes := hpassed.takes hmatch
  rw [show "/c/" ++ (Numeral.ofNat change.toNat ++ v) = legacyLink change v from rfl,
    ← hv.matchPath change] at htakes
  refine ⟨(Navigator.route?_eq_some_iff hn).2 ⟨_, htakes⟩, n.run_navigate hn hs htakes ?_⟩
  intro initialLoad result hgives
  have hget : (Route.changeLegacy.captured [("rest".toList, rest),
      ("change".toList, Numeral.ofNat change.toNat)]).get? "change" = some (Numeral.ofNat change.toNat) := by
    rw [Route.get?_captured]
    exact congrArg some (unescapeValue_ofNat _)
  have hresult := gives_handleLegacyChange (Captures.parse_eq hget (Numeral.u32?_ofNat change))
    (Captures.require_eq hget) hproject hgives
  rw [hresult, hv.legacyChangeAddress_eq]
  exact Action.ofResult_redirect hne

end Visit

/-! ### Links that settle -/

theorem isLinkTail_x : IsLinkTail "/x" where
  slash := ⟨'x', [], rfl, by decide⟩
  question := by decide
  hash := by decide
  percent := by decide
  dot := isRun_dot_iff.2 (by decide)

theorem passedBy_legacyLink_x (change : UInt32) : Route.PassedBy (legacyLink change "/x") := by
  have hnumber := isNumber_ofNat change.toNat
  have hplain : ∀ c, c.isDigit = false → c ∉ ("/x" : Text) →
      c ∉ Numeral.ofNat change.toNat ++ ("/x" : Text) := by
    intro c hc hx
    rw [List.mem_append, not_or]
    exact ⟨Numeral.not_mem_ofNat hc _, hx⟩
  have hat := hplain '@' (by decide) (by decide)
  have hplus := hplain '+' (by decide) (by decide)
  unfold legacyLink
  cases hdigits : Numeral.ofNat change.toNat with
  | nil => exact absurd hdigits hnumber.ne_nil
  | cons c digits =>
    rw [hdigits] at hat hplus hnumber
    exact Route.passedBy_of_number (hnumber.digits c List.mem_cons_self) hat hplus

section

variable {σ : Type} {s : Session σ} {st : σ} {project : UInt32 → Option Text} {n : Navigator}

/-- A link does not settle only if a known name begins with a digit and holds no comparison. -/
theorem exists_name_of_unsettled (hs : s.Obeys (.knowing project) st) (hn : n.IsStandard) {url target : Text}
    (hurl : n.route? url = some .changeLegacy) (haction : Visit.action s ⟨n, st, url⟩ = .redirect target)
    (htarget : n.route? target = some .changeLegacy) :
    ∃ change name, project change = some name ∧ BeginsWithDigit name ∧
      ¬HoldsComparison (readable true name) := by
  obtain ⟨-, -, -, r, found, htakes, hlead⟩ :=
    Visit.exists_leadsTo_of_next? hn hs (Visit.next?_of_action haction)
  obtain ⟨found', htakes'⟩ := (Navigator.route?_eq_some_iff hn).1 hurl
  obtain ⟨rfl, rfl⟩ := htakes'.unique htakes
  replace hlead : Route.changeLegacy.LeadsTo (.knowing project) (Location.parse url)
    (Route.changeLegacy.captured found') target := hlead
  cases hlead with
  | login auth => exact absurd auth (by decide)
  | @project change written name number known asWritten =>
    obtain ⟨found, htakes⟩ := (Navigator.route?_eq_some_iff hn).1 htarget
    have hpath := (parse_legacyChangeAddress url written name change rfl rfl).1
    rw [hpath, changePath] at htakes
    obtain ⟨⟨c, u, hhead, hc⟩, hdot⟩ := Route.of_match?_changeLegacy htakes.matched
    refine ⟨change, name, (Except.ok.inj known).symm, ?_, ?_⟩
    · cases hname : readable true name with
      | nil =>
        rw [hname] at hhead
        obtain ⟨rfl, -⟩ := List.cons.inj hhead
        exact absurd hc (by decide)
      | cons d w =>
        rw [hname] at hhead
        obtain ⟨rfl, -⟩ := List.cons.inj hhead
        exact head_readable hname hc
    · intro hhold
      exact Route.match?_diff_ne_none_of_holds hhold hdot (htakes.first .diff (by decide))

/-- Such a name keeps a link from settling. -/
theorem exists_unsettled_of_name (hs : s.Obeys (.knowing project) st) (hn : n.IsStandard) {change : UInt32}
    {name : Text} (hproject : project change = some name) (hdigit : BeginsWithDigit name)
    (hhold : ¬HoldsComparison (readable true name)) :
    ∃ url target, n.route? url = some .changeLegacy ∧ Visit.action s ⟨n, st, url⟩ = .redirect target ∧
      n.route? target = some .changeLegacy := by
  have hplus : '+' ∉ legacyLink change "/x" :=
    not_mem_legacyLink (by decide) (by decide) (by decide) change
  have hne : changeRoot (some name) change ++ "/x" ≠ legacyLink change "/x" := by
    intro heq
    rw [← heq] at hplus
    have hmark : '+' ∈ ("/+/" : Text) := by decide
    apply hplus
    simp only [changeRoot, List.mem_append, hmark, true_or, or_true]
  obtain ⟨hurl, haction⟩ := Visit.action_legacyLink hs hn hproject isLinkTail_x
    (passedBy_legacyLink_x change) hne
  refine ⟨_, _, hurl, haction, ?_⟩
  -- the address is that of the change, with the tail behind it
  have hpath := matchPath_changeAddress name change isLinkTail_x.question isLinkTail_x.hash front_nil
  rw [List.append_nil, Percent.unescape_plain _ isLinkTail_x.percent] at hpath
  have hnumber := isNumber_ofNat change.toNat
  have hpassed := Route.passedBy_of_project (fun c => Percent.isSegmentChar_of_mem_readable) hhold hnumber
  obtain ⟨c, u, rfl, hc⟩ := hdigit
  have hname : readable true (c :: u) = c :: readable true u := by
    rw [readable, List.flatMap_cons, readableChar_of_isDigit hc]
    rfl
  rw [changePath, hname, List.cons_append] at hpassed hpath
  have hrest : isRun .dot (readable true u ++ (marker ++ (Numeral.ofNat change.toNat ++ "/x"))) := by
    exact isRun_append.2 ⟨isRun_dot_readable true u, isRun_append.2 ⟨isRun_dot_marker,
      isRun_append.2 ⟨isRun_dot_ofNat _, isLinkTail_x.dot⟩⟩⟩
  obtain ⟨found, hmatch⟩ := Option.ne_none_iff_exists'.1
    (Route.match?_changeLegacy_ne_none (Numeral.isDecimalDigit_of_isDigit hc) hrest)
  have htakes := hpassed.takes hmatch
  rw [← hpath] at htakes
  exact (Navigator.route?_eq_some_iff hn).2 ⟨found, htakes⟩

/-- **Old links never lead to old links exactly if every known name that begins with a digit holds a
comparison.** -/
theorem Navigator.legacyLinks_settle_iff (hs : s.Obeys (.knowing project) st) (hn : n.IsStandard) :
    (∀ url target, n.route? url = some .changeLegacy → Visit.action s ⟨n, st, url⟩ = .redirect target →
      n.route? target ≠ some .changeLegacy) ↔
      ∀ change name, project change = some name → BeginsWithDigit name →
        HoldsComparison (readable true name) := by
  constructor
  · intro hsettle change name hproject hdigit
    by_contra hhold
    obtain ⟨url, target, hurl, haction, htarget⟩ := exists_unsettled_of_name hs hn hproject hdigit hhold
    exact hsettle url target hurl haction htarget
  · intro hnames url target hurl haction htarget
    obtain ⟨change, name, hproject, hdigit, hhold⟩ := exists_name_of_unsettled hs hn hurl haction htarget
    exact hhold (hnames change name hproject hdigit)

end

/-- They settle if the only name begins with a letter. -/
theorem Navigator.legacyLinks_settle_sample :
    (Session.constant true fun _ => some "repo").Obeys (.knowing fun _ => some "repo") () ∧
      overAll.IsStandard ∧
      ∀ url target, overAll.route? url = some .changeLegacy →
        Visit.action (Session.constant true fun _ => some "repo") ⟨overAll, (), url⟩ = .redirect target →
          overAll.route? target ≠ some .changeLegacy := by
  have hs := Session.constant_obeys true fun _ => some "repo"
  refine ⟨hs, isStandard_overAll, (legacyLinks_settle_iff hs isStandard_overAll).2 ?_⟩
  rintro change name hname ⟨c, u, hhead, hdigit⟩
  obtain rfl := Option.some_inj.1 hname
  obtain ⟨rfl, -⟩ := List.cons.inj hhead
  exact absurd hdigit (by decide)

/-- The project `5` keeps them from settling. -/
theorem Navigator.legacyLink_unsettled :
    overAll.route? "/c/42/x" = some .changeLegacy ∧
      Visit.action (Session.constant true fun _ => some "5") ⟨overAll, (), "/c/42/x"⟩ =
        .redirect "/c/5/+/42/x" ∧
      overAll.route? "/c/5/+/42/x" = some .changeLegacy := by
  decide +kernel

end ReviewRouter
