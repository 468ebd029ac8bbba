import ReviewRouter.Proofs.Canonical.Inside
import ReviewRouter.Proofs.Canonical.Pages

/-!
# Canonical addresses of changes

The address of a page of a change that was presented presents it again, with two exceptions.  A field of
the query without a value is not in the address; and a space between slashes, in the name of a project or
of a file, stands in it like the mark behind a project, so that another page may be read there.

* `ChangeView.HoldsRival`, `HoldsPage` — such a page, in the name of a project or behind the number;
* `ChangeView.action_navigate_iff`, `DiffView.action_navigate_iff`, `EditView.action_navigate_iff` — when
  the address of a page presents it;
* `View.IsStableChangePage` — the pages of a change without the two exceptions;
* `Navigator.changePage_address_stable_iff` — **the address of a page of a change that was presented
  presents it again exactly if it is one of these**.
-/

namespace ReviewRouter

open Pattern
open Percent (readable)

/-! ### Changes -/

/-- A repository in a path that holds the beginning of the page whose route is tried before. -/
def ChangeView.HoldsRival (v : ChangeView) (repo : Text) : Prop :=
  match v.edit with
  | true => HoldsEditor repo
  | false => HoldsComparison repo

namespace ChangeView

variable {v : ChangeView} {s : Text}

/-- The route that is tried before takes the path exactly if the repository holds such a page. -/
theorem match?_rival_eq_none_iff (h : v.IsPlain s) :
    v.rival.match? (changePath (readable true s) (Numeral.ofNat v.change.toNat) v.place) = none ↔
      ¬v.HoldsRival (readable true s) := by
  have hdot : ∀ {t : Text}, '\n' ∉ t →
      isRun .dot (readable true s ++ (marker ++ (Numeral.ofNat v.change.toNat ++ t))) := fun ht =>
    isRun_append.2 ⟨isRun_dot_readable true s, isRun_append.2 ⟨isRun_dot_marker,
      isRun_append.2 ⟨isRun_dot_ofNat _, isRun_dot_iff.2 ht⟩⟩⟩
  rcases h.mode with ⟨hedit, hrange⟩ | ⟨hedit, hrange, -⟩
  · have htail := isRangeTail_tail hrange
    have hline : '\n' ∉ v.range.tail := htail.not_mem (by decide) (by decide) (by decide)
    rw [rival, HoldsRival, hedit, place_of_not_edit hedit]
    constructor
    · intro hnone hhold
      exact Route.match?_diff_ne_none_of_holds hhold (hdot hline) hnone
    · exact Route.match?_diff_eq_none_of_not_holds (htail.isChangePath s v.change) htail.slash_not_mem_tail
  · have hline : '\n' ∉ v.range.tail := hrange.not_mem (by decide) (by decide)
    rw [rival, HoldsRival, hedit, place_of_edit hedit]
    constructor
    · intro hnone hhold
      -- the mark of the edit mode ends the path of the editor
      rw [changePath, ← List.append_assoc (Numeral.ofNat _)] at hnone
      exact Route.match?_diffEdit_ne_none_of_holds hhold (hdot hline) hnone
    · exact Route.match?_diffEdit_eq_none_of_not_holds (hrange.isChangePath s v.change)
        hrange.slash_not_mem_tail

/-- The page was not presented by that route. -/
theorem match?_rival_eq_none_of_present {σ : Type} {n : Navigator} (hn : n.IsStandard) {session : Session σ}
    {st : σ} (h : v.tidy.IsPlain s)
    (haction : ((n.navigate v.address).1.run session st).1.action = .present (.change v)) :
    v.tidy.rival.match? (changePath (readable true s) (Numeral.ofNat v.change.toNat) v.tidy.place) =
      none := by
  obtain ⟨r, found, htakes, hsource⟩ := Navigator.exists_source hn haction
  have hpath := matchPath_address h
  rw [address_tidy] at hpath
  rw [hpath] at htakes
  rcases hsource with ⟨rfl, hgives⟩ | ⟨rfl, hgives⟩ | ⟨rfl, hgives⟩
  · obtain ⟨_, _, _, _, _, _, _, _, _, _, hv⟩ := exists_of_handleChange hgives
    have hedit : v.tidy.edit = false := congrArg ChangeView.edit (View.change.inj hv)
    rw [rival, hedit]
    exact htakes.first .diff (by decide)
  · obtain ⟨_, _, _, _, _, _, _, _, hv⟩ := exists_of_handleChangeEdit hgives
    have hedit : v.tidy.edit = true := congrArg ChangeView.edit (View.change.inj hv)
    rw [rival, hedit]
    exact htakes.first .diffEdit (by decide)
  · -- behind the number there is no page of comments
    obtain ⟨_, _, _, _, hv⟩ := exists_of_handleCommentsTab hgives
    have hedit : v.tidy.edit = false := congrArg ChangeView.edit (View.change.inj hv)
    rcases h.mode with ⟨-, hrange⟩ | ⟨htrue, -⟩
    · have htail := isRangeTail_tail hrange
      have hnumbered := htail.isChangePath s v.change
      have hnone : Route.commentsTab.match? (changePath (readable true s)
          (Numeral.ofNat v.change.toNat) v.tidy.range.tail) = none :=
        Route.match?_commentsTab_eq_none hnumbered.isNumbered (hnumbered.final.not_holdsRow _)
          htail.not_prefix_comment
      rw [← place_of_not_edit hedit] at hnone
      cases htakes.matched.symm.trans hnone
    · rw [hedit] at htrue
      cases htrue

/-- The address of a change presents it exactly if no field is without a value and the repository holds
no page whose route is tried before. -/
theorem action_navigate_iff {σ : Type} {n : Navigator} (hn : n.IsStandard) {session : Session σ} {st : σ}
    (hsession : session.Obeys .signedIn st) (h : v.tidy.IsPlain s) :
    ((n.navigate v.address).1.run session st).1.action = .present (.change v) ↔
      v.IsFilled ∧ ¬v.HoldsRival (readable true s) := by
  have hiff := match?_rival_eq_none_iff h
  constructor
  · intro haction
    have hrival := match?_rival_eq_none_of_present hn h haction
    have htidy := action_navigate_of_rival hn hsession h hrival
    rw [address_tidy, haction] at htidy
    have hsame : v = v.tidy := View.change.inj (Action.present.inj htidy)
    refine ⟨?_, hiff.1 hrival⟩
    rw [hsame]
    exact v.isFilled_tidy
  · rintro ⟨hfilled, hhold⟩
    have hrival := hiff.2 hhold
    rw [hfilled.tidy_eq] at h hrival
    exact action_navigate_of_rival hn hsession h hrival

end ChangeView

/-! ### Files -/

/-- What was captured of the project is its name. -/
theorem unescapeValue_of_get?_repo {r : Route} {cv : List (Text × Text)} {repo digits s : Text}
    (hcv : cv.lookup "repo".toList = none)
    (hget : (r.captured (cv ++ changeCaptures repo digits)).get? "repo" = some s) :
    Percent.unescapeValue repo = s := by
  rw [Route.get?_captured, List.lookup_append, hcv] at hget
  exact Option.some_inj.1 hget

/-- A text that goes on like a comment or a comparison of another change. -/
def HoldsPage (t : Text) : Prop :=
  HoldsTail IsCommentTail t ∨ HoldsTail IsCommentsTail t ∨ HoldsTail IsFileTail t

namespace DiffView

variable {v : DiffView} {s f : Text}

/-- The address of a comparison presents it exactly if the name of the file does not go on like the page
of another change. -/
theorem action_navigate_iff {σ : Type} {n : Navigator} (hn : n.IsStandard) {session : Session σ} {st : σ}
    (hsession : session.Obeys .signedIn st) (h : v.IsOfFile s f) :
    ((n.navigate v.address).1.run session st).1.action = .present (.diff v) ↔
      ¬HoldsPage ('/' :: readable true f) := by
  obtain ⟨base, patch?, hshows⟩ := h.range.exists_shows
  have hfront : '+' ∉ Numeral.ofNat v.change.toNat ++ v.range.tail := by
    rw [hshows.tail_eq, List.mem_append, List.mem_cons, not_or, not_or]
    exact ⟨Numeral.not_mem_ofNat (by decide) _, by decide, hshows.isRange.not_mem (by decide) (by decide)⟩
  have hiff : ∀ P, HoldsTail P (Numeral.ofNat v.change.toNat ++ diffPlace v.range f) ↔
      HoldsTail P ('/' :: readable true f) := by
    intro P
    rw [diffPlace, ← List.append_assoc]
    exact holdsTail_append hfront _
  have hdot : isRun .dot (Numeral.ofNat v.change.toNat ++ diffPlace v.range f) :=
    isRun_append.2 ⟨isRun_dot_ofNat _,
      isRun_dot_iff.2 (not_mem_diffPlace hshows (by decide) (by decide) (by decide) (by decide))⟩
  constructor
  · intro haction
    obtain ⟨r, found, htakes, hsource⟩ := Navigator.exists_source hn haction
    rw [(parse_address h).1] at htakes
    rcases hsource with ⟨rfl, hgives⟩ | ⟨rfl, hgives⟩
    · rintro (hhold | hhold | hhold)
      · exact match?_changeRow_ne_none isTailOf_comment h.ne_nil hdot ((hiff _).2 hhold)
          (htakes.first .comment (by decide))
      · exact match?_changeRow_ne_none isTailOf_comments h.ne_nil hdot ((hiff _).2 hhold)
          (htakes.first .commentsTab (by decide))
      · -- then another project is captured
        obtain ⟨project, _, _, _, _, _, hproject, _, _, _, _, _, hv⟩ := exists_of_handleDiff hgives
        have hsame : v.project = some project := congrArg DiffView.project (View.diff.inj hv)
        obtain rfl := Option.some_inj.1 (h.project.symm.trans hsame)
        obtain ⟨repo, digits, x, rest, b, cv, -, rfl, -, -, htail, -⟩ :=
          exists_of_match?_changeRow htakes.matched
        obtain ⟨-, base', patch', file, -, -, -, rfl⟩ := exists_of_reads_diffTail htail
        refine unescapeValue_ne_of_holdsTail isTailOf_diff h.ne_nil hdot ((hiff _).2 hhold)
          htakes.matched rfl (unescapeValue_of_get?_repo ?_ hproject)
        cases patch' <;> rfl
    · obtain ⟨_, _, _, _, _, _, hv⟩ := exists_of_handleComment hgives
      have hcomment := congrArg DiffView.comment (View.diff.inj hv)
      rw [h.comment] at hcomment
      cases hcomment
  · intro hhold
    refine action_navigate_of_last hn hsession h ?_
    intro tail htail
    simp only [List.mem_cons, List.not_mem_nil, or_false] at htail
    rcases htail with rfl | rfl | rfl
    · exact not_holdsRow isTailOf_comment fun ht => hhold (Or.inl ((hiff _).1 ht))
    · exact not_holdsRow isTailOf_comments fun ht => hhold (Or.inr (Or.inl ((hiff _).1 ht)))
    · exact not_holdsRow isTailOf_diff fun ht => hhold (Or.inr (Or.inr ((hiff _).1 ht)))

end DiffView

namespace EditView

variable {v : EditView} {s : Text} {k : PatchSet}

/-- The address of an editor presents it exactly if the name of the file does not go on like that of
another one. -/
theorem action_navigate_iff {σ : Type} {n : Navigator} (hn : n.IsStandard) {session : Session σ} {st : σ}
    (hsession : session.Obeys .signedIn st) (h : v.IsOfFile s k) :
    ((n.navigate v.address).1.run session st).1.action = .present (.edit v) ↔
      ¬HoldsTail IsEditorTail ('/' :: readable true v.path) := by
  have hpart := isPart_text h.isPatch.ne_parent
  have hfront : '+' ∉ Numeral.ofNat v.change.toNat ++ '/' :: k.text := by
    rw [List.mem_append, List.mem_cons, not_or, not_or]
    exact ⟨Numeral.not_mem_ofNat (by decide) _, by decide, hpart.not_mem (by decide)⟩
  have hplace : Numeral.ofNat v.change.toNat ++ editPlace k v.path =
      (Numeral.ofNat v.change.toNat ++ '/' :: k.text) ++ '/' :: readable true v.path ++ ",edit".toList := by
    simp only [editPlace, List.append_assoc, List.cons_append]
  have hiff : HoldsTail (fun t => ∃ u, t = u ++ ",edit".toList ∧ IsEditorTail u)
      (Numeral.ofNat v.change.toNat ++ editPlace k v.path) ↔
        HoldsTail IsEditorTail ('/' :: readable true v.path) := by
    rw [hplace, holdsTail_append_right, holdsTail_append hfront]
  have hdot : isRun .dot (Numeral.ofNat v.change.toNat ++ editPlace k v.path) := by
    refine isRun_append.2 ⟨isRun_dot_ofNat _, isRun_dot_iff.2 ?_⟩
    simp only [editPlace, List.mem_append, List.mem_cons, not_or]
    exact ⟨by decide, hpart.not_mem (by decide), by decide, not_mem_readable (by decide) v.path, by decide⟩
  constructor
  · intro haction hhold
    obtain ⟨r, found, htakes, rfl, hgives⟩ := Navigator.exists_source hn haction
    rw [(parse_address h).1] at htakes
    obtain ⟨project, _, _, _, _, hproject, _, _, _, _, hv⟩ := exists_of_handleDiffEdit hgives
    have hsame : v.project = some project := congrArg EditView.project (View.edit.inj hv)
    obtain rfl := Option.some_inj.1 (h.project.symm.trans hsame)
    obtain ⟨repo, digits, x, rest, b, cv, -, rfl, -, -, htail, -⟩ :=
      exists_of_match?_changeRow htakes.matched
    obtain ⟨-, patch, file, -, -, -, rfl⟩ := exists_of_reads_diffEditTail htail
    exact unescapeValue_ne_of_holdsTail isTailOf_diffEdit h.ne_nil hdot (hiff.2 hhold)
      htakes.matched rfl (unescapeValue_of_get?_repo rfl hproject)
  · intro hhold
    exact action_navigate_of_last hn hsession h (not_holdsRow isTailOf_diffEdit fun ht => hhold (hiff.1 ht))

end EditView

/-! ### Stability -/

/-- The pages of a change that their address leads back to. -/
def View.IsStableChangePage : View → Prop
  | .change w => w.IsFilled ∧
      (w.comment = none → ∀ s, w.project = some s → ¬w.HoldsRival (readable true s))
  | .diff w => w.comment = none → ∀ f, w.path = some f → ¬HoldsPage ('/' :: readable true f)
  | .edit w => ¬HoldsTail IsEditorTail ('/' :: readable true w.path)
  | _ => False

section Pages

variable {σ : Type} {n : Navigator} {session : Session σ} {st : σ} (hn : n.IsStandard)
  (hsession : session.Obeys .signedIn st)

include hn hsession

theorem ChangeView.action_navigate_iff_of_read {v : ChangeView} (h : (View.change v).IsReadChangePage) :
    ((n.navigate v.address).1.run session st).1.action = .present (.change v) ↔
      (View.change v).IsStableChangePage := by
  rcases h with ⟨s, hplain⟩ | ⟨s, comment, hcomment⟩
  · rw [action_navigate_iff hn hsession hplain]
    refine and_congr_right fun _ => ⟨?_, fun hhold => hhold hplain.comment s hplain.project⟩
    intro hhold _ s' hs'
    obtain rfl := Option.some_inj.1 (hplain.project.symm.trans hs')
    exact hhold
  · have haction := action_navigate_comment hcomment.ne_nil hcomment.word v.change hn session st
    rw [← hcomment.eq] at haction
    refine iff_of_true haction ?_
    show v.IsFilled ∧ _
    rw [hcomment.eq]
    exact ⟨⟨nofun, nofun, nofun⟩, nofun⟩

theorem DiffView.action_navigate_iff_of_read {v : DiffView} (h : (View.diff v).IsReadChangePage) :
    ((n.navigate v.address).1.run session st).1.action = .present (.diff v) ↔
      (View.diff v).IsStableChangePage := by
  rcases h with ⟨s, f, hfile⟩ | ⟨s, comment, hcomment⟩
  · rw [action_navigate_iff hn hsession hfile]
    refine ⟨?_, fun hhold => hhold hfile.comment f hfile.path⟩
    intro hhold _ f' hf'
    obtain rfl := Option.some_inj.1 (hfile.path.symm.trans hf')
    exact hhold
  · have haction := action_navigate_comment hcomment.ne_nil hcomment.word v.change hn session st
    rw [← hcomment.eq] at haction
    refine iff_of_true haction ?_
    show v.comment = none → _
    rw [hcomment.eq]
    exact nofun

end Pages

namespace Navigator

/-- **The address of a page of a change that was presented presents it again exactly if** no field of its
query is without a value and no other page can be read in the name of its project or of its file: for every
address that led to it, all navigators over all routes at the root of their server, and sessions that are
signed in. -/
theorem changePage_address_stable_iff {σ τ : Type} {n n' : Navigator} {s : Session σ} {st : σ}
    {s' : Session τ} {st' : τ} (hn : n.IsStandard) (hn' : n'.IsStandard) (hs' : s'.Obeys .signedIn st')
    {url : Text} {v : View} (hpage : v.isChangePage = true)
    (hpresent : ((n.navigate url).1.run s st).1.action = .present v) :
    ((n'.navigate v.address).1.run s' st').1.action = .present v ↔ v.IsStableChangePage := by
  obtain ⟨r, found, htakes, hsource⟩ := exists_source hn hpresent
  have hread := hsource.isReadChangePage htakes.matched hpage
  cases v with
  | change w => exact w.action_navigate_iff_of_read hn' hs' hread
  | diff w => exact w.action_navigate_iff_of_read hn' hs' hread
  | edit w =>
    obtain ⟨project, k, hfile⟩ := hread
    exact EditView.action_navigate_iff hn' hs' hfile
  | _ => cases hpage

/-- The address of a change of a project whose name has slashes around a space. -/
def spacedChange : Text := "/c/a/%2520/7/2/+/1"

/-- The page that it presents. -/
def spacedView : ChangeView :=
  { project := some "a/ /7/2", change := 1 }

/-- The comparison that is read in its canonical address. -/
def mistakenView : DiffView :=
  { project := some "a", change := 7, range := ⟨some .parent, some (.num 2)⟩, path := some " /1" }

theorem presents_spacedChange :
    ((overAll.navigate spacedChange).1.run .scripted { loggedIn := true }).1.action =
      .present (.change spacedView) := by
  decide +kernel

theorem changePage_address_stable_sample :
    overAll.IsStandard ∧ (overAll.navigate spacedChange).2.IsStandard ∧
      Session.scripted.Obeys .signedIn { loggedIn := true } ∧
      (View.change spacedView).isChangePage = true ∧
      ((overAll.navigate spacedChange).1.run .scripted { loggedIn := true }).1.action =
        .present (.change spacedView) ∧
      ((((overAll.navigate spacedChange).2.navigate (View.change spacedView).address).1.run .scripted
        { loggedIn := true }).1.action = .present (.change spacedView) ↔
          (View.change spacedView).IsStableChangePage) := by
  have hs : Session.scripted.Obeys .signedIn { loggedIn := true } :=
    Session.scripted_obeys_signedIn rfl rfl
  have hnext := isStandard_overAll.navigate spacedChange
  exact ⟨isStandard_overAll, hnext, hs, rfl, presents_spacedChange,
    changePage_address_stable_iff isStandard_overAll hnext hs rfl presents_spacedChange⟩

/-- The address of a change that was presented may present a comparison of another project, and that of a
page with a field without a value presents the page without the field. -/
theorem changePage_address_unstable :
    (View.change spacedView).address = "/c/a/+/7/2/+/1" ∧
      ((overAll.navigate spacedChange).1.run .scripted { loggedIn := true }).1.action =
        .present (.change spacedView) ∧
      (((overAll.navigate spacedChange).2.navigate (View.change spacedView).address).1.run .scripted
        { loggedIn := true }).1.action = .present (.diff mistakenView) ∧
      ((overAll.navigate "/c/p/+/1?tab=").1.run .scripted { loggedIn := true }).1.action =
        .present (.change { project := some "p", change := 1, tab := some [] }) ∧
      ((overAll.navigate (View.change { project := some "p", change := 1, tab := some [] }).address).1.run
        .scripted { loggedIn := true }).1.action = .present (.change { project := some "p", change := 1 }) :=
  ⟨by decide +kernel, presents_spacedChange, by decide +kernel, by decide +kernel, by decide +kernel⟩

end Navigator

end ReviewRouter
