import Mathlib.Data.Bool.AllAny
import ReviewRouter.Proofs.Redirect.Path
import ReviewRouter.Proofs.RoundTrip.Basic

/-!
# The address of a comment leads back to it

A comment stands behind the number of its change, on the page of the comments or in its file.  It is a
word, which no mark of an address reaches into, so neither the project nor the comment can be mistaken.

* `takes_commentsTab`, `takes_comment` — what the two routes capture of the path;
* `ChangeView.action_navigate_comment`, `DiffView.action_navigate_comment` — **navigating to the address
  of a comment presents it**.
-/

namespace ReviewRouter

open Pattern
open Percent (readable escapeSegment unescape unescapeValue)

/-! ### What is read behind the number -/

section Tails

variable {comment : Text} (hword : IsWord comment)

include hword

theorem unique_commentTail {b : Option Char} {w r : Text} {cs : List (Text × Text)}
    (hw : "/comment/".toList ++ (comment ++ ['/']) = w ++ r) (h : Reads commentTail b w r cs) :
    cs = commentCaptures (some comment) := by
  obtain ⟨rfl, comment', back, rfl, hword', hback, rfl⟩ := exists_of_reads_commentTail h
  rw [List.append_nil] at hw
  have hsame := List.append_cancel_left hw
  have hslash : ∀ {w : Text}, IsWord w → ∀ c ∈ w, c ≠ '/' := by
    rintro w hw c hc rfl
    exact hw.not_mem (by decide) hc
  have hend : ∀ c, back.head? = some c → ¬c ≠ '/' := by
    rcases hback with rfl | rfl
    · exact nofun
    · rintro c ⟨⟩ hne
      exact hne rfl
  obtain ⟨rfl, -⟩ := span_unique (hslash hword) (hslash hword') (by rintro c ⟨⟩ hne; exact hne rfl)
    hend hsame
  rfl

theorem unique_commentsTail {b : Option Char} {w r : Text} {cs : List (Text × Text)}
    (hw : "/comments".toList ++ '/' :: comment = w ++ r) (h : Reads commentsTail b w r cs) :
    cs = commentCaptures (some comment) := by
  obtain ⟨rfl, front, comment?, back, rfl, hfront, hword', hback, rfl⟩ := exists_of_reads_commentsTail h
  rw [List.append_nil] at hw
  have hsame : '/' :: comment = front ++ (comment?.getD [] ++ back) := List.append_cancel_left hw
  have hslash : '/' ∉ comment := hword.not_mem (by decide)
  have hend : ∀ {u : Text}, comment = u ++ back → back = [] := by
    rintro u hu
    rcases hback with rfl | rfl
    · rfl
    · exact absurd (hu ▸ List.mem_append_right u (List.mem_singleton_self '/')) hslash
  rcases hfront with rfl | rfl
  · -- then the slash would be the comment, or behind it
    cases comment? with
    | none =>
      rcases hback with rfl | rfl
      · cases hsame
      · exact absurd (List.cons.inj hsame).2 hword.ne_nil
    | some comment' =>
      have hne := (hword' comment' rfl).ne_nil
      cases comment' with
      | nil => exact absurd rfl hne
      | cons c comment' =>
        obtain ⟨rfl, -⟩ := List.cons.inj hsame
        exact absurd List.mem_cons_self ((hword' _ rfl).not_mem (by decide))
  · have hcomment : comment = comment?.getD [] ++ back := (List.cons.inj hsame).2
    obtain rfl := hend hcomment
    rw [List.append_nil] at hcomment
    cases comment? with
    | none => exact absurd hcomment hword.ne_nil
    | some comment' =>
      obtain rfl : comment = comment' := hcomment
      rfl

end Tails

/-! ### The routes -/

theorem IsWord.unescapeValue_eq {w : Text} (h : IsWord w) : unescapeValue w = w :=
  Percent.unescapeValue_plain w (h.not_mem (by decide)) (h.not_mem (by decide))

section Routes

variable {s comment : Text} (hne : s ≠ []) (hword : IsWord comment) (change : UInt32)

/-- A tail that begins with a slash and goes on without a plus sign. -/
theorem isChangePath_slash {t : Text} (hplus : '+' ∉ t) :
    IsChangePath (readable true s) (Numeral.ofNat change.toNat) ('/' :: t) where
  digit := isRun_ofNat _
  tail := by
    rintro c ⟨⟩
    decide
  final := by
    apply IsFinal.of_not_mem
    rw [List.mem_append, List.mem_cons, not_or, not_or]
    exact ⟨Numeral.not_mem_ofNat (by decide) _, by decide, hplus⟩

theorem not_mem_commentPath {c : Char} (hc : c = ',' ∨ c = '@') {t : Text} (ht : c ∉ t) :
    c ∉ changePath (readable true s) (Numeral.ofNat change.toNat) t := by
  have hmark : Percent.isSegmentChar c = false ∧ c.isDigit = false ∧ c ∉ ("/c/" : Text) ∧ c ∉ marker := by
    rcases hc with rfl | rfl <;> decide
  obtain ⟨hsegment, hdigit, hfront, hmarker⟩ := hmark
  simp only [changePath, List.mem_append, not_or]
  exact ⟨hfront, not_mem_readable hsegment s, hmarker, Numeral.not_mem_ofNat hdigit _, ht⟩

include hne hword

/-- The route of the comments takes the path. -/
theorem takes_commentsTab :
    Route.commentsTab.Takes
      (changePath (readable true s) (Numeral.ofNat change.toNat) ("/comments".toList ++ '/' :: comment))
      (commentCaptures (some comment) ++
        changeCaptures (readable true s) (Numeral.ofNat change.toNat)) := by
  have hmem : ∀ c ∈ ['+', ',', '@'], c ∉ "/comments".toList ++ '/' :: comment := by
    intro c hc
    have hmark : c ∉ "/comments".toList ∧ c ≠ '/' ∧
        c ∈ separators := by
      revert c
      exact List.all_iff_forall_prop.1 (by decide)
    rw [List.mem_append, List.mem_cons, not_or, not_or]
    exact ⟨hmark.1, hmark.2.1, hword.not_mem hmark.2.2⟩
  have hpath : IsChangePath (readable true s) (Numeral.ofNat change.toNat)
      ("/comments".toList ++ '/' :: comment) :=
    isChangePath_slash change fun h => hmem '+' (by decide) (List.mem_cons_of_mem '/' h)
  have hcomma := not_mem_commentPath (s := s) change (Or.inl rfl) (hmem ',' (by decide))
  have hat := not_mem_commentPath (s := s) change (Or.inr rfl) (hmem '@' (by decide))
  have hreads : ∀ b, Reads commentsTail b ("/comments".toList ++ '/' :: comment) []
      (commentCaptures (some comment)) := by
    intro b
    have hsome : ∀ w, some comment = some w → IsWord w := by
      rintro _ ⟨⟩
      exact hword
    have hread := reads_commentsTail (Or.inr rfl) hsome (Or.inl rfl) b
    rwa [Option.getD_some, List.append_nil] at hread
  have hmatch := match?_changeRow commentsTail (fun h => hne (Percent.readable_eq_nil.1 h))
    (isRun_dot_readable true s) (isNumber_ofNat _) hpath.tail (hpath.final.not_holdsRow _)
    hreads (fun _ _ _ _ => unique_commentsTail hword)
  refine Route.takes_of_change hmatch ?_
  have hbefore : changeRoutes.takeWhile (· != .commentsTab) = editRoutes ++ [.comment] := rfl
  rw [hbefore, List.forall_mem_append, List.forall_mem_singleton]
  refine ⟨Route.match?_editRoutes_eq_none (number_append_ne_nil change _) hcomma hat, ?_⟩
  -- the name of the page goes on behind that of a comment
  refine Route.match?_eq_none_of_tail commentTail rfl hpath.isNumbered (hpath.final.not_holdsRow _) ?_
  intro b x rest cv h
  obtain ⟨rfl, comment', back, rfl, hword', hback, -⟩ := exists_of_reads_commentTail h
  refine ⟨"comment/".toList ++ (comment' ++ back), ?_, ?_, Or.inr ?_⟩
  · rw [List.append_nil]
    rfl
  · intro hsame
    have hs : 's' = '/' := (List.cons.inj (@List.append_cancel_left _ "/comment".toList _ _ hsame)).1
    exact absurd hs (by decide)
  · rw [List.mem_append, List.mem_append, not_or, not_or]
    exact ⟨by decide, hword'.not_mem (by decide), hback.plus_not_mem⟩

/-- The route of a comment takes the path. -/
theorem takes_comment :
    Route.comment.Takes
      (changePath (readable true s) (Numeral.ofNat change.toNat)
        ("/comment/".toList ++ (comment ++ ['/'])))
      (commentCaptures (some comment) ++
        changeCaptures (readable true s) (Numeral.ofNat change.toNat)) := by
  have hmem : ∀ c ∈ ['+', ',', '@'], c ∉ "/comment/".toList ++ (comment ++ ['/']) := by
    intro c hc
    have hmark : c ∉ "/comment/".toList ∧ c ∉ ['/'] ∧
        c ∈ separators := by
      revert c
      exact List.all_iff_forall_prop.1 (by decide)
    rw [List.mem_append, List.mem_append, not_or, not_or]
    exact ⟨hmark.1, hword.not_mem hmark.2.2, hmark.2.1⟩
  have hpath : IsChangePath (readable true s) (Numeral.ofNat change.toNat)
      ("/comment/".toList ++ (comment ++ ['/'])) :=
    isChangePath_slash change fun h => hmem '+' (by decide) (List.mem_cons_of_mem '/' h)
  have hcomma := not_mem_commentPath (s := s) change (Or.inl rfl) (hmem ',' (by decide))
  have hat := not_mem_commentPath (s := s) change (Or.inr rfl) (hmem '@' (by decide))
  have hmatch := match?_changeRow commentTail (fun h => hne (Percent.readable_eq_nil.1 h))
    (isRun_dot_readable true s) (isNumber_ofNat _) hpath.tail (hpath.final.not_holdsRow _)
    (reads_commentTail hword (Or.inr rfl)) (fun _ _ _ _ => unique_commentTail hword)
  refine Route.takes_of_change hmatch ?_
  have hbefore : changeRoutes.takeWhile (· != .comment) = editRoutes := rfl
  rw [hbefore]
  exact Route.match?_editRoutes_eq_none (number_append_ne_nil change _) hcomma hat

/-! ### There and back -/

omit hne in
/-- The path that routes see. -/
theorem matchPath_commentAddress (front back : Text)
    (hplace : ∀ c ∈ ['?', '#', '%'], c ∉ front ∧ c ∉ back) :
    (Location.parse (changeRoot (some s) change ++ (front ++ (comment ++ back)))).matchPath =
      changePath (readable true s) (Numeral.ofNat change.toNat) (front ++ (comment ++ back)) := by
  have habsent : ∀ c ∈ ['?', '#', '%'], c ∉ front ++ (comment ++ back) := by
    intro c hc
    have hmark : c ∈ separators := by
      revert c
      exact List.all_iff_forall_prop.1 (by decide)
    rw [List.mem_append, List.mem_append, not_or, not_or]
    exact ⟨(hplace c hc).1, hword.not_mem hmark, (hplace c hc).2⟩
  have hroot : ∀ c ∈ ['?', '#'], c ∉ changeRoot (some s) change ++ (front ++ (comment ++ back)) := by
    intro c hc
    have hmark : Percent.isSegmentChar c = false ∧ c.isDigit = false ∧ c ∈ ['?', '#', '%'] := by
      revert c
      exact List.all_iff_forall_prop.1 (by decide)
    rw [List.mem_append, not_or]
    exact ⟨not_mem_changeRoot hmark.1 hmark.2.1 s change, habsent c hmark.2.2⟩
  have hparse := Location.matchPath_parse_of_front (changeRoot_ne_nil s change (front ++ (comment ++ back)))
    (hroot '?' (by decide)) (hroot '#' (by decide)) front_nil
  rw [List.append_nil] at hparse
  rw [hparse, unescape_changeRoot_append, Percent.unescape_plain _ (habsent '%' (by decide))]

/-- **Navigating to the address of a comment presents the comments of its change**, at that one. -/
theorem ChangeView.action_navigate_comment {σ : Type} {n : Navigator} (hn : n.IsStandard)
    (session : Session σ) (st : σ) :
    ((n.navigate (View.change { project := some s, change, comment := some comment }).address).1.run
      session st).1.action = .present (.change { project := some s, change, comment := some comment }) := by
  have haddress : (View.change { project := some s, change, comment := some comment }).address =
      changeRoot (some s) change ++ ("/comments/".toList ++ (comment ++ [])) := by
    rw [List.append_nil, ← List.append_nil (changeRoot _ _ ++ _), ← List.append_nil (changeRoot _ _ ++ _)]
    rfl
  have htakes := takes_commentsTab hne hword change
  have hpath := matchPath_commentAddress (s := s) hword change "/comments/" []
    (List.all_iff_forall_prop.1 (by decide))
  rw [← haddress, List.append_nil] at hpath
  rw [show "/comments".toList ++ '/' :: comment = "/comments/".toList ++ comment from rfl, ← hpath] at htakes
  refine n.run_navigate hn (session.obeys_any st) htakes ?_
  intro initialLoad result hgives
  have hhandle := Handling.gives_guard_open.1 hgives
  replace hhandle : (handleCommentsTab (Route.commentsTab.captured _)).Gives _ result := hhandle
  rw [handleCommentsTab, Handling.gives_changeTarget rfl rfl] at hhandle
  have hcomment : (Route.commentsTab.captured (commentCaptures (some comment) ++
      changeCaptures (readable true s) (Numeral.ofNat change.toNat))).get? "comment" = some comment := by
    rw [Route.get?_captured]
    exact congrArg some (hword.unescapeValue_eq)
  rw [hcomment] at hhandle
  rw [show result = _ from hhandle]
  rfl

/-- **Navigating to the address of a comment in its file presents it.** -/
theorem DiffView.action_navigate_comment {σ : Type} {n : Navigator} (hn : n.IsStandard)
    (session : Session σ) (st : σ) :
    ((n.navigate (View.diff { project := some s, change, comment := some comment }).address).1.run
      session st).1.action = .present (.diff { project := some s, change, comment := some comment }) := by
  have haddress : (View.diff { project := some s, change, comment := some comment }).address =
      changeRoot (some s) change ++ ("/comment/".toList ++ (comment ++ ['/'])) := by
    rw [← List.append_assoc, ← List.append_assoc]
    rfl
  have htakes := takes_comment hne hword change
  have hpath := matchPath_commentAddress (s := s) hword change "/comment/" ['/']
    (List.all_iff_forall_prop.1 (by decide))
  rw [← haddress] at hpath
  rw [← hpath] at htakes
  refine n.run_navigate hn (session.obeys_any st) htakes ?_
  intro initialLoad result hgives
  have hhandle := Handling.gives_guard_open.1 hgives
  replace hhandle : (handleComment (Route.comment.captured _)).Gives _ result := hhandle
  have hcomment : (Route.comment.captured (commentCaptures (some comment) ++
      changeCaptures (readable true s) (Numeral.ofNat change.toNat))).require "comment" = .ok comment := by
    apply Captures.require_eq
    rw [Route.get?_captured]
    exact congrArg some (hword.unescapeValue_eq)
  rw [handleComment, Handling.gives_changeTarget rfl rfl, hcomment] at hhandle
  rw [show result = _ from hhandle]
  rfl

end Routes

end ReviewRouter
