import ReviewRouter.Proofs.Redirect.LegacyPath

/-!
# Pages inside names

A space in a name stands as a plus sign in an address, so a space between two slashes stands there like
the mark behind a project.  What follows it in the name may then be taken for the page of a change.

* `IsTailOf` — the texts that a row for the tail of a page reads;
* `HoldsTail` — a text with a mark, a number and such a tail in it;
* `holdsRow_iff`, `holdsTail_append` — when a row reads a page inside a text, and where;
* `match?_changeRow_ne_none` — a page inside the tail of a path is found;
* `unescapeValue_ne_of_holdsTail` — **and the project that is read is another one**;
* `HoldsEditor`, `Route.match?_diffEdit_eq_none_of_not_holds`, `Route.match?_diffEdit_ne_none_of_holds` —
  an editor in the name of a project.
-/

namespace ReviewRouter

open Pattern
open Percent (readable unescapeValue)

/-! ### Tails as texts -/

/-- The row reads the texts with the property, up to their end, and no others. -/
structure IsTailOf (P : Text → Prop) (tail : List Pattern) : Prop where
  of_reads : ∀ {b w r cs}, Reads tail b w r cs → r = [] ∧ P w
  reads : ∀ {t}, P t → isRun .dot t → ∃ cs, ∀ b, Reads tail b t [] cs

/-- The tail of a comment in its file. -/
def IsCommentTail (t : Text) : Prop :=
  ∃ comment back, t = "/comment/".toList ++ (comment ++ back) ∧ IsWord comment ∧ IsSlash? back

/-- The tail of the comments of a change. -/
def IsCommentsTail (t : Text) : Prop :=
  ∃ front comment? back, t = "/comments".toList ++ (front ++ (comment?.getD [] ++ back)) ∧
    IsSlash? front ∧ (∀ comment, comment? = some comment → IsWord comment) ∧ IsSlash? back

/-- The tail of a file between patch sets. -/
def IsFileTail (t : Text) : Prop :=
  ∃ base patch? file, t = '/' :: (rangeText base patch? ++ '/' :: file) ∧ IsRange base patch? ∧ file ≠ []

/-- The tail of a file in the editor, up to the mark at its end. -/
def IsEditorTail (t : Text) : Prop :=
  ∃ patch file, t = '/' :: (patch ++ '/' :: file) ∧ IsPatchText patch ∧ file ≠ []

theorem isTailOf_comment : IsTailOf IsCommentTail commentTail where
  of_reads h := by
    obtain ⟨hr, comment, back, hw, hword, hback, -⟩ := exists_of_reads_commentTail h
    exact ⟨hr, comment, back, hw, hword, hback⟩
  reads := by
    rintro _ ⟨comment, back, rfl, hword, hback⟩ -
    exact ⟨_, reads_commentTail hword hback⟩

theorem isTailOf_comments : IsTailOf IsCommentsTail commentsTail where
  of_reads h := by
    obtain ⟨hr, front, comment?, back, hw, hfront, hword, hback, -⟩ := exists_of_reads_commentsTail h
    exact ⟨hr, front, comment?, back, hw, hfront, hword, hback⟩
  reads := by
    rintro _ ⟨front, comment?, back, rfl, hfront, hword, hback⟩ -
    exact ⟨_, reads_commentsTail hfront hword hback⟩

theorem isTailOf_diff : IsTailOf IsFileTail diffTail where
  of_reads h := by
    obtain ⟨hr, base, patch?, file, hw, hrange, hne, -⟩ := exists_of_reads_diffTail h
    exact ⟨hr, base, patch?, file, hw, hrange, hne⟩
  reads := by
    rintro _ ⟨base, patch?, file, rfl, hrange, hne⟩ hdot
    have hfile : isRun .dot file := fun c hc =>
      hdot c (List.mem_cons_of_mem '/' (List.mem_append_right _ (List.mem_cons_of_mem '/' hc)))
    exact ⟨_, reads_diffTail_of_range hrange hne hfile⟩

theorem isTailOf_diffEdit :
    IsTailOf (fun t => ∃ u, t = u ++ ",edit".toList ∧ IsEditorTail u) diffEditTail where
  of_reads h := by
    obtain ⟨hr, patch, file, rfl, hpatch, hne, -⟩ := exists_of_reads_diffEditTail h
    refine ⟨hr, '/' :: (patch ++ '/' :: file), ?_, patch, file, rfl, hpatch, hne⟩
    rw [List.cons_append, List.append_assoc, List.cons_append]
  reads := by
    rintro _ ⟨_, rfl, patch, file, rfl, hpatch, hne⟩ hdot
    have hfile : isRun .dot file := fun c hc => hdot c (List.mem_append_left _
      (List.mem_cons_of_mem '/' (List.mem_append_right _ (List.mem_cons_of_mem '/' hc))))
    refine ⟨[("path".toList, file), ("patch".toList, patch)], fun b => ?_⟩
    rw [List.cons_append, List.append_assoc, List.cons_append]
    exact reads_diffEditTail_of_patch hpatch hne hfile b

/-! ### Pages inside a text -/

/-- Behind a mark in the text stand a number and a tail with the property. -/
def HoldsTail (P : Text → Prop) (t : Text) : Prop :=
  ∃ front digits tail, t = front ++ (marker ++ (digits ++ tail)) ∧ IsNumber digits ∧ P tail

/-- What ends a text ends the tail in it. -/
theorem holdsTail_append_right {P : Text → Prop} (t u : Text) :
    HoldsTail (fun x => ∃ y, x = y ++ u ∧ P y) (t ++ u) ↔ HoldsTail P t := by
  constructor
  · rintro ⟨front, digits, _, ht, hdigits, tail, rfl, htail⟩
    refine ⟨front, digits, tail, ?_, hdigits, htail⟩
    rw [← List.append_assoc digits, ← List.append_assoc marker, ← List.append_assoc front] at ht
    exact List.append_cancel_right ht
  · rintro ⟨front, digits, tail, rfl, hdigits, htail⟩
    refine ⟨front, digits, tail ++ u, ?_, hdigits, tail, rfl, htail⟩
    simp only [List.append_assoc]

/-- A mark does not begin in front of a slash without the plus sign being behind it. -/
theorem holdsTail_append {P : Text → Prop} {a : Text} (ha : '+' ∉ a) (t : Text) :
    HoldsTail P (a ++ '/' :: t) ↔ HoldsTail P ('/' :: t) := by
  constructor
  · rintro ⟨front, digits, tail, ht, hdigits, htail⟩
    rcases List.append_eq_append_iff.1 ht with ⟨m, rfl, hm⟩ | ⟨m, rfl, hm⟩
    · exact ⟨m, digits, tail, hm, hdigits, htail⟩
    · match m, hm with
      | [], hm => exact ⟨[], digits, tail, hm.symm, hdigits, htail⟩
      | [c], hm =>
        simp only [marker_append, List.cons_append, List.nil_append, List.cons.injEq] at hm
        exact absurd hm.2.1 (by decide)
      | c :: d :: m, hm =>
        simp only [marker_append, List.cons_append, List.cons.injEq] at hm
        rw [← hm.2.1] at ha
        exact absurd (List.mem_append_right front (List.mem_cons_of_mem c List.mem_cons_self)) ha
  · rintro ⟨front, digits, tail, ht, hdigits, htail⟩
    exact ⟨a ++ front, digits, tail, by rw [ht, List.append_assoc], hdigits, htail⟩

section Rows

variable {P : Text → Prop} {tail : List Pattern} (h : IsTailOf P tail)

include h

theorem not_holdsRow {t : Text} (ht : ¬HoldsTail P t) : ¬HoldsRow tail t := by
  rintro ⟨front, digits, x, r, b, cv, rfl, hdigits, hx⟩
  obtain ⟨rfl, hP⟩ := h.of_reads hx
  exact ht ⟨front, digits, x, by rw [List.append_nil], hdigits, hP⟩

variable {s digits t : Text}

/-- A page inside the tail of a path is read, with a longer project. -/
theorem exists_reads_of_holdsTail (hdot : isRun .dot (digits ++ t)) (ht : HoldsTail P (digits ++ t)) :
    ∃ front digits' x cs, front ≠ [] ∧ isRun .dot front ∧ IsNumber digits' ∧
      (∀ b, Reads tail b x [] cs) ∧
      changePath (readable true s) digits t = changePath (readable true s ++ front) digits' x := by
  obtain ⟨front, digits', x, heq, hdigits', hx⟩ := ht
  rw [heq] at hdot
  obtain ⟨hfront, hdot⟩ := isRun_append.1 hdot
  obtain ⟨-, hdot⟩ := isRun_append.1 hdot
  obtain ⟨cs, hreads⟩ := h.reads hx (isRun_append.1 hdot).2
  refine ⟨marker ++ front, digits', x, cs, List.cons_ne_nil _ _,
    isRun_append.2 ⟨isRun_dot_marker, hfront⟩, hdigits', hreads, ?_⟩
  rw [changePath, changePath, heq]
  simp only [List.append_assoc]

/-- So it is found. -/
theorem match?_changeRow_ne_none (hs : s ≠ []) (hdot : isRun .dot (digits ++ t))
    (ht : HoldsTail P (digits ++ t)) :
    (row (changeRow tail)).matchAt? none (changePath (readable true s) digits t) ≠ none := by
  obtain ⟨front, digits', x, cs, -, hfront, hdigits', hreads, hpath⟩ :=
    exists_reads_of_holdsTail (s := s) h hdot ht
  have hne : readable true s ++ front ≠ [] :=
    fun hnil => hs (Percent.readable_eq_nil.1 (List.append_eq_nil_iff.1 hnil).1)
  have hmatch := matchAt?_ne_none (reads_changeRow_changePath hne
    (isRun_append.2 ⟨isRun_dot_readable true s, hfront⟩) hdigits' hreads none)
  rwa [List.append_nil, ← hpath] at hmatch

/-- **The project that is read is another one**, since the search is greedy. -/
theorem unescapeValue_ne_of_holdsTail (hs : s ≠ []) (hdot : isRun .dot (digits ++ t))
    (ht : HoldsTail P (digits ++ t)) {repo digits' : Text} {cv found : List (Text × Text)}
    (hmatch : (row (changeRow tail)).matchAt? none (changePath (readable true s) digits t) = some found)
    (hfound : found = cv ++ changeCaptures repo digits') : unescapeValue repo ≠ s := by
  obtain ⟨repo', digits'', x, r, b, cv', hpath, hfound', -, -, -, hlongest⟩ :=
    exists_of_match?_changeRow hmatch
  obtain rfl : repo = repo' := by
    have hlast := congrArg List.getLast? (hfound.symm.trans hfound')
    rw [changeCaptures, changeCaptures, List.getLast?_append, List.getLast?_append] at hlast
    exact (Prod.mk.inj (Option.some_inj.1 hlast)).2
  obtain ⟨front, digits₂, y, cs, hfront, hdotFront, hdigits₂, hreads, hlonger⟩ :=
    exists_reads_of_holdsTail (s := s) h hdot ht
  have hne : readable true s ++ front ≠ [] :=
    fun hnil => hs (Percent.readable_eq_nil.1 (List.append_eq_nil_iff.1 hnil).1)
  have hlength : (readable true s ++ front).length ≤ repo.length :=
    hlongest (readable true s ++ front) digits₂ y [] cs (by rw [hlonger, List.append_nil]) hne
      (isRun_append.2 ⟨isRun_dot_readable true s, hdotFront⟩) hdigits₂ hreads
  obtain ⟨m, hm⟩ : readable true s ++ front <+: repo := by
    have hsame : repo ++ (marker ++ (digits'' ++ (x ++ r))) =
        readable true s ++ front ++ (marker ++ (digits₂ ++ y)) := by
      rw [hpath, changePath, changePath] at hlonger
      exact List.append_cancel_left hlonger
    exact List.prefix_of_prefix_length_le ⟨_, hsame.symm⟩ (List.prefix_append _ _) hlength
  rw [← hm, List.append_assoc, Percent.unescapeValue_readable_append]
  intro heq
  have hnil : unescapeValue (front ++ m) = [] := List.append_right_eq_self.1 heq
  exact Percent.unescapeValue_ne_nil (fun h => hfront (List.append_eq_nil_iff.1 h).1) hnil

end Rows

/-! ### An editor in the name of a project -/

/-- A repository in a path that holds the beginning of the path of an editor, up to the slash behind the
repository. -/
def HoldsEditor (repo : Text) : Prop :=
  HoldsPart IsPatchText repo

namespace Route

/-- An editor that is not in the repository would begin behind the number. -/
theorem match?_diffEdit_eq_none_of_not_holds {repo digits t : Text} (hpath : IsChangePath repo digits t)
    (ht : '/' ∉ t.tail) (hhold : ¬HoldsEditor repo) :
    Route.diffEdit.match? (changePath repo digits t) = none := by
  refine match?_eq_none_of_not_holdsPart diffEditTail rfl ?_ ?_ hpath ht hhold
  · exact fun m hm => hm.isPart.not_mem (by decide)
  · intro b x rest cv h
    obtain ⟨hr, patch, file, hx, hpatch, -⟩ := exists_of_reads_diffEditTail h
    exact ⟨hr, patch, _, hx, hpatch⟩

/-- Where an editor can be read in the repository, it is, if its mark is at the end of the path. -/
theorem match?_diffEdit_ne_none_of_holds {repo y : Text} (hhold : HoldsEditor repo)
    (hdot : isRun .dot (repo ++ (marker ++ y))) :
    Route.diffEdit.match? ("/c/" ++ (repo ++ (marker ++ (y ++ ",edit".toList)))) ≠ none := by
  obtain ⟨front, digits, patch, file, hpath, hfront, hnumber, hpatch⟩ :=
    exists_changePath_of_holdsPart hhold y
  obtain ⟨hfrontDot, hfileDot⟩ := isRun_of_changePath hpath hdot
  have hne : file ++ '+' :: '/' :: y ≠ [] :=
    fun h => List.cons_ne_nil _ _ (List.append_eq_nil_iff.1 h).2
  have hmatch := matchAt?_ne_none (reads_changeRow_changePath hfront hfrontDot hnumber
    (reads_diffEditTail_of_patch hpatch hne hfileDot) none)
  have hlong : "/c/" ++ (repo ++ (marker ++ (y ++ ",edit".toList))) = changePath front digits
      ('/' :: (patch ++ '/' :: (file ++ '+' :: '/' :: y ++ ",edit".toList))) := by
    have happend := congrArg (· ++ ",edit".toList) hpath
    simp only [changePath, List.append_assoc, List.cons_append] at happend ⊢
    exact happend
  rw [List.append_nil, ← hlong] at hmatch
  exact hmatch

end Route

end ReviewRouter
