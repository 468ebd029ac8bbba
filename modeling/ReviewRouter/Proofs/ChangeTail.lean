import Mathlib.Data.Bool.AllAny
import ReviewRouter.Proofs.ChangePath

/-!
# What stands behind the number of a change

The pages of a change are told apart by the tail of their path: a range, the mark of the edit mode, a
comment, or a file between patch sets or in the editor.

* `exists_of_reads_changeTail`, `exists_of_reads_diffTail`, … — what the rows for these tails read;
* `Route.takes_of_change` — a route takes the path of a change if those before it do not match;
* `Route.match?_topic_eq_none`, … — the earlier routes that a canonical address passes by;
* `Route.match?_editRoutes_eq_none`, `Route.match?_commentRoutes_eq_none` — those of editors and of comments
  together.
-/

namespace ReviewRouter

open Pattern

/-! ### Tails of the pages -/

/-- A slash or nothing. -/
def IsSlash? (w : Text) : Prop :=
  w = [] ∨ w = ['/']

theorem IsSlash?.plus_not_mem {w : Text} (h : IsSlash? w) : '+' ∉ w := by
  rcases h with rfl | rfl <;> decide

theorem IsSlash?.head_eq {w : Text} (h : IsSlash? w) {c : Char} (hc : w.head? = some c) : c = '/' := by
  rcases h with rfl | rfl
  · cases hc
  · exact (Option.some_inj.1 hc).symm

theorem isSlash?_of_reads {b : Option Char} {w r : Text} {cs : List (Text × Text)}
    (h : Reads [slash?, stop] b w r cs) : IsSlash? w ∧ r = [] ∧ cs = [] := by
  rcases reads_maybe_char.1 h with ⟨v, rfl, h₁⟩ | h₁
  · obtain ⟨rfl, rfl, rfl⟩ := reads_stop.1 h₁
    exact ⟨Or.inr rfl, rfl, rfl⟩
  · obtain ⟨rfl, rfl, rfl⟩ := reads_stop.1 h₁
    exact ⟨Or.inl rfl, rfl, rfl⟩

theorem reads_slashEnd {w : Text} (h : IsSlash? w) (b : Option Char) : Reads [slash?, stop] b w [] [] := by
  have hstop : ∀ b, Reads [stop] b [] [] [] := fun b => reads_stop.2 ⟨rfl, rfl, rfl⟩
  rcases h with rfl | rfl
  · exact reads_maybe_char.2 (Or.inr (hstop b))
  · exact reads_maybe_char.2 (Or.inl ⟨[], rfl, hstop _⟩)

/-- The tail of a change is empty, or a range between slashes that may be missing. -/
theorem exists_of_reads_changeTail {b : Option Char} {w r : Text} {cs : List (Text × Text)}
    (h : Reads changeTail b w r cs) :
    r = [] ∧ ((IsSlash? w ∧ cs = []) ∨
      ∃ front base patch? back, w = front ++ (rangeText base patch? ++ back) ∧ IsSlash? front ∧
        IsSlash? back ∧ IsRange base patch? ∧ cs = rangeCaptures base patch?) := by
  rcases reads_maybe.1 h with ⟨u, v, cu, cv, rfl, rfl, hu, hv⟩ | h₁
  · obtain ⟨hback, rfl, rfl⟩ := isSlash?_of_reads hv
    have hrow := (spells_row _ _ _ _ _).1 hu
    refine ⟨rfl, Or.inr ?_⟩
    rcases reads_maybe_char.1 hrow with ⟨x, rfl, hx⟩ | hx
    · obtain ⟨base, patch?, y, b', cy, rfl, rfl, hrange, rfl, rfl⟩ := exists_of_reads_range hx
      exact ⟨['/'], base, patch?, v, by simp only [List.append_nil, List.cons_append, List.nil_append],
        Or.inr rfl, hback, hrange, rfl⟩
    · obtain ⟨base, patch?, y, b', cy, rfl, rfl, hrange, rfl, rfl⟩ := exists_of_reads_range hx
      exact ⟨[], base, patch?, v, by simp only [List.append_nil, List.nil_append], Or.inl rfl, hback,
        hrange, rfl⟩
  · obtain ⟨hw, rfl, rfl⟩ := isSlash?_of_reads h₁
    exact ⟨rfl, Or.inl ⟨hw, rfl⟩⟩

theorem reads_changeTail_slash {w : Text} (h : IsSlash? w) (b : Option Char) :
    Reads changeTail b w [] [] :=
  reads_maybe.2 (Or.inr (reads_slashEnd h b))

/-- Nothing but a slash is no range. -/
theorem unique_changeTail_slash {w b r : Text} {before : Option Char} {cs : List (Text × Text)}
    (hw : IsSlash? w) (hcut : w = b ++ r) (h : Reads changeTail before b r cs) : cs = [] := by
  rcases exists_of_reads_changeTail h with
    ⟨rfl, ⟨-, rfl⟩ | ⟨front, base, patch?, back, rfl, -, -, hrange, -⟩⟩
  · rfl
  · obtain ⟨c, t, hc, hpart⟩ := hrange.head
    have hmem : c ∈ w := by
      rw [hcut, hc]
      exact List.mem_append_left _ (List.mem_append_right _ List.mem_cons_self)
    rcases hw with rfl | rfl
    · cases hmem
    · obtain rfl := List.mem_singleton.1 hmem
      exact absurd hpart (by decide)

/-- The tail of a comparison is a range and the path of a file. -/
theorem exists_of_reads_diffTail {b : Option Char} {w r : Text} {cs : List (Text × Text)}
    (h : Reads diffTail b w r cs) :
    r = [] ∧ ∃ base patch? file, w = '/' :: (rangeText base patch? ++ '/' :: file) ∧
      IsRange base patch? ∧ file ≠ [] ∧ cs = ("path".toList, file) :: rangeCaptures base patch? := by
  obtain ⟨v, rfl, h₁⟩ := reads_lit.1 h
  obtain ⟨base, patch?, v, b', cv, rfl, rfl, hrange, h₂⟩ := exists_of_reads_range h₁
  obtain ⟨v, rfl, h₃⟩ := reads_lit.1 h₂
  obtain ⟨file, v, cv, rfl, rfl, hne, -, h₄⟩ := reads_capture_plus.1 h₃
  obtain ⟨rfl, rfl, rfl⟩ := reads_stop.1 h₄
  exact ⟨rfl, base, patch?, file, by rw [List.append_nil]; rfl, hrange, hne, rfl⟩

theorem reads_diffTail_of_range {base file : Text} {patch? : Option Text} (hrange : IsRange base patch?)
    (hne : file ≠ []) (hdot : isRun .dot file) (b : Option Char) :
    Reads diffTail b ('/' :: (rangeText base patch? ++ '/' :: file)) []
      (("path".toList, file) :: rangeCaptures base patch?) := by
  refine reads_lit.2 ⟨_, rfl, ?_⟩
  show Reads _ _ _ _ ([("path".toList, file)] ++ rangeCaptures base patch?)
  refine reads_range hrange ?_
  intro b
  refine reads_lit.2 ⟨_, rfl, ?_⟩
  exact reads_capture_plus.2 ⟨file, [], [], (List.append_nil file).symm, rfl, hne, hdot,
    reads_stop.2 ⟨rfl, rfl, rfl⟩⟩

/-- A word: letters, digits, marks and underscores. -/
structure IsWord (w : Text) : Prop where
  ne_nil : w ≠ []
  chars : isRun .word w

/-- The characters that separate the parts of an address. -/
def separators : List Char := ['/', '+', ',', '@', '%', '?', '#']

/-- They are in no word. -/
theorem IsWord.not_mem {w : Text} (h : IsWord w) {c : Char} (hc : c ∈ separators) : c ∉ w := by
  have hmarks : ∀ c ∈ separators, CharSet.word.mem c = false := by
    exact List.all_iff_forall_prop.1 (by decide)
  exact not_mem_of_isRun (hmarks c hc) h.chars

/-- What is captured of a comment that may be missing. -/
def commentCaptures : Option Text → List (Text × Text)
  | some comment => [("comment", comment)]
  | none => []

/-- The tail of a comment is its name, perhaps with a slash behind it. -/
theorem exists_of_reads_commentTail {b : Option Char} {w r : Text} {cs : List (Text × Text)}
    (h : Reads commentTail b w r cs) :
    r = [] ∧ ∃ comment back, w = "/comment/".toList ++ (comment ++ back) ∧ IsWord comment ∧ IsSlash? back ∧
      cs = commentCaptures (some comment) := by
  obtain ⟨v, rfl, h₁⟩ := reads_lit.1 h
  obtain ⟨comment, v, cv, rfl, rfl, hne, hword, h₂⟩ := reads_capture_plus.1 h₁
  obtain ⟨hback, rfl, rfl⟩ := isSlash?_of_reads h₂
  exact ⟨rfl, comment, v, rfl, ⟨hne, hword⟩, hback, rfl⟩

theorem reads_commentTail {comment back : Text} (hword : IsWord comment) (hback : IsSlash? back)
    (b : Option Char) :
    Reads commentTail b ("/comment/".toList ++ (comment ++ back)) [] (commentCaptures (some comment)) :=
  reads_lit.2 ⟨_, rfl, reads_capture_plus.2 ⟨comment, back, [], rfl, rfl, hword.ne_nil, hword.chars,
    reads_slashEnd hback _⟩⟩

/-- The tail of the comments is a name that may be missing, perhaps between slashes. -/
theorem exists_of_reads_commentsTail {b : Option Char} {w r : Text} {cs : List (Text × Text)}
    (h : Reads commentsTail b w r cs) :
    r = [] ∧ ∃ front comment? back, w = "/comments".toList ++ (front ++ (comment?.getD [] ++ back)) ∧
      IsSlash? front ∧ (∀ comment, comment? = some comment → IsWord comment) ∧ IsSlash? back ∧
      cs = commentCaptures comment? := by
  have hname : ∀ {b v cs}, Reads [maybe (.capture "comment" (plus .word)), slash?, stop] b v r cs →
      r = [] ∧ ∃ comment? back, v = comment?.getD [] ++ back ∧
        (∀ comment, comment? = some comment → IsWord comment) ∧ IsSlash? back ∧
        cs = commentCaptures comment? := by
    intro b v cs h
    rcases reads_maybe.1 h with ⟨u, z, cu, cz, rfl, rfl, ⟨cs', hu, rfl⟩, hz⟩ | h
    · obtain ⟨hne, hrun, rfl⟩ := (spells_plus_iff _ _ _ _ _ _).1 hu
      obtain ⟨hback, rfl, rfl⟩ := isSlash?_of_reads hz
      refine ⟨rfl, some u, z, rfl, ?_, hback, rfl⟩
      rintro comment ⟨⟩
      exact ⟨hne, hrun⟩
    · obtain ⟨hback, rfl, rfl⟩ := isSlash?_of_reads h
      exact ⟨rfl, none, v, rfl, nofun, hback, rfl⟩
  obtain ⟨v, rfl, h₁⟩ := reads_lit.1 h
  rcases reads_maybe_char.1 h₁ with ⟨z, rfl, h₂⟩ | h₂
  · obtain ⟨rfl, comment?, back, rfl, hword, hback, hcs⟩ := hname h₂
    exact ⟨rfl, ['/'], comment?, back, rfl, Or.inr rfl, hword, hback, hcs⟩
  · obtain ⟨rfl, comment?, back, rfl, hword, hback, hcs⟩ := hname h₂
    exact ⟨rfl, [], comment?, back, rfl, Or.inl rfl, hword, hback, hcs⟩

theorem reads_commentsTail {front back : Text} {comment? : Option Text} (hfront : IsSlash? front)
    (hword : ∀ comment, comment? = some comment → IsWord comment) (hback : IsSlash? back)
    (b : Option Char) :
    Reads commentsTail b ("/comments".toList ++ (front ++ (comment?.getD [] ++ back))) []
      (commentCaptures comment?) := by
  have hname : ∀ b, Reads [maybe (.capture "comment" (plus .word)), slash?, stop] b
      (comment?.getD [] ++ back) [] (commentCaptures comment?) := by
    intro b
    cases comment? with
    | none => exact reads_maybe.2 (Or.inr (reads_slashEnd hback b))
    | some comment =>
      have hspells : ∀ after, (Pattern.capture "comment" (plus .word)).Spells b comment after
          (commentCaptures (some comment)) := by
        intro after
        exact ⟨[], (spells_plus_iff _ true _ _ _ _).2 ⟨(hword comment rfl).ne_nil,
          (hword comment rfl).chars, rfl⟩, rfl⟩
      exact reads_maybe.2 (Or.inl ⟨comment, back, _, [], rfl, rfl, hspells _, reads_slashEnd hback _⟩)
  refine reads_lit.2 ⟨_, rfl, ?_⟩
  rcases hfront with rfl | rfl
  · exact reads_maybe_char.2 (Or.inr (hname _))
  · exact reads_maybe_char.2 (Or.inl ⟨_, rfl, hname _⟩)

/-- The tail of an editor is a patch set and the path of a file, before a mark of its own. -/
theorem exists_of_reads_diffEditTail {b : Option Char} {w r : Text} {cs : List (Text × Text)}
    (h : Reads diffEditTail b w r cs) :
    r = [] ∧ ∃ patch file, w = '/' :: (patch ++ '/' :: (file ++ ",edit".toList)) ∧ IsPatchText patch ∧
      file ≠ [] ∧ cs = [("path".toList, file), ("patch".toList, patch)] := by
  obtain ⟨v, rfl, h₁⟩ := reads_lit.1 h
  obtain ⟨patch, v, cu, cv, rfl, rfl, hpatch, h₂⟩ := reads_capture.1 h₁
  obtain ⟨hpart, rfl⟩ := spells_patchPart.1 hpatch
  obtain ⟨v, rfl, h₃⟩ := reads_lit.1 h₂
  obtain ⟨file, v, cv, rfl, rfl, hne, -, h₄⟩ := reads_capture_plus.1 h₃
  obtain ⟨v, rfl, h₅⟩ := reads_lit.1 h₄
  obtain ⟨rfl, rfl, rfl⟩ := reads_stop.1 h₅
  exact ⟨rfl, patch, file, rfl, hpart, hne, rfl⟩

theorem reads_diffEditTail_of_patch {patch file : Text} (hpatch : IsPatchText patch) (hne : file ≠ [])
    (hdot : isRun .dot file) (b : Option Char) :
    Reads diffEditTail b ('/' :: (patch ++ '/' :: (file ++ ",edit".toList))) []
      [("path".toList, file), ("patch".toList, patch)] := by
  refine reads_lit.2 ⟨_, rfl, ?_⟩
  refine reads_capture.2 ⟨patch, _, [], [("path".toList, file)], rfl, rfl,
    spells_patchPart.2 ⟨hpatch, rfl⟩, ?_⟩
  refine reads_lit.2 ⟨_, rfl, ?_⟩
  exact reads_capture_plus.2 ⟨file, ",edit".toList, [], rfl, rfl, hne, hdot,
    reads_lit.2 ⟨[], rfl, reads_stop.2 ⟨rfl, rfl, rfl⟩⟩⟩

/-- A patch set behind a slash, if there is one. -/
def patchTail : Option Text → Text
  | some patch => '/' :: patch
  | none => []

/-- What is captured of it. -/
def patchCaptures : Option Text → List (Text × Text)
  | some patch => [("patch", patch)]
  | none => []

/-- The tail of the edit mode is a number that may be missing, before the same mark. -/
theorem exists_of_reads_changeEditTail {b : Option Char} {w r : Text} {cs : List (Text × Text)}
    (h : Reads changeEditTail b w r cs) :
    r = [] ∧ ∃ patch? back, w = patchTail patch? ++ (",edit".toList ++ back) ∧
      (∀ patch, patch? = some patch → IsNumber patch) ∧ IsSlash? back ∧ cs = patchCaptures patch? := by
  rcases reads_maybe.1 h with ⟨u, v, cu, cv, rfl, rfl, hu, hv⟩ | hv
  · obtain ⟨x, rfl, hx⟩ := reads_lit.1 ((spells_row _ _ _ _ _).1 hu)
    obtain ⟨digits, y, cy, rfl, rfl, hne, hdigit, rfl, rfl⟩ := reads_capture_plus.1 hx
    obtain ⟨z, rfl, hz⟩ := reads_lit.1 hv
    obtain ⟨hback, rfl, rfl⟩ := isSlash?_of_reads hz
    refine ⟨rfl, some digits, z, ?_, ?_, hback, rfl⟩
    · rw [List.append_nil]
      rfl
    · rintro patch ⟨⟩
      exact ⟨hne, hdigit⟩
  · obtain ⟨z, rfl, hz⟩ := reads_lit.1 hv
    obtain ⟨hback, rfl, rfl⟩ := isSlash?_of_reads hz
    exact ⟨rfl, none, z, rfl, nofun, hback, rfl⟩

/-! ### Routes that are passed by -/

/-- The routes whose paths may begin like those of a change. -/
def changeRoutes : List Route :=
  [.topic, .diffLegacyLinenum, .diffEdit, .changeEdit, .comment, .commentsTab, .diff, .change,
    .changeLegacy, .improperlyEncodedPlus, .fallback]

/-- Those of editors, and those that are tried before them. -/
def editRoutes : List Route :=
  [.topic, .diffLegacyLinenum, .diffEdit, .changeEdit]

/-- Those of comments, which are tried next. -/
def commentRoutes : List Route :=
  [.comment, .commentsTab]

theorem filter_mayOpen_change : Route.all.filter (Route.mayOpen "/c/") = changeRoutes := by
  decide

/-- A route takes such a path if those of them that are tried before it do not match. -/
theorem Route.takes_of_change {r : Route} {t : Text} {found : List (Text × Text)}
    (hr : r.match? ("/c/" ++ t) = some found)
    (hbefore : ∀ r' ∈ changeRoutes.takeWhile (· != r), r'.match? ("/c/" ++ t) = none) :
    r.Takes ("/c/" ++ t) found := by
  rw [← filter_mayOpen_change, ← r.filter_before (mayOpen_of_match? hr)] at hbefore
  exact takes_of_opening hr hbefore

/-- A number and a tail that does not go on with digits. -/
structure IsNumbered (digits t : Text) : Prop where
  digit : isRun .digit digits
  tail : ∀ c, t.head? = some c → isDecimalDigit c = false
  front : ¬("+/" : Text) <+: digits ++ t

/-- The path of a change whose number and tail are final. -/
structure IsChangePath (repo digits t : Text) : Prop where
  digit : isRun .digit digits
  tail : ∀ c, t.head? = some c → isDecimalDigit c = false
  final : IsFinal (digits ++ t)

theorem IsChangePath.isNumbered {repo digits t : Text} (h : IsChangePath repo digits t) :
    IsNumbered digits t :=
  ⟨h.digit, h.tail, h.final.front⟩

namespace Route

/-- A topic has at most one slash behind it, and that is the last character of the path; here two
slashes stand around the plus sign already. -/
theorem match?_topic_eq_none {repo y : Text} (hy : y ≠ []) :
    Route.topic.match? ("/c/" ++ (repo ++ (marker ++ y))) = none := by
  apply match?_eq_none
  intro w rest cs hpath h
  obtain ⟨v, rfl, h₁⟩ := reads_lit.1 h
  obtain ⟨x, v, cu, cv, rfl, rfl, hx, h₂⟩ := reads_capture.1 h₁
  obtain ⟨hback, rfl, -⟩ := isSlash?_of_reads h₂
  have hslash : '/' ∉ x := not_mem_of_isRun (by decide) ((spells_star_iff _ _ _ _ _ _).1 hx).1
  have hcut : repo ++ (marker ++ y) = "topic/" ++ (x ++ v) := by
    have hfront : ("/c/topic/" : Text) = "/c/" ++ "topic/" := rfl
    rw [hfront, List.append_nil] at hpath
    simp only [List.append_assoc] at hpath
    exact List.append_cancel_left hpath
  have hcount := congrArg (List.count '/') hcut
  have hmarker : List.count '/' marker = 2 := rfl
  have htopic : List.count '/' ("topic/" : Text) = 1 := rfl
  simp only [List.count_append, hmarker, htopic, List.count_eq_zero.2 hslash] at hcount
  rcases hback with rfl | rfl
  · rw [List.count_nil] at hcount
    omega
  · -- then `y` ends with that slash
    have hright : ("topic/" ++ (x ++ ['/']) : Text).getLast? = some '/' := by
      rw [← List.append_assoc, List.getLast?_append]
      rfl
    have hlast := congrArg List.getLast? hcut
    rw [hright, ← List.append_assoc, List.getLast?_append] at hlast
    cases hend : y.getLast? with
    | none => exact hy (List.getLast?_eq_none_iff.1 hend)
    | some c =>
      rw [hend, Option.some_or, Option.some_inj] at hlast
      subst hlast
      have hpos : 0 < List.count '/' y := List.count_pos_iff.2 (List.mem_of_getLast? hend)
      rw [show List.count '/' ['/'] = 1 from rfl] at hcount
      omega

theorem match?_diffLegacyLinenum_eq_none {path : Text} (h : '@' ∉ path) :
    Route.diffLegacyLinenum.match? path = none := by
  apply match?_eq_none
  intro w rest cs hpath hreads
  obtain ⟨v, rfl, h₁⟩ := reads_lit.1 hreads
  obtain ⟨u, v, rfl, -, -, h₂⟩ := reads_plus.1 h₁
  obtain ⟨v, rfl, -⟩ := reads_lit.1 h₂
  apply h
  rw [hpath]
  simp only [List.mem_append]
  exact Or.inl (Or.inr (Or.inr (Or.inl (by decide))))

/-- A path without a comma is no path of an editor. -/
theorem match?_diffEdit_eq_none {path : Text} (h : ',' ∉ path) : Route.diffEdit.match? path = none := by
  apply match?_eq_none
  intro w rest cs hpath hreads
  obtain ⟨repo, digits, x, b, cv, rfl, -, -, -, -, -, h₁⟩ := reads_changeRow hreads
  obtain ⟨-, patch, file, rfl, -⟩ := exists_of_reads_diffEditTail h₁
  have hcomma : ',' ∈ ",edit".toList := by decide
  apply h
  rw [hpath]
  simp only [List.mem_append, List.mem_cons, hcomma, true_or, or_true]

theorem match?_changeEdit_eq_none {path : Text} (h : ',' ∉ path) :
    Route.changeEdit.match? path = none := by
  apply match?_eq_none
  intro w rest cs hpath hreads
  obtain ⟨repo, digits, x, b, cv, rfl, -, -, -, -, -, h₁⟩ := reads_changeRow hreads
  obtain ⟨-, patch?, back, rfl, -⟩ := exists_of_reads_changeEditTail h₁
  have hcomma : ',' ∈ ",edit".toList := by decide
  apply h
  rw [hpath]
  simp only [List.mem_append, hcomma, true_or, or_true]

/-- A row for a change with a tail that begins with a slash passes by a path with another tail,
unless the repository has a mark and the tail of the row can read over it. -/
theorem match?_eq_none_of_tail {r : Route} (tail : List Pattern) (hshape : r.shape = changeRow tail)
    {repo digits t : Text} (hpath : IsNumbered digits t) (hlast : ¬HoldsRow tail (digits ++ t))
    (htail : ∀ {b x rest cv}, Reads tail b x rest cv →
      ∃ u, x ++ rest = '/' :: u ∧ t ≠ '/' :: u ∧ (¬marker <:+: repo ∨ '+' ∉ u)) :
    r.match? (changePath repo digits t) = none := by
  apply match?_eq_none
  intro w rest cs hw hreads
  rw [hshape] at hreads
  obtain ⟨repo', digits', x, b, cv, -, -, hnumber, hx, hcut⟩ :=
    cuts_of_reads_changeRow hreads hpath.front hw.symm
  have hdigit := hnumber.digits
  obtain ⟨u, hu, ht, hplus⟩ := htail hx
  rw [hu] at hcut
  rcases hcut with ⟨-, hsame⟩ | ⟨c, hrepo, hinside⟩ | ⟨c, -, hbehind⟩
  · have hhead : ∀ c, ('/' :: u).head? = some c → isDecimalDigit c = false := by
      rintro c ⟨⟩
      decide
    exact ht (tail_eq_of_digits_eq hdigit hpath.digit hhead hpath.tail hsame).2.symm
  · rcases hplus with hplus | hplus
    · exact hplus ⟨repo', c, by rw [hrepo, List.append_assoc]⟩
    · have hmem : '+' ∈ digits' ++ '/' :: u := by
        rw [hinside]
        exact List.mem_append_right c (List.mem_append_left _ (by decide))
      rcases List.mem_append.1 hmem with hmem | hmem
      · exact not_mem_of_isRun (by decide) hdigit hmem
      · rcases List.mem_cons.1 hmem with hmem | hmem
        · exact absurd hmem (by decide)
        · exact hplus hmem
  · exact hlast ⟨c, digits', x, rest, b, cv, hu.symm ▸ hbehind, hnumber, hx⟩

theorem match?_comment_eq_none {repo digits t : Text} (hpath : IsNumbered digits t)
    (hlast : ¬HoldsRow commentTail (digits ++ t)) (ht : ¬("/c" : Text) <+: t) :
    Route.comment.match? (changePath repo digits t) = none := by
  refine match?_eq_none_of_tail commentTail rfl hpath hlast ?_
  intro b x rest cv h
  obtain ⟨rfl, comment, back, rfl, hword, hback, -⟩ := exists_of_reads_commentTail h
  refine ⟨"comment/".toList ++ (comment ++ back), ?_, ?_, Or.inr ?_⟩
  · rw [List.append_nil]
    rfl
  · rintro rfl
    exact ht ⟨"omment/".toList ++ (comment ++ back), rfl⟩
  · rw [List.mem_append, List.mem_append, not_or, not_or]
    exact ⟨by decide, hword.not_mem (by decide), hback.plus_not_mem⟩

theorem match?_commentsTab_eq_none {repo digits t : Text} (hpath : IsNumbered digits t)
    (hlast : ¬HoldsRow commentsTail (digits ++ t)) (ht : ¬("/c" : Text) <+: t) :
    Route.commentsTab.match? (changePath repo digits t) = none := by
  refine match?_eq_none_of_tail commentsTail rfl hpath hlast ?_
  intro b x rest cv h
  obtain ⟨rfl, front, comment?, back, rfl, hfront, hword, hback, -⟩ := exists_of_reads_commentsTail h
  have hcomment : '+' ∉ comment?.getD [] := by
    cases comment? with
    | none => exact List.not_mem_nil
    | some comment => exact (hword comment rfl).not_mem (by decide)
  refine ⟨"comments".toList ++ (front ++ (comment?.getD [] ++ back)), ?_, ?_, Or.inr ?_⟩
  · rw [List.append_nil]
    rfl
  · rintro rfl
    exact ht ⟨"omments".toList ++ (front ++ (comment?.getD [] ++ back)), rfl⟩
  · simp only [List.mem_append, not_or]
    exact ⟨by decide, hfront.plus_not_mem, hcomment, hback.plus_not_mem⟩

/-- **No editor has a path without a comma and an at sign**, nor has what is tried before editors. -/
theorem match?_editRoutes_eq_none {repo y : Text} (hy : y ≠ [])
    (hcomma : ',' ∉ ("/c/" ++ (repo ++ (marker ++ y)) : Text))
    (hat : '@' ∉ ("/c/" ++ (repo ++ (marker ++ y)) : Text)) :
    ∀ r ∈ editRoutes, r.match? ("/c/" ++ (repo ++ (marker ++ y))) = none := by
  rw [editRoutes, List.forall_mem_cons, List.forall_mem_cons, List.forall_mem_cons,
    List.forall_mem_singleton]
  exact ⟨match?_topic_eq_none hy, match?_diffLegacyLinenum_eq_none hat, match?_diffEdit_eq_none hcomma,
    match?_changeEdit_eq_none hcomma⟩

/-- **No comment has a path that goes on without its word.** -/
theorem match?_commentRoutes_eq_none {repo digits t : Text} (hpath : IsNumbered digits t)
    (hlast : ∀ tail ∈ [commentTail, commentsTail], ¬HoldsRow tail (digits ++ t))
    (ht : ¬("/c" : Text) <+: t) : ∀ r ∈ commentRoutes, r.match? (changePath repo digits t) = none := by
  rw [List.forall_mem_cons, List.forall_mem_singleton] at hlast
  rw [commentRoutes, List.forall_mem_cons, List.forall_mem_singleton]
  exact ⟨match?_comment_eq_none hpath hlast.1 ht, match?_commentsTab_eq_none hpath hlast.2 ht⟩

/-- A file behind the number takes two slashes. -/
theorem match?_diff_eq_none {repo digits t : Text} (hpath : IsChangePath repo digits t)
    (hrepo : ¬marker <:+: repo) (ht : '/' ∉ t.tail) :
    Route.diff.match? (changePath repo digits t) = none := by
  refine match?_eq_none_of_tail diffTail rfl hpath.isNumbered (hpath.final.not_holdsRow _) ?_
  intro b x rest cv h
  obtain ⟨v, rfl, h₁⟩ := reads_lit.1 h
  obtain ⟨base, patch?, v, b, cv, rfl, rfl, -, h₂⟩ := exists_of_reads_range h₁
  obtain ⟨v, rfl, -⟩ := reads_lit.1 h₂
  refine ⟨rangeText base patch? ++ ("/" ++ v) ++ rest, ?_, ?_, Or.inl hrepo⟩
  · simp only [List.append_assoc]
    rfl
  · rintro rfl
    apply ht
    exact List.mem_append_left rest (List.mem_append_right _ List.mem_cons_self)

theorem match?_diffEdit_eq_none_of_tail {repo digits t : Text} (hpath : IsChangePath repo digits t)
    (hrepo : ¬marker <:+: repo) (ht : '/' ∉ t.tail) :
    Route.diffEdit.match? (changePath repo digits t) = none := by
  refine match?_eq_none_of_tail diffEditTail rfl hpath.isNumbered (hpath.final.not_holdsRow _) ?_
  intro b x rest cv h
  obtain ⟨rfl, patch, file, rfl, -⟩ := exists_of_reads_diffEditTail h
  refine ⟨patch ++ '/' :: (file ++ ",edit".toList), List.append_nil _, ?_, Or.inl hrepo⟩
  rintro rfl
  exact ht (List.mem_append_right patch List.mem_cons_self)

end Route

end ReviewRouter
