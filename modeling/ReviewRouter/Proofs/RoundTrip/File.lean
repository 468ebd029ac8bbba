import ReviewRouter.Proofs.RoundTrip.Basic

/-!
# The address of a file leads back to it

The address of a comparison or of an editor ends with the path of a file, which may hold any
characters, and the line stands in the anchor.  The repository may even hold the mark that ends it:
the greedy search cuts at the last mark, and the path of the file must not bring in another one.

* `IsFilePath` — paths that do not bring in a mark;
* `takes_diff`, `takes_diffEdit` — what the two routes capture of the path;
* `LineAddress.ofText?_lineText` — lines read back from the anchor;
* `DiffView.action_navigate_of_last`, `EditView.action_navigate_of_last` — the address of a file presents
  it unless something behind the number goes on like the page of another change;
* `action_navigate_file_address` — **navigating to the address of a file presents it**.
-/

namespace ReviewRouter

open Pattern
open Percent (readable escapeSegment unescape unescapeValue)

/-! ### Paths of files -/

/-- The paths of files that do not bring in a mark: they hold no two slashes around a space, not
even with the slash in front of them. -/
structure IsFilePath (f : Text) : Prop where
  ne_nil : f ≠ []
  front : ¬(" /" : Text) <+: f
  inside : ¬("/ /" : Text) <:+: f

theorem IsFilePath.isFinal {f : Text} (h : IsFilePath f) : IsFinal (readable true f) where
  inside hmark := h.inside (marker_infix_readable hmark)
  front hplus := h.front (plus_prefix_readable hplus)

/-! ### Comparisons -/

section Diff

variable {r : PatchRange} {base : PatchSet} {patch? : Option PatchSet} {f : Text}

/-- What stands behind the number of a change. -/
def diffPlace (r : PatchRange) (f : Text) : Text :=
  r.tail ++ '/' :: readable true f

theorem diffPlace_eq (h : r.Shows base patch?) :
    diffPlace r f = '/' :: (rangeText base.text (patch?.map PatchSet.text) ++ '/' :: readable true f) := by
  rw [diffPlace, h.tail_eq]
  rfl

/-- What is captured of it. -/
def diffCaptures (base : PatchSet) (patch? : Option PatchSet) (f : Text) : List (Text × Text) :=
  ("path", readable true f) :: rangeCaptures base.text (patch?.map PatchSet.text)

theorem reads_diffTail (h : r.Shows base patch?) (hf : f ≠ []) (b : Option Char) :
    Reads diffTail b (diffPlace r f) [] (diffCaptures base patch? f) := by
  rw [diffPlace_eq h]
  exact reads_diffTail_of_range h.isRange (fun hnil => hf (Percent.readable_eq_nil.1 hnil))
    (isRun_dot_readable true f) b

theorem unique_diffTail (h : r.Shows base patch?) {b : Option Char} {w rest : Text}
    {cs : List (Text × Text)} (hw : diffPlace r f = w ++ rest) (hreads : Reads diffTail b w rest cs) :
    cs = diffCaptures base patch? f := by
  obtain ⟨rfl, base', patch?', file, rfl, hrange, -, rfl⟩ := exists_of_reads_diffTail hreads
  rw [diffPlace_eq h, List.append_nil] at hw
  have hsame : rangeText base.text (patch?.map PatchSet.text) ++ '/' :: readable true f =
      rangeText base' patch?' ++ '/' :: file := (List.cons.inj hw).2
  obtain ⟨rfl, rfl, hfile⟩ := rangeText_unique h.isRange hrange
    (by rintro c ⟨⟩; rfl) (by rintro c ⟨⟩; rfl) hsame
  obtain ⟨-, rfl⟩ := List.cons.inj hfile
  rfl

theorem not_mem_diffPlace (h : r.Shows base patch?) {c : Char} (hc : Percent.isSegmentChar c = false)
    (hpart : isPartChar c = false) (hdot : c ≠ '.') (hslash : c ≠ '/') : c ∉ diffPlace r f := by
  rw [diffPlace_eq h, List.mem_cons, List.mem_append, List.mem_cons, not_or, not_or, not_or]
  exact ⟨hslash, h.isRange.not_mem hpart hdot, hslash, not_mem_readable hc f⟩

theorem isNumbered_diffPlace (h : r.Shows base patch?) (change : UInt32) :
    IsNumbered (Numeral.ofNat change.toNat) (diffPlace r f) where
  digit := isRun_ofNat _
  tail c hc := by
    rw [diffPlace_eq h] at hc
    obtain rfl := Option.some_inj.1 hc
    decide
  front := (isNumber_ofNat _).ne_plusSlash _

theorem isFinal_diffPlace (h : r.Shows base patch?) (hf : IsFilePath f) (change : UInt32) :
    IsFinal (Numeral.ofNat change.toNat ++ diffPlace r f) := by
  have hfront : '+' ∉ Numeral.ofNat change.toNat ++ r.tail := by
    rw [h.tail_eq, List.mem_append, List.mem_cons, not_or, not_or]
    exact ⟨Numeral.not_mem_ofNat (by decide) _, by decide,
      h.isRange.not_mem (by decide) (by decide)⟩
  rw [diffPlace, ← List.append_assoc]
  exact hf.isFinal.append_slash hfront

/-- Characters that do not occur in the path of a comparison. -/
theorem not_mem_diffPath (h : r.Shows base patch?) {c : Char} (hc : Percent.isSegmentChar c = false)
    (hpart : isPartChar c = false) (hdot : c ≠ '.') (hdigit : c.isDigit = false)
    (hlit : c ∉ ("/c/+/" : Text)) (s : Text) (change : UInt32) :
    c ∉ changePath (readable true s) (Numeral.ofNat change.toNat) (diffPlace r f) := by
  have hslash : c ≠ '/' := fun heq => hlit (heq ▸ by decide)
  have hfront : c ∉ ("/c/" : Text) := fun hmem => hlit (List.mem_append_left ['+', '/'] hmem)
  have hmark : c ∉ marker := fun hmem => hlit (List.mem_append_right ['/', 'c'] hmem)
  simp only [changePath, List.mem_append, not_or]
  exact ⟨hfront, not_mem_readable hc s, hmark, Numeral.not_mem_ofNat hdigit _,
    not_mem_diffPlace h hc hpart hdot hslash⟩

/-- The route of a comparison takes the path, if behind the number nothing goes on like the page of a
comment or a comparison. -/
theorem takes_diff {s : Text} (hs : s ≠ []) (change : UInt32) (h : r.Shows base patch?) (hf : f ≠ [])
    (hlast : ∀ tail ∈ [commentTail, commentsTail, diffTail],
      ¬HoldsRow tail (Numeral.ofNat change.toNat ++ diffPlace r f)) :
    Route.diff.Takes (changePath (readable true s) (Numeral.ofNat change.toNat) (diffPlace r f))
      (diffCaptures base patch? f ++
        changeCaptures (readable true s) (Numeral.ofNat change.toNat)) := by
  have hpath := isNumbered_diffPlace (f := f) h change
  have hmem : ∀ c, c = ',' ∨ c = '@' →
      c ∉ changePath (readable true s) (Numeral.ofNat change.toNat) (diffPlace r f) := by
    rintro c (rfl | rfl)
    · exact not_mem_diffPath h (by decide) (by decide) (by decide) (by decide) (by decide) s change
    · exact not_mem_diffPath h (by decide) (by decide) (by decide) (by decide) (by decide) s change
  have hcomment : ¬("/c" : Text) <+: diffPlace r f := by
    obtain ⟨d, t, hd, hpart⟩ := h.isRange.head
    rw [diffPlace_eq h, hd]
    rintro ⟨u, hu⟩
    obtain ⟨-, hu⟩ := List.cons.inj hu
    obtain ⟨rfl, -⟩ := List.cons.inj hu
    exact absurd hpart (by decide)
  have hmatch := match?_changeRow diffTail (fun h => hs (Percent.readable_eq_nil.1 h))
    (isRun_dot_readable true s) (isNumber_ofNat _) hpath.tail (hlast diffTail (by simp))
    (reads_diffTail h hf) (fun _ _ _ _ => unique_diffTail h)
  refine Route.takes_of_change hmatch ?_
  have hbefore : changeRoutes.takeWhile (· != .diff) = editRoutes ++ commentRoutes := rfl
  have hcomments : ∀ tail ∈ [commentTail, commentsTail],
      ¬HoldsRow tail (Numeral.ofNat change.toNat ++ diffPlace r f) :=
    fun tail htail => hlast tail (List.mem_append_left [diffTail] htail)
  rw [hbefore, List.forall_mem_append]
  exact ⟨Route.match?_editRoutes_eq_none (number_append_ne_nil change _) (hmem ',' (Or.inl rfl))
    (hmem '@' (Or.inr rfl)), Route.match?_commentRoutes_eq_none hpath hcomments hcomment⟩

end Diff

/-! ### Editors -/

section Edit

variable {k : PatchSet} {f : Text}

/-- What stands behind the number of a change. -/
def editPlace (k : PatchSet) (f : Text) : Text :=
  '/' :: (k.text ++ '/' :: (readable true f ++ ",edit"))

/-- What is captured of it. -/
def editorCaptures (k : PatchSet) (f : Text) : List (Text × Text) :=
  [("path", readable true f), ("patch", k.text)]

theorem reads_diffEditTail (hk : k.IsPatch) (hf : f ≠ []) (b : Option Char) :
    Reads diffEditTail b (editPlace k f) [] (editorCaptures k f) :=
  reads_diffEditTail_of_patch (isPatchText_text hk) (fun h => hf (Percent.readable_eq_nil.1 h))
    (isRun_dot_readable true f) b

theorem unique_diffEditTail (hk : k.IsPatch) {b : Option Char} {w rest : Text}
    {cs : List (Text × Text)} (hw : editPlace k f = w ++ rest) (hreads : Reads diffEditTail b w rest cs) :
    cs = editorCaptures k f := by
  obtain ⟨rfl, patch, file, rfl, hpatch, -, rfl⟩ := exists_of_reads_diffEditTail hreads
  rw [List.append_nil] at hw
  have hslash : ∀ {t : Text}, IsPart t → ∀ c ∈ t, c ≠ '/' := by
    rintro t ht c hc rfl
    exact ht.not_mem (by decide) hc
  obtain ⟨rfl, hfile⟩ := span_unique (hslash (isPart_text hk.ne_parent)) (hslash hpatch.isPart)
    (by rintro c ⟨⟩ hne; exact hne rfl) (by rintro c ⟨⟩ hne; exact hne rfl) (List.cons.inj hw).2
  obtain rfl := List.append_cancel_right (List.cons.inj hfile).2
  rfl

theorem isFinal_editPlace (hk : k.IsPatch) (hf : IsFilePath f) (change : UInt32) :
    IsFinal (Numeral.ofNat change.toNat ++ editPlace k f) := by
  have hfront : '+' ∉ Numeral.ofNat change.toNat ++ '/' :: k.text := by
    rw [List.mem_append, List.mem_cons, not_or, not_or]
    exact ⟨Numeral.not_mem_ofNat (by decide) _, by decide,
      (isPart_text hk.ne_parent).not_mem (by decide)⟩
  have hfile : IsFinal (readable true f ++ ",edit") := hf.isFinal.append (by decide) (by decide)
  have hplace := hfile.append_slash hfront
  rw [List.append_assoc] at hplace
  exact hplace

/-- The route of an editor takes the path, if behind the number nothing goes on like that of another
editor. -/
theorem takes_diffEdit {s : Text} (hs : s ≠ []) (change : UInt32) (hk : k.IsPatch) (hf : f ≠ [])
    (hlast : ¬HoldsRow diffEditTail (Numeral.ofNat change.toNat ++ editPlace k f)) :
    Route.diffEdit.Takes (changePath (readable true s) (Numeral.ofNat change.toNat) (editPlace k f))
      (editorCaptures k f ++ changeCaptures (readable true s) (Numeral.ofNat change.toNat)) := by
  have htail : ∀ c, (editPlace k f).head? = some c → isDecimalDigit c = false := by
    rintro c ⟨⟩
    decide
  have hat : '@' ∉ changePath (readable true s) (Numeral.ofNat change.toNat) (editPlace k f) := by
    simp only [changePath, editPlace, List.mem_append, List.mem_cons, not_or]
    exact ⟨by decide, not_mem_readable (by decide) s, by decide, Numeral.not_mem_ofNat (by decide) _,
      by decide, (isPart_text hk.ne_parent).not_mem (by decide), by decide,
      not_mem_readable (by decide) f, by decide⟩
  have hmatch := match?_changeRow diffEditTail (fun h => hs (Percent.readable_eq_nil.1 h))
    (isRun_dot_readable true s) (isNumber_ofNat _) htail hlast (reads_diffEditTail hk hf)
    (fun _ _ _ _ => unique_diffEditTail hk)
  refine Route.takes_of_change hmatch ?_
  have hbefore : changeRoutes.takeWhile (· != .diffEdit) = [.topic, .diffLegacyLinenum] := rfl
  rw [hbefore]
  intro r' hr'
  simp only [List.mem_cons, List.not_mem_nil, or_false] at hr'
  rcases hr' with rfl | rfl
  · exact Route.match?_topic_eq_none (number_append_ne_nil change _)
  · exact Route.match?_diffLegacyLinenum_eq_none hat

end Edit

/-! ### Lines in anchors -/

/-- The anchor of a line. -/
def lineText (left : Bool) : Option UInt32 → Text
  | some n => (if left then "b" else "") ++ Numeral.ofNat n.toNat
  | none => []

theorem not_mem_lineText {c : Char} (hdigit : c.isDigit = false) (hb : c ≠ 'b') (left : Bool)
    (line : Option UInt32) : c ∉ lineText left line := by
  cases line with
  | none => exact List.not_mem_nil
  | some n =>
    rw [lineText, List.mem_append, not_or]
    refine ⟨?_, Numeral.not_mem_ofNat hdigit _⟩
    cases left
    · exact List.not_mem_nil
    · show c ∉ ['b']
      rw [List.mem_singleton]
      exact hb

theorem unescapeValue_lineText (left : Bool) (line : Option UInt32) :
    unescapeValue (lineText left line) = lineText left line :=
  Percent.unescapeValue_plain _ (not_mem_lineText (by decide) (by decide) left line)
    (not_mem_lineText (by decide) (by decide) left line)

/-- Lines are read back from the anchor. -/
theorem LineAddress.ofText?_lineText (left : Bool) (n : UInt32) :
    ofText? (lineText left (some n)) = some { line := n, leftSide := left } := by
  have hside : side (lineText left (some n)) = (left, Numeral.ofNat n.toNat) := by
    cases left with
    | true => rfl
    | false =>
      show side (Numeral.ofNat n.toNat) = _
      have ha : 'a' ∉ Numeral.ofNat n.toNat := Numeral.not_mem_ofNat (by decide) _
      have hb : 'b' ∉ Numeral.ofNat n.toNat := Numeral.not_mem_ofNat (by decide) _
      unfold side
      split
      · next heq =>
        rw [heq] at ha
        exact absurd List.mem_cons_self ha
      · next heq =>
        rw [heq] at hb
        exact absurd List.mem_cons_self hb
      · rfl
  simp only [ofText?, hside, Numeral.natural?_ofNat, Numeral.word32?_toNat, Option.bind_eq_bind,
    Option.bind_some]
  rfl

theorem Numeral.u32?_lineText (line : Option UInt32) : u32? (lineText false line) = line := by
  cases line with
  | none => rfl
  | some n => exact u32?_ofNat n

/-! ### The address of a file -/

/-- The location of a file: what stands behind the number, and the line. -/
theorem parse_fileAddress (s : Text) (change : UInt32) {place : Text} (hhash : '#' ∉ place)
    (hquestion : '?' ∉ place) (left : Bool) (line : Option UInt32) :
    let url := changeRoot (some s) change ++ place ++
      (if lineText left line = [] then [] else '#' :: lineText left line)
    (Location.parse url).matchPath =
        changePath (readable true s) (Numeral.ofNat change.toNat) (unescape place) ∧
      (Location.parse url).hash = lineText left line := by
  have hpath : ∀ c, Percent.isSegmentChar c = false → c.isDigit = false → c ∉ place →
      c ∉ changeRoot (some s) change ++ place := by
    intro c hc hdigit hplace
    rw [List.mem_append, not_or]
    exact ⟨not_mem_changeRoot hc hdigit s change, hplace⟩
  have hparse := Location.parse_eq [] (lineText left line)
    (changeRoot_ne_nil s change place) (hpath '#' (by decide) (by decide) hhash)
    (hpath '?' (by decide) (by decide) hquestion) List.not_mem_nil
  rw [if_pos rfl, List.append_nil, unescapeValue_lineText] at hparse
  intro url
  refine ⟨?_, congrArg Location.hash hparse⟩
  rw [Location.matchPath, congrArg Location.path hparse, unescape_changeRoot_append]

/-! ### Comparisons, there and back -/

namespace DiffView

/-- The comparisons that their address can show: of a file between two patch sets, and not at a
comment; only a line has a side. -/
structure IsAddressable (v : DiffView) : Prop where
  project : ∃ s, v.project = some s ∧ s ≠ []
  path : ∃ f, v.path = some f ∧ IsFilePath f
  comment : v.comment = none
  range : v.range.IsShown
  side : v.leftSide = true → v.line ≠ none

/-- The same, with a file of any name. -/
structure IsOfFile (v : DiffView) (s f : Text) : Prop where
  project : v.project = some s
  ne_nil : s ≠ []
  path : v.path = some f
  path_ne_nil : f ≠ []
  comment : v.comment = none
  range : v.range.IsShown
  side : v.leftSide = true → v.line ≠ none

theorem IsAddressable.exists_isOfFile {v : DiffView} (h : v.IsAddressable) :
    ∃ s f, v.IsOfFile s f ∧ IsFilePath f := by
  obtain ⟨s, hs, hne⟩ := h.project
  obtain ⟨f, hpath, hf⟩ := h.path
  exact ⟨s, f, ⟨hs, hne, hpath, hf.ne_nil, h.comment, h.range, h.side⟩, hf⟩

variable {v : DiffView} {s f : Text}

theorem address_eq (h : v.IsOfFile s f) :
    v.address = changeRoot (some s) v.change ++ (v.range.tail ++ '/' :: escapeSegment true f) ++
      (if lineText v.leftSide v.line = [] then [] else '#' :: lineText v.leftSide v.line) := by
  obtain ⟨project, change, range, path, line, leftSide, comment⟩ := v
  obtain rfl : comment = none := h.comment
  obtain rfl : project = some s := h.project
  obtain rfl : path = some f := h.path
  rw [← List.append_assoc (changeRoot _ _)]
  cases line with
  | none => rfl
  | some n =>
    have hne : lineText leftSide (some n) ≠ [] :=
      fun heq => Numeral.ofNat_ne_nil _ (List.append_eq_nil_iff.1 heq).2
    rw [if_neg hne]
    rfl

/-- The anchor says which line it is, and on which side. -/
theorem IsOfFile.line_eq (h : v.IsOfFile s f) :
    (LineAddress.ofText? (lineText v.leftSide v.line)).map LineAddress.line = v.line ∧
      (LineAddress.ofText? (lineText v.leftSide v.line)).any LineAddress.leftSide = v.leftSide := by
  cases hv : v.line with
  | none =>
    refine ⟨rfl, ?_⟩
    cases hleft : v.leftSide with
    | false => rfl
    | true => exact absurd hv (h.side hleft)
  | some n =>
    rw [LineAddress.ofText?_lineText]
    exact ⟨rfl, rfl⟩

theorem gives_handleDiff {A : Answers} {l : Location} {result : Except Failure Action}
    (h : v.IsOfFile s f) {base : PatchSet} {patch? : Option PatchSet} (hshows : v.range.Shows base patch?)
    (hl : l.hash = lineText v.leftSide v.line)
    (hgives : (handleDiff l (Route.diff.captured (diffCaptures base patch? f ++
      changeCaptures (readable true s) (Numeral.ofNat v.change.toNat)))).Gives A result) :
    result = .ok (.present (.diff v)) := by
  have hlookup : (diffCaptures base patch? f).lookup "repo".toList = none ∧
      (diffCaptures base patch? f).lookup "change".toList = none := by
    cases patch? <;> exact ⟨rfl, rfl⟩
  have hbase : (Route.diff.captured (diffCaptures base patch? f ++ changeCaptures (readable true s)
      (Numeral.ofNat v.change.toNat))).parse? PatchSet.ofText? "base" = .ok (some base) := by
    cases patch? <;> exact parse?_patchSet .diff rfl hshows.ne_parent
  have hpatch : (Route.diff.captured (diffCaptures base patch? f ++ changeCaptures (readable true s)
      (Numeral.ofNat v.change.toNat))).parse? PatchSet.ofText? "patch" = .ok patch? := by
    cases patch? <;> exact hshows.parse?_patch .diff rfl
  have hpath : (Route.diff.captured (diffCaptures base patch? f ++ changeCaptures (readable true s)
      (Numeral.ofNat v.change.toNat))).require "path" = .ok f :=
    require_readable .diff true rfl
  have hline := h.line_eq
  rw [← hl] at hline
  rw [handleDiff, Handling.gives_changeTarget hlookup.1 hlookup.2, hbase, hpatch, hpath] at hgives
  have hresult : result = .ok (View.diff { v with range := ⟨some base, patch?⟩ }).settle := by
    refine Eq.trans hgives ?_
    show Except.ok (View.diff
      { project := some s
        change := v.change
        range := ⟨some base, patch?⟩
        path := some f
        line := (LineAddress.ofText? l.hash).map LineAddress.line
        leftSide := (LineAddress.ofText? l.hash).any LineAddress.leftSide }).settle = _
    rw [hline.1, hline.2, ← h.project, ← h.path, ← h.comment]
  rw [hresult]
  simp only [View.settle, View.range?, hshows.normalize, View.withRange]
  rfl

/-- The path that routes see, and the line. -/
theorem parse_address (h : v.IsOfFile s f) :
    (Location.parse v.address).matchPath =
        changePath (readable true s) (Numeral.ofNat v.change.toNat) (diffPlace v.range f) ∧
      (Location.parse v.address).hash = lineText v.leftSide v.line := by
  obtain ⟨base, patch?, hshows⟩ := h.range.exists_shows
  have htail : ∀ c, isPartChar c = false → c ≠ '.' → c ≠ '/' → c ∉ v.range.tail := by
    intro c hc hdot hslash
    rw [hshows.tail_eq, List.mem_cons, not_or]
    exact ⟨hslash, hshows.isRange.not_mem hc hdot⟩
  have hplace : ∀ c, Percent.isSegmentChar c = false → isPartChar c = false → c ≠ '.' → c ≠ '/' →
      c ∉ v.range.tail ++ '/' :: escapeSegment true f := by
    intro c hc hpart hdot hslash
    rw [List.mem_append, List.mem_cons, not_or, not_or]
    exact ⟨htail c hpart hdot hslash, hslash, not_mem_escapeSegment hc f⟩
  obtain ⟨hmatch, hhash⟩ := parse_fileAddress s v.change
    (hplace '#' (by decide) (by decide) (by decide) (by decide))
    (hplace '?' (by decide) (by decide) (by decide) (by decide)) v.leftSide v.line
  rw [← address_eq h] at hmatch hhash
  rw [Percent.unescape_plain_append _ (htail '%' (by decide) (by decide) (by decide)),
    Percent.unescape_cons (by decide), unescape_segment, ← diffPlace] at hmatch
  exact ⟨hmatch, hhash⟩

/-- Navigating to the address of a comparison presents it, if behind the number nothing goes on like
the page of a comment or a comparison. -/
theorem action_navigate_of_last {σ : Type} {n : Navigator} (hn : n.IsStandard) {session : Session σ}
    {st : σ} (hsession : session.Obeys .signedIn st) (h : v.IsOfFile s f)
    (hlast : ∀ tail ∈ [commentTail, commentsTail, diffTail],
      ¬HoldsRow tail (Numeral.ofNat v.change.toNat ++ diffPlace v.range f)) :
    ((n.navigate v.address).1.run session st).1.action = .present (.diff v) := by
  obtain ⟨base, patch?, hshows⟩ := h.range.exists_shows
  obtain ⟨hmatch, hhash⟩ := parse_address h
  have htakes := takes_diff h.ne_nil v.change hshows h.path_ne_nil hlast
  rw [← hmatch] at htakes
  refine n.run_navigate hn hsession htakes ?_
  intro initialLoad result hgives
  rw [gives_handleDiff h hshows hhash (Handling.gives_guard_signedIn hgives)]
  rfl

end DiffView

/-! ### Editors, there and back -/

namespace EditView

/-- The editors that their address can show: of a file of one patch set. -/
structure IsAddressable (v : EditView) : Prop where
  project : ∃ s, v.project = some s ∧ s ≠ []
  path : IsFilePath v.path
  range : ∃ k, k.IsPatch ∧ v.range = ⟨none, some k⟩

/-- The same, of a file of any name. -/
structure IsOfFile (v : EditView) (s : Text) (k : PatchSet) : Prop where
  project : v.project = some s
  ne_nil : s ≠ []
  path_ne_nil : v.path ≠ []
  isPatch : k.IsPatch
  range : v.range = ⟨none, some k⟩

theorem IsAddressable.exists_isOfFile {v : EditView} (h : v.IsAddressable) : ∃ s k, v.IsOfFile s k := by
  obtain ⟨s, hs, hne⟩ := h.project
  obtain ⟨k, hk, hrange⟩ := h.range
  exact ⟨s, k, hs, hne, h.path.ne_nil, hk, hrange⟩

variable {v : EditView} {s : Text} {k : PatchSet}

theorem address_eq (h : v.IsOfFile s k) :
    v.address = changeRoot (some s) v.change ++
      ('/' :: (k.text ++ '/' :: (escapeSegment true v.path ++ ",edit"))) ++
        (if lineText false v.line = [] then [] else '#' :: lineText false v.line) := by
  have hline : (if lineText false v.line = [] then [] else '#' :: lineText false v.line) =
      match v.line with
      | some n => '#' :: Numeral.ofNat n.toNat
      | none => [] := by
    cases v.line with
    | none => rfl
    | some n => exact if_neg (Numeral.ofNat_ne_nil n.toNat)
  have htail : v.range.tail = '/' :: k.text := by
    rw [h.range]
    exact if_neg k.text_ne_nil
  rw [hline]
  simp only [address, h.project, htail, List.append_assoc, List.cons_append]
  rfl

theorem gives_handleDiffEdit {A : Answers} {l : Location} {result : Except Failure Action}
    (h : v.IsOfFile s k) (hl : l.hash = lineText false v.line)
    (hgives : (handleDiffEdit l (Route.diffEdit.captured (editorCaptures k v.path ++
      changeCaptures (readable true s) (Numeral.ofNat v.change.toNat)))).Gives A result) :
    result = .ok (.present (.edit v)) := by
  have hpatch : (Route.diffEdit.captured (editorCaptures k v.path ++ changeCaptures (readable true s)
      (Numeral.ofNat v.change.toNat))).parse PatchSet.ofText? "patch" = .ok k := by
    exact Captures.parse_eq (get?_patchSet .diffEdit rfl h.isPatch.ne_parent) (PatchSet.ofText?_text k)
  have hpath : (Route.diffEdit.captured (editorCaptures k v.path ++ changeCaptures (readable true s)
      (Numeral.ofNat v.change.toNat))).require "path" = .ok v.path :=
    require_readable .diffEdit true rfl
  rw [handleDiffEdit, Handling.gives_changeTarget rfl rfl, hpatch, hpath, hl,
    Numeral.u32?_lineText] at hgives
  have hresult : result = .ok (View.edit v).settle := by
    refine Eq.trans hgives ?_
    show Except.ok (View.edit
      { project := some s
        change := v.change
        range := ⟨none, some k⟩
        path := v.path
        line := v.line }).settle = _
    rw [← h.project, ← h.range]
  have hsame : View.withRange ⟨none, some k⟩ (.edit v) = .edit v := by
    rw [← h.range]
    rfl
  rw [hresult]
  simp only [View.settle, View.range?, h.range, PatchRange.normalize, hsame]
  rfl

/-- The path that routes see, and the line. -/
theorem parse_address (h : v.IsOfFile s k) :
    (Location.parse v.address).matchPath =
        changePath (readable true s) (Numeral.ofNat v.change.toNat) (editPlace k v.path) ∧
      (Location.parse v.address).hash = lineText false v.line := by
  have hpart := isPart_text h.isPatch.ne_parent
  have hplace : ∀ c, Percent.isSegmentChar c = false → isPartChar c = false → c ≠ '/' →
      c ∉ (",edit" : Text) →
      c ∉ '/' :: (k.text ++ '/' :: (escapeSegment true v.path ++ ",edit")) := by
    intro c hc hpartc hslash hedit
    simp only [List.mem_cons, List.mem_append, not_or]
    exact ⟨hslash, hpart.not_mem hpartc, hslash, not_mem_escapeSegment hc v.path, hedit⟩
  obtain ⟨hmatch, hhash⟩ := parse_fileAddress s v.change
    (hplace '#' (by decide) (by decide) (by decide) (by decide))
    (hplace '?' (by decide) (by decide) (by decide) (by decide)) false v.line
  rw [← address_eq h] at hmatch hhash
  rw [Percent.unescape_cons (by decide), Percent.unescape_plain_append _ (hpart.not_mem (by decide)),
    Percent.unescape_cons (by decide), Percent.unescape_escapeSegment_append,
    Percent.unescape_plain _ (by decide), ← editPlace] at hmatch
  exact ⟨hmatch, hhash⟩

/-- Navigating to the address of an editor presents it, if behind the number nothing goes on like that
of another editor. -/
theorem action_navigate_of_last {σ : Type} {n : Navigator} (hn : n.IsStandard) {session : Session σ}
    {st : σ} (hsession : session.Obeys .signedIn st) (h : v.IsOfFile s k)
    (hlast : ¬HoldsRow diffEditTail (Numeral.ofNat v.change.toNat ++ editPlace k v.path)) :
    ((n.navigate v.address).1.run session st).1.action = .present (.edit v) := by
  obtain ⟨hmatch, hhash⟩ := parse_address h
  have htakes := takes_diffEdit h.ne_nil v.change h.isPatch h.path_ne_nil hlast
  rw [← hmatch] at htakes
  refine n.run_navigate hn hsession htakes ?_
  intro initialLoad result hgives
  rw [gives_handleDiffEdit h hhash (Handling.gives_guard_signedIn hgives)]
  rfl

end EditView

/-- **Navigating to the address of a file presents it**, compared or in the editor.  For every
navigator over all routes at the root of its server, and every session in a state from which the
user stays signed in. -/
theorem action_navigate_file_address {σ : Type} {n : Navigator} (hn : n.IsStandard)
    {s : Session σ} {st : σ} (hs : s.Obeys .signedIn st) :
    (∀ v : DiffView, v.IsAddressable →
      ((n.navigate v.address).1.run s st).1.action = .present (.diff v)) ∧
    (∀ v : EditView, v.IsAddressable →
      ((n.navigate v.address).1.run s st).1.action = .present (.edit v)) := by
  constructor
  · intro v hv
    obtain ⟨project, f, hfile, hf⟩ := hv.exists_isOfFile
    obtain ⟨base, patch?, hshows⟩ := hv.range.exists_shows
    refine DiffView.action_navigate_of_last hn hs hfile ?_
    exact fun tail _ => (isFinal_diffPlace hshows hf v.change).not_holdsRow tail
  · intro v hv
    obtain ⟨project, k, hfile⟩ := hv.exists_isOfFile
    refine EditView.action_navigate_of_last hn hs hfile ?_
    exact (isFinal_editPlace hfile.isPatch hv.path v.change).not_holdsRow _

/-- The old side of a line, in a file whose name holds separators of routes. -/
def DiffView.sample : DiffView :=
  { project := some "a b/+/7,c@3", change := 42, range := ⟨some .parent, some (.num (-7))⟩,
    path := some "src/x y,edit@1#?", line := some 12, leftSide := true }

/-- A line of a file of one patch set. -/
def EditView.sample : EditView :=
  { project := some "plugins/ /x", change := 7, range := ⟨none, some (.num 2)⟩,
    path := "docs/c++/100%", line := some 3 }

theorem DiffView.isAddressable_sample : sample.IsAddressable where
  project := ⟨_, rfl, by decide⟩
  path := ⟨_, rfl, by decide, by decide, by decide +kernel⟩
  comment := rfl
  range := Or.inl ⟨.num (-7), nofun, rfl⟩
  side _ := nofun

theorem EditView.isAddressable_sample : sample.IsAddressable where
  project := ⟨_, rfl, by decide⟩
  path := ⟨by decide, by decide, by decide +kernel⟩
  range := ⟨.num 2, Int.zero_le_ofNat 2, rfl⟩

theorem action_navigate_file_samples :
    Navigator.overAll.IsStandard ∧ Session.scripted.Obeys .signedIn { loggedIn := true } ∧
      DiffView.sample.IsAddressable ∧ EditView.sample.IsAddressable ∧
      ((Navigator.overAll.navigate DiffView.sample.address).1.run Session.scripted
        { loggedIn := true }).1.action = .present (.diff .sample) ∧
      ((Navigator.overAll.navigate EditView.sample.address).1.run Session.scripted
        { loggedIn := true }).1.action = .present (.edit .sample) :=
  have h := action_navigate_file_address Navigator.isStandard_overAll
    (Session.scripted_obeys_signedIn rfl rfl)
  ⟨Navigator.isStandard_overAll, Session.scripted_obeys_signedIn rfl rfl,
    DiffView.isAddressable_sample, EditView.isAddressable_sample,
    h.1 _ DiffView.isAddressable_sample, h.2 _ EditView.isAddressable_sample⟩

end ReviewRouter
