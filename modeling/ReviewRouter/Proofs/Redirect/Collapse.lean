import ReviewRouter.Proofs.Redirect.Leads
import ReviewRouter.Proofs.Redirect.Path
import ReviewRouter.Proofs.RoundTrip.Basic

/-!
# Ranges that collapse

A page whose range has the same patch set on both sides leads to the patch set alone.  The new
address escapes the repository and the file afresh, so it may well be longer than the old one; what
gets shorter is the path once all escapes in it are undone.

* `length_unescape_changePath` — the length of the path of a change without escapes;
* `IsRange.length_lt` — one patch set is shorter than a range;
* `collapse_change`, `collapse_diff` — **where such a page leads, the path is shorter without
  escapes**.
-/

namespace ReviewRouter

open Pattern
open Percent (readable escapeSegment unescape unescapeValue)

/-! ### Paths without escapes -/

theorem length_unescape_changePath {digits : Text} (h : '%' ∉ digits) (repo tail : Text) :
    (unescape (changePath repo digits tail)).length =
      (unescape repo).length + digits.length + (unescape tail).length + 6 := by
  have hsplit : unescape (changePath repo digits tail) =
      "/c/" ++ (unescape repo ++ (marker ++ (digits ++ unescape tail))) := by
    rw [changePath, Percent.unescape_plain_append _ (by decide), marker_append,
      Percent.unescape_append_of_boundary repo (by decide), Percent.unescape_cons (by decide),
      Percent.unescape_cons (by decide), Percent.unescape_plain_append digits h]
    rfl
  have hfront : ("/c/" : Text).length = 3 := rfl
  have hmarker : marker.length = 3 := rfl
  rw [hsplit, List.length_append, List.length_append, List.length_append, List.length_append, hfront,
    hmarker]
  omega

/-- Written afresh and unescaped twice, a text is as long as it was. -/
theorem length_unescape_readable (s : Text) : (unescape (readable true s)).length = s.length := by
  rw [← Percent.length_unescapeValue, Percent.unescapeValue_readable]

theorem not_mem_of_isRun_digit {digits : Text} (h : isRun .digit digits) : '%' ∉ digits :=
  not_mem_of_isRun (by decide) h

/-! ### Ranges -/

theorem PatchSet.not_mem_text {c : Char} (hpart : isPartChar c = false) (hparent : c ∉ ("PARENT" : Text))
    (p : PatchSet) : c ∉ p.text := by
  by_cases hp : p = .parent
  · rw [hp]
    exact hparent
  · exact (isPart_text hp).not_mem hpart

/-- One patch set is shorter than a range that begins with it. -/
theorem IsRange.length_lt {base : Text} (patch : Text) {p : PatchSet}
    (hbase : PatchSet.ofText? base = some p) :
    p.text.length + 1 < (rangeText base (some patch)).length := by
  have hle := PatchSet.length_text_le hbase
  have hdots : (patchText (some patch)).length = patch.length + 2 := rfl
  rw [rangeText, List.length_append, hdots]
  omega

/-- A page that reads both sides of a range has them in its path. -/
theorem exists_patch_of_parse? {r : Route} {cs : List (Text × Text)} {base : Text}
    {patch? : Option Text} {p : PatchSet} (hrange : IsRange base patch?)
    (hlookup : cs.lookup "base".toList = some base ∧ cs.lookup "patch".toList = patch?)
    (hb : (r.captured cs).parse? PatchSet.ofText? "base" = .ok (some p))
    (hp : (r.captured cs).parse? PatchSet.ofText? "patch" = .ok (some p)) :
    PatchSet.ofText? base = some p ∧ ∃ patch, patch? = some patch := by
  obtain ⟨t, ht, hread⟩ := Captures.exists_of_parse? hb
  obtain ⟨u, hu, -⟩ := Captures.exists_of_parse? hp
  rw [Route.get?_captured, hlookup.1, Option.map_some, Option.some_inj,
    unescapeValue_part hrange.base.isPart] at ht
  rw [Route.get?_captured, hlookup.2] at hu
  obtain ⟨patch, hpatch, -⟩ := Option.map_eq_some_iff.1 hu
  exact ⟨ht ▸ hread, patch, hpatch⟩

/-- The repository and the number that a page of a change has read. -/
theorem repo_of_require {r : Route} {cs : List (Text × Text)} {repo digits project : Text} {n : UInt32}
    (hcs : cs.lookup "repo".toList = none ∧ cs.lookup "change".toList = none)
    (hdigits : isRun .digit digits)
    (hrepo : (r.captured (cs ++ changeCaptures repo digits)).require "repo" = .ok project)
    (hnumber : (r.captured (cs ++ changeCaptures repo digits)).parse Numeral.u32? "change" = .ok n) :
    project.length = (unescape repo).length ∧ (Numeral.ofNat n.toNat).length ≤ digits.length := by
  have hproject := Captures.get?_of_require hrepo
  rw [Route.get?_captured, List.lookup_append, hcs.1] at hproject
  replace hproject : unescapeValue repo = project := Option.some_inj.1 hproject
  obtain ⟨t, ht, hread⟩ := Captures.exists_of_parse hnumber
  rw [Route.get?_captured, List.lookup_append, hcs.2] at ht
  replace ht : unescapeValue digits = t := Option.some_inj.1 ht
  have hplain : unescapeValue digits = digits :=
    Percent.unescapeValue_plain digits (not_mem_of_isRun_digit hdigits)
      (not_mem_of_isRun (by decide) hdigits)
  rw [hplain] at ht
  subst ht
  rw [← hproject, Percent.length_unescapeValue]
  exact ⟨rfl, Numeral.length_le_of_u32? hread⟩

/-! ### Addresses -/

theorem front_queryTail (fields : List Text) : front (queryTail fields) = [] := by
  unfold queryTail
  split
  · rfl
  · exact front_stop (Or.inl rfl) _

/-- The path of the address of a page of a change, whatever follows it. -/
theorem matchPath_changeAddress (s : Text) (change : UInt32) {place t : Text}
    (hquestion : '?' ∉ place) (hhash : '#' ∉ place) (ht : front t = []) :
    (Location.parse (changeRoot (some s) change ++ place ++ t)).matchPath =
      changePath (readable true s) (Numeral.ofNat change.toNat) (unescape place) := by
  rw [Location.matchPath_parse_of_front (changeRoot_ne_nil s change place), unescape_changeRoot_append]
  · rw [List.mem_append, not_or]
    exact ⟨not_mem_changeRoot (by decide) (by decide) s change, hquestion⟩
  · rw [List.mem_append, not_or]
    exact ⟨not_mem_changeRoot (by decide) (by decide) s change, hhash⟩
  · exact ht

/-- The address of a page of a change with one patch set. -/
theorem ChangeView.exists_address_eq {v : ChangeView} {project : Text} {p : PatchSet}
    (hv : v.project = some project ∧ v.range = ⟨some .parent, some p⟩ ∧ v.edit = false ∧
      v.comment = none ∧ v.messageHash = none) :
    ∃ t, front t = [] ∧ v.address = changeRoot (some project) v.change ++ '/' :: p.text ++ t := by
  obtain ⟨hproject, hrange, hedit, hcomment, hhash⟩ := hv
  have htail : v.range.tail = '/' :: p.text := by
    rw [hrange]
    exact if_neg p.text_ne_nil
  simp only [address, hproject, hedit, hcomment, hhash, htail, Bool.false_eq_true, if_false]
  exact ⟨_, front_queryTail _, by rw [List.append_nil]; exact congrArg (_ ++ · ++ _) (List.append_nil _)⟩

/-- The address of a comparison of one patch set. -/
theorem DiffView.exists_address_eq {v : DiffView} {project path : Text} {p : PatchSet}
    (hv : v.project = some project ∧ v.range = ⟨some .parent, some p⟩ ∧ v.path = some path ∧
      v.comment = none) :
    ∃ t, front t = [] ∧ v.address =
      changeRoot (some project) v.change ++ ('/' :: p.text ++ '/' :: escapeSegment true path) ++ t := by
  obtain ⟨hproject, hrange, hpath, hcomment⟩ := hv
  have htail : v.range.tail = '/' :: p.text := by
    rw [hrange]
    exact if_neg p.text_ne_nil
  simp only [address, hproject, hcomment, hpath, htail]
  cases v.line with
  | none => exact ⟨[], rfl, by simp only [List.append_assoc]⟩
  | some n =>
    refine ⟨'#' :: ((if v.leftSide then "b" else "") ++ Numeral.ofNat n.toNat), front_stop (Or.inr rfl) _, ?_⟩
    simp only [List.append_assoc]
    rfl

/-! ### Pages that lead on -/

section

variable {path project : Text} {found : List (Text × Text)} {n : UInt32} {p : PatchSet}

/-- The path of a page of a change, read with the same patch set on both sides. -/
theorem length_lt_of_match?_change (hmatch : Route.change.match? path = some found)
    (hrepo : (Route.change.captured found).require "repo" = .ok project)
    (hnumber : (Route.change.captured found).parse Numeral.u32? "change" = .ok n)
    (hbase : (Route.change.captured found).parse? PatchSet.ofText? "base" = .ok (some p))
    (hpatch : (Route.change.captured found).parse? PatchSet.ofText? "patch" = .ok (some p)) :
    project.length + (Numeral.ofNat n.toNat).length + (p.text.length + 1) + 6 <
      (unescape path).length := by
  obtain ⟨w, rest, rfl, hreads⟩ := exists_reads_of_matchAt? hmatch
  obtain ⟨repo, digits, x, b, cv, rfl, rfl, -, -, -, hdigits, htail⟩ := reads_changeRow hreads
  obtain ⟨rfl, hx⟩ := exists_of_reads_changeTail htail
  rcases hx with ⟨-, rfl⟩ | ⟨front, base, patch?, back, rfl, hfront, hback, hrange, rfl⟩
  · obtain ⟨t, ht, -⟩ := Captures.exists_of_parse? hbase
    cases ht
  · have hlookup : (rangeCaptures base patch? ++ changeCaptures repo digits).lookup "base".toList =
          some base ∧
        (rangeCaptures base patch? ++ changeCaptures repo digits).lookup "patch".toList = patch? := by
      cases patch? <;> exact ⟨rfl, rfl⟩
    have hother : (rangeCaptures base patch?).lookup "repo".toList = none ∧
        (rangeCaptures base patch?).lookup "change".toList = none := by
      cases patch? <;> exact ⟨rfl, rfl⟩
    obtain ⟨hread, patch, rfl⟩ := exists_patch_of_parse? hrange hlookup hbase hpatch
    obtain ⟨hproject, hlength⟩ := repo_of_require hother hdigits hrepo hnumber
    have hslash : ∀ {w : Text}, IsSlash? w → '%' ∉ w := by
      intro w hw
      rcases hw with rfl | rfl <;> decide
    have hplain : '%' ∉ front ++ (rangeText base (some patch) ++ back) := by
      rw [List.mem_append, List.mem_append, not_or, not_or]
      exact ⟨hslash hfront, hrange.not_mem (by decide) (by decide), hslash hback⟩
    have hlt := IsRange.length_lt patch hread
    rw [List.append_nil]
    show _ < (unescape (changePath repo digits _)).length
    rw [length_unescape_changePath (not_mem_of_isRun_digit hdigits), Percent.unescape_plain _ hplain,
      List.length_append, List.length_append]
    omega

/-- The path of a comparison, read with the same patch set on both sides. -/
theorem length_lt_of_match?_diff {file : Text} (hmatch : Route.diff.match? path = some found)
    (hrepo : (Route.diff.captured found).require "repo" = .ok project)
    (hnumber : (Route.diff.captured found).parse Numeral.u32? "change" = .ok n)
    (hbase : (Route.diff.captured found).parse? PatchSet.ofText? "base" = .ok (some p))
    (hpatch : (Route.diff.captured found).parse? PatchSet.ofText? "patch" = .ok (some p))
    (hfile : (Route.diff.captured found).require "path" = .ok file) :
    project.length + (Numeral.ofNat n.toNat).length + (p.text.length + 1 + (file.length + 1)) + 6 <
      (unescape path).length := by
  obtain ⟨w, rest, rfl, hreads⟩ := exists_reads_of_matchAt? hmatch
  obtain ⟨repo, digits, x, b, cv, rfl, rfl, -, -, -, hdigits, htail⟩ := reads_changeRow hreads
  obtain ⟨rfl, base, patch?, raw, rfl, hrange, -, rfl⟩ := exists_of_reads_diffTail htail
  have hlookup : ((("path".toList, raw) :: rangeCaptures base patch?) ++
        changeCaptures repo digits).lookup "base".toList = some base ∧
      ((("path".toList, raw) :: rangeCaptures base patch?) ++
        changeCaptures repo digits).lookup "patch".toList = patch? := by
    cases patch? <;> exact ⟨rfl, rfl⟩
  have hother : (("path".toList, raw) :: rangeCaptures base patch?).lookup "repo".toList = none ∧
      (("path".toList, raw) :: rangeCaptures base patch?).lookup "change".toList = none := by
    cases patch? <;> exact ⟨rfl, rfl⟩
  obtain ⟨hread, patch, rfl⟩ := exists_patch_of_parse? hrange hlookup hbase hpatch
  obtain ⟨hproject, hlength⟩ := repo_of_require hother hdigits hrepo hnumber
  have hraw : unescapeValue raw = file := Option.some_inj.1 (Captures.get?_of_require hfile)
  have hlt := IsRange.length_lt patch hread
  have hrangePlain : '%' ∉ rangeText base (some patch) := hrange.not_mem (by decide) (by decide)
  rw [List.append_nil]
  show _ < (unescape (changePath repo digits _)).length
  rw [length_unescape_changePath (not_mem_of_isRun_digit hdigits), Percent.unescape_cons (by decide),
    Percent.unescape_plain_append _ hrangePlain, Percent.unescape_cons (by decide), ← hraw,
    Percent.length_unescapeValue]
  simp only [List.length_cons, List.length_append]
  omega

/-- **Where a page of a change leads, the path is shorter without escapes.** -/
theorem collapse_change (hmatch : Route.change.match? path = some found)
    (hrepo : (Route.change.captured found).require "repo" = .ok project)
    (hnumber : (Route.change.captured found).parse Numeral.u32? "change" = .ok n)
    (hbase : (Route.change.captured found).parse? PatchSet.ofText? "base" = .ok (some p))
    (hpatch : (Route.change.captured found).parse? PatchSet.ofText? "patch" = .ok (some p))
    {v : ChangeView} (hv : v.project = some project ∧ v.change = n ∧ v.range = ⟨some .parent, some p⟩ ∧
      v.edit = false ∧ v.comment = none ∧ v.messageHash = none) :
    Shortens "/c/" path v.address := by
  obtain ⟨hv₁, rfl, hv₂⟩ := hv
  obtain ⟨t, ht, haddress⟩ := v.exists_address_eq ⟨hv₁, hv₂⟩
  have htext : '%' ∉ p.text := p.not_mem_text (by decide) (by decide)
  have hplace : ∀ c, c = '?' ∨ c = '#' → c ∉ '/' :: p.text := by
    intro c hc
    rw [List.mem_cons, not_or]
    rcases hc with rfl | rfl
    · exact ⟨by decide, p.not_mem_text (by decide) (by decide)⟩
    · exact ⟨by decide, p.not_mem_text (by decide) (by decide)⟩
  have hpath := matchPath_changeAddress project v.change (hplace '?' (Or.inl rfl))
    (hplace '#' (Or.inr rfl)) ht
  have hlt := length_lt_of_match?_change hmatch hrepo hnumber hbase hpatch
  rw [← haddress, Percent.unescape_cons (by decide), Percent.unescape_plain _ htext] at hpath
  refine ⟨⟨_, hpath.symm⟩, ?_⟩
  rw [hpath, length_unescape_changePath (Numeral.not_mem_ofNat (by decide) _), length_unescape_readable,
    Percent.unescape_cons (by decide), Percent.unescape_plain _ htext, List.length_cons]
  exact hlt

/-- **Where a comparison leads, the path is shorter without escapes.** -/
theorem collapse_diff {file : Text} (hmatch : Route.diff.match? path = some found)
    (hrepo : (Route.diff.captured found).require "repo" = .ok project)
    (hnumber : (Route.diff.captured found).parse Numeral.u32? "change" = .ok n)
    (hbase : (Route.diff.captured found).parse? PatchSet.ofText? "base" = .ok (some p))
    (hpatch : (Route.diff.captured found).parse? PatchSet.ofText? "patch" = .ok (some p))
    (hfile : (Route.diff.captured found).require "path" = .ok file)
    {v : DiffView} (hv : v.project = some project ∧ v.change = n ∧ v.range = ⟨some .parent, some p⟩ ∧
      v.path = some file ∧ v.comment = none) :
    Shortens "/c/" path v.address := by
  obtain ⟨hv₁, rfl, hv₂⟩ := hv
  obtain ⟨t, ht, haddress⟩ := v.exists_address_eq ⟨hv₁, hv₂⟩
  have htext : '%' ∉ p.text := p.not_mem_text (by decide) (by decide)
  have hplace : ∀ c, c = '?' ∨ c = '#' → c ∉ '/' :: p.text ++ '/' :: escapeSegment true file := by
    intro c hc
    rw [List.cons_append, List.mem_cons, List.mem_append, List.mem_cons, not_or, not_or, not_or]
    rcases hc with rfl | rfl
    · exact ⟨by decide, p.not_mem_text (by decide) (by decide), by decide,
        not_mem_escapeSegment (by decide) file⟩
    · exact ⟨by decide, p.not_mem_text (by decide) (by decide), by decide,
        not_mem_escapeSegment (by decide) file⟩
  have hunescape : unescape ('/' :: p.text ++ '/' :: escapeSegment true file) =
      '/' :: (p.text ++ '/' :: readable true file) := by
    rw [List.cons_append, Percent.unescape_cons (by decide), Percent.unescape_plain_append _ htext,
      Percent.unescape_cons (by decide), unescape_segment]
  have hpath := matchPath_changeAddress project v.change (hplace '?' (Or.inl rfl))
    (hplace '#' (Or.inr rfl)) ht
  have hlt := length_lt_of_match?_diff hmatch hrepo hnumber hbase hpatch hfile
  rw [← haddress, hunescape] at hpath
  refine ⟨⟨_, hpath.symm⟩, ?_⟩
  rw [hpath, length_unescape_changePath (Numeral.not_mem_ofNat (by decide) _), length_unescape_readable,
    Percent.unescape_cons (by decide), Percent.unescape_plain_append _ htext,
    Percent.unescape_cons (by decide), List.length_cons, List.length_append, List.length_cons,
    length_unescape_readable]
  omega

end

end ReviewRouter
