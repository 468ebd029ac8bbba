import ReviewRouter.Proofs.Redirect.Path
import ReviewRouter.Route.Handler

/-!
# Outdated links

Outdated links are repaired in the text of the address: a suffix is cut off, a line number moves into
the anchor, a plus sign is put back, or the anchor becomes the address.

* `shortens_withoutLegacySuffix`, `shortens_lineToAnchor` — **cutting at a separator leads to shorter
  paths**, whether it was found before or after unescaping;
* `Navigator.action_of_shortens` — so these links are followed;
* `plusRestored_cases` — a plus sign takes the place of a space, or else the query is dropped;
* `count_hash_anchorAddress_lt` — following an anchor uses up one `#`.
-/

namespace ReviewRouter

open Pattern
open Percent (unescape)

/-! ### Cutting at a separator -/

/-- A beginning without the separator stands before it. -/
theorem prefix_of_prefix_append_cons {q x y : Text} {c : Char} (hc : c ∉ q)
    (h : q <+: x ++ c :: y) : q <+: x := by
  rcases List.prefix_or_prefix_of_prefix h (List.prefix_append x (c :: y)) with h | ⟨z, rfl⟩
  · exact h
  · rw [List.mem_append, not_or] at hc
    rw [List.prefix_append_right_inj] at h
    cases z with
    | nil => exact ⟨[], by rw [List.append_nil, List.append_nil]⟩
    | cons d z =>
      obtain ⟨rfl, -⟩ := List.cons_prefix_cons.1 h
      exact absurd List.mem_cons_self hc.2

section

variable {q kept rest tail : Text} {c : Char}

/-- A path that is cut as it is written. -/
theorem shortens_of_path {address : Text} (hq : Location.IsOpening q) (hc : Percent.Boundary c)
    (hcq : c ∉ q) (hpath : (Location.parse address).path = kept ++ c :: rest)
    (hopen : q <+: (Location.parse address).matchPath) (htail : front tail = []) :
    Shortens q (Location.parse address).matchPath (kept ++ tail) := by
  have hmatch : (Location.parse address).matchPath = unescape kept ++ c :: unescape rest := by
    rw [Location.matchPath, hpath, Percent.unescape_append_of_boundary kept hc]
  have hkept : q <+: unescape kept := by
    rw [hmatch] at hopen
    exact prefix_of_prefix_append_cons hcq hopen
  have hne : kept ≠ [] := by
    rintro rfl
    exact hq.1 (List.prefix_nil.1 hkept)
  have hfree := Location.not_mem_path address
  rw [hpath, List.mem_append, List.mem_append, not_or, not_or] at hfree
  have hnew := Location.matchPath_parse_of_front hne hfree.1.1 hfree.2.1 htail
  refine ⟨?_, ?_⟩
  · rw [hnew]
    exact hkept
  · rw [hnew, hmatch, Percent.unescape_append_of_boundary _ hc, List.length_append, List.length_cons]
    omega

/-- A path that is cut after unescaping; what is left is unescaped once more. -/
theorem shortens_of_matchPath {path : Text} (hq : Location.IsOpening q) (hc : Percent.Boundary c)
    (hcq : c ∉ q) (hpath : path = kept ++ c :: rest) (hopen : q <+: path) (htail : front tail = []) :
    Shortens q path (kept ++ tail) := by
  rw [hpath] at hopen
  obtain ⟨k, rfl⟩ := prefix_of_prefix_append_cons hcq hopen
  have hnew := Location.matchPath_parse_append hq (k ++ tail)
  rw [front_append_eq_left htail] at hnew
  rw [List.append_assoc]
  have hpercent : '%' ∉ q := hq.2.2.2
  refine ⟨⟨_, hnew.symm⟩, ?_⟩
  have hkeep := length_unescape_front_le k
  have htwice := Percent.length_unescape_le (unescape (front k))
  rw [hnew, hpath, Percent.unescape_append_of_boundary _ hc, Percent.unescape_plain_append q hpercent,
    Percent.unescape_plain_append q hpercent]
  simp only [List.length_append, List.length_cons]
  omega

end

/-! ### Suffixes and lines -/

theorem opening_of_match? {r : Route} {q path : Text} {ps : List Pattern} {found : List (Text × Text)}
    (hr : r.shape = Pattern.lit q ++ ps) (h : r.match? path = some found) :
    ∃ b v rest, path = q ++ (v ++ rest) ∧ Reads ps b v rest found := by
  obtain ⟨w, rest, rfl, hreads⟩ := exists_reads_of_matchAt? h
  rw [hr] at hreads
  obtain ⟨v, rfl, hv⟩ := reads_lit.1 hreads
  exact ⟨_, v, rest, List.append_assoc q v rest, hv⟩

/-- A search without its outdated suffix. -/
theorem shortens_withoutLegacySuffix {address : Text} {found : List (Text × Text)}
    (h : Route.queryLegacySuffix.match? (Location.parse address).matchPath = some found) :
    Shortens "/q/" (Location.parse address).matchPath
      (withoutLegacySuffix (Location.parse address)) := by
  obtain ⟨b, v, rest, hpath, h₁⟩ := opening_of_match? (q := "/q/") rfl h
  have hopen : ("/q/" : Text) <+: (Location.parse address).matchPath := ⟨_, hpath.symm⟩
  obtain ⟨u, v, rfl, -, -, h₂⟩ := reads_plus.1 h₁
  obtain ⟨v, rfl, h₃⟩ := reads_lit.1 h₂
  obtain ⟨rfl, rfl, -⟩ := reads_stop.1 h₃
  unfold withoutLegacySuffix
  split
  · next kept hkept =>
    have hsplit : (Location.parse address).path = kept ++ ',' :: "n,z" := Text.dropSuffix?_eq_some hkept
    have hcut := shortens_of_path (by decide) (by decide) (by decide) hsplit hopen front_nil
    rwa [List.append_nil] at hcut
  · cases hdrop : Text.dropSuffix? ",n,z" (Location.parse address).matchPath with
    | none =>
      rw [hpath, List.append_nil, List.append_nil, ← List.append_assoc] at hdrop
      exact absurd hdrop (Text.dropSuffix?_append_ne_none _ _)
    | some kept =>
      have hsplit : (Location.parse address).matchPath = kept ++ ',' :: "n,z" :=
        Text.dropSuffix?_eq_some hdrop
      have hcut := shortens_of_matchPath (by decide) (by decide) (by decide) hsplit hopen front_nil
      rwa [List.append_nil] at hcut

/-- A file with its line in the anchor. -/
theorem shortens_lineToAnchor {address : Text} {found : List (Text × Text)}
    (h : Route.diffLegacyLinenum.match? (Location.parse address).matchPath = some found) :
    Shortens "/c/" (Location.parse address).matchPath (lineToAnchor (Location.parse address)) := by
  obtain ⟨b, v, rest, hpath, h₁⟩ := opening_of_match? (q := "/c/") rfl h
  have hopen : ("/c/" : Text) <+: (Location.parse address).matchPath := ⟨_, hpath.symm⟩
  have hat : '@' ∈ (Location.parse address).matchPath := by
    obtain ⟨u, v, rfl, -, -, h₂⟩ := reads_plus.1 h₁
    obtain ⟨v, rfl, -⟩ := reads_lit.1 h₂
    rw [hpath]
    simp only [List.mem_append]
    exact Or.inr (Or.inl (Or.inr (Or.inl (by decide))))
  have hanchor : ∀ line : Text, front ("#" ++ line) = [] := fun line => front_stop (Or.inr rfl) line
  unfold lineToAnchor
  by_cases hraw : (Location.parse address).path.contains '@' = true
  · simp only [if_pos hraw]
    split
    · next file line hsplit =>
      rw [List.append_assoc]
      exact shortens_of_path (by decide) (by decide) (by decide) (Text.splitLast?_eq_some hsplit) hopen
        (hanchor line)
    · next hsplit => exact absurd hsplit (Text.splitLast?_ne_none (List.contains_iff_mem.1 hraw))
  · simp only [if_neg hraw]
    split
    · next file line hsplit =>
      rw [List.append_assoc]
      exact shortens_of_matchPath (by decide) (by decide) (by decide) (Text.splitLast?_eq_some hsplit)
        hopen (hanchor line)
    · next hsplit => exact absurd hsplit (Text.splitLast?_ne_none hat)

/-- A route that leads to a shorter path does not lead to the address itself, so it is followed. -/
theorem Navigator.action_of_shortens {σ : Type} {n : Navigator} (hn : n.IsStandard) (s : Session σ) (st : σ)
    {url q target : Text} {r : Route} {found : List (Text × Text)}
    (htakes : r.Takes (Location.parse url).matchPath found) (hopen : r.requiresAuth = false)
    (hhandle : ∀ initialLoad, r.handle n.deployment initialLoad (Location.parse url) (r.captured found) =
      pure (.redirect target))
    (hshorter : Shortens q (Location.parse url).matchPath target) :
    ((n.navigate url).1.run s st).1.action = .redirect target := by
  refine n.action_of_redirect hn s st htakes hopen hhandle fun hsame => ?_
  have hlt := hshorter.lt
  rw [hsame] at hlt
  exact Nat.lt_irrefl _ hlt

/-! ### Plus signs -/

/-- What becomes of a path as it is written when a plus sign takes the place of a space, or when
nothing happens. -/
structure Restores (p p' : Text) : Prop where
  opening : ("/c/" : Text) <+: unescape p → ("/c/" : Text) <+: unescape p'
  length_eq : (unescape (unescape p')).length = (unescape (unescape p)).length
  spaces : p' = p ∨ (unescape p').count ' ' < (unescape p).count ' '
  free : ∀ c, c ∉ p → c ∉ ("/+/" : Text) → c ∉ p'

theorem Restores.trans {p p' p'' : Text} (h : Restores p p') (h' : Restores p' p'') :
    Restores p p'' where
  opening ho := h'.opening (h.opening ho)
  length_eq := h'.length_eq.trans h.length_eq
  spaces := by
    rcases h.spaces with rfl | hlt
    · exact h'.spaces
    · rcases h'.spaces with rfl | hlt'
      · exact Or.inr hlt
      · exact Or.inr (Nat.lt_trans hlt' hlt)
  free c hc hplus := h'.free c (h.free c hc hplus) hplus

/-- The beginning of a path does not end in a space. -/
theorem prefix_change_of_space {x y : Text} (h : ("/c/" : Text) <+: x ++ '/' :: ' ' :: '/' :: y) :
    ("/c/" : Text) <+: x ++ '/' :: '+' :: '/' :: y := by
  obtain ⟨t, ht⟩ := h
  replace ht : '/' :: 'c' :: '/' :: t = x ++ '/' :: ' ' :: '/' :: y := ht
  match x, ht with
  | [], ht =>
    simp only [List.nil_append, List.cons.injEq] at ht
    exact absurd ht.2.1 (by decide)
  | [d], ht =>
    simp only [List.cons_append, List.nil_append, List.cons.injEq] at ht
    exact absurd ht.2.1 (by decide)
  | [d, e], ht =>
    simp only [List.cons_append, List.nil_append, List.cons.injEq] at ht
    obtain ⟨rfl, rfl, -⟩ := ht
    exact ⟨_, rfl⟩
  | d :: e :: f :: x, ht =>
    simp only [List.cons_append, List.cons.injEq] at ht
    obtain ⟨rfl, rfl, rfl, -⟩ := ht
    exact ⟨_, rfl⟩

/-- A part that stands for two slashes around a space. -/
theorem restores_replaceFirst {part : Text}
    (hpart : ∀ a b, unescape (a ++ (part ++ b)) = unescape a ++ '/' :: ' ' :: '/' :: unescape b)
    (p : Text) : Restores p (Text.replaceFirst part "/+/" p) := by
  rcases Text.replaceFirst_cases part "/+/" p with heq | ⟨a, b, hp, heq⟩
  · rw [heq]
    exact ⟨id, rfl, Or.inl rfl, fun _ hc _ => hc⟩
  · have hold : unescape p = unescape a ++ '/' :: ' ' :: '/' :: unescape b := by
      rw [hp, hpart]
    have hnew : unescape (Text.replaceFirst part "/+/" p) =
        unescape a ++ '/' :: '+' :: '/' :: unescape b := by
      rw [heq]
      show unescape (a ++ '/' :: '+' :: '/' :: b) = _
      rw [Percent.unescape_append_of_boundary a (by decide), Percent.unescape_cons (by decide),
        Percent.unescape_cons (by decide)]
    refine ⟨?_, ?_, Or.inr ?_, ?_⟩
    · intro ho
      rw [hold] at ho
      rw [hnew]
      exact prefix_change_of_space ho
    · rw [hold, hnew, Percent.unescape_append_of_boundary _ (by decide),
        Percent.unescape_append_of_boundary _ (by decide), Percent.unescape_cons (by decide),
        Percent.unescape_cons (c := ' ') (by decide)]
      simp only [List.length_append, List.length_cons]
    · rw [hold, hnew]
      simp only [List.count_append, List.count_cons, beq_self_eq_true, if_true]
      have hslash : ('/' == ' ') = false := by decide
      have hplus : ('+' == ' ') = false := by decide
      simp only [hslash, hplus, Bool.false_eq_true, if_false]
      omega
    · intro c hc hplus
      rw [hp] at hc
      rw [heq]
      simp only [List.mem_append, not_or] at hc ⊢
      exact ⟨hc.1, hplus, hc.2.2⟩

/-- The path of a repaired address, as it is written. -/
theorem restores_plus (p : Text) :
    Restores p (Text.replaceFirst "/ /" "/+/" (Text.replaceFirst "/%20/" "/+/" p)) := by
  refine Restores.trans (restores_replaceFirst ?_ p) (restores_replaceFirst ?_ _)
  · intro a b
    show unescape (a ++ '/' :: (Percent.escape " " ++ '/' :: b)) = _
    rw [Percent.unescape_append_of_boundary a (by decide), Percent.unescape_escape_append,
      Percent.unescape_cons (by decide)]
    rfl
  · intro a b
    show unescape (a ++ '/' :: ' ' :: '/' :: b) = _
    rw [Percent.unescape_append_of_boundary a (by decide), Percent.unescape_cons (by decide),
      Percent.unescape_cons (by decide)]

/-- Without its query an address is the same or shorter. -/
theorem front_append_rawHash (address : Text) :
    front address ++ (if rawHash address = [] then [] else '#' :: rawHash address) = address ∨
      (front address ++ (if rawHash address = [] then [] else '#' :: rawHash address)).length <
        address.length := by
  cases hsplit : Text.splitOnce? '#' address with
  | none =>
    have hraw : rawHash address = [] := by
      unfold rawHash
      rw [hsplit]
    rw [if_pos hraw, List.append_nil]
    obtain ⟨rest, haddress, hrest⟩ := exists_front_append address
    rcases hrest with rfl | ⟨c, u, rfl, -⟩
    · rw [List.append_nil] at haddress
      exact Or.inl haddress.symm
    · have hlength := congrArg List.length haddress
      rw [List.length_append, List.length_cons] at hlength
      omega
  | some parts =>
    obtain ⟨b, hash⟩ := parts
    have hraw : rawHash address = hash := by
      unfold rawHash
      rw [hsplit]
    obtain ⟨haddress, -⟩ := Text.splitOnce?_eq_some hsplit
    obtain ⟨rest, hb, -⟩ := exists_front_append b
    have hfront : front address = front b := by
      rw [haddress]
      exact front_append_eq_left (front_stop (Or.inr rfl) hash) b
    have hwhole : address = front address ++ (rest ++ '#' :: hash) := by
      rw [hfront, ← List.append_assoc, ← hb]
      exact haddress
    have hlength := congrArg List.length hwhole
    simp only [List.length_append, List.length_cons] at hlength
    rw [hraw]
    by_cases hhash : hash = []
    · rw [if_pos hhash, List.append_nil]
      omega
    · rw [if_neg hhash]
      cases rest with
      | nil => exact Or.inl hwhole.symm
      | cons c rest =>
        simp only [List.length_append, List.length_cons] at hlength ⊢
        omega

/-- **A plus sign takes the place of a space**, or else only the query is dropped. -/
theorem plusRestored_cases {address : Text}
    (h : ("/c/" : Text) <+: (Location.parse address).matchPath) :
    ("/c/" : Text) <+: (Location.parse (plusRestored (Location.parse address))).matchPath ∧
      (unescape (Location.parse (plusRestored (Location.parse address))).matchPath).length =
        (unescape (Location.parse address).matchPath).length ∧
      ((Location.parse (plusRestored (Location.parse address))).matchPath.count ' ' <
          (Location.parse address).matchPath.count ' ' ∨
        (Location.parse (plusRestored (Location.parse address))).matchPath =
            (Location.parse address).matchPath ∧
          (plusRestored (Location.parse address) = address ∨
            (plusRestored (Location.parse address)).length < address.length)) := by
  have hrestores := restores_plus (Location.parse address).path
  have hopen := hrestores.opening h
  have hfree := Location.not_mem_path address
  have htail : front (if (Location.parse address).rawHash = [] then []
      else '#' :: (Location.parse address).rawHash) = [] := by
    split
    · exact front_nil
    · exact front_stop (Or.inr rfl) _
  have hpath : (Location.parse (plusRestored (Location.parse address))).matchPath = unescape
      (Text.replaceFirst "/ /" "/+/" (Text.replaceFirst "/%20/" "/+/" (Location.parse address).path)) := by
    refine Location.matchPath_parse_of_front ?_ (hrestores.free '?' hfree.1 (by decide))
      (hrestores.free '#' hfree.2 (by decide)) htail
    intro hnil
    rw [hnil] at hopen
    exact absurd (List.prefix_nil.1 hopen) (by decide)
  rw [hpath]
  refine ⟨hopen, hrestores.length_eq, ?_⟩
  rcases hrestores.spaces with heq | hlt
  · refine Or.inr ⟨by rw [heq]; rfl, ?_⟩
    have hfront : (Location.parse address).path = front address := by
      rw [Location.path_parse]
      split
      · next hnil =>
        rw [Location.matchPath, Location.path_parse, if_pos hnil] at h
        exact absurd h (by decide)
      · rfl
    unfold plusRestored
    rw [heq, hfront]
    exact front_append_rawHash address
  · exact Or.inl hlt

/-! ### Anchors -/

/-- Following the anchor of an address uses up one `#`. -/
theorem count_hash_anchorAddress_lt {address : Text} (h : (Location.parse address).hash ≠ []) :
    (anchorAddress (Location.parse address)).count '#' < address.count '#' := by
  cases hsplit : Text.splitOnce? '#' address with
  | none =>
    have hhash : (Location.parse address).hash = [] := by
      show Percent.unescapeValue ((Text.splitOnce? '#' address).getD (address, [])).2 = []
      rw [hsplit]
      rfl
    exact absurd hhash h
  | some parts =>
    obtain ⟨b, hash⟩ := parts
    have hraw : (Location.parse address).rawHash = hash := by
      show rawHash address = hash
      unfold rawHash
      rw [hsplit]
    obtain ⟨haddress, -⟩ := Text.splitOnce?_eq_some hsplit
    have hcount : address.count '#' = b.count '#' + hash.count '#' + 1 := by
      rw [haddress, List.count_append, List.count_cons_self]
      omega
    have hslash : ∀ t : Text, (if t.head? = some '/' then t else '/' :: t).count '#' = t.count '#' := by
      intro t
      split
      · rfl
      · exact List.count_cons_of_ne (by decide)
    have hsettings : ∀ t : Text, (if ("/VE/" : Text).isPrefixOf t then "/settings" ++ t else t).count '#' =
        t.count '#' := by
      intro t
      split
      · rw [List.count_append]
        exact Nat.zero_add _
      · rfl
    have hplus : ∀ t : Text, (if Text.occursIn "/+/" (Location.parse address).address then
        Text.replaceAll "/ /" "/+/" t else t).count '#' ≤ t.count '#' := by
      intro t
      split
      · exact Text.count_replaceAll_le (by decide) _ t
      · exact Nat.le_refl _
    have hanchor : (anchorAddress (Location.parse address)).count '#' ≤ hash.count '#' := by
      refine Nat.le_trans (hplus _) ?_
      rw [hsettings, hslash, hraw]
    omega

end ReviewRouter
