import ReviewRouter.Text.Basic

/-!
# Cutting and replacing

What the operations on text have found when they succeed, and that they succeed if there is something
to be found.

* `splitOnce?_eq_some`, `splitLast?_eq_some`, `dropSuffix?_eq_some`, `isPrefixOf?_eq_some` — the parts
  make up the text;
* `splitLast?_append`, `dropSuffix?_append` — what they find in a text that is put together;
* `trimStart_append`, `trimStart_eq_self_iff` — trimming stops at any other character, and a text that is
  trimmed begins with the one left out;
* `replaceFirst_cases` — nothing is replaced, or one occurrence;
* `count_replaceAll_le` — replacing brings in no other characters than those of the new text.
-/

namespace ReviewRouter

namespace Text

/-! ### Cutting -/

theorem splitOnce?_getD (sep : Char) (t : Text) :
    ((splitOnce? sep t).getD (t, [])).1 = t.takeWhile (· != sep) := by
  induction t with
  | nil => rfl
  | cons c t ih =>
    unfold splitOnce?
    by_cases hc : c = sep
    · rw [if_pos hc, List.takeWhile_cons_of_neg (by simp [hc])]
      rfl
    · rw [if_neg hc, List.takeWhile_cons_of_pos (by simp [hc]), ← ih]
      cases splitOnce? sep t <;> rfl

theorem splitOnce?_eq_some {sep : Char} {t a b : Text} (h : splitOnce? sep t = some (a, b)) :
    t = a ++ sep :: b ∧ sep ∉ a := by
  induction t generalizing a with
  | nil => cases h
  | cons c t ih =>
    unfold splitOnce? at h
    by_cases hc : c = sep
    · rw [if_pos hc] at h
      cases h
      exact ⟨by rw [hc]; rfl, List.not_mem_nil⟩
    · rw [if_neg hc] at h
      obtain ⟨⟨x, y⟩, hxy, heq⟩ := Option.map_eq_some_iff.1 h
      cases heq
      obtain ⟨ht, hx⟩ := ih hxy
      refine ⟨by rw [ht]; rfl, ?_⟩
      rw [List.mem_cons, not_or]
      exact ⟨Ne.symm hc, hx⟩

theorem splitLast?_eq_some {sep : Char} {t a b : Text} (h : splitLast? sep t = some (a, b)) :
    t = a ++ sep :: b := by
  induction t generalizing a with
  | nil => cases h
  | cons c t ih =>
    unfold splitLast? at h
    cases hrest : splitLast? sep t with
    | none =>
      simp only [hrest] at h
      by_cases hc : c = sep
      · rw [if_pos hc] at h
        cases h
        rw [hc]
        rfl
      · rw [if_neg hc] at h
        cases h
    | some ab =>
      simp only [hrest] at h
      cases h
      rw [ih hrest]
      rfl

theorem splitLast?_ne_none {sep : Char} {t : Text} (h : sep ∈ t) : splitLast? sep t ≠ none := by
  induction t with
  | nil => exact absurd h List.not_mem_nil
  | cons c t ih =>
    unfold splitLast?
    cases hrest : splitLast? sep t with
    | some ab => exact Option.some_ne_none _
    | none =>
      have ht : sep ∉ t := fun hmem => ih hmem hrest
      have hc : c = sep := ((List.mem_cons.1 h).resolve_right ht).symm
      simp only [if_pos hc]
      exact Option.some_ne_none _

theorem splitLast?_eq_none {sep : Char} {t : Text} (h : sep ∉ t) : splitLast? sep t = none := by
  cases hcut : splitLast? sep t with
  | none => rfl
  | some ab =>
    have hmem : sep ∈ ab.1 ++ sep :: ab.2 := List.mem_append_right _ List.mem_cons_self
    rw [← splitLast?_eq_some hcut] at hmem
    exact absurd hmem h

theorem not_mem_of_splitLast? {sep : Char} {t a b : Text} (h : splitLast? sep t = some (a, b)) : sep ∉ b := by
  induction t generalizing a with
  | nil => cases h
  | cons c t ih =>
    unfold splitLast? at h
    cases hrest : splitLast? sep t with
    | none =>
      simp only [hrest] at h
      split at h
      · cases h
        exact fun hmem => splitLast?_ne_none hmem hrest
      · cases h
    | some ab =>
      simp only [hrest] at h
      cases h
      exact ih hrest

/-- The last separator is the one behind which there is no other. -/
theorem splitLast?_append {sep : Char} (a : Text) {b : Text} (h : sep ∉ b) :
    splitLast? sep (a ++ sep :: b) = some (a, b) := by
  induction a with
  | nil =>
    rw [List.nil_append, splitLast?, splitLast?_eq_none h]
    exact if_pos rfl
  | cons c a ih => rw [List.cons_append, splitLast?, ih]

theorem dropSuffix?_eq_some {ending t kept : Text} (h : dropSuffix? ending t = some kept) :
    t = kept ++ ending := by
  induction t generalizing kept with
  | nil =>
    unfold dropSuffix? at h
    split at h
    · next hending =>
      cases h
      rw [hending]
      rfl
    · cases h
  | cons c t ih =>
    unfold dropSuffix? at h
    split at h
    · next hending =>
      cases h
      exact hending
    · obtain ⟨rest, hrest, rfl⟩ := Option.map_eq_some_iff.1 h
      rw [ih hrest]
      rfl

theorem dropSuffix?_append_ne_none (ending kept : Text) : dropSuffix? ending (kept ++ ending) ≠ none := by
  induction kept with
  | nil =>
    cases ending with
    | nil => exact Option.some_ne_none _
    | cons c ending =>
      unfold dropSuffix?
      rw [List.nil_append]
      simp only [if_true]
      exact Option.some_ne_none _
  | cons c kept ih =>
    rw [List.cons_append]
    unfold dropSuffix?
    split
    · exact Option.some_ne_none _
    · rw [ne_eq, Option.map_eq_none_iff]
      exact ih

theorem dropSuffix?_append (ending kept : Text) : dropSuffix? ending (kept ++ ending) = some kept := by
  obtain ⟨kept', h⟩ := Option.ne_none_iff_exists'.1 (dropSuffix?_append_ne_none ending kept)
  rw [h, List.append_cancel_right (dropSuffix?_eq_some h)]

theorem dropSuffix?_eq_none {ending t : Text} (h : ¬ending <:+ t) : dropSuffix? ending t = none := by
  cases hkept : dropSuffix? ending t with
  | none => rfl
  | some kept => exact absurd ⟨kept, (dropSuffix?_eq_some hkept).symm⟩ h

/-! ### Beginnings -/

theorem isPrefixOf?_append (q t : Text) : q.isPrefixOf? (q ++ t) = some t := by
  induction q with
  | nil => rfl
  | cons c q ih =>
    show (if (c == c) = true then q.isPrefixOf? (q ++ t) else none) = some t
    rw [if_pos (beq_self_eq_true c), ih]

theorem isPrefixOf?_eq_some {q t u : Text} (h : q.isPrefixOf? t = some u) : t = q ++ u := by
  induction q generalizing t with
  | nil => exact Option.some_inj.1 h
  | cons c q ih =>
    cases t with
    | nil => cases h
    | cons d t =>
      replace h : (if (c == d) = true then q.isPrefixOf? t else none) = some u := h
      split at h
      · next hcd =>
        rw [ih h, eq_of_beq hcd, List.cons_append]
      · cases h

/-! ### Trimming -/

theorem trimStart_cons_self (c : Char) (t : Text) : trimStart c (c :: t) = trimStart c t :=
  List.dropWhile_cons_of_pos (beq_self_eq_true c)

theorem trimStart_cons_ne {c d : Char} (h : d ≠ c) (t : Text) : trimStart c (d :: t) = d :: t :=
  List.dropWhile_cons_of_neg (by simpa using h)

/-- Trimming does not reach over another character. -/
theorem trimStart_append {c d : Char} (h : d ≠ c) (a b : Text) :
    trimStart c (a ++ d :: b) = trimStart c a ++ d :: b := by
  induction a with
  | nil => exact trimStart_cons_ne h b
  | cons e a ih =>
    rw [List.cons_append]
    by_cases he : e = c
    · rw [he, trimStart_cons_self, trimStart_cons_self, ih]
    · rw [trimStart_cons_ne he, trimStart_cons_ne he]
      rfl

/-- Nothing is trimmed from a text that begins otherwise, and from no other. -/
theorem trimStart_eq_self_iff {c : Char} {t : Text} : trimStart c t = t ↔ ¬[c] <+: t := by
  cases t with
  | nil => exact iff_of_true rfl (by simp)
  | cons d t =>
    by_cases hd : d = c
    · subst hd
      refine iff_of_false (fun h => ?_) (not_not_intro ⟨t, rfl⟩)
      rw [trimStart_cons_self] at h
      have hlength := (List.dropWhile_suffix (· == d) (l := t)).length_le
      rw [show t.dropWhile (· == d) = d :: t from h, List.length_cons] at hlength
      exact Nat.not_succ_le_self _ hlength
    · exact iff_of_true (trimStart_cons_ne hd t) fun h => hd (List.cons_prefix_cons.1 h).1.symm

/-! ### Replacing -/

/-- Nothing is replaced, or one occurrence. -/
theorem replaceFirst_cases (part fresh t : Text) :
    replaceFirst part fresh t = t ∨
      ∃ a b, t = a ++ (part ++ b) ∧ replaceFirst part fresh t = a ++ (fresh ++ b) := by
  induction t with
  | nil => exact Or.inl rfl
  | cons c t ih =>
    unfold replaceFirst
    by_cases hpart : part.isPrefixOf (c :: t) = true
    · rw [if_pos hpart]
      obtain ⟨b, hb⟩ := List.isPrefixOf_iff_prefix.1 hpart
      refine Or.inr ⟨[], b, hb.symm, ?_⟩
      rw [← hb, List.drop_left]
      rfl
    · rw [if_neg hpart]
      rcases ih with h | ⟨a, b, ht, h⟩
      · exact Or.inl (congrArg (c :: ·) h)
      · exact Or.inr ⟨c :: a, b, congrArg (c :: ·) ht, congrArg (c :: ·) h⟩

/-- Replacing brings in no other characters than those of the new text. -/
theorem count_replaceAll_le {c : Char} {fresh : Text} (h : c ∉ fresh) (part t : Text) :
    (replaceAll part fresh t).count c ≤ t.count c := by
  have hfrom : ∀ skip, (replaceFrom part fresh skip t).count c ≤ t.count c := by
    induction t with
    | nil =>
      intro skip
      cases skip <;> exact Nat.le_refl _
    | cons d t ih =>
      intro skip
      cases skip with
      | succ skip =>
        unfold replaceFrom
        exact Nat.le_trans (ih skip) (List.count_le_count_cons)
      | zero =>
        unfold replaceFrom
        split
        · rw [List.count_append, List.count_eq_zero.2 h, Nat.zero_add]
          exact Nat.le_trans (ih _) (List.count_le_count_cons)
        · rw [List.count_cons, List.count_cons]
          exact Nat.add_le_add_right (ih 0) _
  exact hfrom 0

end Text

end ReviewRouter
