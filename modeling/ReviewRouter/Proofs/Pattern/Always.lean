import ReviewRouter.Proofs.Pattern.Parts

/-!
# Captures that are always there

A part that is neither optional nor one of several alternatives takes part in every match.  A handler
that reads only such captures never misses one.

* `Pattern.always` — the names of these captures;
* `exists_mem_of_mem_always`, `lookup_ne_none_of_mem_always` — **each of them is in every match**.
-/

namespace ReviewRouter

/-! ### Captures of every text -/

namespace Reading

/-- Whatever is read, something is captured under the name. -/
def Always (R : Reading) (name : Text) : Prop :=
  ∀ before w after cs, R before w after cs → ∃ u, (name, u) ∈ cs

variable {R Q : Reading} {name : Text}

theorem Always.chain_left (hR : Always R name) (Q : Reading) : Always (chain R Q) name := by
  rintro before w after cs ⟨u, v, cu, cv, -, rfl, hu, -⟩
  obtain ⟨t, ht⟩ := hR _ _ _ _ hu
  exact ⟨t, List.mem_append_right cv ht⟩

theorem Always.chain_right (R : Reading) (hQ : Always Q name) : Always (chain R Q) name := by
  rintro before w after cs ⟨u, v, cu, cv, -, rfl, -, hv⟩
  obtain ⟨t, ht⟩ := hQ _ _ _ _ hv
  exact ⟨t, List.mem_append_left cu ht⟩

/-- What must be repeated takes part at least once. -/
theorem Always.repeated (hR : Always R name) (n : Nat) (most : Option Nat) :
    Always (repeated R (n + 1) most) name := by
  have hrounds : Always (times R (n + 1)) name := hR.chain_left _
  cases most with
  | some m =>
    rintro before w after cs ⟨k, -, hw⟩
    exact hrounds.chain_left _ _ _ _ _ hw
  | none =>
    have hmany : Always (many R) name := by
      rintro before w after cs ⟨u, v, cu, cv, -, rfl, hu, -⟩
      obtain ⟨t, ht⟩ := hR _ _ _ _ hu
      exact ⟨t, List.mem_append_right cv ht⟩
    exact Always.chain_right _ hmany

end Reading

namespace Pattern

/-! ### Patterns -/

/-- The names of the captures that take part in every match. -/
def always : Pattern → List Text
  | .capture name p => name :: p.always
  | .seq p q => p.always ++ q.always
  | .alt p q => p.always.filter q.always.contains
  | .rep p (_ + 1) _ _ => p.always
  | _ => []

/-- **They take part in every match.** -/
theorem exists_mem_of_mem_always (p : Pattern) {name : Text} (h : name ∈ p.always) :
    Reading.Always p.Spells name := by
  fun_induction always p with
  | case1 name' p ih =>
    rintro before w after cs ⟨cs', hw, rfl⟩
    rcases List.mem_cons.1 h with rfl | h
    · exact ⟨w, List.mem_cons_self⟩
    · obtain ⟨t, ht⟩ := ih h _ _ _ _ hw
      exact ⟨t, List.mem_cons_of_mem _ ht⟩
  | case2 p q ihp ihq =>
    rcases List.mem_append.1 h with h | h
    · exact (ihp h).chain_left _
    · exact Reading.Always.chain_right _ (ihq h)
  | case3 p q ihq ihp =>
    obtain ⟨hp, hq⟩ := List.mem_filter.1 h
    rintro before w after cs (hw | hw)
    · exact ihp hp _ _ _ _ hw
    · exact ihq (List.contains_iff_mem.1 hq) _ _ _ _ hw
  | case4 p n most greedy ih => exact (ih h).repeated n most
  | case5 => cases h

/-- A match has captured something under each of these names. -/
theorem lookup_ne_none_of_mem_always {p : Pattern} {before : Option Char} {t : Text}
    {found : List (Text × Text)} (h : p.matchAt? before t = some found) {name : Text}
    (hname : name ∈ p.always) : found.lookup name ≠ none := by
  obtain ⟨w, r, -, hw⟩ := exists_spells_of_matchAt? h
  obtain ⟨u, hu⟩ := exists_mem_of_mem_always p hname _ _ _ _ hw
  intro hnone
  have hne := List.lookup_eq_none_iff.1 hnone (name, u) hu
  rw [bne_self_eq_false] at hne
  cases hne

end Pattern

end ReviewRouter
