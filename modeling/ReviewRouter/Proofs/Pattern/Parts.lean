import ReviewRouter.Proofs.Pattern.Row

/-!
# Where captures and characters come from

Whatever a pattern captures under a name was spelled by a part that is captured under that name.  So
what is known of the part is known of the capture, however the match was found.  In the same way
whatever it reads is in one of its sets of characters.

* `Reading.Within`, `Closed` — what holds of all that is read, and passes from the parts to the whole;
* `Pattern.parts` — the parts of a pattern that are captured, with their names;
* `isCaptured_of_spells`, `isCaptured_of_matchAt?` — **what is captured was spelled by a part of that
  name**;
* `Pattern.mayRead`, `mayRead_of_spells` — **what is read are characters of the sets**;
* `Pattern.neverEmpty`, `ne_nil_of_neverEmpty` — parts that spell no empty text.
-/

namespace ReviewRouter

/-! ### What holds of a reading -/

namespace Reading

/-- All that is read has the property, each text with its captures. -/
def Within (R : Reading) (P : Text → List (Text × Text) → Prop) : Prop :=
  ∀ before w after cs, R before w after cs → P w cs

/-- The property passes from texts to one text after the other. -/
structure Closed (P : Text → List (Text × Text) → Prop) : Prop where
  nothing : P [] []
  append : ∀ {u v : Text} {cu cv : List (Text × Text)}, P u cu → P v cv → P (u ++ v) (cv ++ cu)

/-- All captures have a property. -/
theorem closed_captures (P : Text × Text → Prop) : Closed fun _ cs => ∀ x ∈ cs, P x where
  nothing _ hx := absurd hx List.not_mem_nil
  append hu hv x hx := (List.mem_append.1 hx).elim (hv x) (hu x)

/-- All characters have a property. -/
theorem closed_characters (P : Char → Prop) : Closed fun w _ => ∀ c ∈ w, P c where
  nothing _ hc := absurd hc List.not_mem_nil
  append hu hv c hc := (List.mem_append.1 hc).elim (hu c) (hv c)

variable {R Q : Reading} {P : Text → List (Text × Text) → Prop}

theorem Closed.within_nothing (hP : Closed P) : Within Reading.nothing P := by
  rintro before w after cs ⟨rfl, rfl⟩
  exact hP.nothing

theorem Closed.within_chain (hP : Closed P) (hR : Within R P) (hQ : Within Q P) : Within (chain R Q) P := by
  rintro before w after cs ⟨u, v, cu, cv, rfl, rfl, hu, hv⟩
  exact hP.append (hR _ _ _ _ hu) (hQ _ _ _ _ hv)

theorem Closed.within_times (hP : Closed P) (hR : Within R P) (n : Nat) : Within (times R n) P := by
  induction n with
  | zero => exact hP.within_nothing
  | succ n ih => exact hP.within_chain hR ih

theorem Closed.within_many (hP : Closed P) (hR : Within R P) : Within (many R) P := by
  have hmoving : Within (moving R) P := fun _ _ _ _ hw => hR _ _ _ _ hw.2
  rintro before w after cs ⟨u, v, cu, cv, rfl, rfl, hu, n, hv, -⟩
  exact hP.append (hR _ _ _ _ hu) (hP.within_times hmoving n _ _ _ _ hv)

theorem Closed.within_repeated (hP : Closed P) (hR : Within R P) (least : Nat) (most : Option Nat) :
    Within (repeated R least most) P := by
  cases most with
  | some m =>
    have hbounded : Within (fun before w after cs => ∃ n, n ≤ m - least ∧
        Reading.chain (Reading.times R least) (Reading.times R n) before w after cs) P := by
      rintro before w after cs ⟨n, -, hw⟩
      exact hP.within_chain (hP.within_times hR least) (hP.within_times hR n) _ _ _ _ hw
    cases least <;> exact hbounded
  | none =>
    cases least with
    | zero =>
      rintro before w after cs (hw | hw)
      · exact hP.within_many hR _ _ _ _ hw
      · exact hP.within_nothing _ _ _ _ hw
    | succ n => exact hP.within_chain (hP.within_times hR n) (hP.within_many hR)

end Reading

namespace Pattern

/-! ### Parts -/

/-- The parts of a pattern that are captured, with their names. -/
def parts : Pattern → List (Text × Pattern)
  | .empty => []
  | .char _ => []
  | .anchor _ => []
  | .capture name p => (name, p) :: p.parts
  | .seq p q => p.parts ++ q.parts
  | .alt p q => p.parts ++ q.parts
  | .rep p _ _ _ => p.parts

/-- A text that was spelled by one of the parts, under its name. -/
def IsCaptured (parts : List (Text × Pattern)) (x : Text × Text) : Prop :=
  ∃ p, (x.1, p) ∈ parts ∧ ∃ before after cs, p.Spells before x.2 after cs

theorem IsCaptured.mono {ps qs : List (Text × Pattern)} (hsub : ps ⊆ qs) {x : Text × Text}
    (h : IsCaptured ps x) : IsCaptured qs x := by
  obtain ⟨p, hp, hspells⟩ := h
  exact ⟨p, hsub hp, hspells⟩

/-- **What is captured was spelled by a part of that name.** -/
theorem isCaptured_of_spells (p : Pattern) :
    Reading.Within p.Spells fun _ cs => ∀ x ∈ cs, IsCaptured p.parts x := by
  have hclosed := fun ps : List (Text × Pattern) => Reading.closed_captures (IsCaptured ps)
  induction p with
  | empty => exact (hclosed _).within_nothing
  | char set =>
    rintro before w after cs ⟨-, rfl⟩ x hx
    exact absurd hx List.not_mem_nil
  | anchor a =>
    rintro before w after cs ⟨-, -, rfl⟩ x hx
    exact absurd hx List.not_mem_nil
  | capture name p ih =>
    rintro before w after cs ⟨cs', hw, rfl⟩ x hx
    rcases List.mem_cons.1 hx with rfl | hx
    · exact ⟨p, List.mem_cons_self, _, _, _, hw⟩
    · exact (ih _ _ _ _ hw x hx).mono (List.subset_cons_self _ _)
  | seq p q ihp ihq =>
    refine (hclosed _).within_chain ?_ ?_
    · exact fun _ _ _ _ hw x hx => (ihp _ _ _ _ hw x hx).mono (List.subset_append_left _ _)
    · exact fun _ _ _ _ hw x hx => (ihq _ _ _ _ hw x hx).mono (List.subset_append_right _ _)
  | alt p q ihp ihq =>
    rintro before w after cs (hw | hw) x hx
    · exact (ihp _ _ _ _ hw x hx).mono (List.subset_append_left _ _)
    · exact (ihq _ _ _ _ hw x hx).mono (List.subset_append_right _ _)
  | rep p least most greedy ih => exact (hclosed _).within_repeated ih least most

theorem isCaptured_of_matchAt? {p : Pattern} {before : Option Char} {t : Text}
    {found : List (Text × Text)} (h : p.matchAt? before t = some found) {name u : Text}
    (hu : found.lookup name = some u) : IsCaptured p.parts (name, u) := by
  obtain ⟨w, r, -, hw⟩ := exists_spells_of_matchAt? h
  obtain ⟨l₁, l₂, rfl, -⟩ := List.lookup_eq_some_iff.1 hu
  exact isCaptured_of_spells p _ _ _ _ hw _ (List.mem_append_right l₁ List.mem_cons_self)

/-! ### Characters -/

/-- Whether a pattern may read a character; only a `false` is certain. -/
def mayRead (c : Char) : Pattern → Bool
  | .empty => false
  | .char set => set.mem c
  | .anchor _ => false
  | .capture _ p => p.mayRead c
  | .seq p q => p.mayRead c || q.mayRead c
  | .alt p q => p.mayRead c || q.mayRead c
  | .rep p _ _ _ => p.mayRead c

/-- **What is read are characters of the sets.** -/
theorem mayRead_of_spells (p : Pattern) :
    Reading.Within p.Spells fun w _ => ∀ c ∈ w, p.mayRead c = true := by
  have hclosed := fun p : Pattern => Reading.closed_characters (p.mayRead · = true)
  induction p with
  | empty => exact (hclosed .empty).within_nothing
  | char set =>
    rintro before w after cs ⟨⟨d, hd, rfl⟩, -⟩ c hc
    rw [List.mem_singleton.1 hc]
    exact hd
  | anchor a =>
    rintro before w after cs ⟨-, rfl, -⟩ c hc
    exact absurd hc List.not_mem_nil
  | capture name p ih =>
    rintro before w after cs ⟨cs', hw, -⟩ c hc
    exact ih _ _ _ _ hw c hc
  | seq p q ihp ihq =>
    refine (hclosed (.seq p q)).within_chain ?_ ?_
    · exact fun _ _ _ _ hw c hc => Bool.or_eq_true_iff.2 (Or.inl (ihp _ _ _ _ hw c hc))
    · exact fun _ _ _ _ hw c hc => Bool.or_eq_true_iff.2 (Or.inr (ihq _ _ _ _ hw c hc))
  | alt p q ihp ihq =>
    rintro before w after cs (hw | hw) c hc
    · exact Bool.or_eq_true_iff.2 (Or.inl (ihp _ _ _ _ hw c hc))
    · exact Bool.or_eq_true_iff.2 (Or.inr (ihq _ _ _ _ hw c hc))
  | rep p least most greedy ih => exact (hclosed p).within_repeated ih least most

/-- The same for rows of parts. -/
theorem not_reads_of_not_mayRead {ps : List Pattern} {c : Char} (hps : (row ps).mayRead c = false)
    {before : Option Char} {w after : Text} {cs : List (Text × Text)} (hc : c ∈ w) :
    ¬Reads ps before w after cs := by
  intro h
  have hread := mayRead_of_spells (row ps) _ _ _ _ ((spells_row ps before w after cs).2 h) c hc
  rw [hps] at hread
  cases hread

/-- A row that stops at the end of the text leaves nothing of it. -/
theorem eq_nil_of_reads_stop {ps : List Pattern} (hps : ps.getLast? = some stop) :
    ∀ {before : Option Char} {w after : Text} {cs : List (Text × Text)},
      Reads ps before w after cs → after = [] := by
  induction ps with
  | nil => cases hps
  | cons p ps ih =>
    rintro before w after cs ⟨u, v, cu, cv, -, -, hu, hv⟩
    cases ps with
    | nil =>
      obtain rfl : p = stop := Option.some_inj.1 hps
      obtain ⟨rfl, -⟩ := hv
      exact (reads_stop.1 ⟨u, [], cu, [], rfl, rfl, hu, rfl, rfl⟩).2.1
    | cons q ps => exact ih hps hv

/-! ### Parts that spell no empty text -/

/-- Whether a pattern spells no empty text; only a `true` is certain. -/
def neverEmpty : Pattern → Bool
  | .char _ => true
  | .capture _ p => p.neverEmpty
  | .seq p q => p.neverEmpty || q.neverEmpty
  | .alt p q => p.neverEmpty && q.neverEmpty
  | .rep p (_ + 1) none _ => p.neverEmpty
  | _ => false

theorem ne_nil_of_neverEmpty (p : Pattern) (h : p.neverEmpty = true) :
    ∀ {before w after cs}, p.Spells before w after cs → w ≠ [] := by
  fun_induction neverEmpty p with
  | case1 set =>
    rintro before w after cs ⟨⟨c, -, rfl⟩, -⟩
    exact List.cons_ne_nil c []
  | case2 name p ih =>
    rintro before w after cs ⟨cs', hw, -⟩
    exact ih h hw
  | case3 p q ihp ihq =>
    rintro before w after cs ⟨u, v, cu, cv, rfl, -, hu, hv⟩ hnil
    obtain ⟨rfl, rfl⟩ := List.append_eq_nil_iff.1 hnil
    rcases Bool.or_eq_true_iff.1 h with hp | hq
    · exact ihp hp hu rfl
    · exact ihq hq hv rfl
  | case4 p q ihp ihq =>
    rintro before w after cs (hw | hw)
    · exact ihp (Bool.and_eq_true_iff.1 h).1 hw
    · exact ihq (Bool.and_eq_true_iff.1 h).2 hw
  | case5 p n greedy ih =>
    -- the last round is not empty
    rintro before w after cs ⟨u, v, cu, cv, rfl, -, -, u', v', cu', cv', rfl, -, hu', -⟩ hnil
    obtain ⟨-, hmany⟩ := List.append_eq_nil_iff.1 hnil
    exact ih h hu' (List.append_eq_nil_iff.1 hmany).1
  | case6 => cases h

end Pattern

end ReviewRouter
