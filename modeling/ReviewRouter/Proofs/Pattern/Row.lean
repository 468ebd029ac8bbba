import ReviewRouter.Proofs.Pattern.Spelling

/-!
# Rows of patterns

The pattern of a route is a row of parts: characters that stand for themselves, captures, parts
that may be missing.  A row is matched from the left, and what it reads is cut at its parts.

* `row` — the parts one after the other;
* `Reads` — what the parts spell, one after the other;
* `exists_reads_of_matchAt?`, `matchAt?_ne_none` — a match is something that the row reads;
* `run_row_of_unique` — if the row can read the text in one way only, that is the match;
* `run_maybe_lit` — **characters that may be missing are passed over if the rest succeeds behind them**;
* `run_plus_of_longest` — **a greedy run is the longest one behind which the rest succeeds**;
* `exists_longest_capture_plus` — so no other reading captures more than the match;
* `find?_anchored` — a pattern that begins at the start of the text is tried only there.
-/

namespace ReviewRouter.Pattern

/-! ### Parts -/

/-- Characters that stand for themselves. -/
def lit (t : Text) : List Pattern :=
  t.map fun c => .char (.one c)

/-- One or more characters of a set, as many as possible. -/
def plus (set : CharSet) : Pattern :=
  .rep (.char set) 1 none true

/-- Any number of characters of a set, as many as possible. -/
def reps (set : CharSet) : Pattern :=
  .rep (.char set) 0 none true

/-- A part that is there if possible. -/
def maybe (p : Pattern) : Pattern :=
  .rep p 0 (some 1) true

/-- The end of the text. -/
def stop : Pattern :=
  .anchor .textEnd

/-- Parts one after the other. -/
def row : List Pattern → Pattern
  | [] => .empty
  | [p] => p
  | p :: q :: ps => .seq p (row (q :: ps))

/-- What the parts spell, one after the other. -/
def Reads : List Pattern → Reading
  | [] => Reading.nothing
  | p :: ps => Reading.chain p.Spells (Reads ps)

theorem run_row_cons {α : Type} (p : Pattern) (ps : List Pattern) (k : Cursor → Option α)
    (s : Cursor) : (row (p :: ps)).run k s = p.run ((row ps).run k) s := by
  cases ps with
  | nil => rfl
  | cons q ps => rfl

theorem spells_row (ps : List Pattern) (before : Option Char) (w after : Text)
    (cs : List (Text × Text)) : (row ps).Spells before w after cs ↔ Reads ps before w after cs := by
  induction ps generalizing before w cs with
  | nil => exact Iff.rfl
  | cons p ps ih =>
    cases ps with
    | nil =>
      constructor
      · intro h
        exact ⟨w, [], cs, [], (List.append_nil w).symm, rfl, h, rfl, rfl⟩
      · rintro ⟨u, v, cu, cv, rfl, rfl, hu, rfl, rfl⟩
        rw [List.append_nil]
        exact hu
    | cons q ps =>
      constructor
      · rintro ⟨u, v, cu, cv, hw, hcs, hu, hv⟩
        exact ⟨u, v, cu, cv, hw, hcs, hu, (ih _ _ _).1 hv⟩
      · rintro ⟨u, v, cu, cv, hw, hcs, hu, hv⟩
        exact ⟨u, v, cu, cv, hw, hcs, hu, (ih _ _ _).2 hv⟩

/-! ### What a row reads -/

section Reads

variable {ps : List Pattern} {before : Option Char} {w after : Text} {cs : List (Text × Text)}

theorem reads_char {c : Char} : Reads (.char (.one c) :: ps) before w after cs ↔
    ∃ v, w = c :: v ∧ Reads ps (some c) v after cs := by
  constructor
  · rintro ⟨u, v, cu, cv, rfl, rfl, ⟨⟨d, hd, rfl⟩, rfl⟩, hv⟩
    obtain rfl : c = d := eq_of_beq hd
    exact ⟨v, rfl, by rw [List.append_nil]; exact hv⟩
  · rintro ⟨v, rfl, hv⟩
    exact ⟨[c], v, [], cs, rfl, (List.append_nil cs).symm, ⟨⟨c, beq_self_eq_true c, rfl⟩, rfl⟩, hv⟩

theorem reads_lit {t : Text} : Reads (lit t ++ ps) before w after cs ↔
    ∃ v, w = t ++ v ∧ Reads ps (lastChar before t) v after cs := by
  induction t generalizing before w with
  | nil =>
    constructor
    · intro h
      exact ⟨w, rfl, h⟩
    · rintro ⟨v, rfl, hv⟩
      exact hv
  | cons c t ih =>
    rw [lit, List.map_cons, List.cons_append, reads_char, lastChar_cons]
    constructor
    · rintro ⟨v, rfl, hv⟩
      obtain ⟨x, rfl, hx⟩ := ih.1 hv
      exact ⟨x, rfl, hx⟩
    · rintro ⟨x, rfl, hx⟩
      exact ⟨t ++ x, rfl, ih.2 ⟨x, rfl, hx⟩⟩

theorem reads_plus {set : CharSet} : Reads (plus set :: ps) before w after cs ↔
    ∃ u v, w = u ++ v ∧ u ≠ [] ∧ isRun set u ∧ Reads ps (lastChar before u) v after cs := by
  constructor
  · rintro ⟨u, v, cu, cv, rfl, rfl, hu, hv⟩
    obtain ⟨hne, hrun, rfl⟩ := (spells_plus_iff set true _ _ _ _).1 hu
    exact ⟨u, v, rfl, hne, hrun, by rw [List.append_nil]; exact hv⟩
  · rintro ⟨u, v, rfl, hne, hrun, hv⟩
    exact ⟨u, v, [], cs, rfl, (List.append_nil cs).symm,
      (spells_plus_iff set true _ _ _ _).2 ⟨hne, hrun, rfl⟩, hv⟩

theorem reads_capture {name : Text} {p : Pattern} :
    Reads (.capture name p :: ps) before w after cs ↔
      ∃ u v cu cv, w = u ++ v ∧ cs = cv ++ (name, u) :: cu ∧ p.Spells before u (v ++ after) cu ∧
        Reads ps (lastChar before u) v after cv := by
  constructor
  · rintro ⟨u, v, cu, cv, rfl, rfl, ⟨cu', hu, rfl⟩, hv⟩
    exact ⟨u, v, cu', cv, rfl, rfl, hu, hv⟩
  · rintro ⟨u, v, cu, cv, rfl, rfl, hu, hv⟩
    exact ⟨u, v, (name, u) :: cu, cv, rfl, rfl, ⟨cu, hu, rfl⟩, hv⟩

theorem reads_capture_plus {name : Text} {set : CharSet} :
    Reads (.capture name (plus set) :: ps) before w after cs ↔
      ∃ u v cv, w = u ++ v ∧ cs = cv ++ [(name, u)] ∧ u ≠ [] ∧ isRun set u ∧
        Reads ps (lastChar before u) v after cv := by
  rw [reads_capture]
  constructor
  · rintro ⟨u, v, cu, cv, rfl, rfl, hu, hv⟩
    obtain ⟨hne, hrun, rfl⟩ := (spells_plus_iff set true _ _ _ _).1 hu
    exact ⟨u, v, cv, rfl, rfl, hne, hrun, hv⟩
  · rintro ⟨u, v, cv, rfl, rfl, hne, hrun, hv⟩
    exact ⟨u, v, [], cv, rfl, rfl, (spells_plus_iff set true _ _ _ _).2 ⟨hne, hrun, rfl⟩, hv⟩

theorem reads_maybe {p : Pattern} : Reads (maybe p :: ps) before w after cs ↔
    (∃ u v cu cv, w = u ++ v ∧ cs = cv ++ cu ∧ p.Spells before u (v ++ after) cu ∧
      Reads ps (lastChar before u) v after cv) ∨ Reads ps before w after cs := by
  constructor
  · rintro ⟨u, v, cu, cv, rfl, rfl, hu, hv⟩
    rcases (spells_option_iff p true _ _ _ _).1 hu with hu | ⟨rfl, rfl⟩
    · exact Or.inl ⟨u, v, cu, cv, rfl, rfl, hu, hv⟩
    · rw [List.append_nil]
      exact Or.inr hv
  · rintro (⟨u, v, cu, cv, rfl, rfl, hu, hv⟩ | hv)
    · exact ⟨u, v, cu, cv, rfl, rfl, (spells_option_iff p true _ _ _ _).2 (Or.inl hu), hv⟩
    · exact ⟨[], w, [], cs, rfl, (List.append_nil cs).symm,
        (spells_option_iff p true _ _ _ _).2 (Or.inr ⟨rfl, rfl⟩), hv⟩

/-- A character that may be missing. -/
theorem reads_maybe_char {c : Char} :
    Reads (maybe (.char (.one c)) :: ps) before w after cs ↔
      (∃ v, w = c :: v ∧ Reads ps (some c) v after cs) ∨ Reads ps before w after cs := by
  rw [reads_maybe, ← reads_char]
  exact Iff.rfl

theorem reads_stop : Reads [stop] before w after cs ↔ w = [] ∧ after = [] ∧ cs = [] := by
  constructor
  · rintro ⟨u, v, cu, cv, rfl, rfl, ⟨hend, rfl, rfl⟩, rfl, rfl⟩
    have hafter : after.head? = none := Option.isNone_iff_eq_none.1 hend
    exact ⟨rfl, List.head?_eq_none_iff.1 hafter, rfl⟩
  · rintro ⟨rfl, rfl, rfl⟩
    exact ⟨[], [], [], [], rfl, rfl, ⟨rfl, rfl, rfl⟩, rfl, rfl⟩

end Reads

/-! ### Matches of a row -/

section Matches

variable {α : Type} {ps : List Pattern} {before : Option Char} {k : Cursor → Option α}

/-- A success is one behind something that the row reads. -/
theorem exists_reads_of_run {s : Cursor} {a : α} (h : (row ps).run k s = some a) :
    ∃ w r cs, s.rest = w ++ r ∧ Reads ps s.before w r cs ∧
      k ⟨lastChar s.before w, r, cs ++ s.captured⟩ = some a := by
  obtain ⟨w, r, cs, hrest, hw, hk⟩ := exists_spells_of_run h
  exact ⟨w, r, cs, hrest, (spells_row ps _ _ _ _).1 hw, hk⟩

theorem mem_ends_of_reads {w r : Text} {cs : List (Text × Text)} (h : Reads ps before w r cs)
    (captured : List (Text × Text)) :
    ⟨lastChar before w, r, cs ++ captured⟩ ∈ (row ps).ends ⟨before, w ++ r, captured⟩ :=
  (mem_ends_iff _ _ _).2 ⟨w, cs, rfl, (spells_row ps _ _ _ _).2 h, rfl, rfl⟩

theorem exists_reads_of_matchAt? {t : Text} {found : List (Text × Text)}
    (h : (row ps).matchAt? before t = some found) :
    ∃ w r, t = w ++ r ∧ Reads ps before w r found := by
  obtain ⟨w, r, hrest, hw⟩ := exists_spells_of_matchAt? h
  exact ⟨w, r, hrest, (spells_row ps _ _ _ _).1 hw⟩

theorem matchAt?_ne_none {w r : Text} {cs : List (Text × Text)} (h : Reads ps before w r cs) :
    (row ps).matchAt? before (w ++ r) ≠ none :=
  run_ne_none (mem_ends_of_reads h _) (Option.some_ne_none _)

/-- If the row can read the text in one way only, that is the match. -/
theorem run_row_of_unique {w r : Text} {cs captured : List (Text × Text)}
    (h : Reads ps before w r cs)
    (hunique : ∀ w' r' cs', w ++ r = w' ++ r' → Reads ps before w' r' cs' → cs' = cs) :
    (row ps).run (fun e => some e.captured) ⟨before, w ++ r, captured⟩ = some (cs ++ captured) := by
  refine run_of_unique (mem_ends_of_reads h _) rfl ?_
  intro e he a ha
  obtain ⟨w', cs', hrest, hw', -, hcaptured⟩ := (mem_ends_iff _ _ _).1 he
  rw [← Option.some_inj.1 ha, hcaptured, hunique w' e.rest cs' hrest ((spells_row ps _ _ _ _).1 hw')]

theorem run_row_eq_none {s : Cursor}
    (h : ∀ w r cs, s.rest = w ++ r → Reads ps s.before w r cs → False) : (row ps).run k s = none := by
  rw [run_eq_none_iff]
  intro e he
  obtain ⟨w, cs, hrest, hw, -, -⟩ := (mem_ends_iff _ _ _).1 he
  exact (h w e.rest cs hrest ((spells_row ps _ _ _ _).1 hw)).elim

end Matches

/-! ### Steps of the search -/

section Steps

variable {α : Type} {ps : List Pattern} {k : Cursor → Option α}

/-- Characters that stand for themselves are passed over. -/
theorem run_lit {before : Option Char} (t : Text) {v : Text} {captured : List (Text × Text)} :
    (row (lit t ++ ps)).run k ⟨before, t ++ v, captured⟩ =
      (row ps).run k ⟨lastChar before t, v, captured⟩ := by
  induction t generalizing before with
  | nil => rfl
  | cons c t ih =>
    rw [lit, List.map_cons, List.cons_append, run_row_cons, lastChar_cons]
    show (if CharSet.mem (.one c) c = true then (row (lit t ++ ps)).run k _ else none) = _
    rw [if_pos (show CharSet.mem (.one c) c = true from beq_self_eq_true c)]
    exact ih

/-- A part that may be missing is tried first. -/
theorem run_maybe (p : Pattern) (s : Cursor) :
    (row (maybe p :: ps)).run k s = (p.run ((row ps).run k) s <|> (row ps).run k s) := by
  rw [run_row_cons]
  rfl

/-- If it can be there, it is. -/
theorem run_maybe_of_some {p : Pattern} {s : Cursor} {a : α} (h : p.run ((row ps).run k) s = some a) :
    (row (maybe p :: ps)).run k s = some a := by
  rw [run_maybe, h]
  rfl

/-- So it is with characters that may be missing. -/
theorem run_maybe_lit {before : Option Char} (t : Text) {v : Text} {captured : List (Text × Text)} {a : α}
    (h : (row ps).run k ⟨lastChar before t, v, captured⟩ = some a) :
    (row (maybe (row (lit t)) :: ps)).run k ⟨before, t ++ v, captured⟩ = some a := by
  refine run_maybe_of_some ?_
  rw [← List.append_nil (lit t), run_lit]
  exact h

end Steps

/-! ### Greedy runs -/

section Greedy

variable {α : Type} {set : CharSet} {k : Cursor → Option α}

/-- All longer runs fail. -/
def NoLonger (set : CharSet) (k : Cursor → Option α) (s : Cursor) (w v : Text) : Prop :=
  ∀ x v', v = x ++ v' → x ≠ [] → isRun set x → k ⟨lastChar s.before (w ++ x), v', s.captured⟩ = none

theorem moreRounds_succ (step : (Cursor → Option α) → Cursor → Option α) (bound : Nat)
    (s : Cursor) : moreRounds step true (bound + 1) k s =
      (step (fun e => if e.rest.length < s.rest.length then moreRounds step true bound k e else none)
        s <|> k s) := rfl

/-- The places behind further characters of a run. -/
theorem moreRounds_eq_none {bound : Nat} {s : Cursor} (hbound : s.rest.length ≤ bound)
    (hfail : ∀ x v, s.rest = x ++ v → isRun set x → k ⟨lastChar s.before x, v, s.captured⟩ = none) :
    moreRounds (char set).run true bound k s = none := by
  rw [moreRounds_eq_findSome? (char set).ends true (run_eq_findSome? (char set)),
    List.findSome?_eq_none_iff]
  intro e he
  obtain ⟨n, w, cs, hrest, hw, hbefore, hcaptured⟩ :=
    (mem_moreRoundsEnds true (mem_ends_iff (char set)) bound s e hbound).1 he
  obtain ⟨-, hrun, rfl⟩ := (times_char set n _ _ _ _).1 hw
  have hk := hfail w e.rest hrest hrun
  rw [← hbefore] at hk
  cases e
  simp only [List.nil_append] at hcaptured hk ⊢
  rw [hcaptured]
  exact hk

/-- Further characters of a run, by induction on the run. -/
theorem moreRounds_of_longest {a : α} (w : Text) {v : Text} (hrun : isRun set w) :
    ∀ (bound : Nat) (s : Cursor), s.rest = w ++ v → s.rest.length ≤ bound →
      k ⟨lastChar s.before w, v, s.captured⟩ = some a → NoLonger set k s w v →
      moreRounds (char set).run true bound k s = some a := by
  induction w with
  | nil =>
    intro bound s hrest hbound hk hlong
    obtain ⟨b, rest, captured⟩ := s
    cases hrest
    cases bound with
    | zero => exact hk
    | succ bound =>
      rw [moreRounds_succ, run]
      cases v with
      | nil => exact hk
      | cons c v =>
        simp only
        split
        · next hc =>
          rw [List.length_cons, if_pos (Nat.lt_succ_self _), moreRounds_eq_none (Nat.le_of_succ_le_succ hbound)]
          · exact hk
          · intro x v' hv hx
            have hfail := hlong (c :: x) v' (by rw [List.cons_append, ← hv])
              (List.cons_ne_nil c x) (isRun_cons.2 ⟨hc, hx⟩)
            rw [List.nil_append, lastChar_cons] at hfail
            exact hfail
        · exact hk
  | cons c w ih =>
    intro bound s hrest hbound hk hlong
    obtain ⟨b, rest, captured⟩ := s
    obtain rfl : rest = c :: (w ++ v) := hrest
    obtain ⟨hc, hrun⟩ := isRun_cons.1 hrun
    cases bound with
    | zero => exact absurd hbound (Nat.not_succ_le_zero _)
    | succ bound =>
      have hmore : moreRounds (char set).run true bound k ⟨some c, w ++ v, captured⟩ = some a := by
        refine ih hrun bound ⟨some c, w ++ v, captured⟩ rfl (Nat.le_of_succ_le_succ hbound) ?_ ?_
        · rw [← lastChar_cons b]
          exact hk
        · intro x v' hv hne hx
          rw [← lastChar_cons b]
          exact hlong x v' hv hne hx
      rw [moreRounds_succ, run]
      simp only [hc, if_true, List.length_cons, Nat.lt_succ_self, hmore]
      rfl

/-- **A greedy run is the longest one behind which the rest succeeds.** -/
theorem run_plus_of_longest {s : Cursor} {w v : Text} {a : α} (hrest : s.rest = w ++ v)
    (hne : w ≠ []) (hrun : isRun set w) (hk : k ⟨lastChar s.before w, v, s.captured⟩ = some a)
    (hlong : NoLonger set k s w v) : (plus set).run k s = some a := by
  obtain ⟨b, rest, captured⟩ := s
  cases hrest
  cases w with
  | nil => exact absurd rfl hne
  | cons c w =>
    obtain ⟨hc, hrun⟩ := isRun_cons.1 hrun
    show someRounds (char set).run true k ⟨b, c :: (w ++ v), captured⟩ = some a
    rw [someRounds, run]
    simp only [hc, if_true, List.length_cons, Nat.lt_succ_self]
    refine moreRounds_of_longest w hrun _ _ rfl (Nat.le_refl _) ?_ ?_
    · rw [← lastChar_cons b]
      exact hk
    · intro x v' hv hne' hx
      rw [← lastChar_cons b]
      exact hlong x v' hv hne' hx

/-- The same for a captured run at the head of a row. -/
theorem run_capture_plus_of_longest {name : Text} {ps : List Pattern} {before : Option Char}
    {w v : Text} {captured : List (Text × Text)} {a : α} (hne : w ≠ []) (hrun : isRun set w)
    (hk : (row ps).run k ⟨lastChar before w, v, (name, w) :: captured⟩ = some a)
    (hlong : ∀ x u r cs, v = x ++ (u ++ r) → x ≠ [] → isRun set x →
      Reads ps (lastChar before (w ++ x)) u r cs → False) :
    (row (.capture name (plus set) :: ps)).run k ⟨before, w ++ v, captured⟩ = some a := by
  have hcapture : ∀ (b : Option Char) (u r : Text),
      Cursor.capture name ⟨before, u ++ r, captured⟩ ⟨b, r, captured⟩ =
        ⟨b, r, (name, u) :: captured⟩ := by
    intro b u r
    simp only [Cursor.capture, List.length_append, Nat.add_sub_cancel, List.take_left']
  rw [run_row_cons]
  refine run_plus_of_longest rfl hne hrun ?_ ?_
  · show (row ps).run k (Cursor.capture name _ _) = some a
    rw [hcapture]
    exact hk
  · intro x v' hv hxne hx
    show (row ps).run k (Cursor.capture name _ _) = none
    rw [show w ++ v = (w ++ x) ++ v' from by rw [hv, List.append_assoc], hcapture]
    exact run_row_eq_none fun u r cs hrest hreads =>
      hlong x u r cs (hv.trans (congrArg (x ++ ·) hrest)) hxne hx hreads

/-- No reading captures a longer run at the head of a row than the match. -/
theorem exists_longest_capture_plus (name : Text) (captured : List (Text × Text)) {ps : List Pattern}
    {before : Option Char} {w v r : Text} {cs : List (Text × Text)} (hne : w ≠ []) (hrun : isRun set w)
    (hreads : Reads ps (lastChar before w) v r cs) :
    ∃ w' cs', w.length ≤ w'.length ∧
      (row (.capture name (plus set) :: ps)).run (fun e => some e.captured)
        ⟨before, w ++ (v ++ r), captured⟩ = some (cs' ++ (name, w') :: captured) := by
  by_cases hlong : ∃ x u r' cs', v ++ r = x ++ (u ++ r') ∧ x ≠ [] ∧ isRun set x ∧
      Reads ps (lastChar before (w ++ x)) u r' cs'
  · -- a longer run leaves less behind it
    obtain ⟨x, u, r', cs', hv, hx, hxrun, hu⟩ := hlong
    have hpos := List.length_pos_iff.2 hx
    have hlength : v.length + r.length = x.length + (u.length + r'.length) := by
      rw [← List.length_append, hv, List.length_append, List.length_append]
    obtain ⟨w', cs'', hw', hmatch⟩ := exists_longest_capture_plus name captured
      (fun h => hne (List.append_eq_nil_iff.1 h).1) (isRun_append.2 ⟨hrun, hxrun⟩) hu
    rw [List.length_append] at hw'
    refine ⟨w', cs'', by omega, ?_⟩
    rw [hv, ← List.append_assoc]
    exact hmatch
  · obtain ⟨a, ha⟩ := Option.ne_none_iff_exists'.1 (run_ne_none (k := fun e => some e.captured)
      (mem_ends_of_reads hreads ((name, w) :: captured)) (Option.some_ne_none _))
    obtain ⟨_, _, cs', -, -, hcs⟩ := exists_reads_of_run ha
    obtain rfl := Option.some_inj.1 hcs
    refine ⟨w, cs', Nat.le_refl _, run_capture_plus_of_longest hne hrun ha ?_⟩
    exact fun x u r' cs'' hv hx hxrun hu => hlong ⟨x, u, r', cs'', hv, hx, hxrun, hu⟩
termination_by v.length + r.length

end Greedy

/-! ### Anchored patterns -/

theorem findFrom?_anchored (p : Pattern) (c : Char) (t : Text) :
    (seq (anchor .textStart) p).findFrom? (some c) t = none := by
  induction t generalizing c with
  | nil => rfl
  | cons d t ih =>
    rw [findFrom?, ih]
    rfl

/-- A pattern that begins at the start of the text is tried only there. -/
theorem find?_anchored (p : Pattern) (t : Text) :
    (seq (anchor .textStart) p).find? t = p.matchAt? none t := by
  have hat : (seq (anchor .textStart) p).matchAt? none t = p.matchAt? none t := rfl
  cases t with
  | nil => exact hat
  | cons c t =>
    rw [find?, findFrom?, findFrom?_anchored, hat]
    cases p.matchAt? none (c :: t) <;> rfl

end ReviewRouter.Pattern
