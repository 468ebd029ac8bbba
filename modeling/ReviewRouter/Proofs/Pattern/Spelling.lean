import ReviewRouter.Proofs.Pattern.Ends

/-!
# What a pattern spells

A pattern describes texts, each with the captures that it makes of them.  The neighbours of the
text matter only to conditions on places.

* `Reading` — a set of texts with their neighbours and captures;
* `Pattern.Spells` — the reading of a pattern;
* `Pattern.mem_ends_iff` — **the ends of a match are the places behind the texts that the pattern
  spells**;
* `exists_spells_of_matchAt?` — so a match is something that the pattern spells;
* `spells_plus_iff`, `spells_star_iff`, `spells_option_iff` — repetitions as routes use them.
-/

namespace ReviewRouter

/-! ### Readings -/

/-- The character before a place, after some text. -/
def lastChar (before : Option Char) (w : Text) : Option Char :=
  w.getLast?.or before

theorem lastChar_nil (before : Option Char) : lastChar before [] = before := rfl

theorem lastChar_append (before : Option Char) (u v : Text) :
    lastChar before (u ++ v) = lastChar (lastChar before u) v := by
  unfold lastChar
  rw [List.getLast?_append, Option.or_assoc]

theorem lastChar_cons (before : Option Char) (c : Char) (w : Text) :
    lastChar before (c :: w) = lastChar (some c) w := by
  rw [← List.singleton_append, lastChar_append]
  rfl

/-- A set of texts `w`, each after the character `before`, in front of the text `after`, and with
captures, the latest first. -/
abbrev Reading := Option Char → (w after : Text) → List (Text × Text) → Prop

namespace Reading

/-- The empty text. -/
def nothing : Reading := fun _ w _ cs =>
  w = [] ∧ cs = []

/-- One text after the other. -/
def chain (R Q : Reading) : Reading := fun before w after cs =>
  ∃ u v cu cv, w = u ++ v ∧ cs = cv ++ cu ∧ R before u (v ++ after) cu ∧
    Q (lastChar before u) v after cv

/-- As many texts as given. -/
def times (R : Reading) : Nat → Reading
  | 0 => nothing
  | n + 1 => chain R (times R n)

/-- The texts that are not empty. -/
def moving (R : Reading) : Reading := fun before w after cs =>
  w ≠ [] ∧ R before w after cs

/-- A first text, and if that is not empty any number of further ones that are not empty either. -/
def many (R : Reading) : Reading := fun before w after cs =>
  ∃ u v cu cv, w = u ++ v ∧ cs = cv ++ cu ∧ R before u (v ++ after) cu ∧
    ∃ n, times (moving R) n (lastChar before u) v after cv ∧ (u = [] → n = 0)

/-- From `least` to `most` texts. -/
def repeated (R : Reading) (least : Nat) (most : Option Nat) : Reading :=
  match least, most with
  | _, some m => fun before w after cs =>
    ∃ n, n ≤ m - least ∧ chain (times R least) (times R n) before w after cs
  | 0, none => fun before w after cs =>
    many R before w after cs ∨ nothing before w after cs
  | n + 1, none => chain (times R n) (many R)

/-- A place that a reading leads to. -/
def Reaches (R : Reading) (s e : Cursor) : Prop :=
  ∃ w cs, s.rest = w ++ e.rest ∧ R s.before w e.rest cs ∧ e.before = lastChar s.before w ∧
    e.captured = cs ++ s.captured

theorem reaches_nothing (s e : Cursor) : Reaches nothing s e ↔ e = s := by
  constructor
  · rintro ⟨w, cs, hrest, ⟨rfl, rfl⟩, hbefore, hcaptured⟩
    cases s
    cases e
    simp only [List.nil_append, lastChar_nil] at hrest hbefore hcaptured
    rw [hrest, hbefore, hcaptured]
  · rintro rfl
    exact ⟨[], [], rfl, ⟨rfl, rfl⟩, rfl, rfl⟩

theorem reaches_chain (R Q : Reading) (s e : Cursor) :
    Reaches (chain R Q) s e ↔ ∃ m, Reaches R s m ∧ Reaches Q m e := by
  constructor
  · rintro ⟨w, cs, hrest, ⟨u, v, cu, cv, rfl, rfl, hu, hv⟩, hbefore, hcaptured⟩
    refine ⟨⟨lastChar s.before u, v ++ e.rest, cu ++ s.captured⟩, ?_, ?_⟩
    · exact ⟨u, cu, by rw [hrest, List.append_assoc], hu, rfl, rfl⟩
    · exact ⟨v, cv, rfl, hv, by rw [hbefore, lastChar_append], by rw [hcaptured, List.append_assoc]⟩
  · rintro ⟨m, ⟨u, cu, hrest, hu, hbefore, hcaptured⟩, ⟨v, cv, hrest', hv, hbefore', hcaptured'⟩⟩
    rw [hrest'] at hrest hu
    rw [hbefore] at hv hbefore'
    refine ⟨u ++ v, cv ++ cu, by rw [hrest, List.append_assoc], ⟨u, v, cu, cv, rfl, rfl, hu, hv⟩,
      by rw [hbefore', lastChar_append], by rw [hcaptured', hcaptured, List.append_assoc]⟩

/-- A place that one of two readings leads to. -/
theorem reaches_either (R Q : Reading) (s e : Cursor) :
    Reaches (fun before w after cs => R before w after cs ∨ Q before w after cs) s e ↔
      Reaches R s e ∨ Reaches Q s e := by
  constructor
  · rintro ⟨w, cs, hrest, hw | hw, hend⟩
    · exact Or.inl ⟨w, cs, hrest, hw, hend⟩
    · exact Or.inr ⟨w, cs, hrest, hw, hend⟩
  · rintro (⟨w, cs, hrest, hw, hend⟩ | ⟨w, cs, hrest, hw, hend⟩)
    · exact ⟨w, cs, hrest, Or.inl hw, hend⟩
    · exact ⟨w, cs, hrest, Or.inr hw, hend⟩

/-- A reading moves on as far as its text is long. -/
theorem Reaches.moves {R : Reading} {s e : Cursor} (h : Reaches R s e) :
    e.rest.length < s.rest.length ↔ Reaches (moving R) s e := by
  constructor
  · intro hlt
    obtain ⟨w, cs, hrest, hw, hbefore, hcaptured⟩ := h
    refine ⟨w, cs, hrest, ⟨?_, hw⟩, hbefore, hcaptured⟩
    rintro rfl
    rw [hrest] at hlt
    exact absurd hlt (Nat.lt_irrefl _)
  · rintro ⟨w, cs, hrest, ⟨hne, hw⟩, -, -⟩
    have hpos := List.length_pos_iff.2 hne
    rw [hrest, List.length_append]
    omega

theorem reaches_of_moving {R : Reading} {s e : Cursor} (h : Reaches (moving R) s e) :
    Reaches R s e := by
  obtain ⟨w, cs, hrest, ⟨-, hw⟩, hbefore, hcaptured⟩ := h
  exact ⟨w, cs, hrest, hw, hbefore, hcaptured⟩

/-- The places behind a first text and further ones. -/
theorem reaches_many (R : Reading) (s e : Cursor) :
    Reaches (many R) s e ↔ ∃ m, Reaches R s m ∧
      ∃ n, Reaches (times (moving R) n) m e ∧ (m.rest.length < s.rest.length ∨ n = 0) := by
  constructor
  · rintro ⟨w, cs, hrest, ⟨u, v, cu, cv, rfl, rfl, hu, n, hv, hn⟩, hbefore, hcaptured⟩
    refine ⟨⟨lastChar s.before u, v ++ e.rest, cu ++ s.captured⟩,
      ⟨u, cu, by rw [hrest, List.append_assoc], hu, rfl, rfl⟩, n,
      ⟨v, cv, rfl, hv, by rw [hbefore, lastChar_append],
        by rw [hcaptured, List.append_assoc]⟩, ?_⟩
    by_cases hempty : u = []
    · exact Or.inr (hn hempty)
    · have hpos := List.length_pos_iff.2 hempty
      refine Or.inl ?_
      rw [hrest]
      simp only [List.length_append]
      omega
  · rintro ⟨m, ⟨u, cu, hrest, hu, hbefore, hcaptured⟩, n,
      ⟨v, cv, hrest', hv, hbefore', hcaptured'⟩, hn⟩
    rw [hrest'] at hrest hu
    rw [hbefore] at hv hbefore'
    refine ⟨u ++ v, cv ++ cu, by rw [hrest, List.append_assoc],
      ⟨u, v, cu, cv, rfl, rfl, hu, n, hv, ?_⟩, by rw [hbefore', lastChar_append],
      by rw [hcaptured', hcaptured, List.append_assoc]⟩
    rintro rfl
    rcases hn with hn | hn
    · rw [hrest, hrest'] at hn
      exact absurd hn (Nat.lt_irrefl _)
    · exact hn

end Reading

/-! ### Ends of repetitions -/

section Repetition

open Reading (Reaches)

variable {step : Cursor → List Cursor} (greedy : Bool) {R : Reading}

theorem mem_preferEnds (more stop : List Cursor) (e : Cursor) :
    e ∈ preferEnds greedy more stop ↔ e ∈ more ∨ e ∈ stop := by
  unfold preferEnds
  cases greedy
  · rw [if_neg (by decide), List.mem_append, or_comm]
  · rw [if_pos rfl, List.mem_append]

variable (hstep : ∀ s e, e ∈ step s ↔ Reaches R s e)

include hstep

theorem mem_roundsEnds (n : Nat) (s e : Cursor) :
    e ∈ roundsEnds step n s ↔ Reaches (R.times n) s e := by
  induction n generalizing s with
  | zero => rw [roundsEnds, List.mem_singleton, Reading.times, Reading.reaches_nothing]
  | succ n ih =>
    rw [roundsEnds, List.mem_flatMap, Reading.times, Reading.reaches_chain]
    simp only [hstep, ih]

theorem mem_roundsUpToEnds (n : Nat) (s e : Cursor) :
    e ∈ roundsUpToEnds step greedy n s ↔ ∃ m, m ≤ n ∧ Reaches (R.times m) s e := by
  induction n generalizing s with
  | zero =>
    rw [roundsUpToEnds, List.mem_singleton]
    constructor
    · rintro rfl
      exact ⟨0, Nat.le_refl 0, (Reading.reaches_nothing e e).2 rfl⟩
    · rintro ⟨m, hm, h⟩
      obtain rfl := Nat.le_zero.1 hm
      exact (Reading.reaches_nothing s e).1 h
  | succ n ih =>
    rw [roundsUpToEnds, mem_preferEnds, List.mem_flatMap, List.mem_singleton]
    constructor
    · rintro (⟨m, hm, he⟩ | rfl)
      · obtain ⟨i, hi, he⟩ := (ih m).1 he
        exact ⟨i + 1, Nat.succ_le_succ hi, (Reading.reaches_chain R _ s e).2
          ⟨m, (hstep s m).1 hm, he⟩⟩
      · exact ⟨0, Nat.zero_le _, (Reading.reaches_nothing e e).2 rfl⟩
    · rintro ⟨i, hi, he⟩
      cases i with
      | zero => exact Or.inr ((Reading.reaches_nothing s e).1 he)
      | succ i =>
        obtain ⟨m, hm, he⟩ := (Reading.reaches_chain R _ s e).1 he
        exact Or.inl ⟨m, (hstep s m).2 hm, (ih m).2 ⟨i, Nat.le_of_succ_le_succ hi, he⟩⟩

/-- The bound is no limit once it reaches the length of the text that is left. -/
theorem mem_moreRoundsEnds (bound : Nat) (s e : Cursor) (hbound : s.rest.length ≤ bound) :
    e ∈ moreRoundsEnds step greedy bound s ↔ ∃ n, Reaches (R.moving.times n) s e := by
  induction bound generalizing s with
  | zero =>
    rw [moreRoundsEnds, List.mem_singleton]
    constructor
    · rintro rfl
      exact ⟨0, (Reading.reaches_nothing e e).2 rfl⟩
    · rintro ⟨n, h⟩
      cases n with
      | zero => exact (Reading.reaches_nothing s e).1 h
      | succ n =>
        obtain ⟨m, hm, -⟩ := (Reading.reaches_chain _ _ s e).1 h
        have := (Reading.reaches_of_moving hm).moves.2 hm
        omega
  | succ bound ih =>
    rw [moreRoundsEnds, mem_preferEnds, List.mem_flatMap, List.mem_singleton]
    constructor
    · rintro (⟨m, hm, he⟩ | rfl)
      · split at he
        · next hlt =>
          obtain ⟨n, he⟩ := (ih m (by omega)).1 he
          exact ⟨n + 1, (Reading.reaches_chain _ _ s e).2
            ⟨m, ((hstep s m).1 hm).moves.1 hlt, he⟩⟩
        · cases he
      · exact ⟨0, (Reading.reaches_nothing e e).2 rfl⟩
    · rintro ⟨n, he⟩
      cases n with
      | zero => exact Or.inr ((Reading.reaches_nothing s e).1 he)
      | succ n =>
        obtain ⟨m, hm, he⟩ := (Reading.reaches_chain _ _ s e).1 he
        have hreach := Reading.reaches_of_moving hm
        have hlt := hreach.moves.2 hm
        refine Or.inl ⟨m, (hstep s m).2 hreach, ?_⟩
        rw [if_pos hlt]
        exact (ih m (by omega)).2 ⟨n, he⟩

theorem mem_someRoundsEnds (s e : Cursor) :
    e ∈ someRoundsEnds step greedy s ↔ Reaches R.many s e := by
  rw [someRoundsEnds, List.mem_flatMap, Reading.reaches_many]
  constructor
  · rintro ⟨m, hm, he⟩
    refine ⟨m, (hstep s m).1 hm, ?_⟩
    split at he
    · next hlt =>
      obtain ⟨n, he⟩ := (mem_moreRoundsEnds greedy hstep _ m e (Nat.le_refl _)).1 he
      exact ⟨n, he, Or.inl hlt⟩
    · exact ⟨0, (Reading.reaches_nothing m e).2 (List.mem_singleton.1 he), Or.inr rfl⟩
  · rintro ⟨m, hm, n, he, hn⟩
    refine ⟨m, (hstep s m).2 hm, ?_⟩
    split
    · exact (mem_moreRoundsEnds greedy hstep _ m e (Nat.le_refl _)).2 ⟨n, he⟩
    · next hlt =>
      obtain rfl := hn.resolve_left hlt
      exact List.mem_singleton.2 ((Reading.reaches_nothing m e).1 he)

theorem mem_repeatedEnds (least : Nat) (most : Option Nat) (s e : Cursor) :
    e ∈ repeatedEnds step greedy least most s ↔ Reaches (R.repeated least most) s e := by
  unfold repeatedEnds Reading.repeated
  split
  · next least m =>
    rw [List.mem_flatMap]
    simp only [mem_roundsEnds hstep, mem_roundsUpToEnds greedy hstep]
    constructor
    · rintro ⟨x, hx, n, hn, he⟩
      obtain ⟨w, cs, hrest, hw, hbefore, hcaptured⟩ :=
        (Reading.reaches_chain _ _ s e).2 ⟨x, hx, he⟩
      exact ⟨w, cs, hrest, ⟨n, hn, hw⟩, hbefore, hcaptured⟩
    · rintro ⟨w, cs, hrest, ⟨n, hn, hw⟩, hbefore, hcaptured⟩
      obtain ⟨x, hx, he⟩ := (Reading.reaches_chain _ _ s e).1 ⟨w, cs, hrest, hw, hbefore, hcaptured⟩
      exact ⟨x, hx, n, hn, he⟩
  · rw [mem_preferEnds, mem_someRoundsEnds greedy hstep, List.mem_singleton,
      ← Reading.reaches_nothing s e, Reading.reaches_either]
  · rw [List.mem_flatMap, Reading.reaches_chain]
    simp only [mem_roundsEnds hstep, mem_someRoundsEnds greedy hstep]

end Repetition

/-! ### Patterns -/

namespace Pattern

open Reading (Reaches)

/-- The reading of a pattern. -/
def Spells : Pattern → Reading
  | .empty => Reading.nothing
  | .char set => fun _ w _ cs => (∃ c, set.mem c = true ∧ w = [c]) ∧ cs = []
  | .anchor a => fun before w after cs => a.holds before after.head? = true ∧ w = [] ∧ cs = []
  | .capture name p => fun before w after cs =>
    ∃ cs', p.Spells before w after cs' ∧ cs = (name, w) :: cs'
  | .seq p q => Reading.chain p.Spells q.Spells
  | .alt p q => fun before w after cs => p.Spells before w after cs ∨ q.Spells before w after cs
  | .rep p least most _ => Reading.repeated p.Spells least most

theorem reaches_char (set : CharSet) (s e : Cursor) :
    Reaches (char set).Spells s e ↔ e ∈ (char set).ends s := by
  rw [ends]
  constructor
  · rintro ⟨w, cs, hrest, ⟨⟨c, hc, rfl⟩, rfl⟩, hbefore, hcaptured⟩
    rw [hrest]
    simp only [List.singleton_append, hc, if_true, List.mem_singleton]
    cases e
    simp only [lastChar, List.getLast?_singleton, Option.some_or, List.nil_append] at hbefore hcaptured
    rw [hbefore, hcaptured]
  · intro h
    cases hs : s.rest with
    | nil =>
      rw [hs] at h
      cases h
    | cons c rest =>
      rw [hs] at h
      simp only at h
      split at h
      · next hc =>
        obtain rfl := List.mem_singleton.1 h
        exact ⟨[c], [], hs, ⟨⟨c, hc, rfl⟩, rfl⟩, rfl, rfl⟩
      · cases h

theorem reaches_capture {R : Reading} (name : Text) (s e : Cursor) :
    Reaches (fun before w after cs => ∃ cs', R before w after cs' ∧ cs = (name, w) :: cs') s e ↔
      ∃ m, Reaches R s m ∧ Cursor.capture name s m = e := by
  constructor
  · rintro ⟨w, cs, hrest, ⟨cs', hw, rfl⟩, hbefore, hcaptured⟩
    refine ⟨⟨lastChar s.before w, e.rest, cs' ++ s.captured⟩, ⟨w, cs', hrest, hw, rfl, rfl⟩, ?_⟩
    cases e
    simp only at hrest hbefore hcaptured
    rw [Cursor.capture, hbefore, hcaptured, hrest]
    simp only [List.length_append, Nat.add_sub_cancel, List.take_left', List.cons_append]
  · rintro ⟨m, ⟨w, cs, hrest, hw, hbefore, hcaptured⟩, rfl⟩
    refine ⟨w, (name, w) :: cs, hrest, ⟨cs, hw, rfl⟩, hbefore, ?_⟩
    simp only [Cursor.capture, hrest, hcaptured, List.length_append, Nat.add_sub_cancel,
      List.take_left', List.cons_append]

/-- **The ends of a match are the places behind the texts that the pattern spells.** -/
theorem mem_ends_iff (p : Pattern) (s e : Cursor) : e ∈ p.ends s ↔ Reaches p.Spells s e := by
  induction p generalizing s e with
  | empty => rw [ends, List.mem_singleton, Spells, Reading.reaches_nothing]
  | char set => exact (reaches_char set s e).symm
  | anchor a =>
    rw [ends]
    constructor
    · intro h
      split at h
      · next ha =>
        obtain rfl := List.mem_singleton.1 h
        exact ⟨[], [], rfl, ⟨ha, rfl, rfl⟩, rfl, rfl⟩
      · cases h
    · rintro ⟨w, cs, hrest, ⟨ha, rfl, rfl⟩, hbefore, hcaptured⟩
      rw [← List.nil_append e.rest, ← hrest] at ha
      rw [if_pos ha, List.mem_singleton, ← Reading.reaches_nothing]
      exact ⟨[], [], hrest, ⟨rfl, rfl⟩, hbefore, hcaptured⟩
  | capture name p ih =>
    rw [ends, List.mem_map, Spells, reaches_capture]
    simp only [ih]
  | seq p q ihp ihq =>
    rw [ends, List.mem_flatMap, Spells, Reading.reaches_chain]
    simp only [ihp, ihq]
  | alt p q ihp ihq =>
    rw [ends, List.mem_append, ihp, ihq, Spells, Reading.reaches_either]
  | rep p least most greedy ih =>
    rw [ends]
    exact mem_repeatedEnds greedy ih least most s e

/-- A success is one behind something that the pattern spells. -/
theorem exists_spells_of_run {α : Type} {p : Pattern} {k : Cursor → Option α} {s : Cursor} {a : α}
    (h : p.run k s = some a) :
    ∃ w r cs, s.rest = w ++ r ∧ p.Spells s.before w r cs ∧
      k ⟨lastChar s.before w, r, cs ++ s.captured⟩ = some a := by
  obtain ⟨e, he, hk⟩ := run_eq_some h
  obtain ⟨w, cs, hrest, hw, hbefore, hcaptured⟩ := (mem_ends_iff _ _ _).1 he
  refine ⟨w, e.rest, cs, hrest, hw, ?_⟩
  rw [← hbefore, ← hcaptured]
  exact hk

/-- A match is something that the pattern spells. -/
theorem exists_spells_of_matchAt? {p : Pattern} {before : Option Char} {t : Text}
    {found : List (Text × Text)} (h : p.matchAt? before t = some found) :
    ∃ w r, t = w ++ r ∧ p.Spells before w r found := by
  obtain ⟨w, r, cs, hrest, hw, hcs⟩ := exists_spells_of_run h
  rw [Option.some_inj, List.append_nil] at hcs
  exact ⟨w, r, hrest, hcs ▸ hw⟩

/-! ### Repetitions of characters -/

/-- A run of characters of a set. -/
def isRun (set : CharSet) (w : Text) : Prop :=
  ∀ c ∈ w, set.mem c = true

theorem isRun_nil (set : CharSet) : isRun set [] :=
  fun _ hc => nomatch hc

theorem isRun_cons {set : CharSet} {c : Char} {w : Text} :
    isRun set (c :: w) ↔ set.mem c = true ∧ isRun set w :=
  List.forall_mem_cons

theorem isRun_append {set : CharSet} {u v : Text} :
    isRun set (u ++ v) ↔ isRun set u ∧ isRun set v :=
  List.forall_mem_append

theorem times_char (set : CharSet) (n : Nat) (before : Option Char) (w after : Text)
    (cs : List (Text × Text)) :
    Reading.times (Reading.moving (char set).Spells) n before w after cs ↔
      w.length = n ∧ isRun set w ∧ cs = [] := by
  induction n generalizing before w cs with
  | zero =>
    constructor
    · rintro ⟨rfl, rfl⟩
      exact ⟨rfl, isRun_nil set, rfl⟩
    · rintro ⟨hw, -, rfl⟩
      exact ⟨List.length_eq_zero_iff.1 hw, rfl⟩
  | succ n ih =>
    constructor
    · rintro ⟨u, v, cu, cv, rfl, rfl, ⟨-, ⟨c, hc, rfl⟩, rfl⟩, hv⟩
      obtain ⟨hlen, hrun, rfl⟩ := (ih _ _ _).1 hv
      exact ⟨by rw [← hlen]; rfl, isRun_cons.2 ⟨hc, hrun⟩, rfl⟩
    · rintro ⟨hlen, hrun, rfl⟩
      cases w with
      | nil => cases hlen
      | cons c w =>
        obtain ⟨hc, hrun⟩ := isRun_cons.1 hrun
        exact ⟨[c], w, [], [], rfl, rfl, ⟨List.cons_ne_nil c [], ⟨c, hc, rfl⟩, rfl⟩,
          (ih _ _ _).2 ⟨Nat.succ.inj hlen, hrun, rfl⟩⟩

theorem many_char (set : CharSet) (before : Option Char) (w after : Text)
    (cs : List (Text × Text)) :
    Reading.many (char set).Spells before w after cs ↔ w ≠ [] ∧ isRun set w ∧ cs = [] := by
  constructor
  · rintro ⟨u, v, cu, cv, rfl, rfl, ⟨⟨c, hc, rfl⟩, rfl⟩, n, hv, -⟩
    obtain ⟨-, hrun, rfl⟩ := (times_char set n _ _ _ _).1 hv
    exact ⟨List.cons_ne_nil c v, isRun_cons.2 ⟨hc, hrun⟩, rfl⟩
  · rintro ⟨hne, hrun, rfl⟩
    cases w with
    | nil => exact absurd rfl hne
    | cons c w =>
      obtain ⟨hc, hrun⟩ := isRun_cons.1 hrun
      exact ⟨[c], w, [], [], rfl, rfl, ⟨⟨c, hc, rfl⟩, rfl⟩, w.length,
        (times_char set _ _ _ _ _).2 ⟨rfl, hrun, rfl⟩, fun h => nomatch h⟩

/-- One or more characters of a set. -/
theorem spells_plus_iff (set : CharSet) (greedy : Bool) (before : Option Char) (w after : Text)
    (cs : List (Text × Text)) :
    (rep (char set) 1 none greedy).Spells before w after cs ↔ w ≠ [] ∧ isRun set w ∧ cs = [] := by
  constructor
  · rintro ⟨u, v, cu, cv, rfl, rfl, ⟨rfl, rfl⟩, hv⟩
    obtain ⟨hne, hrun, rfl⟩ := (many_char set _ _ _ _).1 hv
    exact ⟨hne, hrun, rfl⟩
  · rintro ⟨hne, hrun, rfl⟩
    exact ⟨[], w, [], [], rfl, rfl, ⟨rfl, rfl⟩, (many_char set _ _ _ _).2 ⟨hne, hrun, rfl⟩⟩

/-- Any number of characters of a set. -/
theorem spells_star_iff (set : CharSet) (greedy : Bool) (before : Option Char) (w after : Text)
    (cs : List (Text × Text)) :
    (rep (char set) 0 none greedy).Spells before w after cs ↔ isRun set w ∧ cs = [] := by
  constructor
  · rintro (hmany | ⟨rfl, rfl⟩)
    · exact ((many_char set _ _ _ _).1 hmany).2
    · exact ⟨isRun_nil set, rfl⟩
  · rintro ⟨hrun, rfl⟩
    by_cases hw : w = []
    · exact Or.inr ⟨hw, rfl⟩
    · exact Or.inl ((many_char set _ _ _ _).2 ⟨hw, hrun, rfl⟩)

/-- A part that may be missing. -/
theorem spells_option_iff (p : Pattern) (greedy : Bool) (before : Option Char) (w after : Text)
    (cs : List (Text × Text)) :
    (rep p 0 (some 1) greedy).Spells before w after cs ↔
      p.Spells before w after cs ∨ w = [] ∧ cs = [] := by
  constructor
  · rintro ⟨n, hn, u, v, cu, cv, rfl, rfl, ⟨rfl, rfl⟩, hv⟩
    rw [List.append_nil]
    match n, hn with
    | 0, _ => exact Or.inr hv
    | 1, _ =>
      obtain ⟨x, y, cx, cy, rfl, rfl, hx, rfl, rfl⟩ := hv
      rw [List.nil_append] at hx
      rw [List.append_nil]
      exact Or.inl hx
  · rintro (hp | ⟨rfl, rfl⟩)
    · exact ⟨1, Nat.le_refl 1, [], w, [], cs, rfl, (List.append_nil cs).symm, ⟨rfl, rfl⟩, w, [], cs,
        [], (List.append_nil w).symm, rfl, hp, rfl, rfl⟩
    · exact ⟨0, Nat.zero_le 1, [], [], [], [], rfl, rfl, ⟨rfl, rfl⟩, rfl, rfl⟩

end Pattern

end ReviewRouter
