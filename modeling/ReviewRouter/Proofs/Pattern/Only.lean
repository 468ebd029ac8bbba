import ReviewRouter.Proofs.Pattern.Row

/-!
# Rows that read a text in one way

A row that reads the whole of a text, and in one way only, captures just that.  Such readings are put
together from the left: a part in front is added if it can end at one place only.

* `ReadsOnly` — the row reads the whole text, with these captures and no others;
* `matchAt?_of_readsOnly` — **these are the captures of the match**;
* `readsOnly_lit`, `readsOnly_capture`, `readsOnly_skip` — characters, a capture and a missing part
  in front;
* `Bare` — a part that may be a text and captures nothing itself, as runs of characters do;
* `IsEnd`, `readsOnly_end` — the end of a path, perhaps behind a slash;
* `readsOnly_capture_word`, `readsOnly_capture_end` — a capture that the last word or the end of the
  path follows;
* `afterComma?`, `exists_of_reads_afterComma` — what a row fixes behind a comma is in what it reads.
-/

namespace ReviewRouter.Pattern

/-- The row reads the whole text, with these captures and no others. -/
structure ReadsOnly (ps : List Pattern) (t : Text) (cs : List (Text × Text)) : Prop where
  reads : ∀ before, Reads ps before t [] cs
  only : ∀ before w r cs', t = w ++ r → Reads ps before w r cs' → cs' = cs

section Only

variable {ps : List Pattern} {t u v : Text} {cs : List (Text × Text)}

/-- **These are the captures of the match.** -/
theorem matchAt?_of_readsOnly (h : ReadsOnly ps t cs) (before : Option Char) :
    (row ps).matchAt? before t = some cs := by
  have hrun : (row ps).run (fun e => some e.captured) ⟨before, t ++ [], []⟩ = some (cs ++ []) := by
    refine run_row_of_unique (h.reads before) ?_
    rw [List.append_nil]
    exact h.only before
  rwa [List.append_nil, List.append_nil] at hrun

/-- Characters in front stand for themselves. -/
theorem readsOnly_lit (q : Text) (h : ReadsOnly ps t cs) : ReadsOnly (lit q ++ ps) (q ++ t) cs where
  reads before := reads_lit.2 ⟨t, rfl, h.reads _⟩
  only before w r cs' heq hw := by
    obtain ⟨v, rfl, hv⟩ := reads_lit.1 hw
    rw [List.append_assoc] at heq
    exact h.only _ v r cs' (List.append_cancel_left heq) hv

/-- The part may be the text, wherever it stands, and captures nothing itself. -/
structure Bare (p : Pattern) (u : Text) : Prop where
  spells : ∀ before after, p.Spells before u after []
  captures_eq_nil : ∀ {before w after cs}, p.Spells before w after cs → cs = []

theorem bare_plus {set : CharSet} (hne : u ≠ []) (hrun : isRun set u) : Bare (plus set) u where
  spells _ _ := (spells_plus_iff set true _ _ _ _).2 ⟨hne, hrun, rfl⟩
  captures_eq_nil h := ((spells_plus_iff set true _ _ _ _).1 h).2.2

theorem bare_reps {set : CharSet} (hrun : isRun set u) : Bare (reps set) u where
  spells _ _ := (spells_star_iff set true _ _ _ _).2 ⟨hrun, rfl⟩
  captures_eq_nil h := ((spells_star_iff set true _ _ _ _).1 h).2

/-- A capture in front that can end at one place only. -/
theorem readsOnly_capture {name : Text} {p : Pattern} (hu : Bare p u) (hv : ReadsOnly ps v cs)
    (hcut : ∀ before w x r cw cs', u ++ v = w ++ (x ++ r) → p.Spells before w (x ++ r) cw →
      Reads ps (lastChar before w) x r cs' → w = u) :
    ReadsOnly (.capture name p :: ps) (u ++ v) (cs ++ [(name, u)]) where
  reads before := reads_capture.2 ⟨u, v, [], cs, rfl, rfl, hu.spells _ _, hv.reads _⟩
  only before w r cs' heq hw := by
    obtain ⟨w, x, cw, cx, rfl, rfl, hw, hx⟩ := reads_capture.1 hw
    rw [List.append_assoc] at heq
    obtain rfl := hcut _ _ _ _ _ _ heq hw hx
    rw [hu.captures_eq_nil hw, hv.only _ x r cx (List.append_cancel_left heq) hx]

/-- A part in front that is not there, for the text does not begin with it. -/
theorem readsOnly_skip {p : Pattern} (h : ReadsOnly ps t cs)
    (hskip : ∀ before w r cw, t = w ++ r → ¬p.Spells before w r cw) :
    ReadsOnly (maybe p :: ps) t cs where
  reads before := reads_maybe.2 (Or.inr (h.reads before))
  only before w r cs' heq hw := by
    rcases reads_maybe.1 hw with ⟨x, y, cx, cy, rfl, rfl, hx, hy⟩ | hw
    · rw [List.append_assoc] at heq
      exact absurd hx (hskip _ _ _ _ heq)
    · exact h.only before w r cs' heq hw

end Only

/-! ### Ends of paths -/

/-- The end of a path, perhaps behind a slash. -/
structure IsEnd (ps : List Pattern) : Prop where
  reads : ∀ before, Reads ps before [] [] []
  end_of_reads : ∀ {before w r cs}, Reads ps before w r cs →
    (w = [] ∨ w = ['/']) ∧ r = [] ∧ cs = []

theorem isEnd_stop : IsEnd [stop] where
  reads _ := reads_stop.2 ⟨rfl, rfl, rfl⟩
  end_of_reads h := by
    obtain ⟨hw, hr, hcs⟩ := reads_stop.1 h
    exact ⟨Or.inl hw, hr, hcs⟩

theorem isEnd_slash : IsEnd [maybe (.char (.one '/')), stop] where
  reads _ := reads_maybe_char.2 (Or.inr (reads_stop.2 ⟨rfl, rfl, rfl⟩))
  end_of_reads h := by
    rcases reads_maybe_char.1 h with ⟨v, rfl, hv⟩ | hv
    · obtain ⟨rfl, hr, hcs⟩ := reads_stop.1 hv
      exact ⟨Or.inr rfl, hr, hcs⟩
    · exact isEnd_stop.end_of_reads hv

theorem readsOnly_end {ps : List Pattern} (h : IsEnd ps) : ReadsOnly ps [] [] where
  reads := h.reads
  only _ _ _ _ _ hw := (h.end_of_reads hw).2.2

/-- A capture ends where the last word of a path begins. -/
theorem readsOnly_capture_word {name u : Text} {p : Pattern} (hu : Bare p u) (q : Text) :
    ReadsOnly (.capture name p :: (lit q ++ [stop])) (u ++ q) [(name, u)] := by
  have hq : ReadsOnly (lit q ++ [stop]) (q ++ []) [] := readsOnly_lit q (readsOnly_end isEnd_stop)
  rw [List.append_nil] at hq
  refine readsOnly_capture hu hq ?_
  intro before w x r cw cs heq _ hx
  obtain ⟨y, rfl, hy⟩ := reads_lit.1 hx
  obtain ⟨rfl, rfl, -⟩ := reads_stop.1 hy
  rw [List.append_nil, List.append_nil] at heq
  exact (List.append_cancel_right heq).symm

/-- A capture without slashes ends with the path. -/
theorem readsOnly_capture_end {ps : List Pattern} (h : IsEnd ps) {name u : Text} {p : Pattern}
    (hu : Bare p u) (hslash : '/' ∉ u) : ReadsOnly (.capture name p :: ps) (u ++ []) [(name, u)] := by
  refine readsOnly_capture hu (readsOnly_end h) ?_
  intro before w x r cw cs heq _ hx
  obtain ⟨hend, rfl, -⟩ := h.end_of_reads hx
  rw [List.append_nil, List.append_nil] at heq
  rcases hend with rfl | rfl
  · rw [heq, List.append_nil]
  · rw [heq] at hslash
    exact absurd (List.mem_append_right w List.mem_cons_self) hslash

/-! ### Commas -/

/-- The character that a row fixes behind its first fixed comma. -/
def afterComma? : List Pattern → Option Char
  | .char (.one ',') :: .char (.one c) :: _ => some c
  | _ :: ps => afterComma? ps
  | [] => none

/-- What a row fixes behind a comma is in what it reads. -/
theorem exists_of_reads_afterComma {ps : List Pattern} {c : Char} :
    ∀ {before : Option Char} {w after : Text} {cs : List (Text × Text)}, Reads ps before w after cs →
      afterComma? ps = some c → ∃ a b, w = a ++ ',' :: c :: b := by
  fun_induction afterComma? ps with
  | case1 d ps =>
    intro before w after cs h hc
    obtain rfl : d = c := Option.some_inj.1 hc
    obtain ⟨v, rfl, hv⟩ := reads_char.1 h
    obtain ⟨x, rfl, -⟩ := reads_char.1 hv
    exact ⟨[], x, rfl⟩
  | case2 p ps hne ih =>
    rintro before w after cs ⟨u, v, cu, cv, rfl, rfl, -, hv⟩ hc
    obtain ⟨a, b, rfl⟩ := ih hv hc
    exact ⟨u ++ a, b, (List.append_assoc u a _).symm⟩
  | case3 =>
    intro before w after cs _ hc
    cases hc

end ReviewRouter.Pattern
