import ReviewRouter.Pattern.Matching

/-!
# The ends of a match, in order

The ordered search tries the places where a pattern can end, the preferred one first.  Here these
places are a list of their own, apart from what is done with them.

* `Pattern.ends` — the places where a pattern can end, in order of preference;
* `Pattern.run_eq_findSome?` — **the search is the first success along this list**;
* `Pattern.run_eq_some`, `Pattern.run_ne_none` — a success comes from one of the places, and a
  place that succeeds leads to a success;
* `Pattern.run_of_unique` — if all successes agree, the search has their answer.
-/

namespace ReviewRouter

/-! ### Repetition -/

section Repetition

variable {α : Type}

/-- Both lists, the preferred one first. -/
def preferEnds (greedy : Bool) (more stop : List Cursor) : List Cursor :=
  if greedy then more ++ stop else stop ++ more

variable (step : Cursor → List Cursor) (greedy : Bool)

/-- The ends of exactly `n` rounds. -/
def roundsEnds : Nat → Cursor → List Cursor
  | 0, s => [s]
  | n + 1, s => (step s).flatMap (roundsEnds n)

/-- The ends of at most `n` rounds. -/
def roundsUpToEnds : Nat → Cursor → List Cursor
  | 0, s => [s]
  | n + 1, s => preferEnds greedy ((step s).flatMap (roundsUpToEnds n)) [s]

/-- The ends of further rounds, each of which moves on. -/
def moreRoundsEnds : Nat → Cursor → List Cursor
  | 0, s => [s]
  | bound + 1, s =>
    preferEnds greedy
      ((step s).flatMap fun e => if e.rest.length < s.rest.length then moreRoundsEnds bound e else [])
      [s]

/-- The ends of a first round and further rounds. -/
def someRoundsEnds (s : Cursor) : List Cursor :=
  (step s).flatMap fun e =>
    if e.rest.length < s.rest.length then moreRoundsEnds step greedy e.rest.length e else [e]

/-- The ends of `least` to `most` rounds. -/
def repeatedEnds (least : Nat) (most : Option Nat) (s : Cursor) : List Cursor :=
  match least, most with
  | _, some m => (roundsEnds step least s).flatMap (roundsUpToEnds step greedy (m - least))
  | 0, none => preferEnds greedy (someRoundsEnds step greedy s) [s]
  | n + 1, none => (roundsEnds step n s).flatMap (someRoundsEnds step greedy)

theorem findSome?_flatMap (l : List Cursor) (f : Cursor → List Cursor) (k : Cursor → Option α) :
    (l.flatMap f).findSome? k = l.findSome? fun e => (f e).findSome? k := by
  induction l with
  | nil => rfl
  | cons e l ih =>
    rw [List.flatMap_cons, List.findSome?_append, ih, List.findSome?_cons]
    cases (f e).findSome? k <;> rfl

theorem findSome?_singleton (s : Cursor) (k : Cursor → Option α) : [s].findSome? k = k s := by
  rw [List.findSome?_cons, List.findSome?_nil]
  cases k s <;> rfl

theorem findSome?_preferEnds (more stop : List Cursor) (k : Cursor → Option α) (s : Cursor) :
    (preferEnds greedy more stop).findSome? k =
      prefer greedy (fun _ => more.findSome? k) (fun _ => stop.findSome? k) s := by
  unfold preferEnds prefer
  cases greedy
  · rw [if_neg (by decide), if_neg (by decide), List.findSome?_append]
    cases stop.findSome? k <;> rfl
  · rw [if_pos rfl, if_pos rfl, List.findSome?_append]
    cases more.findSome? k <;> rfl

variable {run : (Cursor → Option α) → Cursor → Option α}
  (hrun : ∀ k s, run k s = (step s).findSome? k)

include hrun

theorem rounds_eq_findSome? (n : Nat) (k : Cursor → Option α) (s : Cursor) :
    rounds run n k s = (roundsEnds step n s).findSome? k := by
  induction n generalizing s with
  | zero => rw [rounds, roundsEnds, findSome?_singleton]
  | succ n ih =>
    rw [rounds, hrun, roundsEnds, findSome?_flatMap]
    exact congrArg (fun f => (step s).findSome? f) (funext ih)

theorem roundsUpTo_eq_findSome? (n : Nat) (k : Cursor → Option α) (s : Cursor) :
    roundsUpTo run greedy n k s = (roundsUpToEnds step greedy n s).findSome? k := by
  induction n generalizing s with
  | zero => rw [roundsUpTo, roundsUpToEnds, findSome?_singleton]
  | succ n ih =>
    rw [roundsUpTo, roundsUpToEnds, findSome?_preferEnds greedy _ _ k s, findSome?_flatMap]
    simp only [prefer, hrun, findSome?_singleton, ← ih]

theorem moreRounds_eq_findSome? (bound : Nat) (k : Cursor → Option α) (s : Cursor) :
    moreRounds run greedy bound k s = (moreRoundsEnds step greedy bound s).findSome? k := by
  induction bound generalizing s with
  | zero => rw [moreRounds, moreRoundsEnds, findSome?_singleton]
  | succ bound ih =>
    have hguard : ∀ e : Cursor,
        (if e.rest.length < s.rest.length then moreRounds run greedy bound k e else none) =
          (if e.rest.length < s.rest.length then moreRoundsEnds step greedy bound e
            else []).findSome? k := by
      intro e
      split
      · exact ih e
      · rfl
    rw [moreRounds, moreRoundsEnds, findSome?_preferEnds greedy _ _ k s, findSome?_flatMap]
    simp only [prefer, hrun, findSome?_singleton, hguard]

theorem someRounds_eq_findSome? (k : Cursor → Option α) (s : Cursor) :
    someRounds run greedy k s = (someRoundsEnds step greedy s).findSome? k := by
  have hguard : ∀ e : Cursor,
      (if e.rest.length < s.rest.length then moreRounds run greedy e.rest.length k e else k e) =
        (if e.rest.length < s.rest.length then moreRoundsEnds step greedy e.rest.length e
          else [e]).findSome? k := by
    intro e
    split
    · exact moreRounds_eq_findSome? step greedy hrun _ k e
    · exact (findSome?_singleton e k).symm
  rw [someRounds, someRoundsEnds, findSome?_flatMap, hrun]
  exact congrArg (fun f => (step s).findSome? f) (funext hguard)

theorem repeated_eq_findSome? (least : Nat) (most : Option Nat) (k : Cursor → Option α)
    (s : Cursor) :
    repeated run greedy least most k s = (repeatedEnds step greedy least most s).findSome? k := by
  have hsome : someRounds run greedy k = fun s => (someRoundsEnds step greedy s).findSome? k :=
    funext (someRounds_eq_findSome? step greedy hrun k)
  have hupTo : ∀ n, roundsUpTo run greedy n k =
      fun s => (roundsUpToEnds step greedy n s).findSome? k :=
    fun n => funext (roundsUpTo_eq_findSome? step greedy hrun n k)
  unfold repeated repeatedEnds
  split
  · rw [rounds_eq_findSome? step hrun, findSome?_flatMap, hupTo]
  · rw [findSome?_preferEnds greedy _ _ k s]
    simp only [prefer, hsome, findSome?_singleton]
  · rw [rounds_eq_findSome? step hrun, findSome?_flatMap, hsome]

end Repetition

/-! ### Patterns -/

namespace Pattern

/-- The places where a pattern can end, in order of preference. -/
def ends : Pattern → Cursor → List Cursor
  | .empty, s => [s]
  | .char set, s =>
    match s.rest with
    | c :: rest => if set.mem c then [{ s with before := some c, rest := rest }] else []
    | [] => []
  | .anchor a, s => if a.holds s.before s.rest.head? then [s] else []
  | .capture name p, s => (p.ends s).map (Cursor.capture name s)
  | .seq p q, s => (p.ends s).flatMap q.ends
  | .alt p q, s => p.ends s ++ q.ends s
  | .rep p least most greedy, s => repeatedEnds p.ends greedy least most s

variable {α : Type}

/-- **The search is the first success along the list of ends.** -/
theorem run_eq_findSome? (p : Pattern) (k : Cursor → Option α) (s : Cursor) :
    p.run k s = (p.ends s).findSome? k := by
  induction p generalizing k s with
  | empty => rw [run, ends, findSome?_singleton]
  | char set =>
    rw [run, ends]
    cases s.rest with
    | nil => rfl
    | cons c rest =>
      by_cases hc : set.mem c = true
      · simp only [hc, if_true, findSome?_singleton]
      · simp only [hc, if_false, Bool.false_eq_true]
        rfl
  | anchor a =>
    rw [run, ends]
    split
    · rw [findSome?_singleton]
    · rfl
  | capture name p ih =>
    rw [run, ends, ih, List.findSome?_map]
    rfl
  | seq p q ihp ihq =>
    rw [run, ends, ihp, findSome?_flatMap]
    exact congrArg (fun f => (p.ends s).findSome? f) (funext fun e => ihq k e)
  | alt p q ihp ihq =>
    rw [run, ends, ihp, ihq, List.findSome?_append]
    cases (p.ends s).findSome? k <;> rfl
  | rep p least most greedy ih =>
    rw [run, ends]
    exact repeated_eq_findSome? p.ends greedy ih least most k s

/-- A success comes from one of the ends. -/
theorem run_eq_some {p : Pattern} {k : Cursor → Option α} {s : Cursor} {a : α}
    (h : p.run k s = some a) : ∃ e ∈ p.ends s, k e = some a := by
  rw [run_eq_findSome?] at h
  obtain ⟨l, e, l', hl, he, -⟩ := List.findSome?_eq_some_iff.1 h
  exact ⟨e, hl ▸ List.mem_append_right l List.mem_cons_self, he⟩

theorem run_eq_none_iff {p : Pattern} {k : Cursor → Option α} {s : Cursor} :
    p.run k s = none ↔ ∀ e ∈ p.ends s, k e = none := by
  rw [run_eq_findSome?, List.findSome?_eq_none_iff]

/-- An end that succeeds leads to a success. -/
theorem run_ne_none {p : Pattern} {k : Cursor → Option α} {s e : Cursor} (he : e ∈ p.ends s)
    (hk : k e ≠ none) : p.run k s ≠ none := by
  intro h
  exact hk (run_eq_none_iff.1 h e he)

/-- If all successes agree, the search has their answer. -/
theorem run_of_unique {p : Pattern} {k : Cursor → Option α} {s e : Cursor} {a : α}
    (he : e ∈ p.ends s) (hk : k e = some a)
    (hunique : ∀ e' ∈ p.ends s, ∀ a', k e' = some a' → a' = a) : p.run k s = some a := by
  cases h : p.run k s with
  | none => exact absurd h (run_ne_none he (by rw [hk]; exact Option.some_ne_none a))
  | some a' =>
    obtain ⟨e', he', hk'⟩ := run_eq_some h
    rw [hunique e' he' a' hk']

end Pattern

end ReviewRouter
