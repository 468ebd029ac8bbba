import ReviewRouter.Proofs.Route.Shape

/-!
# The first route that matches

The routes are tried in order, so a path belongs to a route if that one matches and no earlier one
does.  Most of the earlier ones are out of the question as soon as the first characters of the path
are known.

* `Pattern.mayOpen` — whether a row may read a text with a known beginning;
* `Route.mayOpen_of_match?` — **a route that matches may open with what the path begins with**;
* `Route.before` — the routes that are tried before a given one;
* `match?_standard_eq`, `exists_of_match?_standard` — the first route that matches, both ways;
* `match?_standard_eq_none` — a path without a route.
-/

namespace ReviewRouter

open Pattern

/-! ### Known beginnings -/

/-- Whether a row may read a text that begins with the given characters; only a `false` is
certain. -/
def Pattern.mayOpen : List Pattern → Text → Bool
  | .char set :: ps, c :: q => set.mem c && mayOpen ps q
  | .capture _ (.rep (.char set) 1 none _) :: _, c :: _ => set.mem c
  | .anchor .textEnd :: _, _ :: _ => false
  | _, _ => true

theorem Pattern.mayOpen_of_reads {ps : List Pattern} {q : Text} :
    ∀ {before : Option Char} {w r t : Text} {cs : List (Text × Text)},
      Reads ps before w r cs → w ++ r = q ++ t → mayOpen ps q = true := by
  fun_induction mayOpen ps q with
  | case1 set ps c q ih =>
    rintro before w r t cs ⟨u, v, cu, cv, rfl, rfl, ⟨⟨d, hd, rfl⟩, rfl⟩, hv⟩ heq
    rw [List.append_assoc] at heq
    obtain ⟨rfl, htail⟩ := List.cons.inj heq
    rw [hd, ih hv htail]
    rfl
  | case2 name set greedy ps c q =>
    rintro before w r t cs ⟨u, v, cu, cv, rfl, rfl, ⟨cu', hu, rfl⟩, hv⟩ heq
    obtain ⟨hne, hrun, -⟩ := (spells_plus_iff set greedy _ _ _ _).1 hu
    cases u with
    | nil => exact absurd rfl hne
    | cons d u =>
      obtain ⟨rfl, -⟩ := List.cons.inj heq
      exact (isRun_cons.1 hrun).1
  | case3 ps c q =>
    rintro before w r t cs ⟨u, v, cu, cv, rfl, rfl, ⟨hend, rfl, rfl⟩, hv⟩ heq
    rw [List.nil_append] at heq
    rw [heq] at hend
    cases hend
  | case4 => exact fun _ _ => rfl

namespace Route

/-- A route does not match if its parts read no beginning of the path. -/
theorem match?_eq_none {r : Route} {path : Text}
    (h : ∀ w rest cs, path = w ++ rest → Reads r.shape none w rest cs → False) :
    r.match? path = none :=
  run_row_eq_none h

/-- Whether a route may match a path that begins with the given characters. -/
def mayOpen (q : Text) (r : Route) : Bool :=
  Pattern.mayOpen r.shape q

/-- **A route that matches may open with what the path begins with.** -/
theorem mayOpen_of_match? {r : Route} {q t : Text} {found : List (Text × Text)}
    (h : r.match? (q ++ t) = some found) : r.mayOpen q = true := by
  obtain ⟨w, rest, hpath, hreads⟩ := exists_reads_of_matchAt? h
  exact mayOpen_of_reads hreads hpath.symm

theorem match?_eq_none_of_not_mayOpen {r : Route} {q : Text} (h : r.mayOpen q = false) (t : Text) :
    r.match? (q ++ t) = none := by
  cases hm : r.match? (q ++ t) with
  | none => rfl
  | some found =>
    rw [mayOpen_of_match? hm] at h
    cases h

/-- A route whose fixed beginning is not that of the path does not match. -/
theorem match?_eq_none_of_lit {r : Route} {q path : Text} {ps : List Pattern} (hshape : r.shape = lit q ++ ps)
    (hq : ¬q <+: path) : r.match? path = none := by
  refine match?_eq_none fun w rest cs hpath hreads => ?_
  rw [hshape] at hreads
  obtain ⟨x, rfl, -⟩ := reads_lit.1 hreads
  rw [List.append_assoc] at hpath
  exact hq ⟨_, hpath.symm⟩

/-- Nor does one with that beginning whose other parts cannot read on. -/
theorem match?_append_eq_none {r : Route} {q t : Text} {ps : List Pattern} (hshape : r.shape = lit q ++ ps)
    (hps : ∀ before w x cs, t = w ++ x → ¬Reads ps before w x cs) : r.match? (q ++ t) = none := by
  refine match?_eq_none fun w rest cs hpath hreads => ?_
  rw [hshape] at hreads
  obtain ⟨x, rfl, hx⟩ := reads_lit.1 hreads
  rw [List.append_assoc] at hpath
  exact hps _ _ _ _ (List.append_cancel_left hpath) hx

/-! ### The order of trial -/

/-- The routes that are tried before a given one. -/
def before (r : Route) : List Route :=
  all.takeWhile (· != r)

theorem mem_all (r : Route) : r ∈ all := by
  cases r <;> decide

/-- The routes that are tried after a given one. -/
def after (r : Route) : List Route :=
  (all.dropWhile (· != r)).tail

theorem all_eq (r : Route) : all = before r ++ r :: after r := by
  cases r <;> rfl

theorem filter_takeWhile_ne {p : Route → Bool} {r : Route} (hr : p r = true) (l : List Route) :
    (l.takeWhile (· != r)).filter p = (l.filter p).takeWhile (· != r) := by
  induction l with
  | nil => rfl
  | cons a l ih =>
    by_cases ha : a = r
    · subst ha
      rw [List.takeWhile_cons_of_neg (by simp), List.filter_cons_of_pos hr,
        List.takeWhile_cons_of_neg (by simp), List.filter_nil]
    · rw [List.takeWhile_cons_of_pos (by simp [ha])]
      cases hp : p a with
      | true =>
        rw [List.filter_cons_of_pos hp, List.filter_cons_of_pos hp,
          List.takeWhile_cons_of_pos (by simp [ha]), ih]
      | false =>
        rw [List.filter_cons_of_neg (by simp [hp]), List.filter_cons_of_neg (by simp [hp]), ih]

/-- Some of the routes before one of them. -/
theorem filter_before {p : Route → Bool} (r : Route) (hr : p r = true) :
    r.before.filter p = (all.filter p).takeWhile (· != r) :=
  filter_takeWhile_ne hr all

/-- A path is routed to a route that matches if no earlier one does. -/
theorem match?_standard_eq {r : Route} {path : Text} {found : List (Text × Text)}
    (hr : r.match? path = some found) (hbefore : ∀ r' ∈ before r, r'.match? path = none) :
    RouteTable.match? (all.map entry) path = some (r.entry, r.captured found) := by
  rw [RouteTable.match?, List.findSome?_map, r.all_eq, List.findSome?_append, List.findSome?_cons]
  have hnone : (before r).findSome? ((fun e => (e.pattern.captures? path).map fun c => (e, c)) ∘
      entry) = none := by
    rw [List.findSome?_eq_none_iff]
    intro r' hr'
    rw [Function.comp_apply, captures?_eq, hbefore r' hr']
    rfl
  rw [hnone, Function.comp_apply, captures?_eq, hr]
  rfl

/-- The route that a path is routed to matches. -/
theorem exists_of_match?_standard {path : Text} {e : RouteEntry} {c : Captures}
    (h : RouteTable.match? (all.map entry) path = some (e, c)) :
    ∃ r found, e = r.entry ∧ c = r.captured found ∧ r.match? path = some found ∧
      ∀ r' ∈ before r, r'.match? path = none := by
  rw [RouteTable.match?, List.findSome?_map] at h
  obtain ⟨l₁, r, l₂, hall, hr, hl₁⟩ := List.findSome?_eq_some_iff.1 h
  rw [Function.comp_apply, captures?_eq] at hr
  cases hm : r.match? path with
  | none =>
    rw [hm] at hr
    cases hr
  | some found =>
    rw [hm] at hr
    cases hr
    refine ⟨r, found, rfl, rfl, hm, ?_⟩
    intro r' hr'
    have hmem : r' ∈ l₁ := by
      rw [before, hall, List.takeWhile_append] at hr'
      split at hr'
      · rw [List.takeWhile_cons_of_neg (by simp), List.append_nil] at hr'
        exact hr'
      · exact (List.takeWhile_sublist _).subset hr'
    have hnone := hl₁ r' hmem
    rw [Function.comp_apply, captures?_eq, Option.map_eq_none_iff, Option.map_eq_none_iff] at hnone
    exact hnone

/-- A path without a route is matched by none. -/
theorem match?_standard_eq_none {path : Text}
    (h : RouteTable.match? (all.map entry) path = none) (r : Route) : r.match? path = none := by
  rw [RouteTable.match?, List.findSome?_map, List.findSome?_eq_none_iff] at h
  have hr := h r r.mem_all
  rw [Function.comp_apply, captures?_eq, Option.map_eq_none_iff, Option.map_eq_none_iff] at hr
  exact hr

end Route

end ReviewRouter
