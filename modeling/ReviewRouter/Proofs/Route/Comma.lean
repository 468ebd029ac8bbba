import ReviewRouter.Proofs.Navigation
import ReviewRouter.Proofs.Pattern.Only
import ReviewRouter.Proofs.Pattern.Parts

/-!
# Commas in paths

The pages of the administration are told apart by what stands behind a comma: a word or a number.
Names from outside hold no comma once they are escaped, so a path shows its commas in known places.

* `cut_cases`, `cut_eq` — two cuts at the same character;
* `CommasLeadTo` — what stands behind the commas of a text;
* `Route.match?_eq_none_of_commas` — a route that fixes something else behind a comma does not match;
* `Route.match?_eq_none_of_not_mayHold` — nor does one whose parts have no comma, up to the end;
* `Route.takes_of_commas` — **of the earlier routes only those count that may open with what the path
  begins with and fix behind a comma what the path has there**.
-/

namespace ReviewRouter

open Pattern

/-- A text that is cut at a character which the first part does not hold: another cut is the same one,
or it lies further back. -/
theorem cut_cases {c : Char} {u w x y : Text} (hu : c ∉ u) (h : u ++ c :: x = w ++ c :: y) :
    (w = u ∧ y = x) ∨ ∃ z, w = u ++ c :: z ∧ x = z ++ c :: y := by
  rcases List.append_eq_append_iff.1 h with ⟨m, rfl, hm⟩ | ⟨m, rfl, hm⟩
  · cases m with
    | nil => exact Or.inl ⟨List.append_nil u, (List.cons.inj hm).2.symm⟩
    | cons d m =>
      obtain ⟨rfl, hx⟩ := List.cons.inj hm
      exact Or.inr ⟨m, rfl, hx⟩
  · cases m with
    | nil => exact Or.inl ⟨(List.append_nil w).symm, (List.cons.inj hm).2⟩
    | cons d m =>
      obtain ⟨rfl, -⟩ := List.cons.inj hm
      exact absurd (List.mem_append_right w List.mem_cons_self) hu

theorem cut_eq {c : Char} {u w x y : Text} (hu : c ∉ u) (hw : c ∉ w)
    (h : u ++ c :: x = w ++ c :: y) : w = u ∧ y = x := by
  rcases cut_cases hu h with heq | ⟨z, rfl, -⟩
  · exact heq
  · exact absurd (List.mem_append_right u List.mem_cons_self) hw

/-- What stands behind the commas of a text. -/
def CommasLeadTo (s : Char → Bool) (t : Text) : Prop :=
  ∀ a c b, t = a ++ ',' :: c :: b → s c = true

section Commas

variable {s : Char → Bool} {t : Text}

theorem commasLeadTo_of_not_mem (h : ',' ∉ t) : CommasLeadTo s t := by
  rintro a c b rfl
  exact absurd (List.mem_append_right a List.mem_cons_self) h

/-- A text without a comma in front adds none. -/
theorem CommasLeadTo.append_left {q : Text} (hq : ',' ∉ q) (ht : CommasLeadTo s t) :
    CommasLeadTo s (q ++ t) := by
  intro a c b heq
  rcases List.append_eq_append_iff.1 heq with ⟨a', -, htail⟩ | ⟨a', hq', htail⟩
  · exact ht a' c b htail
  · cases a' with
    | nil => exact ht [] c b htail.symm
    | cons d a' =>
      obtain ⟨rfl, -⟩ := List.cons.inj htail
      exact absurd (hq' ▸ List.mem_append_right a List.mem_cons_self) hq

theorem CommasLeadTo.comma {c : Char} (hc : s c = true) (ht : CommasLeadTo s (c :: t)) :
    CommasLeadTo s (',' :: c :: t) := by
  intro a d b heq
  cases a with
  | nil =>
    obtain ⟨rfl, -⟩ := List.cons.inj (List.cons.inj heq).2
    exact hc
  | cons e a => exact ht a d b (List.cons.inj heq).2

end Commas

namespace Route

variable {q t : Text} {s : Char → Bool}

/-- A route that fixes something else behind a comma does not match. -/
theorem match?_eq_none_of_commas {r : Route} {path : Text} (hpath : CommasLeadTo s path)
    (hr : (afterComma? r.shape).all s = false) : r.match? path = none := by
  refine match?_eq_none fun w rest cs heq hreads => ?_
  subst heq
  cases hcomma : afterComma? r.shape with
  | none =>
    rw [hcomma] at hr
    cases hr
  | some c =>
    obtain ⟨a, b, rfl⟩ := exists_of_reads_afterComma hreads hcomma
    have hc := hpath a c (b ++ rest) (by rw [List.append_assoc]; rfl)
    rw [hcomma, Option.all_some, hc] at hr
    cases hr

/-- The routes before a given one that may match a path with this beginning and these commas. -/
def rivals (q : Text) (s : Char → Bool) (r : Route) : List Route :=
  r.before.filter fun r' => r'.mayOpen q && (afterComma? r'.shape).all s

/-- Of the earlier routes no other one matches. -/
theorem match?_before_of_commas {r : Route} (hcommas : CommasLeadTo s (q ++ t))
    (hrivals : ∀ r' ∈ r.rivals q s, r'.match? (q ++ t) = none) :
    ∀ r' ∈ r.before, r'.match? (q ++ t) = none := by
  intro r' hr'
  cases hopen : r'.mayOpen q with
  | false => exact match?_eq_none_of_not_mayOpen hopen t
  | true =>
    cases hcomma : (afterComma? r'.shape).all s with
    | false => exact match?_eq_none_of_commas hcommas hcomma
    | true =>
      refine hrivals r' (List.mem_filter.2 ⟨hr', ?_⟩)
      rw [hopen, hcomma]
      rfl

/-- **Of the earlier routes only those count that may open with what the path begins with and fix
behind a comma what the path has there.** -/
theorem takes_of_commas {r : Route} {found : List (Text × Text)} (hr : r.match? (q ++ t) = some found)
    (hcommas : CommasLeadTo s (q ++ t)) (hrivals : ∀ r' ∈ r.rivals q s, r'.match? (q ++ t) = none) :
    r.Takes (q ++ t) found where
  matched := hr
  first := match?_before_of_commas hcommas hrivals

/-- Whether a route may match a path with a character in it; only a `false` is certain. -/
def mayHold (c : Char) (r : Route) : Bool :=
  r.shape.getLast? != some stop || (row r.shape).mayRead c

/-- A route whose parts cannot read the character, up to the end, does not match. -/
theorem match?_eq_none_of_not_mayHold {r : Route} {c : Char} {path : Text} (hr : r.mayHold c = false)
    (hc : c ∈ path) : r.match? path = none := by
  obtain ⟨hstop, hread⟩ := Bool.or_eq_false_iff.1 hr
  refine match?_eq_none fun w rest cs hpath hreads => ?_
  obtain rfl := eq_nil_of_reads_stop (bne_eq_false_iff_eq.1 hstop) hreads
  rw [hpath, List.append_nil] at hc
  exact not_reads_of_not_mayRead hread hc hreads

end Route

end ReviewRouter
