import ReviewRouter.Proofs.RoundTrip.Basic

/-!
# Delimiters in a name

Routes cut a path at commas, slashes, spaces and other marks.  A name in an address is escaped twice and only
the first layer is undone before the path is compared with routes, so they see none of the name's own marks
but those that were made readable on purpose.  The second layer is undone when the name is captured.

* `seenMarks`, `Percent.seen_of_mem_readable` — the marks that a name is seen with;
* `Percent.count_plus_readable` — **a plus sign is seen for each space**, and for nothing else;
* `count_matchPath_segment` — **a name adds no delimiter to the path**, whatever stands before and behind it;
* `segment_hidden` — what a name is written as hides its delimiters and gives it back whole.
-/

namespace ReviewRouter

open Percent (escapeSegment readable unescape unescapeValue)

/-! ### What is seen of a name -/

/-- The marks that a name is seen with, apart from letters and digits. -/
def seenMarks (keepSlashes : Bool) : Text :=
  ("-_.!~*\x27()" : Text) ++ ("%:+" : Text) ++ (if keepSlashes then ['/'] else [])

/-- The marks at which routes cut a path, and those that end it. -/
def delimiters : Text := ",@#? \n"

namespace Percent

theorem seen_of_isUnescaped {d : Char} (h : isUnescaped d = true) (keepSlashes : Bool) :
    d.isAlphanum = true ∨ d ∈ seenMarks keepSlashes := by
  rw [isUnescaped, Bool.or_eq_true] at h
  refine h.imp_right fun hmark => ?_
  exact List.mem_append_left _ (List.mem_append_left _ (List.contains_iff_mem.1 hmark))

/-- A name is seen with letters, digits and these marks. -/
theorem seen_of_mem_readable {keepSlashes : Bool} {s : Text} {d : Char} (h : d ∈ readable keepSlashes s) :
    d.isAlphanum = true ∨ d ∈ seenMarks keepSlashes := by
  have hseen := isSegmentChar_of_mem_readable h
  simp only [isSegmentChar, Bool.or_eq_true, beq_iff_eq] at hseen
  rcases hseen with (((hplain | rfl) | rfl) | rfl) | rfl
  · exact seen_of_isUnescaped hplain keepSlashes
  · exact Or.inr (List.mem_append_left _ (by decide))
  · exact Or.inr (List.mem_append_left _ (by decide))
  · exact Or.inr (List.mem_append_left _ (by decide))
  · -- a slash is seen only where slashes are kept
    cases keepSlashes with
    | false => exact absurd h (slash_not_mem_readable s)
    | true => exact Or.inr (List.mem_append_right _ (List.mem_singleton_self _))

/-- **A plus sign is seen for each space**, and for nothing else. -/
theorem count_plus_readable (keepSlashes : Bool) (s : Text) :
    (readable keepSlashes s).count '+' = s.count ' ' := by
  induction s with
  | nil => rfl
  | cons c s ih =>
    rw [readable, List.flatMap_cons, List.count_append, ← readable, ih]
    by_cases hc : c = ' '
    · subst hc
      rw [List.count_cons_self]
      exact Nat.add_comm _ _
    · rw [List.count_eq_zero.2 (plus_not_mem_readableChar keepSlashes hc), Nat.zero_add, List.count_cons_of_ne hc]

end Percent

/-! ### A name in an address -/

theorem not_mem_readable_of_mem_delimiters {d : Char} (hd : d ∈ delimiters) (keepSlashes : Bool) (s : Text) :
    d ∉ readable keepSlashes s := by
  have hfree : ∀ d ∈ delimiters, Percent.isSegmentChar d = false :=
    List.all_iff_forall_prop.1 (by decide)
  exact not_mem_readable (hfree d hd) s

/-- Behind a known beginning the path shows the name, and then what follows it. -/
theorem matchPath_segment_append {q : Text} (hq : Location.IsOpening q) (keepSlashes : Bool) (s t : Text) :
    (Location.parse (q ++ (escapeSegment keepSlashes s ++ t))).matchPath =
      q ++ (readable keepSlashes s ++ unescape (front t)) := by
  rw [Location.matchPath_parse_append hq,
    front_append (not_mem_escapeSegment (by decide) s) (not_mem_escapeSegment (by decide) s),
    Percent.unescape_escapeSegment_append]

/-- **A name adds no delimiter to the path**, whatever stands before and behind it. -/
theorem count_matchPath_segment {q : Text} (hq : Location.IsOpening q) (keepSlashes : Bool) (s t : Text) {d : Char}
    (hd : d ∈ delimiters) :
    (Location.parse (q ++ (escapeSegment keepSlashes s ++ t))).matchPath.count d =
      (Location.parse (q ++ t)).matchPath.count d := by
  have hname : (readable keepSlashes s).count d = 0 :=
    List.count_eq_zero.2 (not_mem_readable_of_mem_delimiters hd keepSlashes s)
  rw [matchPath_segment_append hq, Location.matchPath_parse_append hq, List.count_append, List.count_append,
    List.count_append, hname, Nat.zero_add]

/-- **What a name is written as hides its delimiters and gives it back whole.**  For every text, with slashes
kept or not: both layers undone, it is the text again; with one layer undone, it has letters, digits and
certain marks only, a plus sign for each space, and a path with it holds as many delimiters as one without. -/
theorem segment_hidden (keepSlashes : Bool) (s : Text) :
    unescapeValue (unescape (escapeSegment keepSlashes s)) = s ∧
      (∀ d ∈ unescape (escapeSegment keepSlashes s), d.isAlphanum = true ∨ d ∈ seenMarks keepSlashes) ∧
      (unescape (escapeSegment keepSlashes s)).count '+' = s.count ' ' ∧
      ∀ q, Location.IsOpening q → ∀ t, ∀ d ∈ delimiters,
        (Location.parse (q ++ (escapeSegment keepSlashes s ++ t))).matchPath.count d =
          (Location.parse (q ++ t)).matchPath.count d := by
  rw [unescape_segment]
  refine ⟨Percent.unescapeValue_readable keepSlashes s, ?_, Percent.count_plus_readable keepSlashes s, ?_⟩
  · exact fun d hd => Percent.seen_of_mem_readable hd
  · exact fun q hq t d hd => count_matchPath_segment hq keepSlashes s t hd

/-- A name with every delimiter in it, and with what looks like an escape. -/
def delimitedName : Text := "a/b,c@d#e?f g\n+%2C"

theorem segment_hidden_sample :
    '%' ∈ unescape (escapeSegment true delimitedName) ∧ Location.IsOpening "/q/" ∧ ',' ∈ delimiters ∧
      unescapeValue (unescape (escapeSegment true delimitedName)) = delimitedName ∧
      ('%'.isAlphanum = true ∨ '%' ∈ seenMarks true) ∧
      (unescape (escapeSegment true delimitedName)).count '+' = 1 ∧
      (Location.parse ("/q/".toList ++ (escapeSegment true delimitedName ++ ",25"))).matchPath.count ',' = 1 := by
  have hpercent : '%' ∈ unescape (escapeSegment true delimitedName) := by decide
  have hopening : Location.IsOpening "/q/" := by decide
  have hcomma : ',' ∈ delimiters := by decide
  obtain ⟨hback, hseen, hplus, hhidden⟩ := segment_hidden true delimitedName
  refine ⟨hpercent, hopening, hcomma, hback, hseen '%' hpercent, hplus.trans (by decide), ?_⟩
  exact (hhidden "/q/" hopening ",25" ',' hcomma).trans (by decide)

end ReviewRouter
