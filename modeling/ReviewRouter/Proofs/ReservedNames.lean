import ReviewRouter.Proofs.Query
import ReviewRouter.Route.Dashboards

/-!
# Reserved names in the query of a dashboard

The sections of a dashboard are read one after the other from a query.  Two names are reserved there, for the
title and for the common part of all queries.  They act on the whole dashboard, so it makes no difference where
they stand.

* `Pairs.named`, `Pairs.unreserved`, `Pairs.filled` — the pairs of one kind, in order;
* `Pairs.lastValue?`, `Pairs.sections` — what the pairs of one kind say;
* `DashboardDraft.add_eq_withPairs`, `DashboardDraft.foldl_add` — **what one pair changes, and what all do**;
* `DashboardView.ofPairs`, `DashboardView.ofQuery?_eq` — **a query describes the dashboard of its pairs**;
* `Pairs.Rearranged` — lists that differ only in where the reserved names stand;
* `DashboardView.reserved_anywhere` — which dashboard a written query describes, and that reserved names may be
  moved.
-/

namespace ReviewRouter

/-! ### Kinds of pairs -/

namespace Pairs

/-- The pairs of a name. -/
def named (name : Text) (pairs : List (Text × Text)) : List (Text × Text) :=
  pairs.filter fun pair => pair.1 = name

/-- The pairs whose name is not reserved. -/
def unreserved (pairs : List (Text × Text)) : List (Text × Text) :=
  pairs.filter fun pair => pair.1 ≠ "title" ∧ pair.1 ≠ "foreach"

/-- The pairs whose value is not empty. -/
def filled (pairs : List (Text × Text)) : List (Text × Text) :=
  pairs.filter fun pair => pair.2 ≠ []

/-- The last value of a name, empty ones left out. -/
def lastValue? (name : Text) (pairs : List (Text × Text)) : Option Text :=
  (filled (named name pairs)).getLast?.map Prod.snd

/-- The headings and queries among the pairs. -/
def sections (pairs : List (Text × Text)) : List DashboardSection :=
  (filled (unreserved pairs)).map fun pair => ⟨pair.1, pair.2⟩

theorem lastValue?_cons (name : Text) (pair : Text × Text) (pairs : List (Text × Text)) :
    lastValue? name (pair :: pairs) = (lastValue? name pairs).or (lastValue? name [pair]) := by
  unfold lastValue? filled named
  rw [← List.singleton_append, List.filter_append, List.filter_append, List.getLast?_append, Option.map_or]

theorem lastValue?_singleton (name : Text) (pair : Text × Text) :
    lastValue? name [pair] = if pair.1 = name ∧ pair.2 ≠ [] then some pair.2 else none := by
  rw [lastValue?, filled, named, List.filter_filter]
  simp only [List.filter_cons, List.filter_nil, Bool.and_eq_true, decide_eq_true_eq, and_comm]
  split <;> rfl

theorem lastValue?_eq_none {name : Text} {pairs : List (Text × Text)} (h : ∀ pair ∈ pairs, pair.1 ≠ name) :
    lastValue? name pairs = none := by
  have hnil : named name pairs = [] :=
    List.filter_eq_nil_iff.2 fun pair hpair heq => h pair hpair (of_decide_eq_true heq)
  rw [lastValue?, hnil]
  rfl

theorem sections_cons (pair : Text × Text) (pairs : List (Text × Text)) :
    sections (pair :: pairs) = sections [pair] ++ sections pairs := by
  unfold sections filled unreserved
  rw [← List.singleton_append, List.filter_append, List.filter_append, List.map_append]

theorem sections_singleton (pair : Text × Text) :
    sections [pair] = if pair.2 ≠ [] ∧ pair.1 ≠ "title" ∧ pair.1 ≠ "foreach" then [⟨pair.1, pair.2⟩] else [] := by
  rw [sections, filled, unreserved, List.filter_filter]
  simp only [List.filter_cons, List.filter_nil, Bool.and_eq_true, decide_eq_true_eq]
  split <;> rfl

/-- Every pair is a section if none is reserved or empty. -/
theorem sections_eq_map {pairs : List (Text × Text)}
    (h : ∀ pair ∈ pairs, pair.1 ≠ "title" ∧ pair.1 ≠ "foreach" ∧ pair.2 ≠ []) :
    sections pairs = pairs.map fun pair => ⟨pair.1, pair.2⟩ := by
  have hunreserved : unreserved pairs = pairs :=
    List.filter_eq_self.2 fun pair hpair => decide_eq_true ⟨(h pair hpair).1, (h pair hpair).2.1⟩
  have hfilled : filled pairs = pairs :=
    List.filter_eq_self.2 fun pair hpair => decide_eq_true (h pair hpair).2.2
  rw [sections, hunreserved, hfilled]

/-- There is no section if every value stands behind a reserved name. -/
theorem sections_eq_nil {pairs : List (Text × Text)} :
    sections pairs = [] ↔ ∀ pair ∈ pairs, pair.2 ≠ [] → pair.1 = "title" ∨ pair.1 = "foreach" := by
  unfold sections filled unreserved
  rw [List.map_eq_nil_iff, List.filter_filter, List.filter_eq_nil_iff]
  refine forall₂_congr fun pair _ => ?_
  rw [Bool.and_eq_true, decide_eq_true_iff, decide_eq_true_iff, not_and, ← not_or, Decidable.not_not]

end Pairs

/-! ### Drafts -/

namespace DashboardDraft

/-- What a draft becomes with more pairs. -/
def withPairs (draft : DashboardDraft) (pairs : List (Text × Text)) : DashboardDraft where
  title := (Pairs.lastValue? "title" pairs).or draft.title
  common := (Pairs.lastValue? "foreach" pairs).or draft.common
  sections := draft.sections ++ Pairs.sections pairs

/-- **What one pair changes.**  It is passed over, or it is a title, a common part or a section. -/
theorem add_eq_withPairs (draft : DashboardDraft) (pair : Text × Text) : draft.add pair = draft.withPairs [pair] := by
  rw [withPairs, Pairs.lastValue?_singleton, Pairs.lastValue?_singleton, Pairs.sections_singleton, add]
  by_cases hvalue : pair.2 = []
  · rw [if_pos hvalue, if_neg (fun h => h.2 hvalue), if_neg (fun h => h.2 hvalue), if_neg (fun h => h.1 hvalue),
      List.append_nil]
    rfl
  by_cases htitle : pair.1 = "title"
  · have hcommon : pair.1 ≠ "foreach" := by
      rw [htitle]
      decide
    rw [if_neg hvalue, if_pos htitle, if_pos ⟨htitle, hvalue⟩, if_neg (fun h => hcommon h.1),
      if_neg (fun h => h.2.1 htitle), List.append_nil]
    rfl
  by_cases hcommon : pair.1 = "foreach"
  · rw [if_neg hvalue, if_neg htitle, if_pos hcommon, if_neg (fun h => htitle h.1), if_pos ⟨hcommon, hvalue⟩,
      if_neg (fun h => h.2.2 hcommon), List.append_nil]
    rfl
  · rw [if_neg hvalue, if_neg htitle, if_neg hcommon, if_neg (fun h => htitle h.1), if_neg (fun h => hcommon h.1),
      if_pos ⟨hvalue, htitle, hcommon⟩]
    rfl

theorem withPairs_nil (draft : DashboardDraft) : draft.withPairs [] = draft := by
  show (⟨draft.title, draft.common, draft.sections ++ []⟩ : DashboardDraft) = draft
  rw [List.append_nil]

theorem withPairs_withPairs (draft : DashboardDraft) (pair : Text × Text) (pairs : List (Text × Text)) :
    (draft.withPairs [pair]).withPairs pairs = draft.withPairs (pair :: pairs) := by
  simp only [withPairs, Pairs.lastValue?_cons _ pair pairs, Pairs.sections_cons pair pairs, Option.or_assoc,
    List.append_assoc]

/-- **What all pairs change**, by induction on the list. -/
theorem foldl_add (draft : DashboardDraft) (pairs : List (Text × Text)) :
    pairs.foldl add draft = draft.withPairs pairs := by
  induction pairs generalizing draft with
  | nil => exact (withPairs_nil draft).symm
  | cons pair pairs ih => rw [List.foldl_cons, ih, add_eq_withPairs, withPairs_withPairs]

end DashboardDraft

/-! ### Dashboards -/

/-- A query behind the part that is common to all. -/
def behindCommon (common : Option Text) (query : Text) : Text :=
  match common with
  | some common => common ++ " " ++ query
  | none => query

/-- The query of a list of fields. -/
def queryOf (fields : List (Text × Text)) : Text :=
  List.intercalate "&" (fields.map escapedField)

namespace DashboardView

/-- The dashboard that a list of pairs describes: its sections in order, each query behind the last common part,
and the last title. -/
def ofPairs (pairs : List (Text × Text)) (user : Option Text) : DashboardView where
  user := some (user.getD "self")
  sections := (Pairs.filled (Pairs.unreserved pairs)).map fun pair =>
    ⟨pair.1, behindCommon (Pairs.lastValue? "foreach" pairs) pair.2⟩
  title := some ((Pairs.lastValue? "title" pairs).getD defaultTitle)

/-- **A query describes the dashboard of its pairs**, or none if no pair is a section. -/
theorem ofQuery?_eq (query : Text) (user : Option Text) :
    ofQuery? query user =
      if Pairs.sections (queryPairs query) = [] then none else some (ofPairs (queryPairs query) user) := by
  rw [ofQuery?, DashboardDraft.foldl_add {} (queryPairs query)]
  generalize queryPairs query = pairs
  simp only [DashboardDraft.withPairs, Option.or_none, List.nil_append]
  unfold ofPairs behindCommon
  -- the common part is put in front of all queries at once
  cases Pairs.lastValue? "foreach" pairs with
  | none => rfl
  | some common =>
    simp only [List.map_eq_nil_iff, Pairs.sections, List.map_map]
    rfl

theorem ofQuery?_queryOf {fields : List (Text × Text)} (hnames : ∀ f ∈ fields, f.1 ≠ []) (user : Option Text) :
    ofQuery? (queryOf fields) user = if Pairs.sections fields = [] then none else some (ofPairs fields user) := by
  rw [ofQuery?_eq, queryOf, queryPairs_escapedFields fields hnames]

end DashboardView

/-! ### Moving reserved names -/

namespace Pairs

variable {a b : List (Text × Text)}

/-- The lists differ only in where titles and common parts stand: each of the three kinds keeps its order. -/
structure Rearranged (a b : List (Text × Text)) : Prop where
  titles : named "title" a = named "title" b
  commons : named "foreach" a = named "foreach" b
  others : unreserved a = unreserved b

namespace Rearranged

theorem mem_of_mem (h : Rearranged a b) {pair : Text × Text} (hpair : pair ∈ b) : pair ∈ a := by
  have hnamed : ∀ name, named name a = named name b → pair.1 = name → pair ∈ a := by
    intro name hsame hname
    have hmem : pair ∈ named name b := List.mem_filter.2 ⟨hpair, decide_eq_true hname⟩
    rw [← hsame] at hmem
    exact (List.mem_filter.1 hmem).1
  by_cases htitle : pair.1 = "title"
  · exact hnamed _ h.titles htitle
  by_cases hcommon : pair.1 = "foreach"
  · exact hnamed _ h.commons hcommon
  · have hmem : pair ∈ unreserved b := List.mem_filter.2 ⟨hpair, decide_eq_true ⟨htitle, hcommon⟩⟩
    rw [← h.others] at hmem
    exact (List.mem_filter.1 hmem).1

theorem sections_eq (h : Rearranged a b) : sections a = sections b := by
  rw [sections, sections, h.others]

/-- They describe the same dashboard. -/
theorem ofPairs_eq (h : Rearranged a b) (user : Option Text) :
    DashboardView.ofPairs a user = DashboardView.ofPairs b user := by
  unfold DashboardView.ofPairs lastValue?
  rw [h.titles, h.commons, h.others]

end Rearranged

end Pairs

namespace DashboardView

/-- **Reserved names act on the whole dashboard, wherever they stand.**  For fields of any names but the empty
one: their query describes none exactly if every value stands behind a reserved name, otherwise the dashboard
of the fields, and the same one with titles and common parts moved to other places. -/
theorem reserved_anywhere {fields : List (Text × Text)} (hnames : ∀ f ∈ fields, f.1 ≠ []) (user : Option Text) :
    (ofQuery? (queryOf fields) user = none ↔ ∀ f ∈ fields, f.2 ≠ [] → f.1 = "title" ∨ f.1 = "foreach") ∧
      (∀ f ∈ fields, f.2 ≠ [] → f.1 ≠ "title" → f.1 ≠ "foreach" →
        ofQuery? (queryOf fields) user = some (ofPairs fields user)) ∧
      ∀ moved, Pairs.Rearranged fields moved → ofQuery? (queryOf moved) user = ofQuery? (queryOf fields) user := by
  rw [ofQuery?_queryOf hnames, ← Pairs.sections_eq_nil]
  refine ⟨?_, ?_, ?_⟩
  · by_cases hnil : Pairs.sections fields = []
    · exact iff_of_true (if_pos hnil) hnil
    · refine iff_of_false ?_ hnil
      rw [if_neg hnil]
      exact Option.some_ne_none _
  · intro f hf hvalue htitle hcommon
    have hsection : Pairs.sections fields ≠ [] :=
      fun hnil => (Pairs.sections_eq_nil.1 hnil f hf hvalue).elim htitle hcommon
    exact if_neg hsection
  · intro moved hmoved
    have hnames' : ∀ f ∈ moved, f.1 ≠ [] := fun f hf => hnames f (hmoved.mem_of_mem hf)
    rw [ofQuery?_queryOf hnames', hmoved.sections_eq, hmoved.ofPairs_eq]

/-- Reserved names twice, without a value, and behind the sections. -/
def scatteredFields : List (Text × Text) :=
  [("a", "b"), ("foreach", "is:open"), ("title", ""), ("c", ""), ("title", "T"), ("d&", "e"), ("foreach", "x=y"),
    ("title", "")]

/-- The same with the reserved names in front, but for one. -/
def gatheredFields : List (Text × Text) :=
  [("foreach", "is:open"), ("title", ""), ("title", "T"), ("a", "b"), ("c", ""), ("foreach", "x=y"), ("d&", "e"),
    ("title", "")]

theorem reserved_anywhere_sample :
    (∀ f ∈ scatteredFields, f.1 ≠ []) ∧ ("a".toList, "b".toList) ∈ scatteredFields ∧
      Pairs.Rearranged scatteredFields gatheredFields ∧
      ofQuery? (queryOf scatteredFields) none =
        some { user := some "self", sections := [⟨"a", "x=y b"⟩, ⟨"d&", "x=y e"⟩], title := some "T" } ∧
      ofQuery? (queryOf gatheredFields) none = ofQuery? (queryOf scatteredFields) none := by
  have hnames : ∀ f ∈ scatteredFields, f.1 ≠ [] := by decide
  have hmem : ("a".toList, "b".toList) ∈ scatteredFields := List.mem_cons_self
  have hmoved : Pairs.Rearranged scatteredFields gatheredFields := ⟨by decide, by decide, by decide⟩
  obtain ⟨-, hdescribed, hsame⟩ := reserved_anywhere hnames none
  refine ⟨hnames, hmem, hmoved, ?_, hsame gatheredFields hmoved⟩
  exact (hdescribed _ hmem (by decide) (by decide) (by decide)).trans (by decide)

end DashboardView

end ReviewRouter
