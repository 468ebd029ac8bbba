import ReviewRouter.Proofs.Query

/-!
# Queries joined

A query is read item by item, so two queries joined by `&` are read as one behind the other.  Only question
marks count differently at the beginning of a query: there they are left out, inside they belong to a name.

* `itemPairs`, `queryPairs_append` — the pairs of the first query, and of the items of the second one;
* `nameLength`, `nameLength_question`, `nameLength_trimStart_le` — **a question mark is one more character of a
  name**;
* `queryPairs_join_iff` — **a joined query is read as its two parts exactly if the second one does not begin
  with a question mark**;
* `queryPairs_written_and_joined` — what is written is read back, and what is joined is read in parts.
-/

namespace ReviewRouter

open Percent (unescapeValue)

/-! ### Items -/

/-- The pairs of a query that nothing is trimmed from. -/
def itemPairs (t : Text) : List (Text × Text) :=
  (Text.pieces '&' t).filterMap queryPair?

theorem queryPairs_eq (t : Text) : queryPairs t = itemPairs (Text.trimStart '?' t) := rfl

theorem itemPairs_append (a b : Text) : itemPairs (a ++ '&' :: b) = itemPairs a ++ itemPairs b := by
  rw [itemPairs, Text.pieces_append, List.filterMap_append]
  rfl

/-- A joined query is read as the first one and the items of the second one. -/
theorem queryPairs_append (a b : Text) : queryPairs (a ++ '&' :: b) = queryPairs a ++ itemPairs b := by
  rw [queryPairs_eq, Text.trimStart_append (by decide), itemPairs_append]
  rfl

/-! ### Question marks -/

/-- The length of all names in a list of pairs. -/
def nameLength (pairs : List (Text × Text)) : Nat :=
  (pairs.flatMap Prod.fst).length

/-- An item adds its name to it, also one that is dropped, for that has no name. -/
theorem nameLength_filterMap_cons (item : Text) (items : List Text) :
    nameLength ((item :: items).filterMap queryPair?) =
      (unescapeValue (item.takeWhile (· != '='))).length + nameLength (items.filterMap queryPair?) := by
  have hpair : queryPair? item =
      if unescapeValue (item.takeWhile (· != '=')) = [] then none
      else some (unescapeValue (item.takeWhile (· != '=')),
        unescapeValue ((Text.splitOnce? '=' item).getD (item, [])).2) := by
    rw [← Text.splitOnce?_getD]
    rfl
  by_cases hname : unescapeValue (item.takeWhile (· != '=')) = []
  · rw [if_pos hname] at hpair
    rw [List.filterMap_cons_none hpair, hname, List.length_nil, Nat.zero_add]
  · rw [if_neg hname] at hpair
    rw [List.filterMap_cons_some hpair, nameLength, List.flatMap_cons, List.length_append]
    rfl

/-- **A question mark inside a query is one more character of a name.** -/
theorem nameLength_question (t : Text) : nameLength (itemPairs ('?' :: t)) = nameLength (itemPairs t) + 1 := by
  have hquestion : '?' ≠ '&' := by decide
  obtain ⟨item, items, hitems, hcons⟩ := Text.pieces_cons_ne hquestion t
  rw [itemPairs, itemPairs, hcons, hitems, nameLength_filterMap_cons, nameLength_filterMap_cons,
    List.takeWhile_cons_of_pos (by decide), Percent.unescapeValue_cons (by decide) (by decide), List.length_cons]
  omega

theorem nameLength_trimStart_le (t : Text) :
    nameLength (itemPairs (Text.trimStart '?' t)) ≤ nameLength (itemPairs t) := by
  induction t with
  | nil => exact Nat.le_refl _
  | cons c t ih =>
    by_cases hc : c = '?'
    · subst hc
      rw [Text.trimStart_cons_self, nameLength_question]
      exact Nat.le_succ_of_le ih
    · exact Nat.le_of_eq (congrArg (fun u => nameLength (itemPairs u)) (Text.trimStart_cons_ne hc t))

/-- What the leading question marks of a query leave out is missed. -/
theorem queryPairs_eq_itemPairs_iff {t : Text} : queryPairs t = itemPairs t ↔ ¬("?" : Text) <+: t := by
  constructor
  · rintro heq ⟨u, rfl⟩
    have hlength := congrArg nameLength heq
    have hshorter := nameLength_trimStart_le u
    rw [queryPairs_eq] at hlength
    replace hlength : nameLength (itemPairs (Text.trimStart '?' ('?' :: u))) = nameLength (itemPairs ('?' :: u)) :=
      hlength
    rw [Text.trimStart_cons_self, nameLength_question] at hlength
    omega
  · intro hfirst
    have htrim : Text.trimStart '?' t = t := Text.trimStart_eq_self_iff.2 hfirst
    rw [queryPairs_eq, htrim]

/-- **A joined query is read as its two parts exactly if the second one does not begin with a question mark.** -/
theorem queryPairs_join_iff {a b : Text} :
    queryPairs (a ++ '&' :: b) = queryPairs a ++ queryPairs b ↔ ¬("?" : Text) <+: b := by
  rw [queryPairs_append, List.append_cancel_left_eq, eq_comm, queryPairs_eq_itemPairs_iff]

/-- **What is written is read back, and what is joined is read in parts.**  Fields of any names but the empty
one are read back in order; any two queries are read one behind the other, exactly if the second one does not
begin with a question mark. -/
theorem queryPairs_written_and_joined :
    (∀ fields : List (Text × Text), (∀ f ∈ fields, f.1 ≠ []) →
        queryPairs (List.intercalate "&" (fields.map escapedField)) = fields) ∧
      ∀ a b : Text, queryPairs (a ++ "&" ++ b) = queryPairs a ++ queryPairs b ↔ ¬("?" : Text) <+: b := by
  refine ⟨queryPairs_escapedFields, fun a b => ?_⟩
  rw [List.append_assoc]
  exact queryPairs_join_iff

/-- Fields with marks of queries in names and values, a name that is one question mark, and a value that is
empty. -/
def markedFields : List (Text × Text) :=
  [("a&b=", "c+d %C3"), ("?", "")]

/-- The cut of the joined query parts what would be an escape of one character. -/
theorem queryPairs_written_and_joined_sample :
    (∀ f ∈ markedFields, f.1 ≠ []) ∧
      queryPairs (List.intercalate "&" (markedFields.map escapedField)) = markedFields ∧
      ¬("?" : Text) <+: "%A9=+" ∧
      queryPairs ("??x=%C3".toList ++ "&" ++ "%A9=+") = queryPairs "??x=%C3" ++ queryPairs "%A9=+" := by
  have hnames : ∀ f ∈ markedFields, f.1 ≠ [] := by decide
  have hfirst : ¬("?" : Text) <+: "%A9=+" := by decide
  exact ⟨hnames, queryPairs_written_and_joined.1 markedFields hnames, hfirst,
    (queryPairs_written_and_joined.2 "??x=%C3" "%A9=+").2 hfirst⟩

end ReviewRouter
