import ReviewRouter.Location
import ReviewRouter.Proofs.Cutting
import ReviewRouter.Proofs.Segment
import ReviewRouter.View.Address

/-!
# Query strings, read back

A query is written as fields joined by `&`, each an escaped name, a `=` and an escaped value.  What is
escaped holds neither of the two marks, so the fields are found again and read as they were.

* `pieces_append`, `pieces_intercalate` — a text is cut on both sides of a separator, and joined parts are cut
  apart again;
* `queryPairs_escapedFields` — **the fields of a query are read back in order**;
* `fieldText`, `IsFieldName` — a field whose name stands for itself;
* `queryPairs_fields`, `queryTail_eq` — queries of such fields.
-/

namespace ReviewRouter

open Percent (escape unescapeValue)

/-! ### Cutting at a separator -/

namespace Text

theorem pieces_of_not_mem {sep : Char} (a : Text) (h : sep ∉ a) : pieces sep a = [a] := by
  induction a with
  | nil => rfl
  | cons c a ih =>
    rw [List.mem_cons, not_or] at h
    rw [pieces, if_neg (Ne.symm h.1), ih h.2]

theorem pieces_ne_nil (sep : Char) (t : Text) : pieces sep t ≠ [] := by
  cases t with
  | nil => exact List.cons_ne_nil _ _
  | cons c t =>
    unfold pieces
    split
    · exact List.cons_ne_nil _ _
    · split <;> exact List.cons_ne_nil _ _

/-- Another character than the separator belongs to the first part. -/
theorem pieces_cons_ne {sep c : Char} (hc : c ≠ sep) (t : Text) :
    ∃ part parts, pieces sep t = part :: parts ∧ pieces sep (c :: t) = (c :: part) :: parts := by
  obtain ⟨part, parts, hparts⟩ := List.exists_cons_of_ne_nil (pieces_ne_nil sep t)
  exact ⟨part, parts, hparts, by rw [pieces, if_neg hc, hparts]⟩

/-- A text is cut on both sides of a separator. -/
theorem pieces_append (sep : Char) (a b : Text) : pieces sep (a ++ sep :: b) = pieces sep a ++ pieces sep b := by
  induction a with
  | nil =>
    show pieces sep (sep :: b) = [] :: pieces sep b
    rw [pieces, if_pos rfl]
  | cons c a ih =>
    rw [List.cons_append]
    by_cases hc : c = sep
    · rw [pieces, if_pos hc, pieces, if_pos hc, ih]
      rfl
    · obtain ⟨part, parts, hparts, hcons⟩ := pieces_cons_ne hc a
      rw [hcons, pieces, if_neg hc, ih, hparts]
      rfl

/-- Joined parts are cut apart again. -/
theorem pieces_intercalate {sep : Char} (parts : List Text) (hne : parts ≠ [])
    (h : ∀ p ∈ parts, sep ∉ p) : pieces sep (List.intercalate [sep] parts) = parts := by
  induction parts with
  | nil => exact absurd rfl hne
  | cons p parts ih =>
    have hp := h p List.mem_cons_self
    cases parts with
    | nil => rw [List.intercalate_singleton, pieces_of_not_mem p hp]
    | cons q parts =>
      have htail := ih (List.cons_ne_nil q parts) fun r hr => h r (List.mem_cons_of_mem p hr)
      rw [List.intercalate_cons_cons, List.append_assoc, List.singleton_append, pieces_append,
        pieces_of_not_mem p hp, htail]
      rfl

end Text

/-! ### Fields with any names -/

/-- A field of a query, with its name escaped like its value. -/
def escapedField (field : Text × Text) : Text :=
  escape field.1 ++ "=" ++ escape field.2

theorem not_mem_escape {c : Char} (hc : Percent.isUnescaped c = false) (hne : c ≠ '%') (t : Text) :
    c ∉ escape t := by
  intro h
  obtain ⟨d, -, hd⟩ := List.mem_flatMap.1 h
  exact Percent.not_mem_escapeChar hc hne d hd

section Fields

variable {c : Char} (hc : Percent.isUnescaped c = false) (hpercent : c ≠ '%') (hequal : c ≠ '=')

include hc hpercent hequal

theorem not_mem_escapedField (field : Text × Text) : c ∉ escapedField field := by
  have hsingle : c ∉ ("=" : Text) := by
    show c ∉ ['=']
    rw [List.mem_singleton]
    exact hequal
  rw [escapedField, List.mem_append, List.mem_append, not_or, not_or]
  exact ⟨⟨not_mem_escape hc hpercent field.1, hsingle⟩, not_mem_escape hc hpercent field.2⟩

/-- Characters that neither names nor values are written with. -/
theorem not_mem_escapedFields (hand : c ≠ '&') (fields : List (Text × Text)) :
    c ∉ List.intercalate "&".toList (fields.map escapedField) := by
  induction fields with
  | nil => exact List.not_mem_nil
  | cons f fields ih =>
    have hf := not_mem_escapedField hc hpercent hequal f
    cases fields with
    | nil =>
      rw [List.map_singleton, List.intercalate_singleton]
      exact hf
    | cons g fields =>
      have hsingle : c ∉ "&".toList := by
        show c ∉ ['&']
        rw [List.mem_singleton]
        exact hand
      rw [List.map_cons, List.map_cons, List.intercalate_cons_cons, List.mem_append, List.mem_append,
        not_or, not_or]
      exact ⟨⟨hf, hsingle⟩, ih⟩

end Fields

/-- A field is read back. -/
theorem queryPair?_escapedField {field : Text × Text} (hne : field.1 ≠ []) :
    queryPair? (escapedField field) = some field := by
  have hcut : Text.splitOnce? '=' (escapedField field) = some (escape field.1, escape field.2) := by
    rw [escapedField, List.append_assoc]
    exact Text.splitOnce?_append '=' _ _ (not_mem_escape (by decide) (by decide) field.1)
  rw [queryPair?, hcut]
  simp only [Option.getD_some, Percent.unescapeValue_escape, if_neg hne]

/-- **The fields of a query are read back in order.** -/
theorem queryPairs_escapedFields (fields : List (Text × Text)) (h : ∀ f ∈ fields, f.1 ≠ []) :
    queryPairs (List.intercalate "&" (fields.map escapedField)) = fields := by
  have htrim : Text.trimStart '?' (List.intercalate "&".toList (fields.map escapedField)) =
      List.intercalate "&".toList (fields.map escapedField) := by
    have hquestion := not_mem_escapedFields (c := '?') (by decide) (by decide) (by decide) (by decide)
      fields
    cases htext : List.intercalate "&".toList (fields.map escapedField) with
    | nil => rfl
    | cons c t =>
      rw [htext, List.mem_cons, not_or] at hquestion
      exact Text.trimStart_cons_ne (Ne.symm hquestion.1) t
  rw [queryPairs, htrim]
  cases fields with
  | nil => rfl
  | cons f fields =>
    have hpieces : Text.pieces '&' (List.intercalate "&".toList ((f :: fields).map escapedField)) =
        (f :: fields).map escapedField := by
      refine Text.pieces_intercalate _ (List.cons_ne_nil _ _) ?_
      intro p hp
      obtain ⟨g, -, rfl⟩ := List.mem_map.1 hp
      exact not_mem_escapedField (by decide) (by decide) (by decide) g
    rw [hpieces, List.filterMap_map]
    generalize f :: fields = l at h
    induction l with
    | nil => rfl
    | cons g l ih =>
      rw [List.filterMap_cons, Function.comp_apply, queryPair?_escapedField (h g List.mem_cons_self),
        ih fun g' hg' => h g' (List.mem_cons_of_mem g hg')]

/-! ### Fields with plain names -/

/-- A field of a query. -/
def fieldText (field : Text × Text) : Text :=
  field.1 ++ "=" ++ escape field.2

/-- A name that stands for itself in a query. -/
structure IsFieldName (name : Text) : Prop where
  ne_nil : name ≠ []
  chars : ∀ c ∈ name, Percent.isUnescaped c = true

theorem IsFieldName.escape_eq {name : Text} (h : IsFieldName name) : escape name = name := by
  have hchars := h.chars
  clear h
  induction name with
  | nil => rfl
  | cons c name ih =>
    rw [Percent.escape_cons, Percent.escapeChar_of_isUnescaped (hchars c List.mem_cons_self),
      ih fun d hd => hchars d (List.mem_cons_of_mem c hd)]
    rfl

theorem map_fieldText {fields : List (Text × Text)} (h : ∀ f ∈ fields, IsFieldName f.1) :
    fields.map fieldText = fields.map escapedField := by
  refine List.map_congr_left ?_
  intro f hf
  rw [fieldText, escapedField, (h f hf).escape_eq]

theorem fieldText_ne_nil {field : Text × Text} (h : IsFieldName field.1) : fieldText field ≠ [] := by
  intro heq
  rw [fieldText, List.append_eq_nil_iff, List.append_eq_nil_iff] at heq
  exact h.ne_nil heq.1.1

theorem queryPairs_fields (fields : List (Text × Text)) (h : ∀ f ∈ fields, IsFieldName f.1) :
    queryPairs (List.intercalate "&" (fields.map fieldText)) = fields := by
  rw [map_fieldText h]
  exact queryPairs_escapedFields fields fun f hf => (h f hf).ne_nil

/-- The query behind the path; without fields there is none. -/
theorem queryTail_eq {fields : List (Text × Text)} (h : ∀ f ∈ fields, IsFieldName f.1) :
    queryTail (fields.map fieldText) =
      if List.intercalate "&".toList (fields.map fieldText) = [] then []
      else '?' :: List.intercalate "&".toList (fields.map fieldText) := by
  cases fields with
  | nil => rfl
  | cons f fields =>
    have hne : List.intercalate "&".toList ((f :: fields).map fieldText) ≠ [] := by
      intro heq
      have hf := fieldText_ne_nil (h f List.mem_cons_self)
      cases fields with
      | nil =>
        rw [List.map_singleton, List.intercalate_singleton] at heq
        exact hf heq
      | cons g fields =>
        rw [List.map_cons, List.map_cons, List.intercalate_cons_cons, List.append_assoc,
          List.append_eq_nil_iff] at heq
        exact hf heq.1
    rw [queryTail, if_neg (by rw [List.map_cons]; exact List.cons_ne_nil _ _), if_neg hne]

theorem not_mem_fields {fields : List (Text × Text)} (h : ∀ f ∈ fields, IsFieldName f.1) {c : Char}
    (hc : Percent.isUnescaped c = false) (hpercent : c ≠ '%') (hequal : c ≠ '=') (hand : c ≠ '&') :
    c ∉ List.intercalate "&".toList (fields.map fieldText) := by
  rw [map_fieldText h]
  exact not_mem_escapedFields hc hpercent hequal hand fields

end ReviewRouter
