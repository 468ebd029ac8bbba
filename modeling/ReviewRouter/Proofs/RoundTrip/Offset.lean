import ReviewRouter.Proofs.RoundTrip.Basic

/-!
# Page numbers at the end of a path

A list begins at some offset, and its address ends with a comma and that number unless it begins at
the first item.  Patterns read the number as an optional part in front of the end.

* `offsetCaptures` — what is captured of a page number;
* `reads_offset` — what an optional page number at the end reads;
* `reads_offsetTail`, `unique_offsetTail` — **a page number is read in one way**;
* `Captures.offset_captured` — and handlers find it in the captures.
-/

namespace ReviewRouter

open Pattern

/-- What is captured of a page number. -/
def offsetCaptures (offset : UInt32) : List (Text × Text) :=
  if offset = 0 then [] else [("offset", Numeral.ofNat offset.toNat)]

/-- Characters that a page number is not written with. -/
theorem not_mem_offsetTail {c : Char} (hcomma : c ≠ ',') (hdigit : c.isDigit = false)
    (offset : UInt32) : c ∉ offsetTail offset := by
  unfold offsetTail
  split
  · exact List.not_mem_nil
  · rw [List.mem_cons, not_or]
    exact ⟨hcomma, Numeral.not_mem_ofNat hdigit _⟩

section Reads

variable {before : Option Char} {w after : Text} {cs : List (Text × Text)}

/-- A comma and a number, or what follows them. -/
theorem reads_offsetPart {ps : List Pattern} : Reads (offsetPart :: ps) before w after cs ↔
    (∃ digits v cv, w = ',' :: (digits ++ v) ∧ digits ≠ [] ∧ isRun .digit digits ∧
      cs = cv ++ [("offset".toList, digits)] ∧ Reads ps (lastChar before (',' :: digits)) v after cv) ∨
      Reads ps before w after cs := by
  rw [offsetPart, reads_maybe]
  refine or_congr_left ⟨?_, ?_⟩
  · rintro ⟨u, v, cu, cv, rfl, rfl, hu, hv⟩
    rw [spells_row, reads_lit] at hu
    obtain ⟨x, rfl, hx⟩ := hu
    obtain ⟨digits, y, cy, rfl, rfl, hne, hrun, rfl, rfl⟩ := reads_capture_plus.1 hx
    rw [List.append_nil] at hv ⊢
    exact ⟨digits, v, cv, rfl, hne, hrun, rfl, hv⟩
  · rintro ⟨digits, v, cv, rfl, hne, hrun, rfl, hv⟩
    refine ⟨',' :: digits, v, [("offset".toList, digits)], cv, rfl, rfl, ?_, hv⟩
    rw [spells_row, reads_lit]
    exact ⟨digits, rfl, reads_capture_plus.2
      ⟨digits, [], [], (List.append_nil digits).symm, rfl, hne, hrun, rfl, rfl⟩⟩

/-- Nothing, or a comma and a number. -/
theorem reads_offset : Reads [offsetPart, stop] before w after cs ↔
    after = [] ∧ (w = [] ∧ cs = [] ∨
      ∃ digits, w = ',' :: digits ∧ digits ≠ [] ∧ isRun .digit digits ∧ cs = [("offset".toList, digits)]) := by
  rw [reads_offsetPart]
  constructor
  · rintro (⟨digits, v, cv, rfl, hne, hrun, rfl, hv⟩ | hv)
    · obtain ⟨rfl, rfl, rfl⟩ := reads_stop.1 hv
      rw [List.append_nil]
      exact ⟨rfl, Or.inr ⟨digits, rfl, hne, hrun, rfl⟩⟩
    · obtain ⟨rfl, rfl, rfl⟩ := reads_stop.1 hv
      exact ⟨rfl, Or.inl ⟨rfl, rfl⟩⟩
  · rintro ⟨rfl, ⟨rfl, rfl⟩ | ⟨digits, rfl, hne, hrun, rfl⟩⟩
    · exact Or.inr (reads_stop.2 ⟨rfl, rfl, rfl⟩)
    · refine Or.inl ⟨digits, [], [], ?_, hne, hrun, rfl, reads_stop.2 ⟨rfl, rfl, rfl⟩⟩
      rw [List.append_nil]

variable (offset : UInt32)

theorem reads_offsetTail :
    Reads [offsetPart, stop] before (offsetTail offset) [] (offsetCaptures offset) := by
  rw [reads_offset]
  unfold offsetTail offsetCaptures
  refine ⟨rfl, ?_⟩
  by_cases hzero : offset = 0
  · rw [if_pos hzero, if_pos hzero]
    exact Or.inl ⟨rfl, rfl⟩
  · rw [if_neg hzero, if_neg hzero]
    exact Or.inr ⟨_, rfl, Numeral.ofNat_ne_nil _, isRun_ofNat _, rfl⟩

/-- A page number is read in one way. -/
theorem unique_offsetTail (h : Reads [offsetPart, stop] before w after cs)
    (heq : offsetTail offset = w ++ after) : cs = offsetCaptures offset := by
  obtain ⟨rfl, ⟨rfl, rfl⟩ | ⟨digits, rfl, -, -, rfl⟩⟩ := reads_offset.1 h
  · unfold offsetTail at heq
    unfold offsetCaptures
    by_cases hzero : offset = 0
    · rw [if_pos hzero]
    · rw [if_neg hzero] at heq
      cases heq
  · rw [List.append_nil] at heq
    unfold offsetTail at heq
    unfold offsetCaptures
    by_cases hzero : offset = 0
    · rw [if_pos hzero] at heq
      cases heq
    · rw [if_neg hzero] at heq ⊢
      rw [(List.cons.inj heq).2]

end Reads

/-- Handlers find the page number in the captures. -/
theorem Captures.offset_captured (r : Route) (offset : UInt32) {cs : List (Text × Text)}
    (hcs : cs.lookup "offset".toList = none) :
    (r.captured (offsetCaptures offset ++ cs)).offset "offset" = .ok offset := by
  have hget := Route.get?_captured r (offsetCaptures offset ++ cs) "offset"
  rw [List.lookup_append, hcs, Option.or_none] at hget
  unfold Captures.offset
  by_cases hzero : offset = 0
  · rw [offsetCaptures, if_pos hzero] at hget ⊢
    rw [parse?_none hget, hzero]
    rfl
  · have hvalue : Percent.unescapeValue (Numeral.ofNat offset.toNat) = Numeral.ofNat offset.toNat :=
      Percent.unescapeValue_plain _ (Numeral.not_mem_ofNat (by decide) _)
        (Numeral.not_mem_ofNat (by decide) _)
    rw [offsetCaptures, if_neg hzero] at hget ⊢
    rw [parse?_eq (hget.trans (congrArg some hvalue)) (Numeral.ofNat_ne_nil _) (Numeral.u32?_ofNat _)]
    rfl

end ReviewRouter
