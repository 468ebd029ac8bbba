import ReviewRouter.Proofs.Redirect.LegacyLink

/-!
# Old links that lead on forever

If the project of a change has the number of the change for its name, an old link to the change leads to an old
link to the same change, one mark and one number longer, and so on without end.

* `markings` — what has been added after some redirects;
* `not_holdsComparison_markings` — no comparison can ever be read in it;
* `Visit.exists_next?_legacyLink` — one more redirect;
* `Visit.exists_after_legacyLink` — **any number of redirects**.
-/

namespace ReviewRouter

open Pattern
open Percent (readable escapeSegment unescape unescapeValue)

/-! ### Marks and numbers -/

/-- The mark and the number, again and again. -/
def markings (digits : Text) : Nat → Text
  | 0 => []
  | k + 1 => marker ++ (digits ++ markings digits k)

theorem markings_succ_eq_append (digits : Text) (k : Nat) :
    markings digits (k + 1) = markings digits k ++ (marker ++ digits) := by
  induction k with
  | zero =>
    show marker ++ (digits ++ []) = [] ++ (marker ++ digits)
    rw [List.append_nil, List.nil_append]
  | succ k ih =>
    show marker ++ (digits ++ markings digits (k + 1)) =
      marker ++ (digits ++ markings digits k) ++ (marker ++ digits)
    rw [ih, List.append_assoc, List.append_assoc]

theorem mem_markings {digits : Text} {k : Nat} {c : Char} (h : c ∈ markings digits k) :
    c ∈ marker ∨ c ∈ digits := by
  induction k with
  | zero => exact absurd h List.not_mem_nil
  | succ k ih =>
    rcases List.mem_append.1 h with h | h
    · exact Or.inl h
    · rcases List.mem_append.1 h with h | h
      · exact Or.inr h
      · exact ih h

/-- Every slash stands at a plus sign, on one side or the other. -/
theorem slash_markings {digits : Text} (hdigits : '/' ∉ digits) (k : Nat) {a b : Text} {c : Char}
    (h : digits ++ (markings digits k ++ ['/']) = a ++ '/' :: c :: b) :
    c = '+' ∨ a.getLast? = some '+' := by
  induction k generalizing a with
  | zero =>
    -- the only slash is the last character
    have hlength := congrArg List.length h
    rcases List.append_eq_append_iff.1 h with ⟨m, rfl, hm⟩ | ⟨m, rfl, hm⟩
    · have hm' := congrArg List.length hm
      simp only [markings, List.nil_append, List.length_append, List.length_cons, List.length_nil] at hm'
      omega
    · cases m with
      | nil => cases hm
      | cons d m =>
        obtain ⟨rfl, -⟩ := List.cons.inj hm
        exact absurd (List.mem_append_right a List.mem_cons_self) hdigits
  | succ k ih =>
    have hsplit : digits ++ ('/' :: '+' :: '/' :: (digits ++ (markings digits k ++ ['/']))) =
        a ++ '/' :: c :: b := by
      rw [← h]
      show _ = digits ++ (marker ++ (digits ++ markings digits k) ++ ['/'])
      rw [List.append_assoc, List.append_assoc]
      rfl
    rcases List.append_eq_append_iff.1 hsplit with ⟨m, rfl, hm⟩ | ⟨m, rfl, hm⟩
    · match m, hm with
      | [], hm =>
        simp only [List.nil_append, List.cons.injEq] at hm
        exact Or.inl hm.2.1.symm
      | [d], hm =>
        simp only [List.cons_append, List.nil_append, List.cons.injEq] at hm
        exact absurd hm.2.1 (by decide)
      | [d, e], hm =>
        simp only [List.cons_append, List.nil_append, List.cons.injEq] at hm
        obtain ⟨rfl, rfl, -⟩ := hm
        right
        rw [List.getLast?_append]
        rfl
      | d :: e :: f :: m, hm =>
        simp only [List.cons_append, List.cons.injEq] at hm
        obtain ⟨rfl, rfl, rfl, hm⟩ := hm
        rcases ih hm with hc | hlast
        · exact Or.inl hc
        · right
          rw [List.getLast?_append, show ('/' :: '+' :: '/' :: m) = ['/', '+', '/'] ++ m from rfl,
            List.getLast?_append, hlast]
          rfl
    · cases m with
      | nil =>
        simp only [List.nil_append, List.cons.injEq] at hm
        exact Or.inl hm.2.1
      | cons d m =>
        obtain ⟨rfl, -⟩ := List.cons.inj hm
        exact absurd (List.mem_append_right a List.mem_cons_self) hdigits

theorem not_holdsComparison_markings {digits : Text} (hnumber : IsNumber digits) (k : Nat) :
    ¬HoldsComparison (digits ++ markings digits k) := by
  rintro ⟨front, number, base, patch?, rest, hcut, -, hnumber', hrange⟩
  obtain ⟨c, t, hc, hpart⟩ := hrange.head
  have hslash : digits ++ (markings digits k ++ ['/']) =
      (front ++ (marker ++ number)) ++ '/' :: c :: (t ++ '/' :: rest) := by
    rw [← List.append_assoc, hcut, hc]
    simp only [List.append_assoc, List.cons_append]
  rcases slash_markings (not_mem_of_isRun (by decide) hnumber.digits) k hslash with rfl | hlast
  · exact absurd hpart (by decide)
  · -- what stands before that slash is a number
    rw [List.getLast?_append, List.getLast?_append] at hlast
    cases hend : number.getLast? with
    | none => exact hnumber'.ne_nil (List.getLast?_eq_none_iff.1 hend)
    | some d =>
      rw [hend] at hlast
      obtain rfl : d = '+' := Option.some_inj.1 hlast
      exact not_mem_of_isRun (by decide) hnumber'.digits (List.mem_of_getLast? hend)

/-! ### The links -/

theorem escapeSegment_ofNat (n : Nat) : escapeSegment true (Numeral.ofNat n) = Numeral.ofNat n := by
  have hchar : ∀ c ∈ Numeral.ofNat n, Percent.segmentChar true c = [c] := by
    intro c hc
    have hplain : Percent.isUnescaped c = true := by
      simp only [Percent.isUnescaped, Char.isAlphanum, Numeral.isDigit_of_mem_ofNat hc, Bool.or_true,
        Bool.true_or]
    have hne : ∀ d, Percent.isUnescaped d = false → c ≠ d := by
      rintro d hd rfl
      rw [hplain] at hd
      cases hd
    have hslash : ¬(true = true ∧ c = '/') := fun h => hne '/' (by decide) h.2
    unfold Percent.segmentChar
    rw [if_neg (hne ':' (by decide)), if_neg (hne ' ' (by decide)), if_neg hslash, if_pos hplain]
  rw [Percent.escapeSegment_eq_flatMap]
  generalize Numeral.ofNat n = digits at hchar
  induction digits with
  | nil => rfl
  | cons c digits ih =>
    rw [List.flatMap_cons, hchar c List.mem_cons_self,
      ih fun d hd => hchar d (List.mem_cons_of_mem c hd)]
    rfl

section

variable (change : UInt32) (k : Nat)

/-- What stands behind the number after some redirects. -/
def markedTail : Text :=
  markings (Numeral.ofNat change.toNat) k ++ "/x"

theorem isLinkTail_markedTail : IsLinkTail (markedTail change k) := by
  have hplain : ∀ c, c ∉ marker → c.isDigit = false → c ∉ ("/x" : Text) → c ∉ markedTail change k := by
    intro c hmark hdigit hend
    unfold markedTail
    rw [List.mem_append, not_or]
    refine ⟨fun hc => ?_, hend⟩
    rcases mem_markings hc with hc | hc
    · exact hmark hc
    · exact Numeral.not_mem_ofNat hdigit _ hc
  refine ⟨?_, hplain '?' (by decide) (by decide) (by decide), hplain '#' (by decide) (by decide) (by decide),
    hplain '%' (by decide) (by decide) (by decide), ?_⟩
  · cases k with
    | zero => exact ⟨'x', [], rfl, by decide⟩
    | succ k => exact ⟨'+', _, rfl, by decide⟩
  · exact isRun_dot_iff.2 (hplain '\n' (by decide) (by decide) (by decide))

theorem passedBy_markedTail : Route.PassedBy (legacyLink change (markedTail change k)) := by
  have hnumber := isNumber_ofNat change.toNat
  cases k with
  | zero => exact passedBy_legacyLink_x change
  | succ k =>
    have hpath : legacyLink change (markedTail change (k + 1)) =
        changePath (Numeral.ofNat change.toNat ++ markings (Numeral.ofNat change.toNat) k)
          (Numeral.ofNat change.toNat) "/x" := by
      rw [legacyLink, markedTail, markings_succ_eq_append, changePath]
      simp only [List.append_assoc]
    have hdigit : ∀ c ∈ Numeral.ofNat change.toNat, Percent.isSegmentChar c = true := by
      intro c hc
      simp only [Percent.isSegmentChar, Percent.isUnescaped, Char.isAlphanum, Numeral.isDigit_of_mem_ofNat hc,
        Bool.or_true, Bool.true_or]
    have hmark : marker.all Percent.isSegmentChar = true := by decide
    rw [hpath]
    refine Route.passedBy_of_project ?_ (not_holdsComparison_markings hnumber k) hnumber
    intro c hc
    rcases List.mem_append.1 hc with hc | hc
    · exact hdigit c hc
    · rcases mem_markings hc with hc | hc
      · exact List.all_eq_true.1 hmark c hc
      · exact hdigit c hc

/-- The project is written as the number, so the address of the change is an old link. -/
theorem changeRoot_markedTail :
    changeRoot (some (Numeral.ofNat change.toNat)) change ++ markedTail change k =
      legacyLink change (markedTail change (k + 1)) := by
  rw [changeRoot, escapeSegment_ofNat, legacyLink, markedTail, markedTail, markings]
  simp only [List.append_assoc]
  rfl

end

/-! ### Redirects -/

namespace Visit

variable {σ : Type} {s : Session σ} {project : UInt32 → Option Text} {change : UInt32}

/-- One more redirect. -/
theorem exists_next?_legacyLink (hproject : project change = some (Numeral.ofNat change.toNat))
    {v : Visit σ} (hv : v.navigator.IsStandard) (hs : s.Obeys (.knowing project) v.state) {k : Nat}
    (haddress : v.address = legacyLink change (markedTail change k)) :
    v.navigator.route? v.address = some .changeLegacy ∧
      ∃ w, v.next? s = some w ∧ w.navigator.IsStandard ∧ s.Obeys (.knowing project) w.state ∧
        w.address = legacyLink change (markedTail change (k + 1)) := by
  have hne : changeRoot (some (Numeral.ofNat change.toNat)) change ++ markedTail change k ≠
      legacyLink change (markedTail change k) := by
    intro heq
    have hlength := congrArg List.length heq
    have hmark : marker.length = 3 := rfl
    rw [changeRoot_markedTail] at hlength
    simp only [legacyLink, markedTail, markings, List.length_append, hmark] at hlength
    omega
  obtain ⟨hroute, haction⟩ := action_legacyLink hs hv hproject (isLinkTail_markedTail change k)
    (passedBy_markedTail change k) hne
  rw [← haddress] at hroute
  rw [changeRoot_markedTail, ← haddress] at haction
  have hnext := next?_of_action haction
  obtain ⟨hw, hs', -, -⟩ := exists_leadsTo_of_next? hv hs hnext
  exact ⟨hroute, _, hnext, hw, hs', rfl⟩

/-- **Any number of redirects**: if the name of the project is the number of the change, an old link leads to
longer and longer ones. -/
theorem exists_after_legacyLink (hproject : project change = some (Numeral.ofNat change.toNat))
    {v : Visit σ} (hv : v.navigator.IsStandard) (hs : s.Obeys (.knowing project) v.state) {i : Nat}
    (haddress : v.address = legacyLink change (markedTail change i)) (k : Nat) :
    ∃ w, v.after s k = some w ∧ w.address = legacyLink change (markedTail change (i + k)) ∧
      w.navigator.route? w.address = some .changeLegacy := by
  induction k generalizing v i with
  | zero => exact ⟨v, rfl, haddress, (exists_next?_legacyLink hproject hv hs haddress).1⟩
  | succ k ih =>
    obtain ⟨-, w, hnext, hw, hs', hlonger⟩ := exists_next?_legacyLink hproject hv hs haddress
    obtain ⟨x, hafter, hx, hroute⟩ := ih hw hs' hlonger
    refine ⟨x, ?_, ?_, hroute⟩
    · rw [after, hnext]
      exact hafter
    · rw [hx, Nat.succ_add_eq_add_succ]

end Visit

end ReviewRouter
