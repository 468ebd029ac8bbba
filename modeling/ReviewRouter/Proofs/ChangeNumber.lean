import ReviewRouter.Proofs.ChangeTail
import ReviewRouter.Proofs.RoundTrip.Basic

/-!
# The number of a change

The slash in front of a patch range may be missing, so the route of a change may cut inside a run of
digits: the first ones are the number of the change, and the others begin the range.  The search is
greedy, and does so only if it finds nothing else.

* `exists_of_match?_change` — the route cuts at the only mark, and takes some digits of the run;
* `exists_of_reads_spare` — what can stand behind digits that are left over;
* `match?_change_of_secondHalf` — behind two dots it is the last digit that is left over;
* `RouteTable.number_of_change` — **the number is the whole run, unless the second half of a range
  stands right behind it**.
-/

namespace ReviewRouter

open Pattern

variable {repo digits t : Text}

/-! ### Cuts inside a run of digits -/

/-- A number does not lengthen a mark. -/
theorem IsNumber.isFinal_append (hdigits : IsNumber digits) (ht : ¬marker <:+: t) :
    IsFinal (digits ++ t) where
  inside := by
    rintro ⟨a, b, hab⟩
    rw [List.append_assoc] at hab
    rcases List.append_eq_append_iff.1 hab with ⟨m, rfl, hm⟩ | ⟨m, rfl, hm⟩
    · cases m with
      | nil => exact ht ⟨[], b, hm⟩
      | cons c m =>
        -- the mark would begin with a digit
        obtain ⟨rfl, -⟩ := List.cons.inj hm
        exact not_mem_of_isRun (by decide) hdigits.digits (List.mem_append_right a List.mem_cons_self)
    · exact ht ⟨m, b, by rw [hm, List.append_assoc]⟩
  front := hdigits.ne_plusSlash t

/-- The route of a change cuts at the only mark, and takes some of the digits behind it. -/
theorem exists_of_match?_change {found : List (Text × Text)} (hrepo : ¬marker <:+: repo)
    (hfinal : IsFinal (digits ++ t))
    (hmatch : Route.change.match? (changePath repo digits t) = some found) :
    repo ≠ [] ∧ isRun .dot repo ∧ ∃ taken x b cv, taken ++ x = digits ++ t ∧ IsNumber taken ∧
      Reads changeTail b x [] cv ∧ found = cv ++ changeCaptures repo taken := by
  obtain ⟨w, r, hpath, hreads⟩ := exists_reads_of_matchAt? hmatch
  obtain ⟨repo', taken, x, b, cv, rfl, rfl, hne, htaken, hdot, hdigit, hx⟩ := reads_changeRow hreads
  obtain ⟨rfl, -⟩ := exists_of_reads_changeTail hx
  have hnumber : IsNumber taken := ⟨htaken, hdigit⟩
  have hcut : repo' ++ (marker ++ (taken ++ x)) = repo ++ (marker ++ (digits ++ t)) := by
    rw [List.append_nil] at hpath
    exact (List.append_cancel_left hpath).symm
  rcases marker_trichotomy (hnumber.ne_plusSlash _) hfinal.front hcut with
    ⟨rfl, hsame⟩ | ⟨c, rfl, -⟩ | ⟨c, -, hbehind⟩
  · exact ⟨hne, hdot, taken, x, b, cv, hsame, hnumber, hx, rfl⟩
  · exact absurd ⟨repo', c, List.append_assoc _ _ _⟩ hrepo
  · exact absurd ⟨c, taken ++ x, by rw [hbehind, List.append_assoc]⟩ hfinal.inside

/-- What is left over of a run of digits stands in front of the tail. -/
theorem exists_spare {taken x : Text} (ht : ∀ c, t.head? = some c → isDecimalDigit c = false)
    (hdigits : isRun .digit digits) (htaken : isRun .digit taken) (hcut : taken ++ x = digits ++ t) :
    ∃ spare, digits = taken ++ spare ∧ x = spare ++ t ∧ isRun .digit spare := by
  rcases List.append_eq_append_iff.1 hcut with ⟨spare, rfl, rfl⟩ | ⟨m, rfl, rfl⟩
  · exact ⟨spare, rfl, rfl, (isRun_append.1 hdigits).2⟩
  · cases m with
    | nil => exact ⟨[], by simp only [List.append_nil], rfl, isRun_nil _⟩
    | cons c m =>
      have hc := (isRun_cons.1 (isRun_append.1 htaken).2).1
      rw [show CharSet.mem .digit c = isDecimalDigit c from rfl, ht c rfl] at hc
      cases hc

/-! ### Digits that are left over -/

theorem head_patchText {patch? : Option Text} {back : Text} (hback : IsSlash? back) {c : Char}
    (hc : (patchText patch? ++ back).head? = some c) : isDecimalDigit c = false := by
  cases patch? with
  | none =>
    rcases hback with rfl | rfl
    · cases hc
    · obtain rfl := Option.some_inj.1 hc
      decide
  | some patch =>
    obtain rfl := Option.some_inj.1 hc
    decide

/-- Digits that are left over are the first half of a range. -/
theorem exists_of_reads_spare {spare r : Text} {b : Option Char} {cv : List (Text × Text)}
    (ht : ∀ c, t.head? = some c → isDecimalDigit c = false) (hspare : IsNumber spare)
    (hreads : Reads changeTail b (spare ++ t) r cv) :
    r = [] ∧ ∃ patch? back, t = patchText patch? ++ back ∧ IsSlash? back ∧
      (∀ patch, patch? = some patch → IsPatchText patch) ∧ cv = rangeCaptures spare patch? := by
  obtain ⟨first, rest, rfl⟩ := List.exists_cons_of_ne_nil hspare.ne_nil
  have hfirst : isDecimalDigit first = true := hspare.digits first List.mem_cons_self
  have hnot : ∀ c u, first :: rest ++ t = c :: u → isDecimalDigit c = false → False := by
    intro c u hcu hc
    obtain ⟨rfl, -⟩ := List.cons.inj hcu
    rw [hc] at hfirst
    cases hfirst
  rcases exists_of_reads_changeTail hreads with
    ⟨rfl, ⟨hslash, -⟩ | ⟨front, base, patch?, back, hw, hfront, hback, hrange, rfl⟩⟩
  · rcases hslash with hnil | hslash
    · cases hnil
    · exact (hnot '/' [] hslash (by decide)).elim
  · rcases hfront with rfl | rfl
    · rw [List.nil_append, rangeText, List.append_assoc] at hw
      rcases hrange.base with (hnumber | ⟨v, rfl, -⟩) | rfl
      · obtain ⟨rfl, rfl⟩ := tail_eq_of_digits_eq hspare.digits hnumber.digits ht
          (fun c hc => head_patchText hback hc) hw
        exact ⟨rfl, patch?, back, rfl, hback, hrange.patch, rfl⟩
      · exact (hnot '-' _ hw (by decide)).elim
      · exact (hnot 'e' _ hw (by decide)).elim
    · exact (hnot '/' _ hw (by decide)).elim

/-- The second half of a range, right behind the number. -/
def IsSecondHalf (t : Text) : Prop :=
  ∃ patch back, t = ".." ++ (patch ++ back) ∧ IsPatchText patch ∧ IsSlash? back

theorem IsSecondHalf.head (h : IsSecondHalf t) {c : Char} (hc : t.head? = some c) : c = '.' := by
  obtain ⟨patch, back, rfl, -⟩ := h
  exact (Option.some_inj.1 hc).symm

/-- It does not stand alone. -/
theorem IsSecondHalf.not_reads {w r : Text} (h : IsSecondHalf (w ++ r)) (b : Option Char)
    (cs : List (Text × Text)) : ¬Reads changeTail b w r cs := by
  intro hreads
  obtain ⟨patch, back, hw, -⟩ := h
  rcases exists_of_reads_changeTail hreads with
    ⟨rfl, ⟨hslash, -⟩ | ⟨front, base, patch?, back', rfl, hfront, -, hrange, -⟩⟩
  · rw [List.append_nil] at hw
    rcases hslash with rfl | rfl <;> cases hw
  · obtain ⟨c, u, hc, hpart⟩ := hrange.head
    rw [List.append_nil, hc] at hw
    rcases hfront with rfl | rfl
    · obtain ⟨rfl, -⟩ := List.cons.inj hw
      exact absurd hpart (by decide)
    · cases hw

/-- If the number takes the digit in front of it as well, what remains is not read. -/
theorem IsSecondHalf.not_reads_behind (ht : IsSecondHalf t) {last : Char} {x w r : Text}
    (hx : last :: t = x ++ (w ++ r)) (hne : x ≠ []) (hrun : isRun .digit x) (b : Option Char)
    (cs : List (Text × Text)) : ¬Reads changeTail b w r cs := by
  obtain ⟨c, x, rfl⟩ := List.exists_cons_of_ne_nil hne
  obtain ⟨-, hrest⟩ := List.cons.inj hx
  cases x with
  | nil =>
    rw [show t = w ++ r from hrest] at ht
    exact ht.not_reads b cs
  | cons d x =>
    have hd : isDecimalDigit d = true := (isRun_cons.1 (isRun_cons.1 hrun).2).1
    obtain rfl : d = '.' := ht.head (by rw [hrest]; rfl)
    exact absurd hd (by decide)

/-- Behind two dots the last digit of the run is left over, and begins a range. -/
theorem match?_change_of_secondHalf {last : Char} (hrepo : repo ≠ []) (hdot : isRun .dot repo)
    (hdigits : IsNumber digits) (hlast : isDecimalDigit last = true)
    (hfinal : IsFinal (digits ++ (last :: t))) (ht : IsSecondHalf t) :
    ∃ patch, Route.change.match? (changePath repo digits (last :: t)) =
      some (rangeCaptures [last] (some patch) ++ changeCaptures repo digits) := by
  have hspare : IsNumber [last] := ⟨List.cons_ne_nil _ _, isRun_cons.2 ⟨hlast, isRun_nil _⟩⟩
  have hhead : ∀ c, t.head? = some c → isDecimalDigit c = false := by
    intro c hc
    rw [ht.head hc]
    decide
  obtain ⟨patch, back, htext, hpatch, hback⟩ := id ht
  have hrange : IsRange [last] (some patch) := by
    refine ⟨Or.inl (Or.inl hspare), ?_⟩
    rintro _ ⟨⟩
    exact hpatch
  refine ⟨patch, match?_changeRow_of_longest changeTail hrepo hdot hdigits ?_
    (hfinal.not_holdsRow _) ?_ ?_⟩
  · exact fun b x u r cs' hx hne hrun => ht.not_reads_behind hx hne hrun b cs'
  · intro b
    refine reads_maybe.2 (Or.inl ⟨rangeText [last] (some patch), back, _, [], ?_, rfl, ?_,
      reads_slashEnd hback _⟩)
    · rw [htext]
      rfl
    · have hread : Reads [.capture "base" basePart, rangePart] b
          (rangeText [last] (some patch) ++ []) (back ++ [])
          ([] ++ rangeCaptures [last] (some patch)) := reads_range hrange fun _ => ⟨rfl, rfl⟩
      rw [List.append_nil (rangeText _ _)] at hread
      exact (spells_row _ _ _ _ _).2 (reads_maybe_char.2 (Or.inr hread))
  · intro b w r cs' hw hreads
    obtain ⟨hr, -⟩ := exists_of_reads_changeTail hreads
    rw [hr, List.append_nil] at hw
    rw [← hw] at hreads
    obtain ⟨-, patch?, back', htext', hback', hpatch', rfl⟩ :=
      exists_of_reads_spare hhead hspare hreads
    have hrange' : IsRange [last] patch? := ⟨Or.inl (Or.inl hspare), hpatch'⟩
    have hsame : rangeText [last] patch? ++ back' = rangeText [last] (some patch) ++ back := by
      rw [rangeText, List.append_assoc, ← htext', htext]
      rfl
    obtain ⟨-, rfl, -⟩ := rangeText_unique hrange' hrange (fun _ => hback'.head_eq)
      (fun _ => hback.head_eq) hsame
    rfl

/-! ### The number that is captured -/

/-- Behind the whole run the route of a change captures nothing that hides the number. -/
theorem lookup_change_of_reads {b : Option Char} {w r : Text} {cv : List (Text × Text)}
    (h : Reads changeTail b w r cv) : cv.lookup "change".toList = none := by
  rcases exists_of_reads_changeTail h with ⟨-, ⟨-, rfl⟩ | ⟨-, base, patch?, -, -, -, -, -, rfl⟩⟩
  · rfl
  · cases patch? <;> rfl

/-- **What the route of a change takes of a run of digits**: the whole, or all but the last one if the
second half of a range stands behind it. -/
theorem cases_of_match?_change {found : List (Text × Text)} (hrepo : ¬marker <:+: repo)
    (htail : ¬marker <:+: t) (hdigits : IsNumber digits)
    (ht : ∀ c, t.head? = some c → isDecimalDigit c = false)
    (hmatch : Route.change.match? (changePath repo digits t) = some found) :
    (¬IsSecondHalf t ∧ found.lookup "change".toList = some digits) ∨
      (IsSecondHalf t ∧ ∃ taken last patch, digits = taken ++ [last] ∧ taken ≠ [] ∧
        found = rangeCaptures [last] (some patch) ++ changeCaptures repo taken) := by
  have hfinal := hdigits.isFinal_append htail
  obtain ⟨hne, hdot, taken, x, b, cv, hcut, htaken, hx, rfl⟩ := exists_of_match?_change hrepo hfinal hmatch
  obtain ⟨spare, rfl, rfl, hspare⟩ := exists_spare ht hdigits.digits htaken.digits hcut
  rcases List.eq_nil_or_concat spare with rfl | ⟨spare, last, hspares⟩
  · -- the whole run is taken
    refine Or.inl ⟨fun h => IsSecondHalf.not_reads ((List.append_nil t).symm ▸ h) b cv hx, ?_⟩
    rw [List.append_nil, List.lookup_append, lookup_change_of_reads hx]
    rfl
  · obtain rfl := hspares.trans (List.concat_eq_append)
    have hspare' : IsNumber (spare ++ [last]) := ⟨by simp, hspare⟩
    obtain ⟨-, patch?, back, rfl, hback, hpatch, -⟩ := exists_of_reads_spare ht hspare' hx
    cases patch? with
    | none =>
      -- then the search would have taken the whole run
      have hwhole : Route.change.match?
          (changePath repo (taken ++ (spare ++ [last])) (patchText none ++ back)) =
            some ([] ++ changeCaptures repo (taken ++ (spare ++ [last]))) :=
        match?_changeRow changeTail hne hdot hdigits ht (hfinal.not_holdsRow _)
          (reads_changeTail_slash hback) fun _ _ _ _ => unique_changeTail_slash hback
      have hsame := congrArg (List.lookup "change".toList)
        (Option.some_inj.1 (hmatch.symm.trans hwhole))
      rw [List.lookup_append, lookup_change_of_reads hx] at hsame
      have htaken' : taken = taken ++ (spare ++ [last]) := Option.some_inj.1 hsame
      have hnil := List.append_cancel_left ((List.append_nil taken).trans htaken')
      exact absurd hnil.symm hspare'.ne_nil
    | some patch =>
      have hsecond : IsSecondHalf (patchText (some patch) ++ back) :=
        ⟨patch, back, List.append_assoc _ _ _, hpatch patch rfl, hback⟩
      have hlast : isDecimalDigit last = true :=
        hspare last (List.mem_append_right spare List.mem_cons_self)
      have hfront : IsNumber (taken ++ spare) :=
        ⟨fun h => htaken.ne_nil (List.append_eq_nil_iff.1 h).1,
          isRun_append.2 ⟨htaken.digits, (isRun_append.1 hspare).1⟩⟩
      have hmove : taken ++ (spare ++ [last]) ++ (patchText (some patch) ++ back) =
          taken ++ spare ++ last :: (patchText (some patch) ++ back) := by
        simp only [List.append_assoc, List.cons_append, List.nil_append]
      have hpath : changePath repo (taken ++ (spare ++ [last])) (patchText (some patch) ++ back) =
          changePath repo (taken ++ spare) (last :: (patchText (some patch) ++ back)) := by
        rw [changePath, changePath, hmove]
      rw [hmove] at hfinal
      obtain ⟨patch', hfound⟩ := match?_change_of_secondHalf hne hdot hfront hlast hfinal hsecond
      rw [← hpath, hmatch] at hfound
      exact Or.inr ⟨hsecond, taken ++ spare, last, patch', (List.append_assoc _ _ _).symm, hfront.ne_nil,
        Option.some_inj.1 hfound⟩

namespace RouteTable

/-- **The number that is captured of a change is the whole run of digits, unless the second half of a
range stands right behind it.**  Then its last digit is captured as the first half, and the number is
what is left.  For every repository and every tail that hold no other mark. -/
theorem number_of_change {table : RouteTable} (htable : standard = .ok table)
    (hrepo : ¬marker <:+: repo) (htail : ¬marker <:+: t) (hdigits : IsNumber digits)
    (ht : ∀ c, t.head? = some c → isDecimalDigit c = false) {e : RouteEntry} {c : Captures}
    (hmatch : table.match? (changePath repo digits t) = some (e, c)) (hroute : e.route = .change) :
    (c.get? "change" = some digits ↔ ¬IsSecondHalf t) ∧
      (IsSecondHalf t → ∃ taken last, digits = taken ++ [last] ∧ taken ≠ [] ∧
        c.get? "change" = some taken ∧ c.get? "base" = some [last]) := by
  rw [eq_of_standard htable] at hmatch
  obtain ⟨r, found, rfl, rfl, hfound, -⟩ := Route.exists_of_match?_standard hmatch
  obtain rfl : r = .change := hroute
  have hread : ∀ (name : Text) {value : Text}, isRun .digit value → found.lookup name = some value →
      (Route.change.captured found).get? name = some value := by
    intro name value hvalue hlookup
    rw [Route.get?_captured, hlookup]
    exact congrArg some (Percent.unescapeValue_plain value (not_mem_of_isRun (by decide) hvalue)
      (not_mem_of_isRun (by decide) hvalue))
  rcases cases_of_match?_change hrepo htail hdigits ht hfound with
    ⟨hwhole, hchange⟩ | ⟨hsecond, taken, last, patch, rfl, hne, rfl⟩
  · exact ⟨iff_of_true (hread "change" hdigits.digits hchange) hwhole, fun h => absurd h hwhole⟩
  · obtain ⟨htaken, hlast⟩ := isRun_append.1 hdigits.digits
    have hchange := hread "change" htaken rfl
    refine ⟨iff_of_false ?_ (not_not_intro hsecond), fun _ =>
      ⟨taken, last, rfl, hne, hchange, hread "base" hlast rfl⟩⟩
    rw [hchange, Option.some_inj]
    intro hsame
    have hnil := List.append_cancel_left ((List.append_nil taken).trans hsame)
    cases hnil

/-- What is captured of `/c/p/+/123..5`. -/
def cutSample : Captures :=
  Route.change.captured (rangeCaptures "3" (some "5") ++ changeCaptures "p" "12")

/-- Change 123 up to patch set 5 is shown as change 12 between patch sets 3 and 5. -/
theorem number_cut :
    RouteTable.match? (Route.all.map Route.entry) "/c/p/+/123..5" = some (Route.change.entry, cutSample) ∧
      cutSample.get? "change" = some "12" ∧ cutSample.get? "base" = some "3" ∧
      cutSample.get? "patch" = some "5" := by
  decide +kernel

theorem number_of_change_sample :
    standard = .ok (Route.all.map Route.entry) ∧ ¬marker <:+: ("p" : Text) ∧
      ¬marker <:+: ("..5" : Text) ∧ IsNumber "123" ∧ IsSecondHalf "..5" ∧
      RouteTable.match? (Route.all.map Route.entry) (changePath "p" "123" "..5") =
        some (Route.change.entry, cutSample) ∧
      cutSample.get? "change" ≠ some "123" ∧
      ∃ taken last, "123".toList = taken ++ [last] ∧ taken ≠ [] ∧
        cutSample.get? "change" = some taken ∧ cutSample.get? "base" = some [last] := by
  have hrepo : ¬marker <:+: ("p" : Text) := by decide +kernel
  have htail : ¬marker <:+: ("..5" : Text) := by decide +kernel
  have hdigits : IsNumber "123" := ⟨by decide, List.all_eq_true.1 (by decide)⟩
  have hhead : ∀ c, ("..5" : Text).head? = some c → isDecimalDigit c = false := by
    rintro c ⟨⟩
    decide
  have hsecond : IsSecondHalf "..5" :=
    ⟨"5", [], rfl, Or.inl ⟨by decide, List.all_eq_true.1 (by decide)⟩, Or.inl rfl⟩
  have hmatch : RouteTable.match? (Route.all.map Route.entry) (changePath "p" "123" "..5") =
      some (Route.change.entry, cutSample) := by decide +kernel
  obtain ⟨hwhole, hcut⟩ :=
    number_of_change standard_eq hrepo htail hdigits hhead hmatch rfl
  exact ⟨standard_eq, hrepo, htail, hdigits, hsecond, hmatch, fun h => hwhole.1 h hsecond, hcut hsecond⟩

end RouteTable

end ReviewRouter
