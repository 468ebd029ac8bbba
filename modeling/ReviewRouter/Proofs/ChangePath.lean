import ReviewRouter.Proofs.Navigation
import ReviewRouter.Proofs.Route.Range

/-!
# Paths below a change

The path of a change is its repository, a marker `/+/`, its number, and a tail.  Repositories may
hold slashes and plus signs themselves, so the marker is not the first one that is found.

* `IsFinal` — a text that no marker reaches into;
* `marker_trichotomy` — the ways to cut a text at a marker;
* `cuts_of_reads_changeRow`, `cases_of_reads_changeRow` — what the rows for a change read;
* `HoldsRow` — a text that goes on like the page of a change behind another marker;
* `match?_changeRow_of_longest`, `match?_changeRow` — **the greedy search cuts at the last marker
  behind which the row reads on, and takes the longest number, or the whole of it**;
* `exists_of_match?_changeRow` — no other reading has a longer repository.
-/

namespace ReviewRouter

open Pattern

/-! ### Cutting texts -/

/-- The mark between a repository and what belongs to it. -/
def marker : Text := "/+/"

theorem marker_append (t : Text) : marker ++ t = '/' :: '+' :: '/' :: t := rfl

theorem isRun_dot_marker : isRun .dot marker :=
  isRun_dot_iff.2 (by decide)

/-- Two marks in one text: they are the same, they share a slash, or one comes after the other. -/
theorem marker_append_cases {x y z : Text} (h : marker ++ y = x ++ (marker ++ z)) :
    (x = [] ∧ y = z) ∨ (x = ['/', '+'] ∧ y = '+' :: '/' :: z) ∨
      ∃ c, x = marker ++ c ∧ y = c ++ (marker ++ z) := by
  rw [marker_append, marker_append] at h
  match x, h with
  | [], h => exact Or.inl ⟨rfl, by simpa using h⟩
  | [a], h =>
    simp only [List.cons_append, List.nil_append, List.cons.injEq] at h
    exact absurd h.2.1 (by decide)
  | [a, b], h =>
    simp only [List.cons_append, List.nil_append, List.cons.injEq] at h
    obtain ⟨rfl, rfl, -, rfl⟩ := h
    exact Or.inr (Or.inl ⟨rfl, rfl⟩)
  | a :: b :: d :: c, h =>
    simp only [List.cons_append, List.cons.injEq] at h
    obtain ⟨rfl, rfl, rfl, rfl⟩ := h
    exact Or.inr (Or.inr ⟨c, rfl, rfl⟩)

/-- No mark reaches into the text, not even one that begins with the slash in front of it. -/
structure IsFinal (y : Text) : Prop where
  inside : ¬marker <:+: y
  front : ¬("+/" : Text) <+: y

theorem IsFinal.of_not_mem {y : Text} (h : '+' ∉ y) : IsFinal y where
  inside := by
    rintro ⟨a, b, rfl⟩
    exact h (List.mem_append_left b (List.mem_append_right a (by decide)))
  front := by
    rintro ⟨b, rfl⟩
    exact h (List.mem_append_left b (by decide))

/-- What stands in front of a slash does not matter if it has no plus sign. -/
theorem IsFinal.append_slash {u y : Text} (hu : '+' ∉ u) (hy : IsFinal y) :
    IsFinal (u ++ '/' :: y) where
  inside := by
    rintro ⟨a, b, hab⟩
    rw [List.append_assoc, marker_append] at hab
    rcases List.append_eq_append_iff.1 hab with ⟨m, rfl, hm⟩ | ⟨m, rfl, hm⟩
    · match m, hm with
      | [], hm =>
        obtain ⟨-, rfl⟩ := List.cons.inj hm
        exact hy.front ⟨b, rfl⟩
      | [c], hm =>
        simp only [List.cons_append, List.nil_append, List.cons.injEq] at hm
        exact absurd hm.2.1 (by decide)
      | c :: d :: m, hm =>
        simp only [List.cons_append, List.cons.injEq] at hm
        exact hu (hm.2.1 ▸ List.mem_append_right a (List.mem_cons_of_mem c List.mem_cons_self))
    · cases m with
      | nil =>
        obtain ⟨-, rfl⟩ := List.cons.inj hm
        exact hy.front ⟨b, rfl⟩
      | cons c m =>
        obtain ⟨-, rfl⟩ := List.cons.inj hm
        exact hy.inside ⟨m, b, by rw [List.append_assoc]; rfl⟩
  front := by
    rintro ⟨b, hb⟩
    cases u with
    | nil =>
      obtain ⟨h, -⟩ := List.cons.inj hb
      exact absurd h (by decide)
    | cons c u =>
      obtain ⟨rfl, -⟩ := List.cons.inj hb
      exact hu List.mem_cons_self

/-- Nor does what stands behind, if it has neither slash nor plus sign. -/
theorem IsFinal.append {y u : Text} (hy : IsFinal y) (hslash : '/' ∉ u) (hplus : '+' ∉ u) :
    IsFinal (y ++ u) where
  inside := by
    rintro ⟨a, b, hab⟩
    rcases List.append_eq_append_iff.1 hab with ⟨m, rfl, hm⟩ | ⟨m, hm, rfl⟩
    · exact hy.inside ⟨a, m, rfl⟩
    · -- the mark would end in `u`
      cases hlast : m.getLast? with
      | none =>
        obtain rfl := List.getLast?_eq_none_iff.1 hlast
        rw [List.append_nil] at hm
        exact hy.inside ⟨a, [], by rw [hm, List.append_nil]⟩
      | some c =>
        have hend := congrArg List.getLast? hm
        rw [List.getLast?_append, List.getLast?_append, hlast] at hend
        have hc : '/' = c := Option.some_inj.1 hend
        exact hslash (List.mem_append_left b (hc ▸ List.mem_of_getLast? hlast))
  front := by
    rintro ⟨b, hprefix⟩
    have hb : '+' :: '/' :: b = y ++ u := hprefix
    match y, hy, hb with
    | [], _, hb =>
      rw [List.nil_append] at hb
      rw [← hb] at hplus
      exact hplus List.mem_cons_self
    | [c], _, hb =>
      have hu : '/' :: b = u := (List.cons.inj hb).2
      rw [← hu] at hslash
      exact hslash List.mem_cons_self
    | c :: d :: y, hy, hb =>
      simp only [List.cons_append, List.cons.injEq] at hb
      obtain ⟨rfl, rfl, -⟩ := hb
      exact hy.front ⟨y, rfl⟩

/-- Two marks with something else than a plus sign and a slash behind them: they are the same, or one
comes after the other. -/
theorem marker_trichotomy {a b x y : Text} (hx : ¬("+/" : Text) <+: x) (hy : ¬("+/" : Text) <+: y)
    (h : a ++ (marker ++ x) = b ++ (marker ++ y)) :
    (a = b ∧ x = y) ∨ (∃ c, b = a ++ (marker ++ c) ∧ x = c ++ (marker ++ y)) ∨
      ∃ c, a = b ++ (marker ++ c) ∧ y = c ++ (marker ++ x) := by
  rcases List.append_eq_append_iff.1 h with ⟨m, rfl, hm⟩ | ⟨m, rfl, hm⟩
  · rcases marker_append_cases hm with ⟨rfl, rfl⟩ | ⟨-, rfl⟩ | ⟨c, rfl, rfl⟩
    · exact Or.inl ⟨(List.append_nil a).symm, rfl⟩
    · exact absurd ⟨y, rfl⟩ hx
    · exact Or.inr (Or.inl ⟨c, rfl, rfl⟩)
  · rcases marker_append_cases hm with ⟨rfl, rfl⟩ | ⟨-, rfl⟩ | ⟨c, rfl, rfl⟩
    · exact Or.inl ⟨List.append_nil b, rfl⟩
    · exact absurd ⟨x, rfl⟩ hy
    · exact Or.inr (Or.inr ⟨c, rfl, rfl⟩)

/-! ### Rows for a change -/

/-- The captures of every row for a change. -/
def changeCaptures (repo digits : Text) : List (Text × Text) :=
  [("change", digits), ("repo", repo)]

/-- The path of a change: repository, number and tail. -/
def changePath (repo digits tail : Text) : Text :=
  "/c/" ++ (repo ++ (marker ++ (digits ++ tail)))

/-- What a row for a change reads. -/
theorem reads_changeRow {tail : List Pattern} {before : Option Char} {w after : Text}
    {cs : List (Text × Text)} (h : Reads (changeRow tail) before w after cs) :
    ∃ repo digits x b cv, w = "/c/" ++ (repo ++ (marker ++ (digits ++ x))) ∧
      cs = cv ++ changeCaptures repo digits ∧ repo ≠ [] ∧ digits ≠ [] ∧
      isRun .dot repo ∧ isRun .digit digits ∧ Reads tail b x after cv := by
  obtain ⟨_, rfl, h₁⟩ := reads_lit.1 h
  obtain ⟨repo, _, _, rfl, rfl, hrepo, hdot, h₂⟩ := reads_capture_plus.1 h₁
  obtain ⟨_, rfl, h₃⟩ := reads_lit.1 h₂
  obtain ⟨digits, x, cv, rfl, rfl, hdigits, hdigit, h₄⟩ := reads_capture_plus.1 h₃
  exact ⟨repo, digits, x, _, cv, rfl, by rw [List.append_assoc]; rfl, hrepo, hdigits, hdot, hdigit,
    h₄⟩

/-- Such a row reads every path of a change whose tail it can read. -/
theorem reads_changeRow_changePath {tail : List Pattern} {repo digits x after : Text}
    {cv : List (Text × Text)} (hrepo : repo ≠ []) (hdot : isRun .dot repo) (hdigits : IsNumber digits)
    (hx : ∀ b, Reads tail b x after cv) (before : Option Char) :
    Reads (changeRow tail) before (changePath repo digits x) after (cv ++ changeCaptures repo digits) := by
  refine reads_lit.2 ⟨_, rfl, ?_⟩
  refine reads_capture_plus.2 ⟨repo, _, cv ++ [("change".toList, digits)], rfl, ?_, hrepo, hdot, ?_⟩
  · rw [List.append_assoc]
    rfl
  · refine reads_lit.2 ⟨_, rfl, ?_⟩
    exact reads_capture_plus.2 ⟨digits, x, cv, rfl, rfl, hdigits.ne_nil, hdigits.digits, hx _⟩

theorem IsNumber.ne_plusSlash {digits : Text} (h : IsNumber digits) (t : Text) :
    ¬("+/" : Text) <+: digits ++ t := by
  rintro ⟨u, hu⟩
  cases digits with
  | nil => exact h.ne_nil rfl
  | cons d digits =>
    obtain ⟨rfl, -⟩ := List.cons.inj hu
    exact not_mem_of_isRun (by decide) h.digits List.mem_cons_self

/-- What a row for a change makes of the path of a change: it cuts at the same mark, at one inside the
repository, or at one behind the number. -/
theorem cuts_of_reads_changeRow {tail : List Pattern} {w r repo y : Text} {cs : List (Text × Text)}
    (h : Reads (changeRow tail) none w r cs) (hy : ¬("+/" : Text) <+: y)
    (hpath : w ++ r = "/c/" ++ (repo ++ (marker ++ y))) :
    ∃ repo' digits x b cv, repo' ≠ [] ∧ isRun .dot repo' ∧ IsNumber digits ∧ Reads tail b x r cv ∧
      ((repo' = repo ∧ digits ++ (x ++ r) = y) ∨
        (∃ c, repo = repo' ++ (marker ++ c) ∧ digits ++ (x ++ r) = c ++ (marker ++ y)) ∨
        ∃ c, repo' = repo ++ (marker ++ c) ∧ y = c ++ (marker ++ (digits ++ (x ++ r)))) := by
  obtain ⟨repo', digits, x, b, cv, rfl, -, hrepo, hdigits, hdot, hdigit, hx⟩ := reads_changeRow h
  have hnumber : IsNumber digits := ⟨hdigits, hdigit⟩
  refine ⟨repo', digits, x, b, cv, hrepo, hdot, hnumber, hx, ?_⟩
  have hcut : repo' ++ (marker ++ (digits ++ (x ++ r))) = repo ++ (marker ++ y) := by
    simp only [List.append_assoc] at hpath
    exact List.append_cancel_left hpath
  rcases marker_trichotomy (hnumber.ne_plusSlash _) hy hcut with h | ⟨c, hc, hx⟩ | ⟨c, hc, hx⟩
  · exact Or.inl h
  · exact Or.inr (Or.inl ⟨c, hc, hx⟩)
  · exact Or.inr (Or.inr ⟨c, hc, hx⟩)

/-- If the number and the tail are final, no other mark comes after the number. -/
theorem cases_of_reads_changeRow {tail : List Pattern} {w r repo y : Text} {cs : List (Text × Text)}
    (h : Reads (changeRow tail) none w r cs) (hy : IsFinal y)
    (hpath : w ++ r = "/c/" ++ (repo ++ (marker ++ y))) :
    ∃ repo' digits x b cv, repo' ≠ [] ∧ IsNumber digits ∧ Reads tail b x r cv ∧
      ((repo' = repo ∧ digits ++ (x ++ r) = y) ∨
        ∃ c, repo = repo' ++ (marker ++ c) ∧ digits ++ (x ++ r) = c ++ (marker ++ y)) := by
  obtain ⟨repo', digits, x, b, cv, hrepo, -, hnumber, hx, hcut⟩ := cuts_of_reads_changeRow h hy.front hpath
  refine ⟨repo', digits, x, b, cv, hrepo, hnumber, hx, ?_⟩
  rcases hcut with hsame | hinside | ⟨c, -, rfl⟩
  · exact Or.inl hsame
  · exact Or.inr hinside
  · exact absurd ⟨c, digits ++ (x ++ r), List.append_assoc _ _ _⟩ hy.inside

/-- Behind the number a tail that does not begin with a digit stands alone. -/
theorem tail_eq_of_digits_eq {digits digits' x y : Text} (h : isRun .digit digits)
    (h' : isRun .digit digits') (hx : ∀ c, x.head? = some c → isDecimalDigit c = false)
    (hy : ∀ c, y.head? = some c → isDecimalDigit c = false) (heq : digits ++ x = digits' ++ y) :
    digits = digits' ∧ x = y := by
  have hend : ∀ {z : Text}, (∀ c, z.head? = some c → isDecimalDigit c = false) →
      ∀ c, z.head? = some c → ¬isDecimalDigit c = true := by
    intro z hz c hc
    rw [hz c hc]
    exact Bool.false_ne_true
  exact span_unique h h' (hend hx) (hend hy) heq

/-- Behind a mark in the text stand a number and something that the row reads. -/
def HoldsRow (tail : List Pattern) (t : Text) : Prop :=
  ∃ front digits x r b cv, t = front ++ (marker ++ (digits ++ (x ++ r))) ∧ IsNumber digits ∧
    Reads tail b x r cv

theorem IsFinal.not_holdsRow {y : Text} (h : IsFinal y) (tail : List Pattern) : ¬HoldsRow tail y := by
  rintro ⟨front, digits, x, r, b, cv, rfl, -⟩
  exact h.inside ⟨front, digits ++ (x ++ r), List.append_assoc _ _ _⟩

/-- The greedy search cuts at the last mark behind which the row reads on, and takes the longest
number behind which the tail reads on. -/
theorem match?_changeRow_of_longest (tail : List Pattern) {repo digits t : Text}
    {cs : List (Text × Text)} (hrepo : repo ≠ []) (hdot : isRun .dot repo) (hdigits : IsNumber digits)
    (hlonger : ∀ b x u r cs', t = x ++ (u ++ r) → x ≠ [] → isRun .digit x → ¬Reads tail b u r cs')
    (hlast : ¬HoldsRow tail (digits ++ t)) (hreads : ∀ b, Reads tail b t [] cs)
    (hunique : ∀ b w r cs', t = w ++ r → Reads tail b w r cs' → cs' = cs) :
    (row (changeRow tail)).matchAt? none (changePath repo digits t) =
      some (cs ++ changeCaptures repo digits) := by
  rw [matchAt?, changeRow, changePath, run_lit]
  refine run_capture_plus_of_longest hrepo hdot ?_ ?_
  · rw [marker, run_lit]
    refine run_capture_plus_of_longest hdigits.ne_nil hdigits.digits ?_ ?_
    · rw [← List.append_nil t]
      refine run_row_of_unique (hreads _) ?_
      intro w r cs' hw hr
      rw [List.append_nil] at hw
      exact hunique _ w r cs' hw hr
    · intro x u r cs' hx hne hrun hr
      exact hlonger _ x u r cs' hx hne hrun hr
  · -- a longer repository would end at another mark
    intro x u r cs' hx hne _ hread
    obtain ⟨v, rfl, hv⟩ := reads_lit.1 hread
    obtain ⟨digits', v, cv, rfl, -, hdigits', hdigit', hv⟩ := reads_capture_plus.1 hv
    simp only [List.append_assoc] at hx
    rcases marker_append_cases hx with ⟨rfl, -⟩ | ⟨-, hplus⟩ | ⟨c, -, hc⟩
    · exact hne rfl
    · exact hdigits.ne_plusSlash t ⟨_, hplus.symm⟩
    · exact hlast ⟨c, digits', v, r, _, cv, hc, ⟨hdigits', hdigit'⟩, hv⟩

/-- **The greedy search cuts at the last mark behind which the row reads on, and takes the whole
number.** -/
theorem match?_changeRow (tail : List Pattern) {repo digits t : Text} {cs : List (Text × Text)}
    (hrepo : repo ≠ []) (hdot : isRun .dot repo) (hdigits : IsNumber digits)
    (ht : ∀ c, t.head? = some c → isDecimalDigit c = false) (hlast : ¬HoldsRow tail (digits ++ t))
    (hreads : ∀ b, Reads tail b t [] cs)
    (hunique : ∀ b w r cs', t = w ++ r → Reads tail b w r cs' → cs' = cs) :
    (row (changeRow tail)).matchAt? none (changePath repo digits t) =
      some (cs ++ changeCaptures repo digits) := by
  refine match?_changeRow_of_longest tail hrepo hdot hdigits ?_ hlast hreads hunique
  -- a longer number would have to go on with the tail
  intro b x u r cs' hx hne hrun _
  cases x with
  | nil => exact hne rfl
  | cons c x =>
    have hc := ht c (by rw [hx]; rfl)
    have hmem : isDecimalDigit c = true := hrun c List.mem_cons_self
    rw [hc] at hmem
    cases hmem

/-- A match has the longest repository of all readings of the path. -/
theorem exists_of_match?_changeRow {tail : List Pattern} {path : Text} {found : List (Text × Text)}
    (h : (row (changeRow tail)).matchAt? none path = some found) :
    ∃ repo digits x r b cv, path = changePath repo digits (x ++ r) ∧
      found = cv ++ changeCaptures repo digits ∧ repo ≠ [] ∧ IsNumber digits ∧ Reads tail b x r cv ∧
      ∀ repo' digits' x' r' cv', path = changePath repo' digits' (x' ++ r') → repo' ≠ [] →
        isRun .dot repo' → IsNumber digits' → (∀ b, Reads tail b x' r' cv') →
          repo'.length ≤ repo.length := by
  obtain ⟨w, r, rfl, hreads⟩ := exists_reads_of_matchAt? h
  obtain ⟨repo, digits, x, b, cv, rfl, rfl, hrepo, hdigits, -, hdigit, hx⟩ := reads_changeRow hreads
  refine ⟨repo, digits, x, r, b, cv, ?_, rfl, hrepo, ⟨hdigits, hdigit⟩, hx, ?_⟩
  · simp only [changePath, List.append_assoc]
  · intro repo' digits' x' r' cv' hpath hrepo' hdot' hdigits' hx'
    have hrest : Reads (lit marker ++ .capture "change" (plus .digit) :: tail)
        (lastChar (lastChar none "/c/".toList) repo') (marker ++ (digits' ++ x')) r'
        (cv' ++ [("change".toList, digits')]) :=
      reads_lit.2 ⟨_, rfl, reads_capture_plus.2 ⟨digits', x', cv', rfl, rfl, hdigits'.ne_nil,
        hdigits'.digits, hx' _⟩⟩
    obtain ⟨longest, cs, hle, hmatch⟩ := exists_longest_capture_plus "repo" [] hrepo' hdot' hrest
    rw [hpath, matchAt?, changeRow, changePath, run_lit] at h
    simp only [List.append_assoc] at hmatch
    have hsame := congrArg List.getLast? (Option.some_inj.1 (h.symm.trans hmatch))
    rw [changeCaptures, List.getLast?_append, List.getLast?_append] at hsame
    have hlongest : repo = longest := (Prod.mk.inj (Option.some_inj.1 hsame)).2
    rw [hlongest]
    exact hle

end ReviewRouter
