import ReviewRouter.Proofs.Shell.Steps

/-!
# The navigation that began last wins

Navigations come to their end in any order, and some of them begin others.  Only the one that began
last has an effect, so once none is under way, the page on display is the one that it led to.

* `Shell.Tasks` — what holds of the navigations under way and of those that have come to their end;
* `Shell.Inv` — the invariant of the system, with what is on display;
* `Tasks.begins`, `Inv.complete`, `Inv.goesOn` — what one step preserves;
* `Shell.inv_of_run` — **the invariant holds in every run**;
* `Shell.last_navigation_wins` — **the navigation that began last wins**.
-/

namespace ReviewRouter

namespace Shell

variable {es : List ShellEvent} {s s' rest : Shell}

/-! ### The invariant -/

/-- No two navigations under way have one number, none has a number that has not been given out, and
those that have come to their end are under way no more. -/
structure Tasks (es : List ShellEvent) (s : Shell) : Prop where
  nodup : s.underWay.Nodup
  bounded : ∀ seq ∈ s.underWay, seq ≤ s.navigator.issued
  past : ∀ done, .complete done ∈ es → done.seq ≤ s.navigator.issued ∧ done.seq ∉ s.underWay

/-- The navigation that began last is under way or has come to its end, and then its page is on
display. -/
structure Inv (es : List ShellEvent) (s : Shell) : Prop extends Tasks es s where
  latest : s.navigator.issued ∈ s.underWay ∨ ∃ a, .complete ⟨s.navigator.issued, a⟩ ∈ es
  shown : ∀ a, .complete ⟨s.navigator.issued, a⟩ ∈ es → s.Shows a

/-! ### One step -/

/-- Another event comes after those that have happened. -/
theorem mem_append_iff {e e' : ShellEvent} (h : e ≠ e') : e ∈ es ++ [e'] ↔ e ∈ es := by
  rw [List.mem_append, List.mem_singleton, or_iff_left h]

/-- After an event that ends no navigation, the same ones have come to their end. -/
theorem Tasks.append (h : Tasks es s) {e : ShellEvent} (he : ∀ done, e ≠ .complete done) :
    Tasks (es ++ [e]) s where
  nodup := h.nodup
  bounded := h.bounded
  past done hdone := h.past done ((mem_append_iff (he done).symm).1 hdone)

/-- A navigation that begins is the last one, and has the display to come. -/
theorem Tasks.begins (h : Tasks es s) (hbegins : s.Begins s') : Inv es s' where
  nodup := by
    have hfresh : s'.navigator.issued ∉ s.underWay := by
      intro hmem
      have hle := h.bounded _ hmem
      rw [hbegins.issued] at hle
      omega
    exact hbegins.tasks.nodup_iff.2 (List.nodup_cons.2 ⟨hfresh, h.nodup⟩)
  bounded seq hseq := by
    rw [hbegins.tasks.mem_iff, List.mem_cons] at hseq
    rcases hseq with heq | hmem
    · exact Nat.le_of_eq heq
    · have hle := h.bounded seq hmem
      rw [hbegins.issued]
      omega
  past done hdone := by
    obtain ⟨hle, hgone⟩ := h.past done hdone
    rw [hbegins.tasks.mem_iff, List.mem_cons, not_or, hbegins.issued]
    exact ⟨by omega, by omega, hgone⟩
  latest := Or.inl (hbegins.tasks.mem_iff.2 List.mem_cons_self)
  shown a ha := by
    -- the number is new, so no navigation with it has come to its end
    have hle : s'.navigator.issued ≤ s.navigator.issued := (h.past _ ha).1
    rw [hbegins.issued] at hle
    omega

/-- The navigation that comes to its end is under way no more. -/
theorem Tasks.loses (h : Tasks es s) {done : Navigation} (htask : s.Loses done.seq rest) :
    Tasks (es ++ [.complete done]) rest := by
  have hnodup := List.nodup_cons.1 (htask.tasks.nodup_iff.1 h.nodup)
  have hissued := congrArg Navigator.issued htask.navigator
  have hsub : ∀ seq ∈ rest.underWay, seq ∈ s.underWay := by
    intro seq hseq
    exact htask.tasks.mem_iff.2 (List.mem_cons_of_mem _ hseq)
  refine ⟨hnodup.2, ?_, ?_⟩
  · intro seq hseq
    rw [hissued]
    exact h.bounded seq (hsub seq hseq)
  · intro done' hdone'
    rw [hissued]
    rcases List.mem_append.1 hdone' with hmem | hmem
    · obtain ⟨hle, hgone⟩ := h.past done' hmem
      exact ⟨hle, fun hseq => hgone (hsub _ hseq)⟩
    · obtain rfl := ShellEvent.complete.inj (List.mem_singleton.1 hmem)
      have hmem' : done'.seq ∈ s.underWay := htask.tasks.mem_iff.2 List.mem_cons_self
      exact ⟨h.bounded _ hmem', hnodup.1⟩

/-- Nothing else matters to the numbers. -/
theorem Tasks.congr (h : Tasks es s) (hissued : s'.navigator.issued = s.navigator.issued)
    (htasks : s.underWay.Perm s'.underWay) : Tasks es s' where
  nodup := htasks.nodup_iff.1 h.nodup
  bounded seq hseq := by
    rw [hissued]
    exact h.bounded seq (htasks.mem_iff.2 hseq)
  past done hdone := by
    rw [hissued, ← htasks.mem_iff]
    exact h.past done hdone

/-- What is on display stays right if neither it nor the navigation that began last is touched. -/
theorem Inv.keep (h : Inv es s) {es' : List ShellEvent} (htasks : Tasks es' s')
    (hissued : s'.navigator.issued = s.navigator.issued) (hscreen : s'.screen = s.screen)
    (hwaits : s.navigator.issued ∈ s.underWay → s.navigator.issued ∈ s'.underWay)
    (hended : ∀ a, .complete ⟨s.navigator.issued, a⟩ ∈ es' ↔ .complete ⟨s.navigator.issued, a⟩ ∈ es) :
    Inv es' s' where
  toTasks := htasks
  latest := by
    rw [hissued]
    rcases h.latest with hmem | ⟨a, ha⟩
    · exact Or.inl (hwaits hmem)
    · exact Or.inr ⟨a, (hended a).2 ha⟩
  shown a ha := by
    rw [hissued] at ha
    intro screen hshow
    rw [hscreen]
    exact h.shown a ((hended a).1 ha) screen hshow

/-- The navigation that began last comes to its end, and its action is carried out. -/
theorem Inv.complete_current (h : Inv es s) {done : Navigation} (htask : s.Loses done.seq rest)
    (hlast : done.seq = rest.navigator.issued) :
    Inv (es ++ [.complete done]) (rest.apply done.action) := by
  have htasks := h.toTasks.loses htask
  rcases rest.apply_cases done.action with hbegins | ⟨hnavigator, hunderWay, hshows⟩
  · exact htasks.begins hbegins
  · have hissued : (rest.apply done.action).navigator.issued = done.seq := by
      rw [hnavigator, hlast]
    refine ⟨htasks.congr (congrArg Navigator.issued hnavigator) (List.Perm.of_eq hunderWay.symm), ?_, ?_⟩
    · rw [hissued]
      exact Or.inr ⟨done.action, List.mem_append_right es List.mem_cons_self⟩
    · intro a ha
      rw [hissued] at ha
      rcases List.mem_append.1 ha with hmem | hmem
      · -- it was still under way, so it had not come to its end before
        exact absurd (htask.tasks.mem_iff.2 List.mem_cons_self) (h.past _ hmem).2
      · have hdone := ShellEvent.complete.inj (List.mem_singleton.1 hmem)
        rw [← hdone] at hshows ⊢
        exact hshows

/-- Another navigation comes to its end, too late to have an effect. -/
theorem Inv.complete_stale (h : Inv es s) {done : Navigation} (htask : s.Loses done.seq rest)
    (hlate : done.seq ≠ s.navigator.issued) (hscreen : s'.screen = s.screen)
    (hissued : s'.navigator.issued = s.navigator.issued) (hunderWay : s'.underWay = rest.underWay) :
    Inv (es ++ [.complete done]) s' := by
  have hrest := congrArg Navigator.issued htask.navigator
  have htasks := (h.toTasks.loses htask).congr (hissued.trans hrest.symm)
    (List.Perm.of_eq hunderWay.symm)
  refine h.keep htasks hissued hscreen ?_ ?_
  · intro hmem
    rw [htask.tasks.mem_iff, List.mem_cons] at hmem
    rw [hunderWay]
    exact hmem.resolve_left (Ne.symm hlate)
  · intro a
    refine mem_append_iff ?_
    intro heq
    exact hlate (congrArg Navigation.seq (ShellEvent.complete.inj heq)).symm

/-- A navigation comes to its end. -/
theorem Inv.complete (h : Inv es s) {done : Navigation} (htask : s.Loses done.seq rest) :
    Inv (es ++ [.complete done]) (rest.finish done) := by
  have hrest := congrArg Navigator.issued htask.navigator
  by_cases hlast : done.seq = rest.navigator.issued
  · rw [finish_current hlast]
    exact h.complete_current htask hlast
  · rw [finish_stale hlast]
    refine h.complete_stale htask ?_ htask.screen hrest rfl
    rw [← hrest]
    exact hlast

/-- Navigations under way go on. -/
theorem Inv.goesOn (h : Inv es s) (hgoes : s.GoesOn s') : Inv es s' := by
  have hissued : s'.navigator.issued = s.navigator.issued := congrArg Navigator.issued hgoes.navigator
  exact h.keep (h.toTasks.congr hissued hgoes.tasks) hissued hgoes.screen hgoes.tasks.mem_iff.1
    fun _ => Iff.rfl

/-- The user goes through the history. -/
theorem Inv.goTo (h : Inv es s) (url : Text) : Inv (es ++ [.popstate url]) (s.goTo url) := by
  have htasks : Tasks (es ++ [.popstate url]) s := h.toTasks.append (by intro done he; cases he)
  rcases s.goTo_cases url with hbegins | heq
  · exact htasks.begins hbegins
  · -- the application does not listen, and nothing that counts has changed
    rw [heq]
    exact h.keep (htasks.congr rfl (List.Perm.refl _)) rfl rfl id
      fun a => mem_append_iff (by intro he; cases he)

/-- **What one step preserves.** -/
theorem Inv.step {e : Option ShellEvent} (h : Inv es s) (hstep : s.Step e s') :
    Inv (es ++ e.toList) s' := by
  cases hstep with
  | navigate address =>
    have htasks : Tasks (es ++ [.navigate address]) s := h.toTasks.append (by intro done he; cases he)
    exact htasks.begins (s.begins_follow address)
  | popstate url => exact h.goTo url
  | complete htask => exact h.complete htask
  | work hgoes =>
    rw [Option.toList_none, List.append_nil]
    exact h.goesOn hgoes

/-! ### Whole runs -/

variable {n : Navigator} {client : RestClient}

/-- A new window has begun one navigation. -/
theorem inv_opened (n : Navigator) (client : RestClient) : Inv [] (opened n client) := by
  have hempty : Tasks [] ({ navigator := n, client := client } : Shell) := by
    refine ⟨List.nodup_nil, ?_, ?_⟩
    · intro seq hseq
      exact absurd hseq List.not_mem_nil
    · intro done hdone
      exact absurd hdone List.not_mem_nil
  exact hempty.begins (begins_dispatch _ _)

/-- **The invariant holds in every run.** -/
theorem inv_of_run (h : Run (opened n client) es s) : Inv es s := by
  induction h with
  | refl => exact inv_opened n client
  | step _ hstep ih => exact ih.step hstep

/-- **The navigation that began last wins**, for every navigator and window, and every order in which
navigations begin and come to their ends: the numbers under way are different and none is greater than
the last; a navigation that comes too late changes neither the display nor the history and begins
none; and once none is under way, the one that began last has come to its end, and its page is on
display. -/
theorem last_navigation_wins (h : Run (opened n client) es s) :
    (s.underWay.Nodup ∧ ∀ seq ∈ s.underWay, seq ≤ s.navigator.issued) ∧
      (∀ (done : Navigation) (s' : Shell), s.Step (some (.complete done)) s' →
        done.seq ≠ s.navigator.issued →
          s'.screen = s.screen ∧ s'.justRegistered = s.justRegistered ∧
            s'.client.browser = s.client.browser ∧ s'.navigator = s.navigator ∧
            s.underWay.Perm (done.seq :: s'.underWay)) ∧
      (s.underWay = [] →
        (∃ a, .complete ⟨s.navigator.issued, a⟩ ∈ es) ∧
          ∀ a, .complete ⟨s.navigator.issued, a⟩ ∈ es →
            (∀ v, a = .present v → s.screen = .view v) ∧
              ∀ status, a = .pageError status → s.screen = .error status) := by
  have hinv := inv_of_run h
  refine ⟨⟨hinv.nodup, hinv.bounded⟩, ?_, ?_⟩
  · intro done s' hstep hlate
    obtain ⟨rest, htask, rfl⟩ := exists_of_step_complete hstep
    rw [← htask.navigator] at hlate
    rw [finish_stale hlate]
    have hbrowser : rest.client.browser = s.client.browser := congrArg RestClient.browser htask.client
    exact ⟨htask.screen, htask.justRegistered, hbrowser, htask.navigator, htask.tasks⟩
  · intro hnone
    have hlatest := hinv.latest
    rw [hnone] at hlatest
    refine ⟨hlatest.resolve_left List.not_mem_nil, ?_⟩
    intro a ha
    constructor
    · intro v hv
      rw [hv] at ha
      exact hinv.shown _ ha _ rfl
    · intro status hstatus
      rw [hstatus] at ha
      exact hinv.shown _ ha _ rfl

/-- A link is followed before the first page is there.  The first navigation comes to its end too
late, the second one leads on to a third, and that one presents its page. -/
theorem last_navigation_wins_sample : ∃ s : Shell,
    Run (opened { table := [] } {}) [.navigate "/q/a", .complete ⟨1, .present .root⟩,
      .complete ⟨2, .redirect "/q/b"⟩, .complete ⟨3, .present (.topic "t")⟩] s ∧
      s.underWay = [] ∧ s.screen = .view (.topic "t") := by
  let first : Shell := (opened { table := [] } {}).follow "/q/a"
  let second := { first with ready := first.ready.tail }.finish ⟨1, .present .root⟩
  let third := { second with ready := second.ready.tail }.finish ⟨2, .redirect "/q/b"⟩
  let last := { third with ready := third.ready.tail }.finish ⟨3, .present (.topic "t")⟩
  have hfirst : Run (opened { table := [] } {}) [.navigate "/q/a"] first :=
    Run.refl.step (.navigate _ _)
  have hsecond : Run _ _ second := hfirst.step (.complete ⟨rfl, List.Perm.refl _⟩)
  have hthird : Run _ _ third := hsecond.step (.complete ⟨rfl, List.Perm.refl _⟩)
  have hlast : Run _ _ last := hthird.step (.complete ⟨rfl, List.Perm.refl _⟩)
  obtain ⟨-, -, hwins⟩ := last_navigation_wins hlast
  have hshown := (hwins rfl).2 (.present (.topic "t")) (List.mem_append_right _ List.mem_cons_self)
  exact ⟨last, hlast, rfl, hshown.1 _ rfl⟩

end Shell

end ReviewRouter
