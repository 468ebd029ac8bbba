import ReviewRouter.Shell

/-!
# The shell, step by step

While navigations are under way, others begin, and each of them comes to its end at its own time.  So
the shell is taken as a system of steps: a link is followed, the user goes through the history, a
navigation comes to its end with whatever action, or one goes on without coming to its end.

* `Shell.underWay` — the numbers of the navigations under way;
* `ShellEvent`, `Shell.Step` — what can happen, and what becomes of the shell;
* `Shell.opened`, `Shell.Run` — the shell of a new window, and the runs of the system;
* `Shell.begins_dispatch` — a navigation begins;
* `Shell.apply_cases` — **what an action can do**;
* `Shell.finish_stale` — a navigation that comes too late.
-/

namespace ReviewRouter

/-! ### Steps -/

/-- What has been done to the window, requests apart. -/
def Browser.visits (b : Browser) : List BrowserCall :=
  b.calls.filter fun c => match c with
    | .get _ => false
    | _ => true

/-- Something that happens to the shell. -/
inductive ShellEvent where
  | navigate (address : Text)
  | popstate (url : Text)
  | complete (done : Navigation)

namespace Shell

/-- The numbers of the navigations under way. -/
def underWay (s : Shell) : List Nat :=
  s.ready.map PendingNavigation.seq ++ s.fetching.map Flight.seq ++ s.reading.map Flight.seq

/-- The same shell without the navigation of the given number. -/
structure Loses (s : Shell) (seq : Nat) (s' : Shell) : Prop where
  same : s' = { s with ready := s'.ready, fetching := s'.fetching, reading := s'.reading }
  tasks : s.underWay.Perm (seq :: s'.underWay)

/-- Navigations under way go on: they may learn something, report, and send requests. -/
structure GoesOn (s s' : Shell) : Prop where
  navigator : s'.navigator = s.navigator
  screen : s'.screen = s.screen
  justRegistered : s'.justRegistered = s.justRegistered
  location : s'.client.browser.location = s.client.browser.location
  visits : s'.client.browser.visits = s.client.browser.visits
  tasks : s.underWay.Perm s'.underWay

/-- A link is followed: its address enters the history, and a navigation begins. -/
def follow (s : Shell) (address : Text) : Shell :=
  (s.onBrowser (·.pushUrl (s.href address))).dispatch (s.href address)

/-- The user goes through the history; the application notices if it listens. -/
def goTo (s : Shell) (url : Text) : Shell :=
  let s := s.onBrowser fun b => { b with location := url }
  if s.client.browser.listening then s.dispatch s.client.browser.currentUrl else s

/-- What can happen, and what becomes of the shell; a navigation may come to its end with any
action. -/
inductive Step : Shell → Option ShellEvent → Shell → Prop where
  | navigate (s : Shell) (address : Text) : Step s (some (.navigate address)) (s.follow address)
  | popstate (s : Shell) (url : Text) : Step s (some (.popstate url)) (s.goTo url)
  | complete {s rest : Shell} {done : Navigation} (task : s.Loses done.seq rest) :
      Step s (some (.complete done)) (rest.finish done)
  | work {s s' : Shell} (goesOn : s.GoesOn s') : Step s none s'

/-- The shell of a new window, which has begun to navigate to its address. -/
def opened (n : Navigator) (client : RestClient) : Shell :=
  let s : Shell := { navigator := n, client := client }
  s.dispatch s.client.browser.currentUrl

/-- The states that some steps lead to, with what has happened on the way, in order. -/
inductive Run (s₀ : Shell) : List ShellEvent → Shell → Prop where
  | refl : Run s₀ [] s₀
  | step {es : List ShellEvent} {s s' : Shell} {e : Option ShellEvent} (before : Run s₀ es s)
      (next : s.Step e s') : Run s₀ (es ++ e.toList) s'

section Loses

variable {s rest : Shell} {seq : Nat}

theorem Loses.navigator (h : s.Loses seq rest) : rest.navigator = s.navigator := by
  rw [h.same]

theorem Loses.client (h : s.Loses seq rest) : rest.client = s.client := by
  rw [h.same]

theorem Loses.screen (h : s.Loses seq rest) : rest.screen = s.screen := by
  rw [h.same]

theorem Loses.justRegistered (h : s.Loses seq rest) : rest.justRegistered = s.justRegistered := by
  rw [h.same]

end Loses

/-- What is taken out of one list among others takes its number along. -/
theorem perm_cons_of_taken {α β : Type} (number : α → β) {a : α} {items left : List α}
    (h : items.Perm (a :: left)) (front back : List β) :
    (front ++ (items.map number ++ back)).Perm (number a :: (front ++ (left.map number ++ back))) :=
  (((h.map number).append_right back).append_left front).trans List.perm_middle

section Taken

variable {s : Shell} {f : Flight} {p : PendingNavigation}

theorem loses_ready {left : List PendingNavigation} (h : s.ready.Perm (p :: left)) :
    s.Loses p.seq { s with ready := left } where
  same := rfl
  tasks := by
    simp only [underWay, List.append_assoc]
    exact perm_cons_of_taken _ h [] _

theorem loses_fetching {left : List Flight} (h : s.fetching.Perm (f :: left)) :
    s.Loses f.seq { s with fetching := left } where
  same := rfl
  tasks := by
    simp only [underWay, List.append_assoc]
    exact perm_cons_of_taken _ h _ _

theorem loses_reading {left : List Flight} (h : s.reading.Perm (f :: left)) :
    s.Loses f.seq { s with reading := left } where
  same := rfl
  tasks := by
    have hleft := perm_cons_of_taken Flight.seq h
      (s.ready.map PendingNavigation.seq ++ s.fetching.map Flight.seq) []
    rwa [List.append_nil, List.append_nil] at hleft

end Taken

theorem exists_perm_of_mem {α : Type} {a : α} {l : List α} (h : a ∈ l) : ∃ left, l.Perm (a :: left) := by
  obtain ⟨before, after, rfl⟩ := List.append_of_mem h
  exact ⟨before ++ after, List.perm_middle⟩

/-- Each navigation under way can be taken out. -/
theorem exists_loses {s : Shell} {seq : Nat} (h : seq ∈ s.underWay) : ∃ rest, s.Loses seq rest := by
  rw [underWay, List.mem_append, List.mem_append] at h
  rcases h with (h | h) | h
  · obtain ⟨p, hp, rfl⟩ := List.mem_map.1 h
    obtain ⟨left, hperm⟩ := exists_perm_of_mem hp
    exact ⟨_, loses_ready hperm⟩
  · obtain ⟨f, hf, rfl⟩ := List.mem_map.1 h
    obtain ⟨left, hperm⟩ := exists_perm_of_mem hf
    exact ⟨_, loses_fetching hperm⟩
  · obtain ⟨f, hf, rfl⟩ := List.mem_map.1 h
    obtain ⟨left, hperm⟩ := exists_perm_of_mem hf
    exact ⟨_, loses_reading hperm⟩

/-- Every navigation under way can come to its end, with whatever action. -/
theorem exists_step_complete {s : Shell} {done : Navigation} (h : done.seq ∈ s.underWay) :
    ∃ s', s.Step (some (.complete done)) s' := by
  obtain ⟨rest, htask⟩ := exists_loses h
  exact ⟨rest.finish done, .complete htask⟩

theorem exists_of_step_complete {s s' : Shell} {done : Navigation}
    (h : s.Step (some (.complete done)) s') : ∃ rest, s.Loses done.seq rest ∧ s' = rest.finish done := by
  cases h with
  | complete htask => exact ⟨_, htask, rfl⟩

/-! ### A navigation begins -/

/-- One more navigation has begun. -/
structure Begins (s s' : Shell) : Prop where
  issued : s'.navigator.issued = s.navigator.issued + 1
  tasks : s'.underWay.Perm (s'.navigator.issued :: s.underWay)

/-- A navigation begins with the next number. -/
theorem begins_dispatch (s : Shell) (url : Text) : s.Begins (s.dispatch url) := by
  refine ⟨rfl, List.perm_iff_count.2 ?_⟩
  intro a
  show List.count a (List.map _ (s.ready ++ [_]) ++ s.fetching.map Flight.seq ++
    s.reading.map Flight.seq) = List.count a ((s.navigator.issued + 1) :: s.underWay)
  simp only [underWay, List.map_append, List.map_cons, List.map_nil, List.count_append,
    List.count_cons, List.count_nil]
  omega

theorem begins_follow (s : Shell) (address : Text) : s.Begins (s.follow address) :=
  have h := (s.onBrowser (·.pushUrl (s.href address))).begins_dispatch (s.href address)
  ⟨h.issued, h.tasks⟩

theorem begins_redirect (s : Shell) (address : Text) : s.Begins (s.redirect address) :=
  have h := ((s.report [.redirected address]).onBrowser
    (·.replaceUrl (s.href address))).begins_dispatch (s.href address)
  ⟨h.issued, h.tasks⟩

/-- Going through the history begins a navigation or changes nothing but the window. -/
theorem goTo_cases (s : Shell) (url : Text) :
    s.Begins (s.goTo url) ∨ s.goTo url = s.onBrowser fun b => { b with location := url } := by
  unfold goTo
  dsimp only
  split
  · have h := (s.onBrowser fun b => { b with location := url }).begins_dispatch
      (s.onBrowser fun b => { b with location := url }).client.browser.currentUrl
    exact Or.inl ⟨h.issued, h.tasks⟩
  · exact Or.inr rfl

/-! ### Actions -/

/-- The screen shows what the action presents, if it presents anything. -/
def Shows (s : Shell) (a : Action) : Prop :=
  ∀ screen, Screen.ofAction? a = some screen → s.screen = screen

/-- **What an action can do**: begin one navigation, or present its page. -/
theorem apply_cases (s : Shell) (a : Action) :
    s.Begins (s.apply a) ∨
      (s.apply a).navigator = s.navigator ∧ (s.apply a).underWay = s.underWay ∧ (s.apply a).Shows a := by
  cases a with
  | present v =>
    refine Or.inr ⟨rfl, rfl, ?_⟩
    intro screen h
    exact Option.some_inj.1 h
  | pageError status =>
    refine Or.inr ⟨rfl, rfl, ?_⟩
    intro screen h
    exact Option.some_inj.1 h
  | redirect address => exact Or.inl (s.begins_redirect address)
  | registered address =>
    have h := begins_redirect { s with justRegistered := true } address
    exact Or.inl ⟨h.issued, h.tasks⟩
  | passThrough =>
    refine Or.inr ⟨rfl, rfl, ?_⟩
    intro screen h
    cases h
  | closeWindow =>
    refine Or.inr ⟨rfl, rfl, ?_⟩
    intro screen h
    cases h

/-! ### Navigations that come to their end -/

/-- The action of the navigation that began last is carried out. -/
theorem finish_current {s : Shell} {done : Navigation} (h : done.seq = s.navigator.issued) :
    s.finish done = s.apply done.action := by
  have hreport : s.report [] = s := by
    simp only [report, RestClient.report, List.append_nil]
  simp only [finish, Navigator.settle, Navigator.isCurrent, h, beq_self_eq_true, if_true, hreport]

/-- A navigation that comes too late is reported and has no effect. -/
theorem finish_stale {s : Shell} {done : Navigation} (h : done.seq ≠ s.navigator.issued) :
    s.finish done = s.report [.staleDiscarded done.seq s.navigator.issued] := by
  simp only [finish, Navigator.settle, Navigator.isCurrent, beq_eq_false_iff_ne.2 h,
    Bool.false_eq_true, if_false]

end Shell

end ReviewRouter
