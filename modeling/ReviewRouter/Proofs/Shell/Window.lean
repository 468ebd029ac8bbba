import ReviewRouter.Proofs.Handling
import ReviewRouter.Proofs.Shell.LastWins

/-!
# What happens in a window is a run of steps

The shell runs its navigations as far as their requests allow: a plan is carried on until it is done
or waits for a reply, and a reply carries it further.  Each of these pieces is a run of the system of
steps, so what holds in all runs holds in every window.

* `Plan.Numbered`, `Shell.Orderly` — a plan comes to its end under its own number;
* `Shell.Leads`, `Shell.Arrives` — a run from one state to another;
* `Shell.arrives_advance` — **carrying on a plan is a run**;
* `Shell.arrives_runReady`, `Shell.arrives_reply` — and so is running all that is ready, or taking in a
  reply;
* `Shell.Window` — the states of a window;
* `Shell.Window.exists_run` — **every state of a window is reached by a run of steps**.
-/

namespace ReviewRouter

/-! ### Numbers -/

/-- The plan comes to its end under this number, whatever is answered. -/
def Plan.Numbered (seq : Nat) (p : Plan Navigation) : Prop :=
  ∀ done, p.Yields .any done → done.seq = seq

/-- A waiting navigation goes on under its own number. -/
def Flight.Numbered (f : Flight) : Prop :=
  match f.waiting with
  | .login next => ∀ answer, (next answer).Numbered f.seq
  | .project _ next => ∀ answer, (next answer).Numbered f.seq

/-- A navigation is resolved under the number that it has been given. -/
theorem Navigator.numbered_resolve (n : Navigator) (p : PendingNavigation) :
    (n.resolve p).Numbered p.seq := by
  intro done h
  unfold resolve at h
  split at h
  · rw [show done = ⟨p.seq, .notFound⟩ from h]
  · obtain ⟨result, -, h⟩ := (Plan.yields_bind _ _ _).1 h
    obtain ⟨action, -, h⟩ := (Plan.yields_bind _ _ _).1 h
    rw [show done = ⟨p.seq, action⟩ from h]

/-! ### The window under a session -/

/-- The session does nothing to the window but send requests. -/
structure RestClient.Keeps (c c' : RestClient) : Prop where
  location : c'.browser.location = c.browser.location
  visits : c'.browser.visits = c.browser.visits

namespace RestClient

variable {α : Type}

theorem Keeps.refl (c : RestClient) : c.Keeps c :=
  ⟨rfl, rfl⟩

theorem Keeps.trans {c c' c'' : RestClient} (h : c.Keeps c') (h' : c'.Keeps c'') : c.Keeps c'' :=
  ⟨h'.location.trans h.location, h'.visits.trans h.visits⟩

theorem keeps_fetch (c : RestClient) (url : Text) :
    c.Keeps { c with browser := (c.browser.fetch url).2 } := by
  have hcalled : (c.browser.called (.get url)).visits = c.browser.visits := by
    simp only [Browser.visits, Browser.called, List.filter_append, List.filter_cons, List.filter_nil,
      Bool.false_eq_true, if_false, List.append_nil]
  unfold Browser.fetch
  split
  · exact ⟨rfl, rfl⟩
  · split
    · exact ⟨rfl, rfl⟩
    · split
      · exact ⟨rfl, rfl⟩
      · split
        · exact ⟨rfl, rfl⟩
        · exact ⟨rfl, hcalled⟩

theorem keeps_takeLogin (c : RestClient) (url : Text) (reply : Reply) :
    c.Keeps (c.takeLogin url reply).2 :=
  ⟨rfl, rfl⟩

theorem keeps_takeProject (c : RestClient) (change : UInt32) (url : Text) (reply : Reply) :
    c.Keeps (c.takeProject change url reply).2 :=
  ⟨rfl, rfl⟩

theorem keeps_send (c : RestClient) (url : Text)
    {take : RestClient → Reply → Except Failure α × RestClient}
    (htake : ∀ (c : RestClient) (reply : Reply), c.Keeps (take c reply).2) :
    c.Keeps (c.send url take).2 := by
  have hfetch := c.keeps_fetch url
  unfold send
  dsimp only
  split
  · exact hfetch.trans (htake _ _)
  · exact hfetch
  · exact hfetch

theorem keeps_askLogin (c : RestClient) : c.Keeps c.askLogin.2 := by
  unfold askLogin
  split
  · exact Keeps.refl c
  · exact c.keeps_send _ fun c reply => c.keeps_takeLogin _ reply

theorem keeps_askProject (c : RestClient) (change : UInt32) : c.Keeps (c.askProject change).2 := by
  unfold askProject
  split
  · exact Keeps.refl c
  · exact c.keeps_send _ fun c reply => c.keeps_takeProject change _ reply

end RestClient

/-! ### Runs -/

namespace Shell

/-- All waiting navigations go on under their own numbers. -/
def Orderly (s : Shell) : Prop :=
  ∀ f ∈ s.fetching ++ s.reading, f.Numbered

/-- A run from one state to another. -/
def Leads (s s' : Shell) : Prop :=
  ∃ es, Run s es s'

/-- A run to a state in which all waiting navigations go on under their own numbers. -/
def Arrives (s s' : Shell) : Prop :=
  s.Leads s' ∧ s'.Orderly

theorem Leads.refl (s : Shell) : s.Leads s :=
  ⟨[], .refl⟩

theorem Run.trans {s₀ s s' : Shell} {es es' : List ShellEvent} (h : Run s₀ es s)
    (h' : Run s es' s') : Run s₀ (es ++ es') s' := by
  induction h' with
  | refl =>
    rw [List.append_nil]
    exact h
  | step _ hstep ih =>
    rw [← List.append_assoc]
    exact ih.step hstep

theorem Leads.trans {s s' s'' : Shell} (h : s.Leads s') (h' : s'.Leads s'') : s.Leads s'' := by
  obtain ⟨es, hrun⟩ := h
  obtain ⟨es', hrun'⟩ := h'
  exact ⟨es ++ es', hrun.trans hrun'⟩

theorem Leads.arrives {s s' s'' : Shell} (h : s.Leads s') (h' : s'.Arrives s'') : s.Arrives s'' :=
  ⟨h.trans h'.1, h'.2⟩

theorem Step.leads {s s' : Shell} {e : Option ShellEvent} (h : s.Step e s') : s.Leads s' :=
  ⟨_, Run.refl.step h⟩

/-! ### One navigation -/

variable {s s' rest : Shell} {seq : Nat}

theorem Loses.withClient (h : s.Loses seq rest) (c : RestClient) :
    Loses { s with client := c } seq { rest with client := c } where
  same := by
    simp only [h.navigator, h.screen, h.justRegistered]
  tasks := h.tasks

theorem goesOn_client {c : RestClient} (h : s.client.Keeps c) : s.GoesOn { s with client := c } :=
  ⟨rfl, rfl, rfl, h.location, h.visits, List.Perm.refl _⟩

theorem underWay_await (s : Shell) (f : Flight) : (s.await f).underWay.Perm (f.seq :: s.underWay) := by
  refine List.perm_iff_count.2 ?_
  intro a
  unfold await
  split
  · simp only [underWay, List.map_append, List.map_cons, List.map_nil, List.count_append,
      List.count_cons, List.count_nil]
    omega
  · simp only [underWay, List.map_append, List.map_cons, List.map_nil, List.count_append,
      List.count_cons, List.count_nil]
    omega

/-- A navigation that waits is still under way. -/
theorem goesOn_await (h : s.Loses seq rest) {f : Flight} (hf : f.seq = seq) :
    s.GoesOn (rest.await f) := by
  have htasks : s.underWay.Perm (rest.await f).underWay := by
    refine h.tasks.trans ?_
    rw [← hf]
    exact (rest.underWay_await f).symm
  have hsame : (rest.await f).navigator = rest.navigator ∧ (rest.await f).client = rest.client ∧
      (rest.await f).screen = rest.screen ∧
      (rest.await f).justRegistered = rest.justRegistered := by
    unfold await
    split <;> exact ⟨rfl, rfl, rfl, rfl⟩
  obtain ⟨hnavigator, hclient, hscreen, hregistered⟩ := hsame
  have hbrowser : (rest.await f).client.browser = s.client.browser := by
    rw [hclient, h.client]
  exact ⟨hnavigator.trans h.navigator, hscreen.trans h.screen, hregistered.trans h.justRegistered,
    congrArg Browser.location hbrowser, congrArg Browser.visits hbrowser, htasks⟩

/-- Carrying out an action leaves the waiting navigations alone. -/
theorem waiting_apply (s : Shell) (a : Action) :
    (s.apply a).fetching = s.fetching ∧ (s.apply a).reading = s.reading := by
  cases a with
  | present v => exact ⟨rfl, rfl⟩
  | redirect address => exact ⟨rfl, rfl⟩
  | passThrough => exact ⟨rfl, rfl⟩
  | closeWindow => exact ⟨rfl, rfl⟩
  | registered address => exact ⟨rfl, rfl⟩
  | pageError status => exact ⟨rfl, rfl⟩

theorem Orderly.finish (h : s.Orderly) (done : Navigation) : (s.finish done).Orderly := by
  have hwaiting : (s.finish done).fetching = s.fetching ∧ (s.finish done).reading = s.reading := by
    by_cases hlast : done.seq = s.navigator.issued
    · rw [finish_current hlast]
      exact s.waiting_apply done.action
    · rw [finish_stale hlast]
      exact ⟨rfl, rfl⟩
  intro f hf
  rw [hwaiting.1, hwaiting.2] at hf
  exact h f hf

theorem Orderly.await (h : s.Orderly) {f : Flight} (hf : f.Numbered) : (s.await f).Orderly := by
  intro g hg
  have hcases : g = f ∨ g ∈ s.fetching ++ s.reading := by
    unfold Shell.await at hg
    split at hg
    · simp only [List.mem_append, List.mem_singleton] at hg ⊢
      rcases hg with (hg | hg) | hg
      · exact Or.inr (Or.inl hg)
      · exact Or.inl hg
      · exact Or.inr (Or.inr hg)
    · simp only [List.mem_append, List.mem_singleton] at hg ⊢
      rcases hg with hg | (hg | hg)
      · exact Or.inr (Or.inl hg)
      · exact Or.inr (Or.inr hg)
      · exact Or.inl hg
  rcases hcases with heq | hmem
  · rw [heq]
    exact hf
  · exact h g hmem

/-- A run may begin with work of the session. -/
theorem arrives_of_keeps (h : s.Loses seq rest) {c : RestClient} (hc : rest.client.Keeps c)
    (hnext : Arrives { s with client := c } s') : s.Arrives s' := by
  rw [h.client] at hc
  exact (Step.work (goesOn_client hc)).leads.arrives hnext

/-- A navigation that has to wait has been at work. -/
theorem arrives_await (h : s.Loses seq rest) (hrest : rest.Orderly) {f : Flight} (hseq : f.seq = seq)
    (hf : f.Numbered) : s.Arrives (rest.await f) :=
  ⟨(Step.work (goesOn_await h hseq)).leads, hrest.await hf⟩

/-- **Carrying on a plan is a run.**  By induction on the plan: reports, lessons and questions are
pieces of work of a navigation that is still under way, and its last step is its end. -/
theorem arrives_advance (p : Plan Navigation) (h : s.Loses seq rest) (hp : p.Numbered seq)
    (hrest : rest.Orderly) : s.Arrives (advance seq p rest) := by
  induction p generalizing s rest with
  | done a =>
    have hseq : a.seq = seq := hp a rfl
    rw [← hseq] at h
    exact ⟨(Step.complete h).leads, hrest.finish a⟩
  | note e next ih =>
    have hkeeps : rest.client.Keeps (rest.client.report [e]) := ⟨rfl, rfl⟩
    exact arrives_of_keeps h hkeeps (ih (h.withClient _) hp hrest)
  | record change project next ih =>
    have hkeeps : rest.client.Keeps
        { rest.client with cache := rest.client.cache.learn change project } := ⟨rfl, rfl⟩
    exact arrives_of_keeps h hkeeps (ih (h.withClient _) hp hrest)
  | askLogin next ih =>
    have hnext : ∀ answer, (next answer).Numbered seq := fun answer done hdone =>
      hp done ⟨answer, trivial, hdone⟩
    have hkeeps := rest.client.keeps_askLogin
    rcases hask : rest.client.askLogin with ⟨asked, c⟩
    rw [hask] at hkeeps
    refine arrives_of_keeps h hkeeps ?_
    cases asked with
    | answered a =>
      simp only [advance, hask]
      exact ih a (h.withClient c) (hnext a) hrest
    | waiting url status =>
      simp only [advance, hask]
      exact arrives_await (h.withClient c) hrest rfl hnext
  | askProject change next ih =>
    have hnext : ∀ answer, (next answer).Numbered seq := fun answer done hdone =>
      hp done ⟨answer, trivial, hdone⟩
    have hkeeps := rest.client.keeps_askProject change
    rcases hask : rest.client.askProject change with ⟨asked, c⟩
    rw [hask] at hkeeps
    refine arrives_of_keeps h hkeeps ?_
    cases asked with
    | answered a =>
      simp only [advance, hask]
      exact ih a (h.withClient c) (hnext a) hrest
    | waiting url status =>
      simp only [advance, hask]
      exact arrives_await (h.withClient c) hrest rfl hnext

/-! ### All navigations that are ready -/

theorem arrives_runOne (h : s.Orderly) (hrun : s.runOne = some s') : s.Arrives s' := by
  unfold runOne at hrun
  split at hrun
  · cases hrun
  · next p ready hready =>
    have htask : s.Loses p.seq { s with ready := ready } := loses_ready (List.Perm.of_eq hready)
    obtain rfl := Option.some_inj.1 hrun
    exact arrives_advance _ htask (s.navigator.numbered_resolve p) h

theorem arrives_runReady (bound : Nat) (h : s.Orderly) : s.Arrives (s.runReady bound) := by
  induction bound generalizing s with
  | zero => exact ⟨Leads.refl s, h⟩
  | succ bound ih =>
    unfold runReady
    split
    · next s' hrun =>
      obtain ⟨hleads, horderly⟩ := arrives_runOne h hrun
      exact hleads.arrives (ih horderly)
    · exact ⟨Leads.refl s, h⟩

/-- Running all that is ready is a run. -/
theorem Arrives.settle (h : s.Arrives s') : s.Arrives s'.settle :=
  h.1.arrives (arrives_runReady longestChain h.2)

/-! ### Replies -/

theorem perm_of_take? {url : Text} {l left : List Flight} {f : Flight}
    (h : take? url l = some (f, left)) : l.Perm (f :: left) := by
  induction l generalizing left with
  | nil => cases h
  | cons g l ih =>
    rw [take?] at h
    split at h
    · cases h
      exact List.Perm.refl _
    · cases htake : take? url l with
      | none =>
        rw [htake] at h
        cases h
      | some found =>
        rw [htake] at h
        cases h
        exact ((ih htake).cons g).trans (List.Perm.swap _ _ _)

/-- A waiting navigation that takes in its reply goes on. -/
theorem arrives_resume {f : Flight} (h : s.Loses f.seq rest) (hf : f.Numbered) (hrest : rest.Orderly)
    (reply : Reply) : s.Arrives (rest.resume f reply) := by
  cases hwaiting : f.waiting with
  | login next =>
    simp only [Flight.Numbered, hwaiting] at hf
    simp only [resume, hwaiting]
    refine Arrives.settle ?_
    exact arrives_of_keeps h (rest.client.keeps_takeLogin f.url reply)
      (arrives_advance _ (h.withClient _) (hf _) hrest)
  | project change next =>
    simp only [Flight.Numbered, hwaiting] at hf
    simp only [resume, hwaiting]
    refine Arrives.settle ?_
    exact arrives_of_keeps h (rest.client.keeps_takeProject change f.url reply)
      (arrives_advance _ (h.withClient _) (hf _) hrest)

section Taken

variable {f : Flight} {left : List Flight}

theorem Orderly.fetching (h : s.Orderly) (hperm : s.fetching.Perm (f :: left)) :
    f.Numbered ∧ Orderly { s with fetching := left } := by
  refine ⟨h f (List.mem_append_left _ (hperm.mem_iff.2 List.mem_cons_self)), ?_⟩
  intro g hg
  rcases List.mem_append.1 hg with hmem | hmem
  · exact h g (List.mem_append_left _ (hperm.mem_iff.2 (List.mem_cons_of_mem f hmem)))
  · exact h g (List.mem_append_right _ hmem)

theorem Orderly.reading (h : s.Orderly) (hperm : s.reading.Perm (f :: left)) :
    f.Numbered ∧ Orderly { s with reading := left } := by
  refine ⟨h f (List.mem_append_right _ (hperm.mem_iff.2 List.mem_cons_self)), ?_⟩
  intro g hg
  rcases List.mem_append.1 hg with hmem | hmem
  · exact h g (List.mem_append_left _ hmem)
  · exact h g (List.mem_append_right _ (hperm.mem_iff.2 (List.mem_cons_of_mem f hmem)))

end Taken

/-- Taking in a reply is a run. -/
theorem arrives_reply {url body : Text} {r : ReplyScript} (h : s.Orderly)
    (hreply : s.reply url r body = some s') : s.Arrives s' := by
  unfold reply at hreply
  split at hreply
  · next f left htake =>
    have hperm := perm_of_take? htake
    have htask := loses_fetching hperm
    obtain ⟨hf, hrest⟩ := h.fetching hperm
    dsimp only at hreply
    split at hreply
    · obtain rfl := Option.some_inj.1 hreply
      exact arrives_resume htask hf hrest _
    · obtain rfl := Option.some_inj.1 hreply
      exact arrives_await htask hrest rfl hf
    · obtain rfl := Option.some_inj.1 hreply
      exact arrives_await htask hrest rfl hf
  · split at hreply
    · next f left htake =>
      have hperm := perm_of_take? htake
      obtain ⟨hf, hrest⟩ := h.reading hperm
      obtain rfl := Option.some_inj.1 hreply
      exact arrives_resume (loses_reading hperm) hf hrest _
    · cases hreply

/-! ### Windows -/

/-- A navigation that begins waits for nothing yet. -/
theorem Orderly.follow (h : s.Orderly) (address : Text) : (s.follow address).Orderly :=
  h

theorem Orderly.goTo (h : s.Orderly) (url : Text) : (s.goTo url).Orderly := by
  unfold Shell.goTo
  dsimp only
  split
  · exact h
  · exact h

/-- The states of a window: links are followed, the user goes through the history, and requests are
answered. -/
inductive Window : Shell → Prop where
  | start {d : Deployment} {base : Text} {b : Browser} {s : Shell} (h : start d base b = .ok s) :
      Window s
  | navigate {s : Shell} (before : Window s) (address : Text) : Window (s.navigate address)
  | popstate {s : Shell} (before : Window s) (url : Text) : Window (s.popstate url)
  | reply {s s' : Shell} {url body : Text} {r : ReplyScript} (before : Window s)
      (h : s.reply url r body = some s') : Window s'

theorem arrives_popstate (h : s.Orderly) (url : Text) : s.Arrives (s.popstate url) := by
  have hgoTo : s.Arrives (s.goTo url) := ⟨(Step.popstate s url).leads, h.goTo url⟩
  unfold Shell.goTo at hgoTo
  unfold Shell.popstate
  dsimp only at hgoTo ⊢
  split
  · next hlistening =>
    rw [if_pos hlistening] at hgoTo
    exact hgoTo.settle
  · next hlistening =>
    rw [if_neg hlistening] at hgoTo
    exact hgoTo

/-- **Every state of a window is reached by a run of steps.** -/
theorem Window.exists_run (h : Window s) : ∃ n client, (opened n client).Arrives s := by
  induction h with
  | @start d base b s hstart =>
    unfold Shell.start at hstart
    cases hn : Navigator.standard d with
    | error failure =>
      rw [hn] at hstart
      cases hstart
    | ok n =>
      rw [hn] at hstart
      obtain rfl := Except.ok.inj hstart
      refine ⟨n, { base := base, browser := b.listen }, Arrives.settle ⟨Leads.refl _, ?_⟩⟩
      intro f hf
      exact absurd hf List.not_mem_nil
  | @navigate s _ address ih =>
    obtain ⟨n, client, hleads, horderly⟩ := ih
    have hfollow : s.Arrives (s.follow address) := ⟨(Step.navigate s address).leads, horderly.follow address⟩
    exact ⟨n, client, hleads.arrives hfollow.settle⟩
  | popstate _ url ih =>
    obtain ⟨n, client, hleads, horderly⟩ := ih
    exact ⟨n, client, hleads.arrives (arrives_popstate horderly url)⟩
  | reply _ hreply ih =>
    obtain ⟨n, client, hleads, horderly⟩ := ih
    exact ⟨n, client, hleads.arrives (arrives_reply horderly hreply)⟩

/-- The invariant holds in every window. -/
theorem Window.exists_inv (h : Window s) : ∃ es, Inv es s := by
  obtain ⟨n, client, ⟨es, hrun⟩, -⟩ := h.exists_run
  exact ⟨es, inv_of_run hrun⟩

end Shell

end ReviewRouter
