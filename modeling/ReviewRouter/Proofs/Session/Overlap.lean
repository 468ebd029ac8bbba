import ReviewRouter.Proofs.Session.Memory

/-!
# Overlapping calls

Navigations overlap, and so do their questions whether anybody is signed in: a second one may come while the
first waits for its reply.  The memory is looked at before a request is sent, and written when the reply is
in, so every call that comes before the first answer sends a request of its own, and its answer is that of
its own reply.

* `LoginCalls`, `LoginCalls.start`, `LoginCalls.finish` — calls under way, their beginnings and ends;
* `LoginEvent`, `LoginCalls.Run` — the ways in which calls may overlap;
* `LoginEvent.early` — the calls that begin before the first answer;
* `LoginCalls.Run.requests`, `Run.agrees`, `Run.agrees_of_same` — what becomes of the requests and the
  answers;
* `LoginCalls.requests_and_answers` — **as many requests as early calls, and with one of them one answer**;
* `LoginCalls.overlapping_disagree` — with two of them the answers may differ.
-/

namespace ReviewRouter

/-! ### Calls -/

/-- Questions in one window whether anybody is signed in: how many have begun, which of them wait for their
replies, and what the others have been answered, by number. -/
structure LoginCalls where
  client : RestClient
  begun : Nat := 0
  waiting : List Nat := []
  answers : List (Nat × Except Failure Bool) := []

/-- What happens to the calls: one begins, or one that waits gets its reply. -/
inductive LoginEvent where
  | start
  | finish (call : Nat) (reply : Reply)

namespace LoginCalls

/-- A call begins; it is answered from memory, or sends its request. -/
def start (s : LoginCalls) : LoginCalls :=
  match s.client.askLogin with
  | (.answered a, c) =>
    { s with client := c, begun := s.begun + 1, answers := s.answers ++ [(s.begun, a)] }
  | (.waiting _ _, c) =>
    { s with client := c, begun := s.begun + 1, waiting := s.waiting ++ [s.begun] }

/-- A call gets its reply. -/
def finish (s : LoginCalls) (call : Nat) (reply : Reply) : LoginCalls :=
  let (a, c) := s.client.takeLogin (RestQuestion.account.url s.client.base) reply
  { s with client := c, waiting := s.waiting.erase call, answers := s.answers ++ [(call, a)] }

/-- The ways from one state to another, with what happens on the way, in order. -/
inductive Run : LoginCalls → List LoginEvent → LoginCalls → Prop where
  | nil (s : LoginCalls) : Run s [] s
  | start {s s' : LoginCalls} {es : List LoginEvent} (next : Run s.start es s') :
      Run s (.start :: es) s'
  | finish {s s' : LoginCalls} {call : Nat} {reply : Reply} {es : List LoginEvent}
      (waits : call ∈ s.waiting) (next : Run (s.finish call reply) es s') :
      Run s (.finish call reply :: es) s'

/-- A new page, in a window that leaves its requests open. -/
def opened (base : Text) : LoginCalls :=
  { client := { base := base } }

end LoginCalls

namespace LoginEvent

/-- The event brings a reply from which nothing can be told. -/
def Fails : LoginEvent → Prop
  | .start => False
  | .finish _ reply => ∃ f, RestCache.loginIn reply = .error f

/-- How many calls begin before the first clear answer. -/
def early : List LoginEvent → Nat
  | [] => 0
  | .start :: es => early es + 1
  | .finish _ reply :: es =>
    match RestCache.loginIn reply with
    | .ok _ => 0
    | .error _ => early es

variable {reply : Reply} {b : Bool}

theorem not_fails_finish (h : RestCache.loginIn reply = .ok b) (call : Nat) :
    ¬ (LoginEvent.finish call reply).Fails := by
  rintro ⟨f, hf⟩
  cases h.symm.trans hf

theorem early_finish (h : RestCache.loginIn reply = .ok b) (call : Nat) (es : List LoginEvent) :
    early (.finish call reply :: es) = 0 := by
  unfold early
  rw [h]

end LoginEvent

namespace LoginCalls

open LoginEvent

variable {s s' : LoginCalls} {es : List LoginEvent} {b : Bool}

/-! ### One event -/

/-- Nothing is broken in the window, and it leaves all requests open. -/
structure Open (s : LoginCalls) : Prop where
  faults : s.client.browser.faults = []
  replies : s.client.browser.replies = []

/-- The request that a call sends. -/
def request (s : LoginCalls) : BrowserCall :=
  .get (RestQuestion.account.url s.client.base)

/-- A call that is answered from memory. -/
theorem start_known (h : s.client.cache.loggedIn = some b) :
    s.start = { s with begun := s.begun + 1, answers := s.answers ++ [(s.begun, .ok b)] } := by
  unfold start
  rw [RestClient.askLogin_known h]

/-- A call that sends its request. -/
theorem start_unknown (hopen : s.Open) (h : s.client.cache.loggedIn = none) :
    s.start = { s with
      client := { s.client with browser := s.client.browser.called s.request }
      begun := s.begun + 1
      waiting := s.waiting ++ [s.begun] } := by
  have hfetch : s.client.browser.fetch (RestQuestion.account.url s.client.base) =
      (.unanswered, s.client.browser.called s.request) := by
    rw [Browser.fetch_of_working hopen.faults, hopen.replies]
    rfl
  unfold start
  rw [RestClient.askLogin_unknown h]
  unfold RestClient.send
  rw [hfetch]

theorem waiting_finish (s : LoginCalls) (call : Nat) (reply : Reply) :
    (s.finish call reply).waiting = s.waiting.erase call :=
  rfl

/-- A reply answers its own call. -/
theorem answers_finish (s : LoginCalls) (call : Nat) (reply : Reply) :
    (s.finish call reply).answers = s.answers ++ [(call, RestCache.loginIn reply)] :=
  congrArg (fun a => s.answers ++ [(call, a)])
    (s.client.cache.login_eq (RestQuestion.account.url s.client.base) reply).1

/-- A clear answer is kept in the place of what was known. -/
theorem loggedIn_finish (s : LoginCalls) (call : Nat) (reply : Reply) :
    (s.finish call reply).client.cache.loggedIn =
      (RestCache.loginIn reply).toOption.or s.client.cache.loggedIn := by
  have hcache : (s.finish call reply).client.cache =
      s.client.cache.keep (.loggedIn (RestCache.loginIn reply)) :=
    (s.client.cache.login_eq (RestQuestion.account.url s.client.base) reply).2
  rw [hcache]
  cases RestCache.loginIn reply <;> rfl

/-- One more answer like the others. -/
theorem same_append {answers : List (Nat × Except Failure Bool)} (h : ∀ d ∈ answers, d.2 = .ok b)
    (call : Nat) : ∀ d ∈ answers ++ [(call, .ok b)], d.2 = .ok b :=
  List.forall_mem_append.2 ⟨h, List.forall_mem_singleton.2 rfl⟩

/-! ### Runs -/

/-- Once there is an answer, no more requests are sent. -/
theorem Run.requests_known (h : Run s es s') {b : Bool} (hb : s.client.cache.loggedIn = some b) :
    s'.client.browser.calls = s.client.browser.calls := by
  induction h generalizing b with
  | nil s => rfl
  | @start s s' es next ih =>
    rw [start_known hb] at ih
    exact ih hb
  | @finish s s' call reply es waits next ih =>
    have hkept := s.loggedIn_finish call reply
    rw [hb] at hkept
    cases hreply : RestCache.loginIn reply with
    | ok b' =>
      rw [hreply] at hkept
      exact ih hkept
    | error f =>
      rw [hreply] at hkept
      exact ih hkept

/-- Until there is an answer, each call sends a request. -/
theorem Run.requests (h : Run s es s') (hopen : s.Open) (hnone : s.client.cache.loggedIn = none) :
    s'.client.browser.calls = s.client.browser.calls ++ List.replicate (early es) s.request := by
  induction h with
  | nil s => exact (List.append_nil _).symm
  | @start s s' es next ih =>
    rw [start_unknown hopen hnone] at ih
    have hrest := ih ⟨hopen.faults, hopen.replies⟩ hnone
    rw [hrest]
    exact (List.append_assoc s.client.browser.calls [s.request] _).trans rfl
  | @finish s s' call reply es waits next ih =>
    have hkept := s.loggedIn_finish call reply
    rw [hnone] at hkept
    cases hreply : RestCache.loginIn reply with
    | ok b =>
      rw [hreply] at hkept
      rw [early_finish hreply]
      exact (next.requests_known hkept).trans (List.append_nil _).symm
    | error f =>
      rw [hreply] at hkept
      have hearly : early (.finish call reply :: es) = early es := by
        rw [early, hreply]
      rw [hearly]
      exact ih ⟨hopen.faults, hopen.replies⟩ hkept

/-- While no call waits and there is an answer, it is the answer of every call. -/
theorem Run.agrees_known (h : Run s es s') {b : Bool} (hb : s.client.cache.loggedIn = some b)
    (hidle : s.waiting = []) (hbefore : ∀ d ∈ s.answers, d.2 = .ok b) : ∀ d ∈ s'.answers, d.2 = .ok b := by
  induction h with
  | nil s => exact hbefore
  | @start s s' es next ih =>
    rw [start_known hb] at ih
    exact ih hb hidle (same_append hbefore s.begun)
  | finish waits next ih =>
    rw [hidle] at waits
    cases waits

/-- If none fails and at most one call waits until there is an answer, all calls are answered alike. -/
theorem Run.agrees (h : Run s es s') (hopen : s.Open) (hnone : s.client.cache.loggedIn = none)
    (hfresh : s.answers = []) (hone : s.waiting.length + early es ≤ 1) (hclear : ∀ e ∈ es, ¬ e.Fails) :
    ∃ b, ∀ d ∈ s'.answers, d.2 = .ok b := by
  induction h with
  | nil s =>
    rw [hfresh]
    exact ⟨true, fun d hd => (List.not_mem_nil hd).elim⟩
  | @start s s' es next ih =>
    rw [start_unknown hopen hnone] at ih
    refine ih ⟨hopen.faults, hopen.replies⟩ hnone hfresh ?_ fun e he => hclear e (List.mem_cons_of_mem _ he)
    have hearly : early (.start :: es) = early es + 1 := rfl
    simp only [List.length_append, List.length_singleton]
    omega
  | @finish s s' call reply es waits next ih =>
    cases hreply : RestCache.loginIn reply with
    | error f => exact absurd ⟨f, hreply⟩ (hclear _ List.mem_cons_self)
    | ok b =>
      have hkept := s.loggedIn_finish call reply
      have hanswers := s.answers_finish call reply
      rw [hreply] at hkept
      rw [hreply, hfresh] at hanswers
      -- the call that waits is the only one
      have hidle : (s.finish call reply).waiting = [] := by
        have hlength : (s.waiting.erase call).length = s.waiting.length - 1 :=
          List.length_erase_of_mem waits
        exact List.eq_nil_of_length_eq_zero (hlength.trans (by omega))
      refine ⟨b, next.agrees_known hkept hidle ?_⟩
      rw [hanswers]
      exact same_append (fun d hd => (List.not_mem_nil hd).elim) call

/-- If all replies say the same, all calls are answered alike. -/
theorem Run.agrees_of_same (h : Run s es s') (hopen : s.Open)
    (hknown : ∀ known, s.client.cache.loggedIn = some known → known = b)
    (hbefore : ∀ d ∈ s.answers, d.2 = .ok b)
    (hsame : ∀ call reply, .finish call reply ∈ es → RestCache.loginIn reply = .ok b) :
    ∀ d ∈ s'.answers, d.2 = .ok b := by
  induction h with
  | nil s => exact hbefore
  | @start s s' es next ih =>
    have hrest : ∀ call reply, .finish call reply ∈ es → RestCache.loginIn reply = .ok b :=
      fun call reply he => hsame call reply (List.mem_cons_of_mem _ he)
    cases hcache : s.client.cache.loggedIn with
    | none =>
      rw [start_unknown hopen hcache] at ih
      exact ih ⟨hopen.faults, hopen.replies⟩ hknown hbefore hrest
    | some known =>
      obtain rfl : known = b := hknown known hcache
      rw [start_known hcache] at ih
      exact ih ⟨hopen.faults, hopen.replies⟩ hknown (same_append hbefore s.begun) hrest
  | @finish s s' call reply es waits next ih =>
    have hreply := hsame call reply List.mem_cons_self
    have hkept := s.loggedIn_finish call reply
    have hanswers := s.answers_finish call reply
    rw [hreply] at hkept hanswers
    refine ih ⟨hopen.faults, hopen.replies⟩ (fun known hcache => ?_) ?_
      fun call' reply' he => hsame call' reply' (List.mem_cons_of_mem _ he)
    · exact (Option.some_inj.1 (hkept.symm.trans hcache)).symm
    · rw [hanswers]
      exact same_append hbefore call

/-- **As many requests as early calls, and with one of them one answer**: however calls overlap on a new
page, those that begin before the first clear answer send one request each, and the others none.  All are
answered alike if only one begins before it and no reply fails, or if all replies say the same. -/
theorem requests_and_answers (base : Text) (h : Run (opened base) es s) :
    s.client.browser.calls =
        List.replicate (early es) (.get (RestQuestion.account.url base)) ∧
      ((∀ e ∈ es, ¬ e.Fails) → early es ≤ 1 → ∃ b, ∀ d ∈ s.answers, d.2 = .ok b) ∧
      ∀ b, (∀ call reply, .finish call reply ∈ es → RestCache.loginIn reply = .ok b) →
        ∀ d ∈ s.answers, d.2 = .ok b := by
  have hopen : (opened base).Open := ⟨rfl, rfl⟩
  refine ⟨h.requests hopen rfl, fun hclear hone => h.agrees hopen rfl rfl ?_ hclear, fun b hsame => ?_⟩
  · show 0 + early es ≤ 1
    omega
  · have hunknown : ∀ known, (opened base).client.cache.loggedIn = some known → known = b := nofun
    exact h.agrees_of_same hopen hunknown (fun d hd => (List.not_mem_nil hd).elim) hsame

/-- A response that shows a session. -/
def sessionSample : Response :=
  ⟨200, "\x7b\"_account_id\":1\x7d"⟩

/-- A response that refuses the user. -/
def refusalSample : Response :=
  ⟨403, []⟩

theorem loginIn_sessionSample : RestCache.loginIn (.ok sessionSample) = .ok true := by
  have hread : (readAccount sessionSample.body).toOption = some ⟨1, none, none⟩ := by decide +kernel
  rw [RestCache.loginIn_of_isSuccess (r := sessionSample) (by decide)]
  cases haccount : readAccount sessionSample.body with
  | error f =>
    rw [haccount] at hread
    cases hread
  | ok a => rfl

/-- One call comes to its end before two others begin. -/
def inTurnSample : List LoginEvent :=
  [.start, .finish 0 (.ok sessionSample), .start, .start]

/-- Three calls in turn send one request, and are answered alike. -/
theorem requests_and_answers_sample :
    early inTurnSample = 1 ∧ ∃ s, Run (opened "/r") inTurnSample s ∧
      s.client.browser.calls = [.get (RestQuestion.account.url "/r")] ∧
        ∃ b, ∀ d ∈ s.answers, d.2 = .ok b := by
  have hearly : early inTurnSample = 1 :=
    congrArg (· + 1) (early_finish loginIn_sessionSample 0 [.start, .start])
  have hclear : ∀ e ∈ inTurnSample, ¬ e.Fails :=
    List.forall_mem_cons.2 ⟨id, List.forall_mem_cons.2 ⟨not_fails_finish loginIn_sessionSample 0,
      List.forall_mem_cons.2 ⟨id, List.forall_mem_singleton.2 id⟩⟩⟩
  have hwaits : 0 ∈ (opened "/r").start.waiting := List.mem_singleton.2 rfl
  have hrun : Run (opened "/r") inTurnSample _ := .start (.finish hwaits (.start (.start (.nil _))))
  obtain ⟨hcalls, hanswers, -⟩ := requests_and_answers "/r" hrun
  refine ⟨hearly, _, hrun, ?_, hanswers hclear (Nat.le_of_eq hearly)⟩
  rw [hcalls, hearly]
  rfl

/-- A second call begins while the first waits, and each of them gets a reply of its own. -/
def overlapSample : List LoginEvent :=
  [.start, .start, .finish 0 (.ok sessionSample), .finish 1 (.ok refusalSample)]

/-- **Two calls that overlap send two requests, and may be answered differently**, though no reply fails. -/
theorem overlapping_disagree :
    (∀ e ∈ overlapSample, ¬ e.Fails) ∧ ∃ s, Run (opened "/r") overlapSample s ∧
      s.client.browser.calls =
        [.get (RestQuestion.account.url "/r"), .get (RestQuestion.account.url "/r")] ∧
      s.answers = [(0, .ok true), (1, .ok false)] := by
  have hrefused : RestCache.loginIn (.ok refusalSample) = .ok false := rfl
  have hclear : ∀ e ∈ overlapSample, ¬ e.Fails :=
    List.forall_mem_cons.2 ⟨id, List.forall_mem_cons.2 ⟨id, List.forall_mem_cons.2
      ⟨not_fails_finish loginIn_sessionSample 0,
        List.forall_mem_singleton.2 (not_fails_finish hrefused 1)⟩⟩⟩
  have hfirst : 0 ∈ (opened "/r").start.start.waiting := List.mem_cons_self
  have hsecond : 1 ∈ ((opened "/r").start.start.finish 0 (.ok sessionSample)).waiting := by
    rw [waiting_finish]
    exact List.mem_singleton.2 rfl
  have hrun : Run (opened "/r") overlapSample _ :=
    .start (.start (.finish hfirst (.finish hsecond (.nil _))))
  have hearly : early overlapSample = 2 := by
    rw [overlapSample, early, early, early_finish loginIn_sessionSample]
  refine ⟨hclear, _, hrun, ?_, ?_⟩
  · rw [hrun.requests ⟨rfl, rfl⟩ rfl, hearly]
    rfl
  · rw [answers_finish, answers_finish, loginIn_sessionSample, hrefused]
    rfl

end LoginCalls

end ReviewRouter
