import ReviewRouter.Proofs.Session.Replies
import ReviewRouter.Session.Client
import ReviewRouter.Session.Server

/-!
# What a session remembers

A session over a review server sends a request only for what it does not know.  What it has found out or
been told it keeps, so that its memory after any calls is what was said last.

* `RestCall`, `RestTurn`, `RestClient.complete` — one call, from its beginning to its end;
* `RestCache.known?` — what is answered without a request;
* `RestClient.complete_known`, `complete_unknown`, `complete_ask` — all that a question can do;
* `Exchange.tells?`, `RestClient.known?_complete` — **one call adds to the memory what it says**, and nothing
  else;
* `RestClient.complete_after` — what a call tells is answered from then on;
* `RestClient.AgreeBut.completed_filter` — the calls about one question do not touch the others;
* `RestClient.remembers` — **what the session remembers over any calls**;
* `RestSession.ask_eq_complete` — a session over a scripted server remembers in the same way.
-/

namespace ReviewRouter

/-! ### Calls -/

/-- What is said when a question gets a reply. -/
def RestQuestion.exchange : RestQuestion → Reply → Exchange
  | .account, reply => .loggedIn (RestCache.loginIn reply)
  | .change n, reply => .projectOf n (RestCache.projectIn reply)

/-- A call to the session: it is asked something, or told the project of a change. -/
inductive RestCall where
  | ask (q : RestQuestion)
  | record (change : UInt32) (project : Text)

/-- A call in the window as it is by then.  If the window leaves the request open, `reply` is what comes
in at last. -/
structure RestTurn where
  call : RestCall
  window : Browser := {}
  reply : Reply

/-- A call that has come to its end: what was said, and the window after it. -/
structure CompletedCall where
  exchange : Exchange
  window : Browser

/-- The reply to a request in a window that may leave it open. -/
def Browser.replyOr (b : Browser) (url : Text) (reply : Reply) : Reply :=
  match (b.fetch url).1 with
  | .replied r => r
  | _ => reply

/-- A question that is put to the server. -/
def RestQuestion.served (q : RestQuestion) (base : Text) (b : Browser) (reply : Reply) : CompletedCall :=
  ⟨q.exchange (b.replyOr (q.url base) reply), (b.fetch (q.url base)).2⟩

/-- Where nothing is broken, each request is written down. -/
theorem Browser.fetch_of_working {b : Browser} (h : b.faults = []) (url : Text) :
    b.fetch url = ((b.replies.lookup url).elim .unanswered ReplyScript.outcome, b.called (.get url)) := by
  have hlacks : ∀ f, b.lacks f = false := by
    intro f
    unfold lacks
    rw [h]
    rfl
  unfold fetch
  simp only [hlacks, Bool.false_eq_true, if_false]
  cases b.replies.lookup url <;> rfl

namespace RestClient

/-- The session in another window. -/
def inWindow (c : RestClient) (b : Browser) : RestClient :=
  { c with browser := b }

/-- The end of a question: the reply is taken in if the request has been left open. -/
def finish {α : Type} (take : RestClient → Text → Reply → Except Failure α × RestClient) (reply : Reply) :
    Asked α × RestClient → Except Failure α × RestClient
  | (.answered a, c) => (a, c)
  | (.waiting url _, c) => take c url reply

/-- Makes a call and sees it to its end. -/
def complete (c : RestClient) (t : RestTurn) : CompletedCall × RestClient :=
  match t.call with
  | .ask .account =>
    let (answer, c) := finish takeLogin t.reply (c.inWindow t.window).askLogin
    (⟨.loggedIn answer, c.browser⟩, c)
  | .ask (.change n) =>
    let (answer, c) := finish (takeProject · n) t.reply ((c.inWindow t.window).askProject n)
    (⟨.projectOf n answer, c.browser⟩, c)
  | .record n p => (⟨.record n p, t.window⟩, { c.inWindow t.window with cache := c.cache.learn n p })

/-- The session after some calls, one after the other. -/
def after (c : RestClient) (turns : List RestTurn) : RestClient :=
  turns.foldl (fun c t => (c.complete t).2) c

/-- What some calls come to, one after the other. -/
def completed (c : RestClient) : List RestTurn → List CompletedCall
  | [] => []
  | t :: turns => (c.complete t).1 :: (c.complete t).2.completed turns

end RestClient

/-- What is answered without a request. -/
def RestCache.known? (c : RestCache) : RestQuestion → Option Exchange
  | .account => c.loggedIn.map fun b => .loggedIn (.ok b)
  | .change n => (c.project? n).map fun p => .projectOf n (.ok (some p))

namespace RestClient

variable {c c' : RestClient} {q : RestQuestion} {e : Exchange} {n : UInt32}

/-- Sending a request and waiting for its end is taking in the reply. -/
theorem finish_send {α : Type} (c : RestClient) (url : Text) (reply : Reply)
    (take : RestClient → Text → Reply → Except Failure α × RestClient) :
    finish take reply (c.send url fun c reply => take c url reply) =
      take (c.inWindow (c.browser.fetch url).2) url (c.browser.replyOr url reply) := by
  unfold send Browser.replyOr
  rcases c.browser.fetch url with ⟨fetched, b⟩
  cases fetched with
  | replied r => rfl
  | bodyOpen status => rfl
  | unanswered => rfl

theorem askLogin_known {b : Bool} (h : c.cache.loggedIn = some b) :
    c.askLogin = (.answered (.ok b), c) := by
  unfold askLogin
  rw [h]

/-- The account request goes out as long as it has not been answered. -/
theorem askLogin_unknown (h : c.cache.loggedIn = none) :
    c.askLogin = c.send (RestQuestion.account.url c.base) fun c' reply =>
      c'.takeLogin (RestQuestion.account.url c.base) reply := by
  unfold askLogin
  simp only [h]

theorem askProject_known {p : Text} (h : c.cache.project? n = some p) :
    c.askProject n = (.answered (.ok (some p)), c) := by
  unfold askProject
  rw [h]

/-- The request for a change goes out as long as its project is not known. -/
theorem askProject_unknown (h : c.cache.project? n = none) :
    c.askProject n = c.send ((RestQuestion.change n).url c.base) fun c' reply =>
      c'.takeProject n ((RestQuestion.change n).url c.base) reply := by
  unfold askProject
  simp only [h]

/-- What is known is answered, and the window is left alone. -/
theorem complete_known (h : c.cache.known? q = some e) (b : Browser) (reply : Reply) :
    c.complete ⟨.ask q, b, reply⟩ = (⟨e, b⟩, c.inWindow b) := by
  cases q with
  | account =>
    obtain ⟨known, hknown, rfl⟩ := Option.map_eq_some_iff.1 h
    have hask : (c.inWindow b).askLogin = (.answered (.ok known), c.inWindow b) :=
      askLogin_known hknown
    simp only [complete, hask]
    rfl
  | change n =>
    obtain ⟨known, hknown, rfl⟩ := Option.map_eq_some_iff.1 h
    have hask : (c.inWindow b).askProject n = (.answered (.ok (some known)), c.inWindow b) :=
      askProject_known hknown
    simp only [complete, hask]
    rfl

/-- What is not known is put to the server, and what it says is kept. -/
theorem complete_unknown (h : c.cache.known? q = none) (b : Browser) (reply : Reply) :
    (c.complete ⟨.ask q, b, reply⟩).1 = q.served c.base b reply ∧
      (c.complete ⟨.ask q, b, reply⟩).2.base = c.base ∧
        (c.complete ⟨.ask q, b, reply⟩).2.cache = c.cache.keep (q.served c.base b reply).exchange := by
  have hsend := fun {α : Type} take => finish_send (α := α) (c.inWindow b) (q.url c.base) reply take
  cases q with
  | account =>
    have hask := askLogin_unknown (c := c.inWindow b) (Option.map_eq_none_iff.1 h)
    obtain ⟨hanswer, hcache⟩ := c.cache.login_eq (RestQuestion.account.url c.base)
      (b.replyOr (RestQuestion.account.url c.base) reply)
    replace hask := (congrArg (finish takeLogin reply) hask).trans (hsend takeLogin)
    simp only [complete, hask]
    exact ⟨congrArg (fun a => CompletedCall.mk (.loggedIn a) _) hanswer, rfl, hcache⟩
  | change n =>
    have hask := askProject_unknown (c := c.inWindow b) (Option.map_eq_none_iff.1 h)
    obtain ⟨hanswer, hcache⟩ := c.cache.project_eq n ((RestQuestion.change n).url c.base)
      (b.replyOr ((RestQuestion.change n).url c.base) reply)
    replace hask := (congrArg (finish (takeProject · n) reply) hask).trans (hsend (takeProject · n))
    simp only [complete, hask]
    exact ⟨congrArg (fun a => CompletedCall.mk (.projectOf n a) _) hanswer, rfl, hcache⟩

end RestClient

/-! ### What is known -/

/-- The question that an exchange is about. -/
def Exchange.question : Exchange → RestQuestion
  | .loggedIn _ => .account
  | .projectOf n _ => .change n
  | .record n _ => .change n

/-- The question that a call is about. -/
def RestCall.question : RestCall → RestQuestion
  | .ask q => q
  | .record n _ => .change n

/-- What an exchange tells about a question: the answer from then on. -/
def Exchange.tells? : Exchange → RestQuestion → Option Exchange
  | .loggedIn (.ok b), .account => some (.loggedIn (.ok b))
  | .projectOf m (.ok (some p)), .change n =>
    if n = m then some (.projectOf n (.ok (some p))) else none
  | .record m p, .change n => if n = m then some (.projectOf n (.ok (some p))) else none
  | _, _ => none

/-- An exchange from which nothing is learnt. -/
inductive Exchange.Fruitless : Exchange → Prop
  | loginFailed (f : Failure) : Fruitless (.loggedIn (.error f))
  | projectFailed (n : UInt32) (f : Failure) : Fruitless (.projectOf n (.error f))
  | projectUnknown (n : UInt32) : Fruitless (.projectOf n (.ok none))

/-- An exchange tells nothing about other questions. -/
theorem Exchange.tells?_of_ne {e : Exchange} {q : RestQuestion} (h : e.question ≠ q) :
    e.tells? q = none := by
  have hother : ∀ {m n}, RestQuestion.change m ≠ .change n → n ≠ m :=
    fun hne hnm => hne (congrArg RestQuestion.change hnm.symm)
  cases e with
  | loggedIn answer =>
    cases q with
    | account => exact absurd rfl h
    | change n => cases answer <;> rfl
  | projectOf m answer =>
    rcases answer with f | _ | p
    · cases q <;> rfl
    · cases q <;> rfl
    · cases q with
      | account => rfl
      | change n => exact if_neg (hother h)
  | record m p =>
    cases q with
    | account => rfl
    | change n => exact if_neg (hother h)

theorem Exchange.tells?_of_fruitless {e : Exchange} (h : e.Fruitless) (q : RestQuestion) :
    e.tells? q = none := by
  cases h <;> cases q <;> rfl

namespace RestCache

variable {c : RestCache} {q : RestQuestion} {e : Exchange}

theorem known?_learn (c : RestCache) (m : UInt32) (p : Text) (n : UInt32) :
    (c.learn m p).known? (.change n) =
      ((Exchange.record m p).tells? (.change n)).or (c.known? (.change n)) := by
  show Option.map _ (List.lookup n ((m, p) :: c.projects)) =
    (if n = m then some (.projectOf n (.ok (some p))) else none : Option Exchange).or _
  rw [List.lookup_cons]
  by_cases h : n = m
  · rw [if_pos h, h, beq_self_eq_true]
    rfl
  · rw [if_neg h, beq_false_of_ne h]
    rfl

/-- **What is kept of an exchange is what it tells.** -/
theorem known?_keep (c : RestCache) (e : Exchange) (q : RestQuestion) :
    (c.keep e).known? q = (e.tells? q).or (c.known? q) := by
  cases e with
  | loggedIn answer =>
    cases q with
    | account => cases answer <;> rfl
    | change n => cases answer <;> rfl
  | projectOf m answer =>
    rcases answer with f | _ | p
    · cases q <;> rfl
    · cases q <;> rfl
    · cases q with
      | account => rfl
      | change n => exact known?_learn c m p n
  | record m p =>
    cases q with
    | account => rfl
    | change n => exact known?_learn c m p n

/-- What is known is an answer to the question, and tells itself. -/
theorem question_of_known? (h : c.known? q = some e) : e.question = q ∧ e.tells? q = some e := by
  cases q with
  | account =>
    obtain ⟨b, -, rfl⟩ := Option.map_eq_some_iff.1 h
    exact ⟨rfl, rfl⟩
  | change n =>
    obtain ⟨p, -, rfl⟩ := Option.map_eq_some_iff.1 h
    exact ⟨rfl, if_pos rfl⟩

theorem keep_of_fruitless (c : RestCache) (h : e.Fruitless) : c.keep e = c := by
  cases h <;> rfl

end RestCache

/-! ### One call -/

namespace RestClient

variable {c c' : RestClient} {q : RestQuestion} {e : Exchange} {n : UInt32}

/-- All that a question can do: it is answered from memory, or by the server. -/
theorem complete_ask (c : RestClient) (q : RestQuestion) (b : Browser) (reply : Reply) :
    (∃ e, c.cache.known? q = some e ∧ c.complete ⟨.ask q, b, reply⟩ = (⟨e, b⟩, c.inWindow b)) ∨
      (c.cache.known? q = none ∧ (c.complete ⟨.ask q, b, reply⟩).1 = q.served c.base b reply ∧
        (c.complete ⟨.ask q, b, reply⟩).2.base = c.base ∧
          (c.complete ⟨.ask q, b, reply⟩).2.cache =
            c.cache.keep (q.served c.base b reply).exchange) := by
  cases h : c.cache.known? q with
  | some e => exact Or.inl ⟨e, rfl, complete_known h b reply⟩
  | none => exact Or.inr ⟨rfl, complete_unknown h b reply⟩

theorem base_complete (c : RestClient) (t : RestTurn) : (c.complete t).2.base = c.base := by
  rcases t with ⟨q | ⟨n, p⟩, b, reply⟩
  · rcases c.complete_ask q b reply with ⟨e, -, h⟩ | ⟨-, -, h, -⟩
    · rw [h]
      rfl
    · exact h
  · rfl

/-- A call and its exchange are about the same. -/
theorem question_complete (c : RestClient) (t : RestTurn) :
    (c.complete t).1.exchange.question = t.call.question := by
  rcases t with ⟨q | ⟨n, p⟩, b, reply⟩
  · cases q <;> rfl
  · rfl

/-- **One call adds to the memory what it says, and nothing else.** -/
theorem known?_complete (c : RestClient) (t : RestTurn) (q : RestQuestion) :
    (c.complete t).2.cache.known? q =
      ((c.complete t).1.exchange.tells? q).or (c.cache.known? q) := by
  rcases t with ⟨q' | ⟨m, p⟩, b, reply⟩
  · rcases c.complete_ask q' b reply with ⟨e, hknown, h⟩ | ⟨-, hserved, -, hcache⟩
    · obtain ⟨hquestion, htells⟩ := RestCache.question_of_known? hknown
      rw [h]
      show c.cache.known? q = (e.tells? q).or (c.cache.known? q)
      by_cases hq : q' = q
      · rw [← hq, htells, hknown]
        rfl
      · rw [Exchange.tells?_of_ne (by rw [hquestion]; exact hq)]
        rfl
    · rw [hserved, hcache]
      exact RestCache.known?_keep _ _ q
  · exact RestCache.known?_keep c.cache (.record m p) q

/-- What is known stays known unless something else is told. -/
theorem known?_complete_of_known (h : c.cache.known? q = some e) {t : RestTurn}
    (ht : ∀ n p, t.call = .record n p → .change n ≠ q) :
    (c.complete t).2.cache.known? q = some e := by
  by_cases hq : t.call.question = q
  · rcases t with ⟨q' | ⟨n, p⟩, b, reply⟩
    · obtain rfl : q' = q := hq
      rw [complete_known h b reply]
      exact h
    · exact absurd hq (ht n p rfl)
  · rw [← c.question_complete t] at hq
    rw [known?_complete, Exchange.tells?_of_ne hq]
    exact h

/-- A call from which nothing is learnt leaves the memory as it was, and what it asked is not known. -/
theorem complete_of_fruitless {t : RestTurn} (h : (c.complete t).1.exchange.Fruitless) :
    (c.complete t).2.cache = c.cache ∧ ∃ q, t.call = .ask q ∧ c.cache.known? q = none := by
  rcases t with ⟨q | ⟨n, p⟩, b, reply⟩
  · rcases c.complete_ask q b reply with ⟨e, hknown, hsame⟩ | ⟨hunknown, hserved, -, hcache⟩
    · rw [hsame] at h
      obtain ⟨-, htells⟩ := RestCache.question_of_known? hknown
      cases (Exchange.tells?_of_fruitless h q).symm.trans htells
    · rw [hserved] at h
      rw [hcache]
      exact ⟨RestCache.keep_of_fruitless _ h, q, rfl, hunknown⟩
  · cases h

/-! ### Any calls -/

/-- What is known stays known over any calls that tell nothing else. -/
theorem known?_after (h : c.cache.known? q = some e) {turns : List RestTurn}
    (hturns : ∀ t ∈ turns, ∀ n p, t.call = .record n p → .change n ≠ q) :
    (c.after turns).cache.known? q = some e := by
  induction turns generalizing c with
  | nil => exact h
  | cons t turns ih =>
    have hstep := known?_complete_of_known h (hturns t List.mem_cons_self)
    exact ih hstep fun t' ht' => hturns t' (List.mem_cons_of_mem t ht')

/-- What a call tells is answered from then on, without a request, until something else is told. -/
theorem complete_after {first : RestTurn} (h : (c.complete first).1.exchange.tells? q = some e)
    {between : List RestTurn}
    (hbetween : ∀ t ∈ between, ∀ n p, t.call = .record n p → .change n ≠ q) (b : Browser)
    (reply : Reply) :
    ((c.after (first :: between)).complete ⟨.ask q, b, reply⟩).1 = ⟨e, b⟩ := by
  have hfirst : (c.complete first).2.cache.known? q = some e := by
    rw [known?_complete, h]
    rfl
  have hknown : (c.after (first :: between)).cache.known? q = some e :=
    known?_after hfirst hbetween
  exact congrArg Prod.fst (complete_known hknown b reply)

/-- The sessions know the same of everything but one question. -/
structure AgreeBut (q : RestQuestion) (c c' : RestClient) : Prop where
  base : c.base = c'.base
  known : ∀ q', q ≠ q' → c.cache.known? q' = c'.cache.known? q'

/-- A call about that question makes no difference. -/
theorem AgreeBut.skip (h : AgreeBut q c c') {t : RestTurn} (ht : t.call.question = q) :
    AgreeBut q (c.complete t).2 c' := by
  refine ⟨(c.base_complete t).trans h.base, fun q' hq' => ?_⟩
  have hexchange : (c.complete t).1.exchange.question ≠ q' := by
    rw [c.question_complete t, ht]
    exact hq'
  rw [known?_complete, Exchange.tells?_of_ne hexchange]
  exact h.known q' hq'

/-- A call about anything else comes to the same. -/
theorem AgreeBut.complete (h : AgreeBut q c c') {t : RestTurn} (ht : q ≠ t.call.question) :
    (c.complete t).1 = (c'.complete t).1 ∧ AgreeBut q (c.complete t).2 (c'.complete t).2 := by
  have hsame : (c.complete t).1 = (c'.complete t).1 := by
    rcases t with ⟨q' | ⟨n, p⟩, b, reply⟩
    · have hknown := h.known q' ht
      rcases c.complete_ask q' b reply with ⟨e, he, hc⟩ | ⟨he, hserved, -, -⟩
      · rw [hc, complete_known (hknown.symm.trans he) b reply]
      · rw [hserved, (complete_unknown (hknown.symm.trans he) b reply).1, h.base]
    · rfl
  refine ⟨hsame, ?_, fun q' hq' => ?_⟩
  · rw [base_complete, base_complete]
    exact h.base
  · rw [known?_complete, known?_complete, hsame, h.known q' hq']

/-- **The calls about one question do not touch the others**: without them, the others come to the same. -/
theorem AgreeBut.completed_filter (h : AgreeBut q c c') (turns : List RestTurn) :
    (c.completed turns).filter (fun d => q ≠ d.exchange.question) =
      c'.completed (turns.filter fun t => q ≠ t.call.question) := by
  induction turns generalizing c c' with
  | nil => rfl
  | cons t turns ih =>
    rw [completed, List.filter_cons, List.filter_cons, c.question_complete t]
    by_cases ht : q = t.call.question
    · have hskip : ¬ decide (q ≠ t.call.question) = true := fun hne => of_decide_eq_true hne ht
      rw [if_neg hskip, if_neg hskip]
      exact ih (h.skip ht.symm)
    · obtain ⟨hsame, hagree⟩ := h.complete ht
      rw [if_pos (decide_eq_true ht), if_pos (decide_eq_true ht), completed, hsame, ih hagree]

/-- **What the session remembers over any calls**, in whatever windows they are made and whatever comes in;
`c` may have been through any calls before.

* Once it has said whether anybody is signed in, it says the same again, and sends no request for it.
* What was told or found last about a change is its project, and no request is sent for it, until
  something is told again.
* A call without a clear answer leaves the memory as it was, and made again it goes to the server again.
* Without the calls about one change, all other calls come to the same. -/
theorem remembers (c : RestClient) :
    (∀ first b between window reply, (c.complete first).1.exchange = .loggedIn (.ok b) →
      ((c.after (first :: between)).complete ⟨.ask .account, window, reply⟩).1 =
        ⟨.loggedIn (.ok b), window⟩) ∧
    (∀ first n p between window reply,
      (c.complete first).1.exchange = .record n p ∨
        (c.complete first).1.exchange = .projectOf n (.ok (some p)) →
      (∀ t ∈ between, ∀ p', t.call ≠ .record n p') →
      ((c.after (first :: between)).complete ⟨.ask (.change n), window, reply⟩).1 =
        ⟨.projectOf n (.ok (some p)), window⟩) ∧
    (∀ t, (c.complete t).1.exchange.Fruitless →
      (c.complete t).2.cache = c.cache ∧ ∃ q, t.call = .ask q ∧ ∀ window reply,
        ((c.complete t).2.complete ⟨.ask q, window, reply⟩).1 = q.served c.base window reply ∧
          (window.faults = [] → (q.served c.base window reply).window.calls =
            window.calls ++ [.get (q.url c.base)])) ∧
    (∀ n turns, (c.completed turns).filter (fun d => .change n ≠ d.exchange.question) =
      c.completed (turns.filter fun t => .change n ≠ t.call.question)) := by
  refine ⟨?login, ?project, ?fruitless, ?others⟩
  case login =>
    intro first b between window reply hfirst
    have htells : (c.complete first).1.exchange.tells? .account = some (.loggedIn (.ok b)) := by
      rw [hfirst]
      rfl
    exact complete_after htells (fun _ _ _ _ _ => RestQuestion.noConfusion) window reply
  case project =>
    intro first n p between window reply hfirst hbetween
    have htells : (c.complete first).1.exchange.tells? (.change n) =
        some (.projectOf n (.ok (some p))) := by
      rcases hfirst with hfirst | hfirst
      · rw [hfirst]
        exact if_pos rfl
      · rw [hfirst]
        exact if_pos rfl
    have hother : ∀ t ∈ between, ∀ m p', t.call = .record m p' →
        RestQuestion.change m ≠ .change n := by
      rintro t ht m p' htold hmn
      obtain rfl : m = n := RestQuestion.change.inj hmn
      exact hbetween t ht p' htold
    exact complete_after htells hother window reply
  case fruitless =>
    intro t ht
    obtain ⟨hcache, q, hcall, hunknown⟩ := complete_of_fruitless ht
    refine ⟨hcache, q, hcall, fun window reply => ⟨?_, fun hfaults => ?_⟩⟩
    · rw [← hcache] at hunknown
      rw [(complete_unknown hunknown window reply).1, base_complete]
    · exact congrArg (·.2.calls) (Browser.fetch_of_working hfaults _)
  case others =>
    intro n turns
    exact AgreeBut.completed_filter ⟨rfl, fun _ _ => rfl⟩ turns

/-- Change 7 is asked for while the server is down. -/
def outageSample : RestTurn :=
  ⟨.ask (.change 7), {}, .ok ⟨500, []⟩⟩

/-- The user is refused. -/
def refusalSample : RestTurn :=
  ⟨.ask .account, {}, .ok ⟨403, []⟩⟩

/-- The project of change 7 is told. -/
def tellingSample : RestTurn :=
  ⟨.record 7 "p", {}, .error (.network "offline")⟩

/-- After an outage the server is asked again; a refusal and a project that was told are remembered; and
without the calls about change 7 the user is refused all the same. -/
theorem remembers_sample :
    let c : RestClient := { base := "/r" }
    (c.complete outageSample).1.exchange.Fruitless ∧
      ((c.complete outageSample).2.complete outageSample).1.window.calls =
        [.get "/r/changes/?q=change:7&n=1"] ∧
      ((c.after [refusalSample, outageSample, tellingSample]).complete refusalSample).1 =
        ⟨.loggedIn (.ok false), {}⟩ ∧
      ((c.after [tellingSample, refusalSample]).complete outageSample).1 =
        ⟨.projectOf 7 (.ok (some "p")), {}⟩ ∧
      (c.completed [outageSample, tellingSample, refusalSample]).filter
          (fun d => .change 7 ≠ d.exchange.question) =
        c.completed [refusalSample] := by
  intro c
  obtain ⟨hlogin, hproject, hfruitless, hothers⟩ := remembers c
  have hfailed : (c.complete outageSample).1.exchange.Fruitless := .projectFailed 7 _
  obtain ⟨-, q, hcall, hagain⟩ := hfruitless outageSample hfailed
  obtain rfl : RestQuestion.change 7 = q := RestCall.ask.inj hcall
  obtain ⟨hserved, hsent⟩ := hagain {} (.ok ⟨500, []⟩)
  have hcalls : ((c.complete outageSample).2.complete outageSample).1.window.calls =
      [.get "/r/changes/?q=change:7&n=1"] :=
    (congrArg (·.window.calls) hserved).trans (hsent rfl)
  have htold : ∀ t ∈ [refusalSample], ∀ p, t.call ≠ .record 7 p := by
    intro t ht p
    rw [List.mem_singleton.1 ht]
    exact RestCall.noConfusion
  exact ⟨hfailed, hcalls, hlogin refusalSample false [outageSample, tellingSample] {} _ rfl,
    hproject tellingSample 7 "p" [refusalSample] {} _ (Or.inl rfl) htold,
    hothers 7 [outageSample, tellingSample, refusalSample]⟩

end RestClient

/-! ### A scripted server -/

namespace RestSession

/-- What is said when the session is asked something. -/
def ask (s : RestSession) : RestQuestion → Exchange × RestSession
  | .account => (.loggedIn s.loggedIn.1, s.loggedIn.2)
  | .change n => (.projectOf n (s.projectOf n).1, (s.projectOf n).2)

/-- The same session in a window that leaves all requests open. -/
def client (s : RestSession) : RestClient :=
  { base := s.base, cache := s.cache, journal := s.journal }

theorem ask_known {s : RestSession} {q : RestQuestion} {e : Exchange} (h : s.cache.known? q = some e) :
    s.ask q = (e, s) := by
  cases q with
  | account =>
    obtain ⟨b, hb, rfl⟩ := Option.map_eq_some_iff.1 h
    simp only [ask, loggedIn, hb]
  | change n =>
    obtain ⟨p, hp, rfl⟩ := Option.map_eq_some_iff.1 h
    simp only [ask, projectOf, hp]

theorem ask_unknown {s : RestSession} {q : RestQuestion} (h : s.cache.known? q = none) :
    (s.ask q).1 = q.exchange (s.server.reply (q.url s.base)) ∧
      (s.ask q).2.cache = s.cache.keep (q.exchange (s.server.reply (q.url s.base))) ∧
        (s.ask q).2.calls = s.calls ++ [.get (q.url s.base)] := by
  cases q with
  | account =>
    have hunknown := Option.map_eq_none_iff.1 h
    obtain ⟨hanswer, hcache⟩ := s.cache.login_eq (RestQuestion.account.url s.base)
      (s.server.reply (RestQuestion.account.url s.base))
    simp only [ask, loggedIn, hunknown]
    exact ⟨congrArg Exchange.loggedIn hanswer, hcache, rfl⟩
  | change n =>
    have hunknown := Option.map_eq_none_iff.1 h
    obtain ⟨hanswer, hcache⟩ := s.cache.project_eq n ((RestQuestion.change n).url s.base)
      (s.server.reply ((RestQuestion.change n).url s.base))
    simp only [ask, projectOf, hunknown]
    exact ⟨congrArg (Exchange.projectOf n) hanswer, hcache, rfl⟩

/-- **A session over a scripted server remembers in the same way**: it says and keeps what a session in a
window does to which the server's reply comes in, and sends the same requests. -/
theorem ask_eq_complete (s : RestSession) (q : RestQuestion) :
    let done := s.client.complete ⟨.ask q, {}, s.server.reply (q.url s.base)⟩
    (s.ask q).1 = done.1.exchange ∧ (s.ask q).2.cache = done.2.cache ∧
      ∃ urls : List Text, done.1.window.calls = urls.map BrowserCall.get ∧
        (s.ask q).2.calls = s.calls ++ urls.map SessionCall.get := by
  intro done
  rcases s.client.complete_ask q {} (s.server.reply (q.url s.base)) with
    ⟨e, hknown, hdone⟩ | ⟨hunknown, hserved, -, hcache⟩
  · have hask : s.ask q = (e, s) := ask_known hknown
    rw [show done = _ from hdone, hask]
    exact ⟨rfl, rfl, [], rfl, (List.append_nil s.calls).symm⟩
  · obtain ⟨hsaid, hkept, hcalls⟩ := ask_unknown (s := s) hunknown
    refine ⟨hsaid.trans (congrArg CompletedCall.exchange hserved).symm, hkept.trans hcache.symm,
      [q.url s.base], ?_, hcalls⟩
    rw [show done.1 = _ from hserved]
    exact congrArg (·.2.calls) (Browser.fetch_of_working (b := {}) rfl _)

end RestSession

end ReviewRouter
