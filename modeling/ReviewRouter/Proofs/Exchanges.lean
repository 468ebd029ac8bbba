import ReviewRouter.Proofs.Handling

/-!
# What a run says to the session

A run is a conversation: questions that the session answers, and what it is told.  Reporting an event
is not part of it.

* `Exchange` — a question with its answer, or something the session is told;
* `Plan.exchanges` — the conversation of a run, in order;
* `Plan.run_question`, `Plan.exchanges_question` — a run that begins with a question;
* `Plan.calls_run_scripted` — **the calls that a scripted session writes down are those of the
  conversation**.
-/

namespace ReviewRouter

/-- A question to the session with its answer, or something the session is told. -/
inductive Exchange where
  | loggedIn (answer : Except Failure Bool)
  | projectOf (change : UInt32) (answer : Except Failure (Option Text))
  | record (change : UInt32) (project : Text)

/-- The call of an exchange, without its answer. -/
def Exchange.call : Exchange → SessionCall
  | .loggedIn _ => .loggedIn
  | .projectOf change _ => .projectOf change
  | .record change project => .record change project

namespace Plan

variable {σ α β : Type}

/-- The conversation of a run, in order. -/
def exchanges (s : Session σ) : Plan α → σ → List Exchange
  | .done _, _ => []
  | .askLogin next, st =>
    let (answer, st) := s.loggedIn st
    .loggedIn answer :: (next answer).exchanges s st
  | .askProject change next, st =>
    let (answer, st) := s.projectOf change st
    .projectOf change answer :: (next answer).exchanges s st
  | .record change project next, st =>
    .record change project :: next.exchanges s (s.record change project st)
  | .note e next, st => next.exchanges s (s.note e st)

/-- A run that begins with a question goes on with the answer. -/
theorem run_question (s : Session σ) (e : Event) (next : Except Failure Bool → Plan α) (st : σ) :
    (note e (askLogin next)).run s st =
      (next (s.loggedIn (s.note e st)).1).run s (s.loggedIn (s.note e st)).2 :=
  rfl

theorem exchanges_question (s : Session σ) (e : Event) (next : Except Failure Bool → Plan α) (st : σ) :
    (note e (askLogin next)).exchanges s st = .loggedIn (s.loggedIn (s.note e st)).1 ::
      (next (s.loggedIn (s.note e st)).1).exchanges s (s.loggedIn (s.note e st)).2 :=
  rfl

/-- **The calls that a scripted session writes down are those of the conversation.** -/
theorem calls_run_scripted (p : Plan α) (st : Scripted) :
    (p.run .scripted st).2.calls = st.calls ++ (p.exchanges .scripted st).map Exchange.call := by
  induction p generalizing st with
  | done a => exact (List.append_nil st.calls).symm
  | askLogin next ih =>
    have hnext := ih (Session.scripted.loggedIn st).1 (Session.scripted.loggedIn st).2
    have hcall : (Session.scripted.loggedIn st).2.calls = st.calls ++ [.loggedIn] := rfl
    rw [hcall, List.append_assoc] at hnext
    exact hnext
  | askProject change next ih =>
    have hnext := ih (Session.scripted.projectOf change st).1 (Session.scripted.projectOf change st).2
    have hcall : (Session.scripted.projectOf change st).2.calls = st.calls ++ [.projectOf change] := rfl
    rw [hcall, List.append_assoc] at hnext
    exact hnext
  | record change project next ih =>
    have hnext := ih (Session.scripted.record change project st)
    have hcall : (Session.scripted.record change project st).calls =
        st.calls ++ [.record change project] := rfl
    rw [hcall, List.append_assoc] at hnext
    exact hnext
  | note e next ih => exact ih (Session.scripted.note e st)

end Plan

end ReviewRouter
