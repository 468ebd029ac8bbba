import ReviewRouter.Event

/-!
# Plans: computations that ask the session

A handler may ask whether the user is signed in and which project a change belongs to, and may tell
the session what it has learnt about a change.  It is written as a plan, a tree of such questions,
so that the same handler runs against any session, at once or with a pause at every question.

* `Plan` — the tree; a question is answered by a value or by the failure of the session;
* `Handling` — plans that may fail;
* `Session` / `Plan.run` — answers to the questions, and a run that gets them one after the other.
-/

namespace ReviewRouter

/-! ### Plans -/

/-- A computation with questions to the session. -/
inductive Plan (α : Type) where
  | done (a : α)
  | askLogin (next : Except Failure Bool → Plan α)
  | askProject (change : UInt32) (next : Except Failure (Option Text) → Plan α)
  | record (change : UInt32) (project : Text) (next : Plan α)
  | note (e : Event) (next : Plan α)

namespace Plan

/-- Goes on with `f` where the plan is done. -/
def bind {α β : Type} : Plan α → (α → Plan β) → Plan β
  | .done a, f => f a
  | .askLogin next, f => .askLogin fun r => (next r).bind f
  | .askProject change next, f => .askProject change fun r => (next r).bind f
  | .record change project next, f => .record change project (next.bind f)
  | .note e next, f => .note e (next.bind f)

instance : Monad Plan where
  pure := .done
  bind := bind

end Plan

/-! ### Plans that may fail -/

/-- A plan that may fail. -/
abbrev Handling := ExceptT Failure Plan

namespace Handling

/-- Whether the user is signed in. -/
def loggedIn : Handling Bool :=
  ExceptT.mk (.askLogin .done)

/-- The project of a change, if there is one. -/
def projectOf (change : UInt32) : Handling (Option Text) :=
  ExceptT.mk (.askProject change .done)

/-- Tells the session which project a change belongs to. -/
def record (change : UInt32) (project : Text) : Handling Unit :=
  ExceptT.mk (.record change project (.done (.ok ())))

/-- Reports an event. -/
def note (e : Event) : Handling Unit :=
  ExceptT.mk (.note e (.done (.ok ())))

end Handling

/-! ### Running a plan -/

/-- A session that answers at once, with its state. -/
structure Session (σ : Type) where
  loggedIn : σ → Except Failure Bool × σ
  projectOf : UInt32 → σ → Except Failure (Option Text) × σ
  record : UInt32 → Text → σ → σ
  note : Event → σ → σ

/-- Runs a plan to its end. -/
def Plan.run {σ α : Type} (s : Session σ) : Plan α → σ → α × σ
  | .done a, st => (a, st)
  | .askLogin next, st =>
    let (answer, st) := s.loggedIn st
    (next answer).run s st
  | .askProject change next, st =>
    let (answer, st) := s.projectOf change st
    (next answer).run s st
  | .record change project next, st => next.run s (s.record change project st)
  | .note e next, st => next.run s (s.note e st)

/-- Two sessions behind one interface. -/
def Session.sum {σ τ : Type} (s : Session σ) (t : Session τ) : Session (σ ⊕ τ) where
  loggedIn
    | .inl st => let (a, st) := s.loggedIn st; (a, .inl st)
    | .inr st => let (a, st) := t.loggedIn st; (a, .inr st)
  projectOf change
    | .inl st => let (a, st) := s.projectOf change st; (a, .inl st)
    | .inr st => let (a, st) := t.projectOf change st; (a, .inr st)
  record change project
    | .inl st => .inl (s.record change project st)
    | .inr st => .inr (t.record change project st)
  note e
    | .inl st => .inl (s.note e st)
    | .inr st => .inr (t.note e st)

end ReviewRouter
