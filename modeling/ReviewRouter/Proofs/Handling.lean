import ReviewRouter.Navigator
import ReviewRouter.Session.Scripted

/-!
# What a handler can answer

A handler asks the session and goes on with its answers.  Whatever session it runs against, its
result is one of those that some answers lead to.

* `Answers` — the answers that are expected of a session;
* `Session.Obeys` — a session that gives only these from a state on;
* `Plan.Yields` — the results of a plan under these answers;
* `Plan.yields_run` — **a run against a session yields one of them**;
* `Handling.Gives` — the results of a plan that may fail, with one lemma for each of its steps.
-/

namespace ReviewRouter

/-! ### Answers -/

/-- The answers that are expected of a session. -/
structure Answers where
  login : Except Failure Bool → Prop
  project : UInt32 → Except Failure (Option Text) → Prop

/-- Any answers. -/
def Answers.any : Answers where
  login _ := True
  project _ _ := True

/-- A user who is signed in. -/
def Answers.signedIn : Answers where
  login r := r = .ok true
  project _ _ := True

/-- In the states with the property the session gives only such answers, and it stays in them. -/
structure Session.Keeps {σ : Type} (s : Session σ) (A : Answers) (I : σ → Prop) : Prop where
  loggedIn : ∀ st, I st → A.login (s.loggedIn st).1 ∧ I (s.loggedIn st).2
  projectOf : ∀ change st, I st →
    A.project change (s.projectOf change st).1 ∧ I (s.projectOf change st).2
  record : ∀ change project st, I st → I (s.record change project st)
  note : ∀ e st, I st → I (s.note e st)

/-- From the given state on the session gives only such answers. -/
def Session.Obeys {σ : Type} (s : Session σ) (A : Answers) (st : σ) : Prop :=
  ∃ I : σ → Prop, s.Keeps A I ∧ I st

/-- A session all of whose answers are of this kind. -/
theorem Session.obeys_of_answers {σ : Type} {s : Session σ} {A : Answers}
    (hlogin : ∀ st, A.login (s.loggedIn st).1)
    (hproject : ∀ change st, A.project change (s.projectOf change st).1) (st : σ) : s.Obeys A st :=
  ⟨fun _ => True, ⟨fun st _ => ⟨hlogin st, trivial⟩, fun change st _ => ⟨hproject change st, trivial⟩,
    fun _ _ _ _ => trivial, fun _ _ _ => trivial⟩, trivial⟩

theorem Session.obeys_any {σ : Type} (s : Session σ) (st : σ) : s.Obeys .any st :=
  obeys_of_answers (fun _ => trivial) (fun _ _ => trivial) st

/-- Whether the user of a scripted session is signed in never changes. -/
theorem Session.scripted_obeys_of_login {A : Answers} {st : Scripted}
    (hlogin : A.login (Session.scripted.loggedIn st).1)
    (hproject : ∀ change answer, A.project change answer) : Session.scripted.Obeys A st := by
  refine ⟨fun st' => (Session.scripted.loggedIn st').1 = (Session.scripted.loggedIn st).1,
    ⟨?_, ?_, ?_, ?_⟩, rfl⟩
  · intro st' h
    rw [← h] at hlogin
    exact ⟨hlogin, h⟩
  · exact fun change st' h => ⟨hproject change _, h⟩
  · exact fun _ _ _ h => h
  · exact fun _ _ h => h

/-- A scripted user stays signed in. -/
theorem Session.scripted_obeys_signedIn {st : Scripted} (h : st.loggedIn = true)
    (hfail : st.failLogin = false) : Session.scripted.Obeys .signedIn st := by
  refine scripted_obeys_of_login ?_ fun _ _ => trivial
  simp only [scripted, hfail, h, Answers.signedIn, Bool.false_eq_true, if_false]

/-! ### Plans -/

namespace Plan

/-- The results of a plan under the given answers. -/
def Yields {α : Type} (A : Answers) : Plan α → α → Prop
  | .done b, a => a = b
  | .askLogin next, a => ∃ r, A.login r ∧ (next r).Yields A a
  | .askProject change next, a => ∃ r, A.project change r ∧ (next r).Yields A a
  | .record _ _ next, a => next.Yields A a
  | .note _ next, a => next.Yields A a

variable {σ α β : Type} {A : Answers}

/-- **A run against a session yields one of the results**, and the session goes on as before. -/
theorem yields_run {s : Session σ} {st : σ} (hs : s.Obeys A st) (p : Plan α) :
    p.Yields A (p.run s st).1 ∧ s.Obeys A (p.run s st).2 := by
  obtain ⟨I, hI, hst⟩ := hs
  have hrun : p.Yields A (p.run s st).1 ∧ I (p.run s st).2 := by
    induction p generalizing st with
    | done a => exact ⟨rfl, hst⟩
    | askLogin next ih =>
      obtain ⟨hanswer, hnext⟩ := hI.loggedIn st hst
      obtain ⟨hyields, hend⟩ := ih _ hnext
      exact ⟨⟨_, hanswer, hyields⟩, hend⟩
    | askProject change next ih =>
      obtain ⟨hanswer, hnext⟩ := hI.projectOf change st hst
      obtain ⟨hyields, hend⟩ := ih _ hnext
      exact ⟨⟨_, hanswer, hyields⟩, hend⟩
    | record change project next ih => exact ih (hI.record change project st hst)
    | note e next ih => exact ih (hI.note e st hst)
  exact ⟨hrun.1, I, hI, hrun.2⟩

theorem yields_bind (p : Plan α) (f : α → Plan β) (b : β) :
    (p.bind f).Yields A b ↔ ∃ a, p.Yields A a ∧ (f a).Yields A b := by
  induction p with
  | done a =>
    constructor
    · intro h
      exact ⟨a, rfl, h⟩
    · rintro ⟨_, rfl, h⟩
      exact h
  | askLogin next ih =>
    simp only [bind, Yields, ih]
    constructor
    · rintro ⟨r, hr, a, ha, hb⟩
      exact ⟨a, ⟨r, hr, ha⟩, hb⟩
    · rintro ⟨a, ⟨r, hr, ha⟩, hb⟩
      exact ⟨r, hr, a, ha, hb⟩
  | askProject change next ih =>
    simp only [bind, Yields, ih]
    constructor
    · rintro ⟨r, hr, a, ha, hb⟩
      exact ⟨a, ⟨r, hr, ha⟩, hb⟩
    · rintro ⟨a, ⟨r, hr, ha⟩, hb⟩
      exact ⟨r, hr, a, ha, hb⟩
  | record change project next ih => exact ih
  | note e next ih => exact ih

end Plan

/-! ### Plans that may fail -/

namespace Handling

variable {α β : Type} {A : Answers}

/-- The results of a plan that may fail. -/
def Gives (A : Answers) (h : Handling α) (r : Except Failure α) : Prop :=
  Plan.Yields A h.run r

@[simp] theorem gives_pure (a : α) (r : Except Failure α) :
    Gives A (pure a) r ↔ r = .ok a :=
  Iff.rfl

@[simp] theorem gives_throw (e : Failure) (r : Except Failure α) :
    Gives A (throw e) r ↔ r = .error e :=
  Iff.rfl

/-- A step that needs no session and has a result goes on with it. -/
theorem lift_ok_bind (a : α) (f : α → Handling β) :
    (liftM (Except.ok a : Except Failure α) : Handling α) >>= f = f a :=
  rfl

@[simp] theorem gives_lift (x : Except Failure α) (r : Except Failure α) :
    Gives A (liftM x) r ↔ r = x :=
  Iff.rfl

@[simp] theorem gives_loggedIn (r : Except Failure Bool) : Gives A loggedIn r ↔ A.login r := by
  constructor
  · rintro ⟨r', hr', rfl⟩
    exact hr'
  · intro hr
    exact ⟨r, hr, rfl⟩

@[simp] theorem gives_projectOf (change : UInt32) (r : Except Failure (Option Text)) :
    Gives A (projectOf change) r ↔ A.project change r := by
  constructor
  · rintro ⟨r', hr', rfl⟩
    exact hr'
  · intro hr
    exact ⟨r, hr, rfl⟩

@[simp] theorem gives_record (change : UInt32) (project : Text) (r : Except Failure Unit) :
    Gives A (record change project) r ↔ r = .ok () :=
  Iff.rfl

@[simp] theorem gives_note (e : Event) (r : Except Failure Unit) :
    Gives A (note e) r ↔ r = .ok () :=
  Iff.rfl

theorem gives_bind (h : Handling α) (f : α → Handling β) (r : Except Failure β) :
    Gives A (h >>= f) r ↔
      (∃ a, Gives A h (.ok a) ∧ Gives A (f a) r) ∨ ∃ e, Gives A h (.error e) ∧ r = .error e := by
  show (Plan.bind h.run _).Yields A r ↔ _
  rw [Plan.yields_bind]
  constructor
  · rintro ⟨a | e, ha, hr⟩
    · exact Or.inr ⟨a, ha, hr⟩
    · exact Or.inl ⟨e, ha, hr⟩
  · rintro (⟨a, ha, hr⟩ | ⟨e, he, rfl⟩)
    · exact ⟨.ok a, ha, hr⟩
    · exact ⟨.error e, he, rfl⟩

/-- A success of two steps is one of both. -/
@[simp] theorem gives_bind_ok (h : Handling α) (f : α → Handling β) (b : β) :
    Gives A (h >>= f) (.ok b) ↔ ∃ a, Gives A h (.ok a) ∧ Gives A (f a) (.ok b) := by
  rw [gives_bind]
  constructor
  · rintro (h | ⟨e, -, he⟩)
    · exact h
    · cases he
  · exact Or.inl

end Handling

end ReviewRouter
