import ReviewRouter.Proofs.Exchanges
import ReviewRouter.Session.Server

/-!
# Plans that are alike

Two plans are alike if they ask the same questions in the same order, tell the session the same, and end
in results that are related.  They may report different events, at different times.  A session that only
writes events down cannot tell them apart.

* `Plan.Alike` — two such plans, with one constructor for each step;
* `Plan.Alike.bind`, `Handling.Alike.bind` — alike plans go on alike;
* `Session.IgnoresNotes` — a session that only writes events down;
* `Plan.Alike.run` — **alike plans say the same to such a session, and their results are related**.
-/

namespace ReviewRouter

/-! ### Plans -/

/-- The plans say the same to the session, and their results are related. -/
inductive Plan.Alike {α β : Type} (Q : α → β → Prop) : Plan α → Plan β → Prop where
  | done {a : α} {b : β} (results : Q a b) : Alike Q (.done a) (.done b)
  | askLogin {next : Except Failure Bool → Plan α} {next' : Except Failure Bool → Plan β}
      (later : ∀ answer, Alike Q (next answer) (next' answer)) :
      Alike Q (.askLogin next) (.askLogin next')
  | askProject {change : UInt32} {next : Except Failure (Option Text) → Plan α}
      {next' : Except Failure (Option Text) → Plan β}
      (later : ∀ answer, Alike Q (next answer) (next' answer)) :
      Alike Q (.askProject change next) (.askProject change next')
  | record {change : UInt32} {project : Text} {p : Plan α} {q : Plan β} (later : Alike Q p q) :
      Alike Q (.record change project p) (.record change project q)
  | noteLeft {e : Event} {p : Plan α} {q : Plan β} (later : Alike Q p q) : Alike Q (.note e p) q
  | noteRight {e : Event} {p : Plan α} {q : Plan β} (later : Alike Q p q) : Alike Q p (.note e q)

namespace Plan.Alike

variable {α β γ δ : Type} {Q : α → β → Prop}

/-- A plan is like itself. -/
theorem refl {Q : α → α → Prop} (hQ : ∀ a, Q a a) (p : Plan α) : p.Alike Q p := by
  induction p with
  | done a => exact .done (hQ a)
  | askLogin next ih => exact .askLogin ih
  | askProject change next ih => exact .askProject ih
  | record change project next ih => exact .record ih
  | note e next ih => exact .noteLeft (.noteRight ih)

/-- Alike plans whose related results are gone on with alike. -/
theorem bind {Q' : γ → δ → Prop} {p : Plan α} {q : Plan β} {f : α → Plan γ} {g : β → Plan δ}
    (h : p.Alike Q q) (hfg : ∀ a b, Q a b → (f a).Alike Q' (g b)) :
    (p.bind f).Alike Q' (q.bind g) := by
  induction h with
  | done results => exact hfg _ _ results
  | askLogin _ ih => exact .askLogin ih
  | askProject _ ih => exact .askProject ih
  | record _ ih => exact .record ih
  | noteLeft _ ih => exact .noteLeft ih
  | noteRight _ ih => exact .noteRight ih

end Plan.Alike

/-! ### Plans that may fail -/

namespace Handling

variable {α β : Type} {Q : Except Failure α → Except Failure α → Prop}

/-- The plans say the same to the session, and their results, failures included, are related. -/
def Alike (Q : Except Failure α → Except Failure α → Prop) (h h' : Handling α) : Prop :=
  Plan.Alike Q h.run h'.run

theorem Alike.refl (hQ : ∀ x, Q x x) (h : Handling α) : h.Alike Q h :=
  Plan.Alike.refl hQ h.run

theorem Alike.pure {a b : α} (hab : Q (.ok a) (.ok b)) :
    Handling.Alike Q (Pure.pure a) (Pure.pure b) :=
  Plan.Alike.done hab

theorem Alike.throw {f f' : Failure} (hf : Q (.error f) (.error f')) :
    Handling.Alike Q (MonadExcept.throw f) (MonadExcept.throw f') :=
  Plan.Alike.done hf

/-- The same first step, gone on with alike. -/
theorem Alike.bind (hQ : ∀ x, Q x x) (h : Handling β) {f f' : β → Handling α}
    (hf : ∀ b, (f b).Alike Q (f' b)) : (h >>= f).Alike Q (h >>= f') := by
  refine Plan.Alike.bind (Plan.Alike.refl (fun _ => rfl) h.run : h.run.Alike Eq h.run) ?_
  rintro x _ rfl
  cases x with
  | error e => exact .done (hQ _)
  | ok b => exact hf b

end Handling

/-! ### Sessions -/

/-- The session cannot tell related states apart, and keeps them related, whatever is reported in one
of them. -/
structure Session.Indifferent {σ : Type} (s : Session σ) (R : σ → σ → Prop) : Prop where
  loggedIn : ∀ st st', R st st' →
    (s.loggedIn st).1 = (s.loggedIn st').1 ∧ R (s.loggedIn st).2 (s.loggedIn st').2
  projectOf : ∀ change st st', R st st' →
    (s.projectOf change st).1 = (s.projectOf change st').1 ∧
      R (s.projectOf change st).2 (s.projectOf change st').2
  record : ∀ change project st st', R st st' →
    R (s.record change project st) (s.record change project st')
  noteLeft : ∀ e st st', R st st' → R (s.note e st) st'
  noteRight : ∀ e st st', R st st' → R st (s.note e st')

/-- From the given state on no answer depends on the events that were reported: the session, which
answers, and the journal, which takes down the events, are one state here and have nothing to do with each
other. -/
def Session.IgnoresNotes {σ : Type} (s : Session σ) (st : σ) : Prop :=
  ∃ R : σ → σ → Prop, s.Indifferent R ∧ R st st

/-- A session without a journal. -/
theorem Session.ignoresNotes_of_silent {σ : Type} {s : Session σ} (hs : ∀ e st, s.note e st = st)
    (st : σ) : s.IgnoresNotes st := by
  refine ⟨Eq, ⟨?_, ?_, ?_, ?_, ?_⟩, rfl⟩
  · rintro st _ rfl
    exact ⟨rfl, rfl⟩
  · rintro change st _ rfl
    exact ⟨rfl, rfl⟩
  · rintro change project st _ rfl
    rfl
  · rintro e st _ rfl
    exact hs e st
  · rintro e st _ rfl
    exact (hs e st).symm

/-- A scripted session with an empty journal. -/
def Scripted.unreported (st : Scripted) : Scripted :=
  { st with journal := [] }

/-- Nothing reads the journal of a scripted session. -/
theorem Session.scripted_ignoresNotes (st : Scripted) : Session.scripted.IgnoresNotes st := by
  refine ⟨fun st st' => st.unreported = st'.unreported, ⟨?_, ?_, ?_, ?_, ?_⟩, rfl⟩
  · rintro ⟨login, failLogin, failLookup, projects, calls, journal⟩
      ⟨login', failLogin', failLookup', projects', calls', journal'⟩ h
    cases h
    exact ⟨rfl, rfl⟩
  · rintro change ⟨login, failLogin, failLookup, projects, calls, journal⟩
      ⟨login', failLogin', failLookup', projects', calls', journal'⟩ h
    cases h
    exact ⟨rfl, rfl⟩
  · rintro change project ⟨login, failLogin, failLookup, projects, calls, journal⟩
      ⟨login', failLogin', failLookup', projects', calls', journal'⟩ h
    cases h
    rfl
  · exact fun e st st' h => h
  · exact fun e st st' h => h

/-- The session of a review server with an empty journal. -/
def RestSession.unreported (st : RestSession) : RestSession :=
  { st with journal := [] }

/-- Nothing reads the journal of the session of a review server. -/
theorem Session.rest_ignoresNotes (st : RestSession) : Session.rest.IgnoresNotes st := by
  refine ⟨fun st st' => st.unreported = st'.unreported, ⟨?_, ?_, ?_, ?_, ?_⟩, rfl⟩
  · rintro ⟨base, server, cache, calls, journal⟩ ⟨base', server', cache', calls', journal'⟩ h
    cases h
    show (RestSession.loggedIn _).1 = (RestSession.loggedIn _).1 ∧
      (RestSession.loggedIn _).2.unreported = (RestSession.loggedIn _).2.unreported
    unfold RestSession.loggedIn
    dsimp only
    cases cache.loggedIn with
    | none => exact ⟨rfl, rfl⟩
    | some known => exact ⟨rfl, rfl⟩
  · rintro change ⟨base, server, cache, calls, journal⟩ ⟨base', server', cache', calls', journal'⟩ h
    cases h
    show (RestSession.projectOf change _).1 = (RestSession.projectOf change _).1 ∧
      (RestSession.projectOf change _).2.unreported = (RestSession.projectOf change _).2.unreported
    unfold RestSession.projectOf
    dsimp only
    cases cache.project? change with
    | none => exact ⟨rfl, rfl⟩
    | some known => exact ⟨rfl, rfl⟩
  · rintro change project ⟨base, server, cache, calls, journal⟩
      ⟨base', server', cache', calls', journal'⟩ h
    cases h
    rfl
  · exact fun e st st' h => h
  · exact fun e st st' h => h

/-! ### Runs -/

namespace Plan.Alike

variable {σ α β : Type} {Q : α → β → Prop} {s : Session σ} {R : σ → σ → Prop}

/-- **Alike plans say the same to a session that cannot tell their states apart, and their results are
related.** -/
theorem run (hs : s.Indifferent R) {p : Plan α} {q : Plan β} (h : p.Alike Q q) {st st' : σ}
    (hst : R st st') :
    Q (p.run s st).1 (q.run s st').1 ∧ R (p.run s st).2 (q.run s st').2 ∧
      p.exchanges s st = q.exchanges s st' := by
  induction h generalizing st st' with
  | done results => exact ⟨results, hst, rfl⟩
  | askLogin _ ih =>
    obtain ⟨hanswer, hnext⟩ := hs.loggedIn st st' hst
    obtain ⟨hresult, hend, hsaid⟩ := ih (s.loggedIn st).1 hnext
    simp only [Plan.run, exchanges]
    rw [← hanswer]
    exact ⟨hresult, hend, congrArg (List.cons _) hsaid⟩
  | @askProject change _ _ _ ih =>
    obtain ⟨hanswer, hnext⟩ := hs.projectOf change st st' hst
    obtain ⟨hresult, hend, hsaid⟩ := ih (s.projectOf change st).1 hnext
    simp only [Plan.run, exchanges]
    rw [← hanswer]
    exact ⟨hresult, hend, congrArg (List.cons _) hsaid⟩
  | record _ ih =>
    obtain ⟨hresult, hend, hsaid⟩ := ih (hs.record _ _ st st' hst)
    exact ⟨hresult, hend, congrArg (List.cons _) hsaid⟩
  | noteLeft _ ih => exact ih (hs.noteLeft _ st st' hst)
  | noteRight _ ih => exact ih (hs.noteRight _ st st' hst)

end Plan.Alike

end ReviewRouter
