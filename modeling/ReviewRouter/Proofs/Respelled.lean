import ReviewRouter.Proofs.Alike
import ReviewRouter.Proofs.Navigation

/-!
# Spellings of one address

The path of an address may be spelled in several ways, and so may its anchor: any character may be
escaped.  Handlers read the captures of the unescaped path, the query and the unescaped anchor; only
where a handler leads on, or says what it did not find, does it look at the spelling itself.

* `Location.SpellsAlike` — two spellings of one location;
* `SameView` — results that show the same;
* `alike_handle`, `alike_guard` — **handlers do the same for both spellings until they lead on**;
* `Navigator.alike_resolve` — so does a navigation;
* `Navigator.respelled_shows_same` — **two spellings of one address show the same view**.
-/

namespace ReviewRouter

/-- Two spellings of one location: what is unescaped is the same, and so is the query. -/
structure Location.SpellsAlike (l l' : Location) : Prop where
  path : l.matchPath = l'.matchPath
  query : l.query = l'.query
  hash : l.hash = l'.hash

/-- The results show the same view, or both of them none. -/
def SameView (x y : Except Failure Action) : Prop :=
  ∀ v, x = .ok (.present v) ↔ y = .ok (.present v)

theorem SameView.refl (x : Except Failure Action) : SameView x x :=
  fun _ => Iff.rfl

/-- Neither of two redirects shows a view. -/
theorem sameView_redirect (t t' : Text) : SameView (.ok (.redirect t)) (.ok (.redirect t')) :=
  fun _ => ⟨nofun, nofun⟩

theorem sameView_error (f f' : Failure) : SameView (.error f) (.error f') :=
  fun _ => ⟨nofun, nofun⟩

/-! ### Handlers -/

section Handlers

open Handling

variable {l l' : Location} {c : Captures}

theorem alike_same (h : Handling Action) : h.Alike SameView h :=
  Alike.refl SameView.refl h

theorem alike_redirect (t t' : Text) :
    Alike SameView (pure (.redirect t)) (pure (.redirect t')) :=
  Alike.pure (sameView_redirect t t')

/-- After the same first step. -/
theorem alike_after {α : Type} (h : Handling α) {f f' : α → Handling Action}
    (hf : ∀ a, (f a).Alike SameView (f' a)) : (h >>= f).Alike SameView (h >>= f') :=
  Alike.bind SameView.refl h hf

/-- The root page looks at the anchor as it is written, but only to lead there. -/
theorem alike_root (hquery : l.query = l'.query) (hhash : l.hash = l'.hash) :
    (handleRoot l).Alike SameView (handleRoot l') := by
  unfold handleRoot
  rw [hquery, hhash]
  split
  · exact alike_same _
  · split
    · exact alike_redirect _ _
    · exact alike_same _

/-- A dashboard without sections sends visitors to sign in, and so back to the address as it is
written. -/
theorem alike_userDashboard (hquery : l.query = l'.query) :
    (handleUserDashboard l c).Alike SameView (handleUserDashboard l' c) := by
  unfold handleUserDashboard
  rw [hquery]
  refine alike_after _ fun user => ?_
  split
  · exact alike_same _
  · refine alike_after _ fun login => ?_
    split
    · exact alike_same _
    · split
      · exact alike_redirect _ _
      · exact alike_same _

/-- A link without its project keeps the rest of the address as it is written. -/
theorem alike_legacyChange : (handleLegacyChange l c).Alike SameView (handleLegacyChange l' c) := by
  unfold handleLegacyChange
  refine alike_after _ fun change => alike_after _ fun project => ?_
  cases project with
  | none => exact alike_same _
  | some project =>
    exact alike_after _ fun _ => alike_after _ fun written => alike_redirect _ _

/-- **Handlers do the same for both spellings** until they lead on. -/
theorem alike_handle (hl : l.SpellsAlike l') (d : Deployment) (initialLoad : Bool) (r : Route) :
    (r.handle d initialLoad l c).Alike SameView (r.handle d initialLoad l' c) := by
  obtain ⟨-, hquery, hhash⟩ := hl
  have hvalue : l.queryValue? = l'.queryValue? := by
    funext name
    unfold Location.queryValue?
    rw [hquery]
  delta Route.handle
  cases r <;> dsimp only
  case root => exact alike_root hquery hhash
  case dashboard => exact alike_userDashboard hquery
  case customDashboard =>
    rw [hquery]
    exact alike_same _
  case groupListOffset | groupListFilterOffset | groupListFilter | repoListOffset
      | repoListFilterOffset | repoListFilter | pluginListOffset | pluginListFilterOffset
      | pluginListFilter =>
    unfold adminPage
    rw [hhash]
    exact alike_same _
  case diffEdit =>
    unfold handleDiffEdit
    rw [hhash]
    exact alike_same _
  case changeEdit =>
    unfold handleChangeEdit
    rw [hvalue]
    exact alike_same _
  case diff =>
    unfold handleDiff
    rw [hhash]
    exact alike_same _
  case change =>
    unfold handleChange
    rw [hvalue]
    exact alike_same _
  case changeLegacy => exact alike_legacyChange
  case repo | queryLegacySuffix | diffLegacyLinenum | improperlyEncodedPlus =>
    exact alike_redirect _ _
  case fallback =>
    split
    · exact alike_same _
    · exact Alike.throw (sameView_error _ _)
  -- the others do not look at the location
  all_goals exact alike_same _

/-- Behind the gate, too: it sends visitors to sign in, and back to the address as it is written. -/
theorem alike_guard {protect : Bool} {handler handler' : Handling Action}
    (h : handler.Alike SameView handler') :
    (guard protect l handler).Alike SameView (guard protect l' handler') := by
  cases protect with
  | false => exact h
  | true =>
    refine alike_after _ fun login => ?_
    cases login with
    | true => exact h
    | false => exact .noteLeft (.noteRight (.done (sameView_redirect _ _)))

end Handlers

/-! ### Navigations -/

namespace Navigator

variable {l l' : Location}

/-- The navigations show the same view, or both of them none. -/
def Shows (nav nav' : Navigation) : Prop :=
  ∀ v, nav.action = .present v ↔ nav'.action = .present v

/-- Results that show the same are concluded alike. -/
theorem alike_conclude (seq : Nat) (r : Route) {x y : Except Failure Action} (hxy : SameView x y) :
    (conclude seq r l x).Alike (fun a b => ∀ v, a = .present v ↔ b = .present v)
      (conclude seq r l' y) := by
  have hactions : ∀ v, Action.ofResult l.address x = .present v ↔
      Action.ofResult l'.address y = .present v := by
    intro v
    rw [Action.ofResult_eq_present_iff, Action.ofResult_eq_present_iff]
    exact hxy v
  rcases conclude_eq seq r l x with hx | ⟨e, hx⟩
  · rcases conclude_eq seq r l' y with hy | ⟨e', hy⟩
    · rw [hx, hy]
      exact .done hactions
    · rw [hx, hy]
      exact .noteRight (.done hactions)
  · rcases conclude_eq seq r l' y with hy | ⟨e', hy⟩
    · rw [hx, hy]
      exact .noteLeft (.done hactions)
    · rw [hx, hy]
      exact .noteLeft (.noteRight (.done hactions))

/-- So does a navigation, whatever the table holds. -/
theorem alike_resolve (hl : l.SpellsAlike l') (n : Navigator) (seq : Nat) :
    (n.resolve ⟨seq, l⟩).Alike Shows (n.resolve ⟨seq, l'⟩) := by
  unfold resolve
  dsimp only
  rw [hl.path]
  split
  · exact .noteLeft (.noteRight (.done fun _ => Iff.rfl))
  · next e c hmatch =>
    refine .noteLeft (.noteRight (Plan.Alike.bind (alike_guard (alike_handle hl _ _ _)) ?_))
    intro x y hxy
    exact Plan.Alike.bind (alike_conclude seq e.route hxy) fun a b hab => .done hab

/-- **Two spellings of one address show the same view**, or both of them none, and they say the same to
the session.  For every table, deployment, sequence number and session. -/
theorem respelled_shows_same {σ : Type} {s : Session σ} {st : σ} (hs : s.IgnoresNotes st)
    (n : Navigator) (seq : Nat) (url url' : Text)
    (hl : (Location.ofAddress n.deployment url).SpellsAlike (Location.ofAddress n.deployment url')) :
    (∀ v : View,
        ((n.resolve ⟨seq, Location.ofAddress n.deployment url⟩).run s st).1.action = .present v ↔
          ((n.resolve ⟨seq, Location.ofAddress n.deployment url'⟩).run s st).1.action = .present v) ∧
      (n.resolve ⟨seq, Location.ofAddress n.deployment url⟩).exchanges s st =
        (n.resolve ⟨seq, Location.ofAddress n.deployment url'⟩).exchanges s st := by
  obtain ⟨R, hR, hst⟩ := hs
  obtain ⟨hview, -, hsaid⟩ := (alike_resolve hl n seq).run hR hst
  exact ⟨hview, hsaid⟩

/-- The name of a repository may be written with escapes, and so may a line. -/
theorem respelled_shows_same_sample :
    Session.scripted.IgnoresNotes {} ∧
      (Location.ofAddress overAll.deployment "/c/p/+/1/2/a#7").SpellsAlike
        (Location.ofAddress overAll.deployment "/c/%70/+/1/2/%61#%37") ∧
      ((overAll.resolve ⟨1, Location.ofAddress overAll.deployment "/c/%70/+/1/2/%61#%37"⟩).run
        .scripted {}).1.action = .present (.diff
          { project := some "p", change := 1, range := ⟨some .parent, some (.num 2)⟩
            path := some "a", line := some 7 }) := by
  have hs := Session.scripted_ignoresNotes {}
  have hl : (Location.ofAddress overAll.deployment "/c/p/+/1/2/a#7").SpellsAlike
      (Location.ofAddress overAll.deployment "/c/%70/+/1/2/%61#%37") :=
    ⟨by decide +kernel, by decide +kernel, by decide +kernel⟩
  have hshown : ((overAll.resolve ⟨1, Location.ofAddress overAll.deployment "/c/p/+/1/2/a#7"⟩).run
      .scripted {}).1.action = .present (.diff
        { project := some "p", change := 1, range := ⟨some .parent, some (.num 2)⟩
          path := some "a", line := some 7 }) := by
    decide +kernel
  have hsame := (respelled_shows_same hs overAll 1 "/c/p/+/1/2/a#7" "/c/%70/+/1/2/%61#%37" hl).1
  exact ⟨hs, hl, (hsame _).1 hshown⟩

end Navigator

end ReviewRouter
