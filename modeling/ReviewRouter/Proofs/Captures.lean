import ReviewRouter.Proofs.Route.Shape

/-!
# Reading captures

What a handler reads of a path is known from the captures of the path, and the other way round.

* `Captures.require_eq`, `Captures.parse_eq`, `Captures.parse?_eq` — what is read of a capture;
* `Captures.get?_of_require`, `Captures.exists_of_parse`, … — the capture that was read;
* `Captures.of_require_error`, `Captures.of_parse_error`, … — the capture that could not be read;
* `Route.get?_captured` — **a capture is what stands in the path, unescaped**.
-/

namespace ReviewRouter

open Percent (unescapeValue)

namespace Captures

variable {α : Type} {read : Text → Option α} {c : Captures} {name t : Text} {a : α}

theorem require_eq (hget : c.get? name = some t) : c.require name = .ok t := by
  simp only [require, hget]

theorem parse_eq (hget : c.get? name = some t) (hread : read t = some a) :
    c.parse read name = .ok a := by
  simp only [parse, require_eq hget, bind, Except.bind, hread]
  rfl

theorem parse?_eq (hget : c.get? name = some t) (hne : t ≠ []) (hread : read t = some a) :
    c.parse? read name = .ok (some a) := by
  cases t with
  | nil => exact absurd rfl hne
  | cons d t =>
    simp only [parse?, hget]
    rw [parse_eq hget hread]
    rfl

theorem parse?_none (hget : c.get? name = none) : c.parse? read name = .ok none := by
  simp only [parse?, hget]

/-! ### What was read -/

theorem get?_of_require (h : c.require name = .ok t) : c.get? name = some t := by
  unfold require at h
  split at h
  · next value hget => rw [hget, Except.ok.inj h]
  · cases h

theorem exists_of_parse (h : c.parse read name = .ok a) :
    ∃ t, c.get? name = some t ∧ read t = some a := by
  unfold parse at h
  cases hrequire : c.require name with
  | error e =>
    rw [hrequire] at h
    cases h
  | ok t =>
    simp only [hrequire, bind, Except.bind] at h
    cases hread : read t with
    | none =>
      simp only [hread] at h
      cases h
    | some b =>
      simp only [hread] at h
      obtain rfl : b = a := Except.ok.inj h
      exact ⟨t, get?_of_require hrequire, hread⟩

theorem exists_of_parse? (h : c.parse? read name = .ok (some a)) :
    ∃ t, c.get? name = some t ∧ read t = some a := by
  unfold parse? at h
  split at h
  · cases h
  · cases h
  · cases hparse : c.parse read name with
    | error e =>
      rw [hparse] at h
      cases h
    | ok b =>
      rw [hparse] at h
      obtain rfl : b = a := Option.some_inj.1 (Except.ok.inj h)
      exact exists_of_parse hparse

/-- A capture that is not empty is read, unless that fails. -/
theorem exists_of_parse?_of_get? {a? : Option α} (hget : c.get? name = some t) (hne : t ≠ [])
    (h : c.parse? read name = .ok a?) : ∃ a, a? = some a ∧ read t = some a := by
  cases a? with
  | none =>
    cases t with
    | nil => exact absurd rfl hne
    | cons d t =>
      simp only [parse?, hget] at h
      cases hparse : c.parse read name with
      | error e =>
        rw [hparse] at h
        cases h
      | ok a =>
        rw [hparse] at h
        cases h
  | some a =>
    obtain ⟨u, hu, hread⟩ := exists_of_parse? h
    obtain rfl : t = u := Option.some_inj.1 (hget.symm.trans hu)
    exact ⟨a, rfl, hread⟩

/-! ### What could not be read -/

variable {f : Failure}

theorem of_require_error (h : c.require name = .error f) :
    c.get? name = none ∧ f = .missingCapture c.route name := by
  unfold require at h
  split at h
  · cases h
  · next hget => exact ⟨hget, (Except.error.inj h).symm⟩

theorem of_parse_error (h : c.parse read name = .error f) :
    (c.get? name = none ∧ f = .missingCapture c.route name) ∨
      ∃ t, c.get? name = some t ∧ read t = none ∧ f = .invalidCapture c.route name t := by
  unfold parse at h
  cases hrequire : c.require name with
  | error e =>
    rw [hrequire] at h
    obtain rfl : e = f := Except.error.inj h
    exact Or.inl (of_require_error hrequire)
  | ok t =>
    simp only [hrequire, bind, Except.bind] at h
    cases hread : read t with
    | none =>
      simp only [hread] at h
      exact Or.inr ⟨t, get?_of_require hrequire, hread, (Except.error.inj h).symm⟩
    | some a =>
      simp only [hread] at h
      cases h

/-- An optional capture fails only if it is there. -/
theorem of_parse?_error (h : c.parse? read name = .error f) :
    ∃ t, c.get? name = some t ∧ read t = none ∧ f = .invalidCapture c.route name t := by
  unfold parse? at h
  split at h
  · cases h
  · cases h
  · next value hget =>
    cases hparse : c.parse read name with
    | ok a =>
      rw [hparse] at h
      cases h
    | error e =>
      rw [hparse] at h
      obtain rfl : e = f := Except.error.inj h
      refine (of_parse_error hparse).resolve_left ?_
      rintro ⟨hnone, -⟩
      rw [hget] at hnone
      cases hnone

theorem of_offset_error (h : c.offset name = .error f) :
    ∃ t, c.get? name = some t ∧ Numeral.u32? t = none ∧ f = .invalidCapture c.route name t := by
  unfold offset at h
  cases hparse : c.parse? Numeral.u32? name with
  | ok n =>
    rw [hparse] at h
    cases h
  | error e =>
    rw [hparse] at h
    obtain rfl : e = f := Except.error.inj h
    exact of_parse?_error hparse

end Captures

/-- A capture is what stands in the path, unescaped. -/
theorem Route.get?_captured (r : Route) (found : List (Text × Text)) (name : Text) :
    (r.captured found).get? name = (found.lookup name).map unescapeValue := by
  show (found.map fun p => (p.1, unescapeValue p.2)).lookup name = _
  induction found with
  | nil => rfl
  | cons p found ih =>
    rw [List.map_cons, List.lookup_cons, List.lookup_cons, ih]
    cases name == p.1 <;> rfl

end ReviewRouter
