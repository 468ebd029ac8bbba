import ReviewRouter.Proofs.Captures
import ReviewRouter.Proofs.ChangeTail
import ReviewRouter.Proofs.Redirect.Path
import ReviewRouter.Proofs.Segment

/-!
# The address of a page of a change

What the addresses of all pages of a change have in common: the path that routes see, and what
their handlers make of its captures.

* `marker_infix_readable` — a mark inside a repository comes from two slashes around a space;
* `matchPath_segmentAddress` — the path of an address that is a beginning and one name;
* `unescape_changeRoot_append` — **the path of an address, as routes see it**;
* `not_mem_changeRoot` — characters that do not occur in it;
* `get?_readable`, `parse?_patchSet` — names and patch sets are read back from what is captured of them;
* `PatchRange.IsShown` — the ranges that an address can show;
* `Handling.gives_guard_signedIn`, `Handling.gives_changeTarget` — the first steps of a handler.
-/

namespace ReviewRouter

open Percent (readable escapeSegment unescape unescapeValue)

/-! ### Repositories in paths -/

/-- A mark inside the readable form comes from two slashes around a space. -/
theorem marker_infix_readable {s : Text} (h : marker <:+: readable true s) : ("/ /" : Text) <:+: s := by
  obtain ⟨a, b, hab⟩ := h
  rw [List.append_assoc, marker_append] at hab
  obtain ⟨x, y, rfl, -, hy⟩ := Percent.readable_eq_slash hab.symm
  obtain ⟨z, w, rfl, hz, hw⟩ := Percent.readable_eq_plus (a := []) hy
  obtain ⟨u, v, rfl, hu, -⟩ := Percent.readable_eq_slash (a := []) hw
  obtain rfl := Percent.readable_eq_nil.1 hz
  obtain rfl := Percent.readable_eq_nil.1 hu
  exact ⟨x, v, by rw [List.append_assoc]; rfl⟩

theorem plus_prefix_readable {s : Text} (h : ("+/" : Text) <+: readable true s) :
    (" /" : Text) <+: s := by
  obtain ⟨b, hb⟩ := h
  obtain ⟨z, w, rfl, hz, hw⟩ := Percent.readable_eq_plus (a := []) (b := '/' :: b) hb.symm
  obtain ⟨u, v, rfl, hu, -⟩ := Percent.readable_eq_slash (a := []) hw
  obtain rfl := Percent.readable_eq_nil.1 hz
  obtain rfl := Percent.readable_eq_nil.1 hu
  exact ⟨v, rfl⟩

theorem not_mem_readable {c : Char} {keepSlashes : Bool} (hc : Percent.isSegmentChar c = false)
    (s : Text) : c ∉ readable keepSlashes s := by
  intro h
  rw [Percent.isSegmentChar_of_mem_readable h] at hc
  cases hc

theorem not_mem_escapeSegment {c : Char} {keepSlashes : Bool}
    (hc : Percent.isSegmentChar c = false) (s : Text) : c ∉ escapeSegment keepSlashes s := by
  intro h
  rw [Percent.isSegmentChar_of_mem_escapeSegment h] at hc
  cases hc

theorem isRun_dot_readable (keepSlashes : Bool) (s : Text) :
    Pattern.isRun .dot (readable keepSlashes s) :=
  isRun_dot_iff.2 (not_mem_readable (by decide) s)

theorem unescape_segment (keepSlashes : Bool) (s : Text) :
    unescape (escapeSegment keepSlashes s) = readable keepSlashes s := by
  have h := Percent.unescape_escapeSegment_append keepSlashes s []
  rwa [Percent.unescape_nil, List.append_nil, List.append_nil] at h

/-- The path of an address that is a beginning and one name. -/
theorem matchPath_segmentAddress {q : Text} (hq : Location.IsOpening q) (keepSlashes : Bool) (t : Text) :
    (Location.parse (q ++ escapeSegment keepSlashes t)).matchPath = q ++ readable keepSlashes t := by
  have hfront : front (escapeSegment keepSlashes t) = escapeSegment keepSlashes t :=
    front_eq_self (not_mem_escapeSegment (by decide) t) (not_mem_escapeSegment (by decide) t)
  rw [Location.matchPath_parse_append hq, hfront, unescape_segment]

/-- **The path of an address, as routes see it.** -/
theorem unescape_changeRoot_append (s : Text) (change : UInt32) (t : Text) :
    unescape (changeRoot (some s) change ++ t) =
      changePath (readable true s) (Numeral.ofNat change.toNat) (unescape t) := by
  have hdigits : '%' ∉ Numeral.ofNat change.toNat := Numeral.not_mem_ofNat (by decide) _
  simp only [changeRoot, changePath, List.append_assoc]
  rw [Percent.unescape_plain_append _ (by decide), Percent.unescape_escapeSegment_append,
    Percent.unescape_plain_append _ (by decide), Percent.unescape_plain_append _ hdigits]
  rfl

/-- Characters that do not occur in it. -/
theorem not_mem_changeRoot {c : Char} (hc : Percent.isSegmentChar c = false)
    (hdigit : c.isDigit = false) (s : Text) (change : UInt32) : c ∉ changeRoot (some s) change := by
  have hlit : ∀ t : Text, t.all Percent.isSegmentChar = true → c ∉ t := by
    intro t ht hmem
    rw [List.all_eq_true.1 ht c hmem] at hc
    cases hc
  simp only [changeRoot, List.mem_append, not_or]
  exact ⟨⟨⟨hlit _ (by decide), not_mem_escapeSegment hc s⟩, hlit _ (by decide)⟩,
    Numeral.not_mem_ofNat hdigit _⟩

theorem changeRoot_ne_nil (s : Text) (change : UInt32) (t : Text) :
    changeRoot (some s) change ++ t ≠ [] :=
  nofun

theorem number_append_ne_nil (change : UInt32) (t : Text) :
    Numeral.ofNat change.toNat ++ t ≠ [] :=
  fun h => Numeral.ofNat_ne_nil _ (List.append_eq_nil_iff.1 h).1

/-! ### Captured values -/

theorem unescapeValue_ofNat (n : Nat) : unescapeValue (Numeral.ofNat n) = Numeral.ofNat n :=
  Percent.unescapeValue_plain _ (Numeral.not_mem_ofNat (by decide) n)
    (Numeral.not_mem_ofNat (by decide) n)

theorem unescapeValue_part {w : Text} (h : IsPart w) : unescapeValue w = w :=
  Percent.unescapeValue_plain w (h.not_mem (by decide)) (h.not_mem (by decide))

theorem unescapeValue_text {p : PatchSet} (hp : p ≠ .parent) : unescapeValue p.text = p.text :=
  unescapeValue_part (isPart_text hp)

section Captured

variable (r : Route) {found : List (Text × Text)} {name : Text}

/-- **A name is read back from what is captured of its address.** -/
theorem get?_readable (keepSlashes : Bool) {t : Text} (h : found.lookup name = some (readable keepSlashes t)) :
    (r.captured found).get? name = some t := by
  rw [Route.get?_captured, h]
  exact congrArg some (Percent.unescapeValue_readable keepSlashes t)

theorem require_readable (keepSlashes : Bool) {t : Text}
    (h : found.lookup name = some (readable keepSlashes t)) : (r.captured found).require name = .ok t :=
  Captures.require_eq (get?_readable r keepSlashes h)

/-- So is a patch set other than the parent. -/
theorem get?_patchSet {p : PatchSet} (h : found.lookup name = some p.text) (hp : p ≠ .parent) :
    (r.captured found).get? name = some p.text := by
  rw [Route.get?_captured, h]
  exact congrArg some (unescapeValue_text hp)

theorem parse?_patchSet {p : PatchSet} (h : found.lookup name = some p.text) (hp : p ≠ .parent) :
    (r.captured found).parse? PatchSet.ofText? name = .ok (some p) :=
  Captures.parse?_eq (get?_patchSet r h hp) p.text_ne_nil (PatchSet.ofText?_text p)

end Captured

/-! ### Patch ranges -/

namespace PatchRange

/-- The ranges that an address can show: a patch set against its parent, and two different ones. -/
def IsShown (r : PatchRange) : Prop :=
  (∃ k, k ≠ .parent ∧ r = ⟨some .parent, some k⟩) ∨
    ∃ b k, b ≠ .parent ∧ k.IsPatch ∧ b ≠ k ∧ r = ⟨some b, some k⟩

/-- The two sides of a range as they stand in a path. -/
structure Shows (r : PatchRange) (base : PatchSet) (patch? : Option PatchSet) : Prop where
  ne_parent : base ≠ .parent
  isPatch : ∀ p, patch? = some p → p.IsPatch
  expression : r.expression = rangeText base.text (patch?.map PatchSet.text)
  normalize : normalize ⟨some base, patch?⟩ = (r, false)

theorem IsShown.exists_shows {r : PatchRange} (h : r.IsShown) : ∃ base patch?, r.Shows base patch? := by
  rcases h with ⟨k, hk, rfl⟩ | ⟨b, k, hb, hk, hne, rfl⟩
  · refine ⟨k, none, hk, nofun, ?_, rfl⟩
    exact (List.append_nil _).symm
  · refine ⟨b, some k, hb, ?_, ?_, ?_⟩
    · rintro _ ⟨⟩
      exact hk
    · have hparent : b.isParent = false := by
        cases b with
        | parent => exact absurd rfl hb
        | _ => rfl
      simp only [expression, hparent, Bool.false_eq_true, if_false, List.append_assoc]
      rfl
    · exact if_neg (Ne.symm hne)

theorem Shows.isRange {r : PatchRange} {base : PatchSet} {patch? : Option PatchSet}
    (h : r.Shows base patch?) : IsRange base.text (patch?.map PatchSet.text) where
  base := isBaseText_text h.ne_parent
  patch t ht := by
    obtain ⟨p, hp, rfl⟩ := Option.map_eq_some_iff.1 ht
    exact isPatchText_text (h.isPatch p hp)

theorem Shows.tail_eq {r : PatchRange} {base : PatchSet} {patch? : Option PatchSet}
    (h : r.Shows base patch?) : r.tail = '/' :: rangeText base.text (patch?.map PatchSet.text) := by
  obtain ⟨c, t, hc, -⟩ := h.isRange.head
  rw [tail, h.expression, hc, if_neg (List.cons_ne_nil c t)]

/-- The right side is read back, also when it is missing. -/
theorem Shows.parse?_patch {r : PatchRange} {base : PatchSet} {patch? : Option PatchSet}
    (h : r.Shows base patch?) (route : Route) {found : List (Text × Text)}
    (hfound : found.lookup "patch".toList = patch?.map PatchSet.text) :
    (route.captured found).parse? PatchSet.ofText? "patch" = .ok patch? := by
  cases patch? with
  | none =>
    apply Captures.parse?_none
    rw [Route.get?_captured, hfound]
    rfl
  | some k => exact parse?_patchSet route hfound (h.isPatch k rfl).ne_parent

end PatchRange

/-! ### First steps of a handler -/

namespace Handling

variable {A : Answers}

theorem gives_guard_open {l : Location} {handler : Handling Action} {r : Except Failure Action} :
    Gives A (guard false l handler) r ↔ Gives A handler r :=
  Iff.rfl

/-- Users who are signed in pass the gate. -/
theorem gives_guard_signedIn {b : Bool} {l : Location} {handler : Handling Action}
    {r : Except Failure Action} (h : Gives .signedIn (guard b l handler) r) :
    Gives .signedIn handler r := by
  cases b with
  | false => exact h
  | true =>
    rcases (gives_bind _ _ _).1 h with ⟨a, ha, h⟩ | ⟨e, he, -⟩
    · obtain rfl : a = true := Except.ok.inj ((gives_loggedIn _).1 ha)
      exact h
    · cases (gives_loggedIn _).1 he

/-- The session learns the change, and the handler goes on with it. -/
theorem gives_changeTarget {r : Route} {cs : List (Text × Text)} {s : Text} {change : UInt32}
    (hrepo : cs.lookup "repo".toList = none) (hchange : cs.lookup "change".toList = none) {α : Type}
    {f : Text × UInt32 → Handling α} {result : Except Failure α} :
    Gives A (changeTarget (r.captured
      (cs ++ changeCaptures (readable true s) (Numeral.ofNat change.toNat))) >>= f) result ↔
        Gives A (f (s, change)) result := by
  have hproject : (r.captured
      (cs ++ changeCaptures (readable true s) (Numeral.ofNat change.toNat))).require "repo" = .ok s := by
    apply require_readable r true
    rw [List.lookup_append, hrepo]
    rfl
  have hnumber : (r.captured
      (cs ++ changeCaptures (readable true s) (Numeral.ofNat change.toNat))).parse Numeral.u32?
        "change" = .ok change := by
    apply Captures.parse_eq (t := Numeral.ofNat change.toNat) _ (Numeral.u32?_ofNat change)
    rw [Route.get?_captured, List.lookup_append, hchange]
    exact congrArg some (unescapeValue_ofNat _)
  rw [changeTarget, hproject, hnumber]
  exact Iff.rfl

end Handling

end ReviewRouter
