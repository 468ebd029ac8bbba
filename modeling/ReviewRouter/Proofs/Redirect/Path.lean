import Mathlib.Data.List.TakeWhile
import ReviewRouter.Proofs.Cutting
import ReviewRouter.Proofs.Navigation
import ReviewRouter.Proofs.Percent

/-!
# The path of any address

An address that a redirect leads to is put together from texts that nobody has checked, and it is
cut again at the first `?` or `#`, wherever that came from.

* `front` — what stands before the query and the anchor;
* `Location.path_parse` — **the path of an address is its front**;
* `Location.matchPath_parse_append` — an address with a known beginning leads to a path with it;
* `Location.not_mem_path`, `Location.not_mem_query`, `Location.hash_parse` — neither path nor query reaches over
  the first `#`, and the anchor is what stands behind it;
* `Location.matchPath_path_append` — what is put behind the path of an address stands behind that path;
* `length_unescape_front_le` — cutting does not make a path longer;
* `Shortens` — addresses that lead to shorter paths.
-/

namespace ReviewRouter

open Percent (unescape)

/-! ### The front of an address -/

/-- What stands before the query and the anchor. -/
def front (address : Text) : Text :=
  address.takeWhile fun c => c != '?' && c != '#'

theorem front_append {p : Text} (hquestion : '?' ∉ p) (hhash : '#' ∉ p) (t : Text) :
    front (p ++ t) = p ++ front t := by
  refine List.takeWhile_append_of_pos ?_
  intro c hc
  have hc₁ : c ≠ '?' := fun heq => hquestion (heq ▸ hc)
  have hc₂ : c ≠ '#' := fun heq => hhash (heq ▸ hc)
  simp [hc₁, hc₂]

theorem front_nil : front [] = [] := rfl

/-- A text without a query and an anchor is all front. -/
theorem front_eq_self {t : Text} (hquestion : '?' ∉ t) (hhash : '#' ∉ t) : front t = t := by
  have hfront := front_append hquestion hhash []
  rwa [List.append_nil, front_nil, List.append_nil] at hfront

theorem not_mem_front (t : Text) : '?' ∉ front t ∧ '#' ∉ front t := by
  have hfront : ∀ c ∈ front t, c ≠ '?' ∧ c ≠ '#' := by
    intro c hc
    simpa using List.mem_takeWhile_imp hc
  exact ⟨fun h => (hfront _ h).1 rfl, fun h => (hfront _ h).2 rfl⟩

theorem length_front_le (t : Text) : (front t).length ≤ t.length :=
  (List.takeWhile_sublist _).length_le

/-- A front as long as the text is the text. -/
theorem front_eq_of_length_le {t : Text} (h : t.length ≤ (front t).length) : front t = t :=
  (List.takeWhile_prefix _).eq_of_length_le h

theorem front_stop {c : Char} (hc : c = '?' ∨ c = '#') (t : Text) : front (c :: t) = [] := by
  rcases hc with rfl | rfl <;> rfl

theorem front_cons {c : Char} (hc : ¬(c = '?' ∨ c = '#')) (t : Text) :
    front (c :: t) = c :: front t := by
  rw [not_or] at hc
  refine List.takeWhile_cons_of_pos ?_
  simp [hc.1, hc.2]

/-- What has no front adds nothing to another one. -/
theorem front_append_eq_left {t : Text} (ht : front t = []) (k : Text) : front (k ++ t) = front k := by
  induction k with
  | nil => exact ht
  | cons c k ih =>
    by_cases hc : c = '?' ∨ c = '#'
    · rw [List.cons_append, front_stop hc, front_stop hc]
    · rw [List.cons_append, front_cons hc, front_cons hc, ih]

/-- Only a query or an anchor follows the front. -/
theorem exists_front_append (t : Text) :
    ∃ rest, t = front t ++ rest ∧ (rest = [] ∨ ∃ c u, rest = c :: u ∧ (c = '?' ∨ c = '#')) := by
  induction t with
  | nil => exact ⟨[], rfl, Or.inl rfl⟩
  | cons c t ih =>
    by_cases hc : c = '?' ∨ c = '#'
    · refine ⟨c :: t, ?_, Or.inr ⟨c, t, rfl, hc⟩⟩
      rw [front_stop hc, List.nil_append]
    · obtain ⟨rest, ht, hrest⟩ := ih
      refine ⟨rest, ?_, hrest⟩
      rw [front_cons hc, List.cons_append, ← ht]

/-- Cutting does not make a path longer. -/
theorem length_unescape_front_le (t : Text) :
    (unescape (front t)).length ≤ (unescape t).length := by
  obtain ⟨rest, ht, rfl | ⟨c, u, rfl, hc⟩⟩ := exists_front_append t
  · rw [List.append_nil] at ht
    rw [← ht]
  · have hboundary : Percent.Boundary c := by
      rcases hc with rfl | rfl <;> decide
    have hsplit := Percent.unescape_append_of_boundary (front t) hboundary u
    rw [← ht] at hsplit
    rw [hsplit, List.length_append]
    exact Nat.le_add_right _ _

/-! ### Locations -/

namespace Location

/-- **The path of an address is its front**, and the root if there is none. -/
theorem path_parse (address : Text) :
    (parse address).path = if front address = [] then ("/" : Text) else front address := by
  have hfront : ((Text.splitOnce? '?' ((Text.splitOnce? '#' address).getD (address, [])).1).getD
      (((Text.splitOnce? '#' address).getD (address, [])).1, [])).1 = front address := by
    rw [Text.splitOnce?_getD, Text.splitOnce?_getD, List.takeWhile_takeWhile]
    refine congrArg (List.takeWhile · address) ?_
    funext c
    rw [Bool.decide_and, Bool.decide_eq_true, Bool.decide_eq_true]
  rw [← hfront]
  rfl

/-- An address without a query and an anchor is all path. -/
theorem path_parse_eq_self {address : Text} (hne : address ≠ []) (hquestion : '?' ∉ address)
    (hhash : '#' ∉ address) : (parse address).path = address := by
  rw [path_parse, front_eq_self hquestion hhash, if_neg hne]

theorem matchPath_parse {address : Text} (h : front address ≠ []) :
    (parse address).matchPath = unescape (front address) := by
  rw [matchPath, path_parse, if_neg h]

/-- The beginnings of addresses that stay what they are when the address is cut and unescaped. -/
def IsOpening (q : Text) : Prop :=
  q ≠ [] ∧ '?' ∉ q ∧ '#' ∉ q ∧ '%' ∉ q

instance (q : Text) : Decidable (IsOpening q) :=
  inferInstanceAs (Decidable (_ ∧ _))

/-- An address with a known beginning leads to a path with it. -/
theorem matchPath_parse_append {q : Text} (hq : IsOpening q) (t : Text) :
    (parse (q ++ t)).matchPath = q ++ unescape (front t) := by
  obtain ⟨hne, hquestion, hhash, hpercent⟩ := hq
  have hfront : front (q ++ t) = q ++ front t := front_append hquestion hhash t
  rw [matchPath_parse, hfront, Percent.unescape_plain_append q hpercent]
  rw [hfront]
  exact fun h => hne (List.append_eq_nil_iff.1 h).1

/-- A path without `?` and `#`, whatever query and anchor follow it. -/
theorem matchPath_parse_of_front {p t : Text} (hne : p ≠ []) (hquestion : '?' ∉ p) (hhash : '#' ∉ p)
    (ht : front t = []) : (parse (p ++ t)).matchPath = unescape p := by
  have hfront : front (p ++ t) = p := by
    rw [front_append hquestion hhash, ht, List.append_nil]
  rw [matchPath_parse, hfront]
  rwa [hfront]

theorem not_mem_path (address : Text) : '?' ∉ (parse address).path ∧ '#' ∉ (parse address).path := by
  rw [path_parse]
  split
  · decide
  · exact not_mem_front address

/-- The query of an address ends before the anchor. -/
theorem not_mem_query (address : Text) : '#' ∉ (parse address).query := by
  have hfront : '#' ∉ ((Text.splitOnce? '#' address).getD (address, [])).1 := by
    rw [Text.splitOnce?_getD]
    intro hmem
    exact absurd (List.mem_takeWhile_imp hmem) (by decide)
  show '#' ∉ ((Text.splitOnce? '?' ((Text.splitOnce? '#' address).getD (address, [])).1).getD
    (((Text.splitOnce? '#' address).getD (address, [])).1, [])).2
  cases hcut : Text.splitOnce? '?' ((Text.splitOnce? '#' address).getD (address, [])).1 with
  | none => exact List.not_mem_nil
  | some parts =>
    obtain ⟨a, b⟩ := parts
    rw [(Text.splitOnce?_eq_some hcut).1] at hfront
    exact fun hmem => hfront (List.mem_append_right a (List.mem_cons_of_mem _ hmem))

/-- What stands behind the first `#` is read as a value. -/
theorem hash_parse {t : Text} (ht : '#' ∉ t) (anchor : Text) :
    (parse (t ++ '#' :: anchor)).hash = Percent.unescapeValue anchor := by
  show Percent.unescapeValue ((Text.splitOnce? '#' (t ++ '#' :: anchor)).getD (t ++ '#' :: anchor, [])).2 = _
  rw [Text.splitOnce?_append '#' t anchor ht]
  rfl

/-- What a redirect puts behind the path of an address stands behind the path that routes see. -/
theorem matchPath_path_append (address : Text) {c : Char} {t : Text} (hc : Percent.Boundary c)
    (hfree : ∀ d ∈ ['%', '?', '#'], d ∉ c :: t) :
    (parse ((parse address).path ++ c :: t)).matchPath = (parse address).matchPath ++ c :: t := by
  obtain ⟨hquestion, hhash⟩ := not_mem_path address
  have hne : (parse address).path ++ c :: t ≠ [] :=
    fun h => absurd (List.append_eq_nil_iff.1 h).2 (List.cons_ne_nil c t)
  have habsent : ∀ d ∈ ['%', '?', '#'], d ∉ (parse address).path → d ∉ (parse address).path ++ c :: t := by
    intro d hd hpath
    rw [List.mem_append, not_or]
    exact ⟨hpath, hfree d hd⟩
  have hparse := matchPath_parse_of_front hne (habsent '?' (by decide) hquestion)
    (habsent '#' (by decide) hhash) front_nil
  have hpercent : '%' ∉ t := fun h => hfree '%' (by decide) (List.mem_cons_of_mem c h)
  rw [List.append_nil] at hparse
  rw [hparse, Percent.unescape_append_of_boundary _ hc, Percent.unescape_plain t hpercent]
  rfl

end Location

/-! ### Shorter paths -/

/-- An address leads to a path that begins in the same way and is shorter without escapes. -/
structure Shortens (q path address : Text) : Prop where
  opening : q <+: (Location.parse address).matchPath
  lt : (unescape (Location.parse address).matchPath).length < (unescape path).length

end ReviewRouter
