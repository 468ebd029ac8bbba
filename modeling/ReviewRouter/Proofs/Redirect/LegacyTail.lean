import ReviewRouter.Proofs.Redirect.LegacyLink

/-!
# The tail of an old link

An old link to a change leads to the address with the project, and what stands behind the number should be kept.
The number is read from the path that routes see, but the tail is cut off the path as it is written, behind the
number as it was read.  An escaped digit keeps the two from meeting, and then the tail is gone.

* `Route.exists_of_match?_changeLegacy` — what an old link captures;
* `keptPath`, `KeepsTail` — the path that keeps the tail, and the links that lead there;
* `unescape_writtenTail_iff` — **the tail that is written is the one that was read exactly if it is kept**;
* `legacyTail_kept_iff` — **the query and the anchor are always kept, and the tail exactly then**.
-/

namespace ReviewRouter

open Pattern
open Percent (readable escapeSegment unescape unescapeValue)

/-! ### What an old link captures -/

/-- The rest of an old link is all that is left of the path. -/
theorem reads_rest {b : Option Char} {w r : Text} {cs : List (Text × Text)}
    (h : Reads [.capture "rest" (reps .dot), stop] b w r cs) : r = [] ∧ cs = [("rest".toList, w)] := by
  obtain ⟨rest, v, cu, cv, rfl, rfl, hu, hv⟩ := reads_capture.1 h
  obtain ⟨rfl, rfl, rfl⟩ := reads_stop.1 hv
  obtain ⟨-, rfl⟩ := (spells_star_iff _ _ _ _ _ _).1 hu
  rw [List.append_nil]
  exact ⟨rfl, rfl⟩

/-- Behind the number an old link captures what follows its first slash, or all of it. -/
theorem Route.exists_of_match?_changeLegacy {path : Text} {found : List (Text × Text)}
    (h : Route.changeLegacy.match? path = some found) :
    ∃ written rest tail, path = "/c/" ++ (written ++ tail) ∧ IsNumber written ∧
      (tail = rest ∨ tail = '/' :: rest) ∧ found = [("rest".toList, rest), ("change".toList, written)] := by
  obtain ⟨w, r, rfl, hreads⟩ := exists_reads_of_matchAt? h
  obtain ⟨v, rfl, h₁⟩ := reads_lit.1 hreads
  obtain ⟨written, tail, cv, rfl, rfl, hne, hrun, h₂⟩ := reads_capture_plus.1 h₁
  have hnumber : IsNumber written := ⟨hne, hrun⟩
  rcases reads_maybe_char.1 h₂ with ⟨rest, rfl, h₃⟩ | h₃
  · obtain ⟨rfl, rfl⟩ := reads_rest h₃
    refine ⟨written, rest, '/' :: rest, ?_, hnumber, Or.inr rfl, rfl⟩
    rw [List.append_nil]
  · obtain ⟨rfl, rfl⟩ := reads_rest h₃
    refine ⟨written, tail, tail, ?_, hnumber, Or.inl rfl, rfl⟩
    rw [List.append_nil]

/-! ### The tail of an old link -/

/-- The path that keeps the tail of an old link: that of the change, with the tail behind it. -/
def keptPath (name : Text) (change : UInt32) (tail : Text) : Text :=
  unescape ("/c/" ++ escapeSegment true name) ++ "/+/" ++ Numeral.ofNat change.toNat ++
    (if tail = [] then [] else '/' :: tail)

/-- The old links whose tail is kept: the number stands in the address as it was read, and the tail does not begin
with an escaped slash; or the number does not stand there, and there is no tail. -/
inductive KeepsTail (l : Location) (written rest : Text) : Prop where
  | written (tail : Text) (path : l.path = "/c/".toList ++ written ++ tail)
      (slash : ¬['/'] <+: unescape (Text.trimStart '/' tail)) : KeepsTail l written rest
  | bare (path : ¬"/c/".toList ++ written <+: l.path) (empty : Text.trimStart '/' rest = []) :
      KeepsTail l written rest

/-! ### Slashes in front -/

/-- Slashes in front may as well be dropped before unescaping. -/
theorem trimStart_unescape (t : Text) :
    Text.trimStart '/' (unescape (Text.trimStart '/' t)) = Text.trimStart '/' (unescape t) := by
  induction t with
  | nil => rfl
  | cons c t ih =>
    by_cases hc : c = '/'
    · rw [hc, Text.trimStart_cons_self, ih, Percent.unescape_cons (by decide), Text.trimStart_cons_self]
    · rw [Text.trimStart_cons_ne hc]

/-- A text behind a slash, unless it is empty, tells which text it is. -/
theorem slashed_injective {t u : Text}
    (h : (if t = [] then [] else '/' :: t) = if u = [] then [] else '/' :: u) : t = u := by
  split at h
  · next ht =>
    split at h
    · next hu => rw [ht, hu]
    · cases h
  · split at h
    · cases h
    · exact (List.cons.inj h).2

theorem unescape_slashed (t : Text) : unescape (if t = [] then [] else '/' :: t) =
    if unescape t = [] then [] else '/' :: unescape t := by
  by_cases ht : t = []
  · rw [ht]
    rfl
  · rw [if_neg ht, if_neg (Percent.unescape_ne_nil ht), Percent.unescape_cons (by decide)]

/-! ### Where an old link leads -/

section Target

variable {written rest tail name : Text} {change : UInt32}

theorem keptPath_eq (name : Text) (change : UInt32) (tail : Text) : keptPath name change tail =
    changePath (readable true name) (Numeral.ofNat change.toNat) (if tail = [] then [] else '/' :: tail) := by
  rw [keptPath, Percent.unescape_plain_append _ (by decide), unescape_segment, changePath]
  simp only [List.append_assoc]
  rfl

theorem keptPath_injective {t u : Text} (h : keptPath name change t = keptPath name change u) : t = u :=
  slashed_injective (List.append_cancel_left h)

/-- **The tail that is written is the one that was read exactly if it is kept.** -/
theorem unescape_writtenTail_iff {l : Location} (hmatch : l.matchPath = "/c/" ++ (written ++ tail))
    (hnumber : IsNumber written) (hrest : tail = rest ∨ tail = '/' :: rest) :
    unescape (writtenTail l written) = Text.trimStart '/' rest ↔ KeepsTail l written rest := by
  have htrim : Text.trimStart '/' tail = Text.trimStart '/' rest := by
    rcases hrest with rfl | rfl
    · rfl
    · exact Text.trimStart_cons_self '/' rest
  unfold writtenTail
  cases hcut : ("/c/".toList ++ written).isPrefixOf? l.path with
  | none =>
    have hbare : ¬"/c/".toList ++ written <+: l.path := by
      rintro ⟨v, hv⟩
      rw [← hv, Text.isPrefixOf?_append] at hcut
      cases hcut
    constructor
    · exact fun h => .bare hbare h.symm
    · rintro (⟨v, hv, -⟩ | ⟨-, hempty⟩)
      · exact absurd ⟨v, hv.symm⟩ hbare
      · exact hempty.symm
  | some v =>
    have hpath := Text.isPrefixOf?_eq_some hcut
    have hpercent : '%' ∉ "/c/".toList ++ written := by
      rw [List.mem_append, not_or]
      exact ⟨by decide, not_mem_of_isRun (by decide) hnumber.digits⟩
    have hread : tail = unescape v := by
      rw [Location.matchPath, hpath, Percent.unescape_plain_append _ hpercent, List.append_assoc] at hmatch
      exact (List.append_cancel_left (List.append_cancel_left hmatch)).symm
    rw [Option.getD_some, ← htrim, hread, ← trimStart_unescape, eq_comm, Text.trimStart_eq_self_iff]
    constructor
    · exact fun h => .written v hpath h
    · rintro (⟨u, hu, hslash⟩ | ⟨hbare, -⟩)
      · obtain rfl : v = u := List.append_cancel_left (hpath.symm.trans hu)
        exact hslash
      · exact absurd ⟨v, hpath.symm⟩ hbare

end Target

/-! ### The handler -/

section Handler

variable {σ : Type} {s : Session σ} {st : σ} {d : Deployment} {url written rest name : Text} {change : UInt32}
  {found : List (Text × Text)}

/-- A session that knows the project is asked for it once. -/
theorem run_handleLegacyChange {l : Location} {c : Captures}
    (hnumber : c.parse Numeral.u32? "change" = .ok change) (hwritten : c.require "change" = .ok written)
    (hknown : (s.projectOf change st).1 = .ok (some name)) :
    ((handleLegacyChange l c).run.run s st).1 = .ok (.redirect (legacyChangeAddress l written name change)) := by
  rw [handleLegacyChange, hnumber, Handling.lift_ok_bind]
  show (Plan.run s (ExceptT.bindCont _ (s.projectOf change st).1) (s.projectOf change st).2).1 = _
  rw [hknown, hwritten]
  rfl

/-- **The handler of an old link to a change of a known project leads to an address with the query and the anchor
of the link, and the path keeps its tail exactly if the link is one of those that keep it.**  For every deployment
and every session. -/
theorem legacyTail_kept_iff (initialLoad : Bool)
    (htakes : Route.changeLegacy.Takes (Location.ofAddress d url).matchPath found)
    (hrest : found.lookup "rest".toList = some rest) (hwritten : found.lookup "change".toList = some written)
    (hnumber : Numeral.u32? written = some change) (hknown : (s.projectOf change st).1 = .ok (some name)) :
    ∃ target, ((Route.changeLegacy.handle d initialLoad (Location.ofAddress d url)
        (Route.changeLegacy.captured found)).run.run s st).1 = .ok (.redirect target) ∧
      (Location.parse target).query = (Location.ofAddress d url).query ∧
      (Location.parse target).rawHash = (Location.ofAddress d url).rawHash ∧
      ((Location.parse target).matchPath = keptPath name change (Text.trimStart '/' rest) ↔
        KeepsTail (Location.ofAddress d url) written rest) := by
  obtain ⟨written', rest', tail, hpath, hdigits, htail, rfl⟩ :=
    Route.exists_of_match?_changeLegacy htakes.matched
  obtain rfl : rest' = rest := Option.some_inj.1 hrest
  obtain rfl : written' = written := Option.some_inj.1 hwritten
  have hread : unescapeValue written' = written' :=
    Percent.unescapeValue_plain _ (not_mem_of_isRun (by decide) hdigits.digits)
      (not_mem_of_isRun (by decide) hdigits.digits)
  have hget : (Route.changeLegacy.captured [("rest".toList, rest'), ("change".toList, written')]).get? "change" =
      some written' := by
    rw [Route.get?_captured]
    exact congrArg some hread
  -- below the base the address is taken apart as if there were none
  have hlocation : Location.ofAddress d url = Location.parse (d.relative url) := rfl
  rw [hlocation] at hpath ⊢
  obtain ⟨hmatch, hquery, hhash⟩ := parse_legacyChangeAddress (d.relative url) written' name change rfl rfl
  refine ⟨_, run_handleLegacyChange (Captures.parse_eq hget hnumber) (Captures.require_eq hget) hknown, hquery,
    hhash, ?_⟩
  rw [hmatch, unescape_slashed, ← keptPath_eq, ← unescape_writtenTail_iff hpath hdigits htail]
  exact ⟨keptPath_injective, congrArg (keptPath name change)⟩

/-- The number of this link is escaped, and its tail is lost. -/
theorem legacyTail_lost :
    Route.changeLegacy.Takes (Location.parse "/c/%34%32/2/a.txt").matchPath [("rest", "2/a.txt"), ("change", "42")] ∧
      ((Route.changeLegacy.handle {} true (Location.parse "/c/%34%32/2/a.txt") (Route.changeLegacy.captured
        [("rest", "2/a.txt"), ("change", "42")])).run.run (Session.constant true fun _ => some "p") ()).1 =
          .ok (.redirect "/c/p/+/42") ∧
      (Location.parse "/c/p/+/42").matchPath ≠ keptPath "p" 42 "2/a.txt" := by
  have htarget : (Location.parse "/c/p/+/42").matchPath = "/c/p/+/42" := by decide
  have hkept : keptPath "p" 42 "2/a.txt" = "/c/p/+/42/2/a.txt" := by decide
  refine ⟨⟨by decide +kernel, by decide +kernel⟩, by decide +kernel, ?_⟩
  rw [htarget, hkept]
  decide

theorem legacyTail_kept_sample :
    Route.changeLegacy.Takes (Location.ofAddress {} "/c/0042/%61?tab=x#m%20").matchPath
        [("rest", "a"), ("change", "0042")] ∧
      Numeral.u32? "0042" = some 42 ∧
      ((Session.constant true fun _ => some "a/b").projectOf 42 ()).1 = .ok (some "a/b") ∧
      ∃ target, ((Route.changeLegacy.handle {} true (Location.ofAddress {} "/c/0042/%61?tab=x#m%20")
          (Route.changeLegacy.captured [("rest", "a"), ("change", "0042")])).run.run
            (Session.constant true fun _ => some "a/b") ()).1 = .ok (.redirect target) ∧
        (Location.parse target).matchPath = keptPath "a/b" 42 "a" := by
  have htakes : Route.changeLegacy.Takes (Location.ofAddress {} "/c/0042/%61?tab=x#m%20").matchPath
      [("rest", "a"), ("change", "0042")] :=
    ⟨by decide +kernel, by decide +kernel⟩
  have hnumber : Numeral.u32? "0042" = some 42 := by decide
  have hknown : ((Session.constant true fun _ => some "a/b").projectOf 42 ()).1 = .ok (some "a/b") := rfl
  have hkeeps : KeepsTail (Location.ofAddress {} "/c/0042/%61?tab=x#m%20") "0042" "a" :=
    .written "/%61" (by decide) (by decide)
  obtain ⟨target, hled, -, -, hkept⟩ := legacyTail_kept_iff true htakes rfl rfl hnumber hknown
  have hrest : Text.trimStart '/' "a" = "a" := by decide
  rw [hrest] at hkept
  exact ⟨htakes, hnumber, hknown, target, hled, hkept.2 hkeeps⟩

end Handler

end ReviewRouter
