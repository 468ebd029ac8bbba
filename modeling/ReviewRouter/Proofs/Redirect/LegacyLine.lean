import Mathlib.Data.Bool.AllAny
import ReviewRouter.Proofs.PlainNames
import ReviewRouter.Proofs.Redirect.Chain

/-!
# Outdated links to lines

An outdated link to a line of a file has the line behind an `@`, and is led to the file with the line in the anchor.
If an `@` stands in the address, the address is cut there, and its escapes stay what they are.  If there is only an
escaped one, the path that routes see is cut; a layer of escapes is gone from it, and it is taken for an address
again.

* `IsLine`, `lineLink` — lines, and links to them;
* `KeepsLine` — a target that shows the file and the line of a link;
* `keepsLine_literal`, `keepsLine_escaped_iff` — what becomes of the two spellings;
* `Navigator.lineLinks_keep_iff` — **the `@` as it is keeps file and line; escaped it does so exactly if nothing in
  the path means something once it is unescaped**.
-/

namespace ReviewRouter

open Pattern
open Percent (unescape unescapeValue HoldsEscape)

/-! ### Lines -/

/-- A line in an outdated link: perhaps a side, and a number. -/
def IsLine (a : Text) : Prop :=
  ∃ side digits : Text, a = side ++ digits ∧ (side = [] ∨ side = ['a'] ∨ side = ['b']) ∧ digits ≠ [] ∧
    ∀ c ∈ digits, c.isDigit = true

/-- No mark of an address stands in it. -/
theorem IsLine.not_mem {a : Text} (h : IsLine a) : ∀ c ∈ ['%', '+', '?', '#', '@'], c ∉ a := by
  intro c hc
  have hmark : c ∉ (['a'] : Text) ∧ c ∉ (['b'] : Text) ∧ c.isDigit = false := by
    revert c
    exact List.all_iff_forall_prop.1 (by decide)
  obtain ⟨side, digits, rfl, hside, -, hdigits⟩ := h
  rw [List.mem_append, not_or]
  refine ⟨?_, fun hmem => ?_⟩
  · rcases hside with rfl | rfl | rfl
    · exact List.not_mem_nil
    · exact hmark.1
    · exact hmark.2.1
  · rw [hdigits c hmem] at hmark
    exact absurd hmark.2.2 (by decide)

theorem IsLine.unescapeValue_eq {a : Text} (h : IsLine a) : unescapeValue a = a :=
  Percent.unescapeValue_plain a (h.not_mem '%' (by decide)) (h.not_mem '+' (by decide))

/-- An outdated link to a line of a file, with the mark between them spelled in some way. -/
def lineLink (path mark a : Text) : Text :=
  path ++ (mark ++ a)

/-- The target of a link is the file of a path, with the line in the anchor. -/
structure KeepsLine (path a target : Text) : Prop where
  matchPath : (Location.parse target).matchPath = unescape path
  hash : (Location.parse target).hash = a

/-- Nothing in the path means something once it is unescaped. -/
structure IsPlainPath (path : Text) : Prop where
  at_sign : '@' ∉ path
  question : '?' ∉ unescape path
  hash : '#' ∉ unescape path
  escape : ¬HoldsEscape (unescape path)

/-! ### Targets -/

section Targets

variable {path a : Text}

/-- A path that is not cut before the anchor. -/
theorem keepsLine_anchored {seen : Text} (hne : seen ≠ []) (hquestion : '?' ∉ seen) (hhash : '#' ∉ seen)
    (hseen : unescape seen = unescape path) (ha : IsLine a) : KeepsLine path a (seen ++ '#' :: a) where
  matchPath := by
    rw [Location.matchPath_parse_of_front hne hquestion hhash (front_stop (Or.inr rfl) a), hseen]
  hash := by rw [Location.hash_parse hhash, ha.unescapeValue_eq]

/-- The line is moved behind the last `@` of the address. -/
theorem lineToAnchor_of_path {l : Location} {file line : Text} (hpath : l.path = file ++ '@' :: line)
    (hline : '@' ∉ line) : lineToAnchor l = file ++ '#' :: line := by
  have hat : l.path.contains '@' = true := by
    rw [List.contains_iff_mem, hpath]
    exact List.mem_append_right file List.mem_cons_self
  unfold lineToAnchor
  simp only [if_pos hat]
  rw [hpath, Text.splitLast?_append file hline]
  exact List.append_assoc file "#".toList line

/-- If there is none in it, the last one of the path without its escapes. -/
theorem lineToAnchor_of_matchPath {l : Location} {file line : Text} (hpath : '@' ∉ l.path)
    (hmatch : l.matchPath = file ++ '@' :: line) (hline : '@' ∉ line) :
    lineToAnchor l = file ++ '#' :: line := by
  have hat : ¬l.path.contains '@' = true := by
    rwa [List.contains_iff_mem]
  unfold lineToAnchor
  simp only [if_neg hat]
  rw [hmatch, Text.splitLast?_append file hline]
  exact List.append_assoc file "#".toList line

end Targets

/-! ### Both spellings -/

section Spellings

variable {path a : Text}

/-- Before the mark a link to a line is not empty. -/
theorem exists_of_takes_line {found : List (Text × Text)} {rest : Text}
    (h : Route.diffLegacyLinenum.Takes (unescape path ++ '@' :: rest) found) :
    ∃ file, unescape path = '/' :: file := by
  obtain ⟨b, v, r, hpath, -⟩ := opening_of_match? (q := "/c/") rfl h.matched
  cases hcut : unescape path with
  | nil =>
    rw [hcut] at hpath
    exact absurd (List.cons.inj hpath).1 (by decide)
  | cons c file =>
    rw [hcut] at hpath
    obtain rfl : c = '/' := (List.cons.inj hpath).1
    exact ⟨file, rfl⟩

/-- A link to a line is all path. -/
theorem path_lineLink (mark : Text) (hquestion : '?' ∉ path) (hhash : '#' ∉ path) (ha : IsLine a)
    (hne : mark ≠ []) (hmark : ∀ c ∈ ['?', '#'], c ∉ mark) :
    (Location.parse (lineLink path mark a)).path = lineLink path mark a := by
  have habsent : ∀ c ∈ ['?', '#'], c ∉ path → c ∉ lineLink path mark a := by
    intro c hc hpath
    have hline : ∀ c ∈ ['?', '#'], c ∈ ['%', '+', '?', '#', '@'] := List.all_iff_forall_prop.1 (by decide)
    rw [lineLink, List.mem_append, List.mem_append, not_or, not_or]
    exact ⟨hpath, hmark c hc, ha.not_mem c (hline c hc)⟩
  refine Location.path_parse_eq_self (fun h => hne ?_) (habsent '?' (by decide) hquestion)
    (habsent '#' (by decide) hhash)
  exact (List.append_eq_nil_iff.1 (List.append_eq_nil_iff.1 h).2).1

/-- As routes see it both spellings are the same. -/
theorem matchPath_lineLink {mark : Text} (hquestion : '?' ∉ path) (hhash : '#' ∉ path) (ha : IsLine a)
    (hmark : mark = "@" ∨ mark = "%40") :
    (Location.parse (lineLink path mark a)).matchPath = unescape path ++ '@' :: a := by
  have hplain : unescape a = a := Percent.unescape_plain a (ha.not_mem '%' (by decide))
  rw [Location.matchPath]
  rcases hmark with rfl | rfl
  · rw [path_lineLink _ hquestion hhash ha (by decide) (List.all_iff_forall_prop.1 (by decide))]
    have hread := Percent.unescape_append_of_boundary path (c := '@') (by decide) a
    rw [hplain] at hread
    exact hread
  · rw [path_lineLink _ hquestion hhash ha (by decide) (List.all_iff_forall_prop.1 (by decide))]
    have hread := Percent.unescape_append_escapeChar path (c := '@') (by decide) a
    rw [hplain] at hread
    exact hread

/-- **With the mark as it is the file and the line are kept.** -/
theorem keepsLine_literal (hquestion : '?' ∉ path) (hhash : '#' ∉ path) (ha : IsLine a)
    {found : List (Text × Text)}
    (h : Route.diffLegacyLinenum.Takes (Location.parse (lineLink path "@" a)).matchPath found) :
    KeepsLine path a (lineToAnchor (Location.parse (lineLink path "@" a))) := by
  have hpath := path_lineLink "@" hquestion hhash ha (by decide)
    (List.all_iff_forall_prop.1 (by decide))
  rw [matchPath_lineLink hquestion hhash ha (Or.inl rfl)] at h
  obtain ⟨file, hfile⟩ := exists_of_takes_line h
  have hne : path ≠ [] := by
    rintro rfl
    cases hfile
  rw [lineToAnchor_of_path hpath (ha.not_mem '@' (by decide))]
  exact keepsLine_anchored hne hquestion hhash rfl ha

/-- An `@` of the path is taken for the mark if the mark is escaped, and the anchor is no line then. -/
theorem not_keepsLine_of_at_mem (hhash : '#' ∉ path) (ha : IsLine a) (hmark : '@' ∈ path)
    (hpath : (Location.parse (lineLink path "%40" a)).path = lineLink path "%40" a) :
    ¬KeepsLine path a (lineToAnchor (Location.parse (lineLink path "%40" a))) := by
  obtain ⟨⟨file, rest⟩, hsplit⟩ := Option.ne_none_iff_exists'.1 (Text.splitLast?_ne_none hmark)
  have hcut := Text.splitLast?_eq_some hsplit
  have hlast : '@' ∉ rest ++ ("%40".toList ++ a) := by
    rw [List.mem_append, List.mem_append, not_or, not_or]
    exact ⟨Text.not_mem_of_splitLast? hsplit, by decide, ha.not_mem '@' (by decide)⟩
  have hfile : '#' ∉ file := fun h => hhash (hcut ▸ List.mem_append_left _ h)
  have hwhole : (Location.parse (lineLink path "%40" a)).path = file ++ '@' :: (rest ++ ("%40".toList ++ a)) := by
    rw [hpath, lineLink, hcut, List.append_assoc]
    rfl
  rintro ⟨-, hline⟩
  rw [lineToAnchor_of_path hwhole hlast, Location.hash_parse hfile, unescapeValue,
    Percent.substitute_append] at hline
  -- the mark is in the anchor, and is read there
  have hat : '@' ∈ unescape (Text.substitute '+' ' ' rest ++ Text.substitute '+' ' ' ("%40".toList ++ a)) := by
    rw [show Text.substitute '+' ' ' ("%40".toList ++ a) =
      Percent.escapeChar '@' ++ Text.substitute '+' ' ' a from rfl,
      Percent.unescape_append_escapeChar _ (by decide)]
    exact List.mem_append_right _ List.mem_cons_self
  rw [hline] at hat
  exact ha.not_mem '@' (by decide) hat

/-- **With the mark escaped they are kept exactly if the path is plain.** -/
theorem keepsLine_escaped_iff (hquestion : '?' ∉ path) (hhash : '#' ∉ path) (ha : IsLine a)
    {found : List (Text × Text)}
    (h : Route.diffLegacyLinenum.Takes (Location.parse (lineLink path "%40" a)).matchPath found) :
    KeepsLine path a (lineToAnchor (Location.parse (lineLink path "%40" a))) ↔ IsPlainPath path := by
  have hpath := path_lineLink "%40" hquestion hhash ha (by decide)
    (List.all_iff_forall_prop.1 (by decide))
  have hmatch := matchPath_lineLink hquestion hhash ha (Or.inr (rfl : "%40".toList = "%40"))
  rw [hmatch] at h
  obtain ⟨file, hfile⟩ := exists_of_takes_line h
  by_cases hmark : '@' ∈ path
  · exact iff_of_false (not_keepsLine_of_at_mem hhash ha hmark hpath) fun hplain => hplain.at_sign hmark
  · have hat : '@' ∉ a := ha.not_mem '@' (by decide)
    have habsent : '@' ∉ (Location.parse (lineLink path "%40" a)).path := by
      rw [hpath, lineLink, List.mem_append, List.mem_append, not_or, not_or]
      exact ⟨hmark, by decide, hat⟩
    rw [lineToAnchor_of_matchPath habsent hmatch hat]
    constructor
    · rintro ⟨hkept, -⟩
      have hfront : front (unescape path ++ '#' :: a) = front (unescape path) :=
        front_append_eq_left (front_stop (Or.inr rfl) a) _
      have hne : front (unescape path) ≠ [] := by
        rw [hfile, front_cons (by decide)]
        exact List.cons_ne_nil _ _
      rw [Location.matchPath_parse (hfront ▸ hne), hfront, unescape_front_eq_self_iff] at hkept
      exact ⟨hmark, hkept.1, hkept.2.1, hkept.2.2⟩
    · rintro ⟨-, hquestion', hhash', hescape⟩
      have hne : unescape path ≠ [] := by
        rw [hfile]
        exact List.cons_ne_nil _ _
      exact keepsLine_anchored hne hquestion' hhash' (Percent.unescape_eq_self_iff.2 hescape) ha

end Spellings

/-! ### Navigation -/

namespace Navigator

variable {σ : Type} {n : Navigator}

/-- A link to a line is followed. -/
theorem action_of_route_line (hn : n.IsStandard) (s : Session σ) (st : σ) {url : Text}
    {found : List (Text × Text)} (htakes : Route.diffLegacyLinenum.Takes (Location.parse url).matchPath found) :
    ((n.navigate url).1.run s st).1.action = .redirect (lineToAnchor (Location.parse url)) :=
  n.action_of_shortens hn s st htakes rfl (fun _ => rfl) (shortens_lineToAnchor htakes.matched)

/-- **A link to a line that stands behind an `@` leads to the file of its path, with the line in the anchor; if
the `@` is escaped it does so exactly if the path is plain.**  For every navigator over all routes at the root of
its server and every session. -/
theorem lineLinks_keep_iff (hn : n.IsStandard) (s : Session σ) (st : σ) {path a : Text} (hquestion : '?' ∉ path)
    (hhash : '#' ∉ path) (ha : IsLine a) :
    (n.route? (lineLink path "@" a) = some .diffLegacyLinenum →
      ∃ target, ((n.navigate (lineLink path "@" a)).1.run s st).1.action = .redirect target ∧
        KeepsLine path a target) ∧
      (n.route? (lineLink path "%40" a) = some .diffLegacyLinenum →
        ∃ target, ((n.navigate (lineLink path "%40" a)).1.run s st).1.action = .redirect target ∧
          (KeepsLine path a target ↔ IsPlainPath path)) := by
  constructor
  · intro hroute
    obtain ⟨found, htakes⟩ := (route?_eq_some_iff hn).1 hroute
    exact ⟨_, action_of_route_line hn s st htakes, keepsLine_literal hquestion hhash ha htakes⟩
  · intro hroute
    obtain ⟨found, htakes⟩ := (route?_eq_some_iff hn).1 hroute
    exact ⟨_, action_of_route_line hn s st htakes, keepsLine_escaped_iff hquestion hhash ha htakes⟩

/-- With the mark escaped the plus sign in the name of this file is lost. -/
theorem lineLink_misled :
    overAll.route? (lineLink "/c/p/+/1/2/a%252Bb" "%40" "b12") = some .diffLegacyLinenum ∧
      ((overAll.navigate (lineLink "/c/p/+/1/2/a%252Bb" "%40" "b12")).1.run .scripted {}).1.action =
        .redirect "/c/p/+/1/2/a%2Bb#b12" ∧
      ¬KeepsLine "/c/p/+/1/2/a%252Bb" "b12" "/c/p/+/1/2/a%2Bb#b12" := by
  have hfile : unescape "/c/p/+/1/2/a%252Bb" = "/c/p/+/1/2/a%2Bb" := by decide
  have htarget : (Location.parse "/c/p/+/1/2/a%2Bb#b12").matchPath = "/c/p/+/1/2/a+b" := by decide
  refine ⟨by decide +kernel, by decide +kernel, fun h => ?_⟩
  have hkept := h.matchPath
  rw [hfile, htarget] at hkept
  exact absurd hkept (by decide)

theorem lineLinks_keep_sample :
    overAll.IsStandard ∧ '?' ∉ ("/c/p/+/1/2/a%20b" : Text) ∧ '#' ∉ ("/c/p/+/1/2/a%20b" : Text) ∧
      IsLine "b12" ∧ overAll.route? (lineLink "/c/p/+/1/2/a%20b" "@" "b12") = some .diffLegacyLinenum ∧
      overAll.route? (lineLink "/c/p/+/1/2/a%20b" "%40" "b12") = some .diffLegacyLinenum ∧
      (∃ target, ((overAll.navigate (lineLink "/c/p/+/1/2/a%20b" "@" "b12")).1.run .scripted
        {}).1.action = .redirect target ∧ KeepsLine "/c/p/+/1/2/a%20b" "b12" target) ∧
      ∃ target, ((overAll.navigate (lineLink "/c/p/+/1/2/a%20b" "%40" "b12")).1.run .scripted
        {}).1.action = .redirect target ∧ KeepsLine "/c/p/+/1/2/a%20b" "b12" target := by
  have hquestion : '?' ∉ ("/c/p/+/1/2/a%20b" : Text) := by decide
  have hhash : '#' ∉ ("/c/p/+/1/2/a%20b" : Text) := by decide
  have hline : IsLine "b12" := ⟨"b", "12", rfl, by decide, by decide, List.all_iff_forall_prop.1 (by decide)⟩
  have hplain : IsPlainPath "/c/p/+/1/2/a%20b" :=
    ⟨by decide, by decide, by decide, Percent.unescape_eq_self_iff.1 (by decide)⟩
  have hboth := lineLinks_keep_iff isStandard_overAll .scripted {} hquestion hhash hline
  have hliteral : overAll.route? (lineLink "/c/p/+/1/2/a%20b" "@" "b12") = some .diffLegacyLinenum := by
    decide +kernel
  have hescaped : overAll.route? (lineLink "/c/p/+/1/2/a%20b" "%40" "b12") = some .diffLegacyLinenum := by
    decide +kernel
  obtain ⟨target, hled, hkeeps⟩ := hboth.2 hescaped
  exact ⟨isStandard_overAll, hquestion, hhash, hline, hliteral, hescaped, hboth.1 hliteral, target, hled,
    hkeeps.2 hplain⟩

end Navigator

end ReviewRouter
