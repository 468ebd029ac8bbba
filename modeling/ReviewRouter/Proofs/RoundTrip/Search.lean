import Mathlib.Data.List.Forall2
import ReviewRouter.Proofs.RoundTrip.Offset

/-!
# The address of a search leads to the search

A search is written as one path segment: the query itself, or the operators that are set, joined by
plus signs.  The values are escaped twice, the marks between them are not, and yet no value can forge
a mark: two layers are undone on the way, and the second one sees each value escaped once.

* `Conveys` — a part of an address that stands for another text after both layers are undone;
* `SearchView.terms`, `SearchView.queryText` — the operators and the query, as they are meant;
* `SearchView.conveys_writtenQuery` — **the written query stands for the query text**;
* `Route.takes_query` — the route of a search takes its path;
* `SearchView.action_navigate_search_address` — **navigating to the address of a search presents the
  search for its query text**.
-/

namespace ReviewRouter

open Pattern
open Percent (readable escapeSegment unescape unescapeValue)

/-! ### Written parts -/

/-- The characters that a query is written with: those of escaped segments, blanks, quotes and
parentheses. -/
def isQueryChar (c : Char) : Bool :=
  Percent.isSegmentChar c || [' ', '"', '(', ')'].contains c

/-- A written part, as a route sees it after one layer and a handler after both, whatever follows
it. -/
structure Carries (written seen text : Text) : Prop where
  first : ∀ t, unescape (written ++ t) = seen ++ unescape t
  second : ∀ t, unescapeValue (seen ++ t) = text ++ unescapeValue t
  written_char : ∀ c ∈ written, isQueryChar c = true
  seen_char : ∀ c ∈ seen, isQueryChar c = true

/-- A written part that stands for the text once both layers are undone. -/
def Conveys (written text : Text) : Prop :=
  ∃ seen, Carries written seen text

theorem Carries.not_mem {written seen text : Text} (h : Carries written seen text) {c : Char}
    (hc : isQueryChar c = false) : c ∉ written ∧ c ∉ seen := by
  constructor
  · intro hmem
    rw [h.written_char c hmem] at hc
    cases hc
  · intro hmem
    rw [h.seen_char c hmem] at hc
    cases hc

/-- Only the empty text is seen as nothing. -/
theorem Carries.seen_ne_nil {written seen text : Text} (h : Carries written seen text)
    (hne : text ≠ []) : seen ≠ [] := by
  intro hseen
  have hread := h.second []
  rw [hseen] at hread
  have htext : text ++ unescapeValue [] = [] := hread.symm
  exact hne (List.append_eq_nil_iff.1 htext).1

namespace Conveys

theorem nil : Conveys [] [] :=
  ⟨[], fun _ => rfl, fun _ => rfl, fun _ h => absurd h List.not_mem_nil,
    fun _ h => absurd h List.not_mem_nil⟩

/-- One part after the other. -/
theorem append {w w' t t' : Text} (h : Conveys w t) (h' : Conveys w' t') :
    Conveys (w ++ w') (t ++ t') := by
  obtain ⟨seen, hs⟩ := h
  obtain ⟨seen', hs'⟩ := h'
  refine ⟨seen ++ seen', ?_, ?_, ?_, ?_⟩
  · intro x
    rw [List.append_assoc, hs.first, hs'.first, List.append_assoc]
  · intro x
    rw [List.append_assoc, hs.second, hs'.second, List.append_assoc]
  · intro c hc
    exact (List.mem_append.1 hc).elim (hs.written_char c) (hs'.written_char c)
  · intro c hc
    exact (List.mem_append.1 hc).elim (hs.seen_char c) (hs'.seen_char c)

/-- A value is escaped twice. -/
theorem segment (keepSlashes : Bool) (value : Text) :
    Conveys (escapeSegment keepSlashes value) value := by
  refine ⟨readable keepSlashes value, ?_, ?_, ?_, ?_⟩
  · exact Percent.unescape_escapeSegment_append keepSlashes value
  · exact Percent.unescapeValue_readable_append keepSlashes value
  · intro c hc
    rw [isQueryChar, Percent.isSegmentChar_of_mem_escapeSegment hc, Bool.true_or]
  · intro c hc
    rw [isQueryChar, Percent.isSegmentChar_of_mem_readable hc, Bool.true_or]

/-- The marks of a query stand for themselves. -/
theorem mark (t : Text) (h : t.all (fun c => isQueryChar c && c != '%' && c != '+') = true) :
    Conveys t t := by
  have hchar : ∀ c ∈ t, isQueryChar c = true ∧ c ≠ '%' ∧ c ≠ '+' := by
    intro c hc
    have hmark := List.all_eq_true.1 h c hc
    simp only [Bool.and_eq_true, bne_iff_ne, ne_eq] at hmark
    exact ⟨hmark.1.1, hmark.1.2, hmark.2⟩
  have hpercent : '%' ∉ t := fun hc => (hchar '%' hc).2.1 rfl
  have hplus : '+' ∉ t := fun hc => (hchar '+' hc).2.2 rfl
  refine ⟨t, ?_, ?_, fun c hc => (hchar c hc).1, fun c hc => (hchar c hc).1⟩
  · exact Percent.unescape_plain_append t hpercent
  · intro x
    rw [unescapeValue, Percent.substitute_append, Percent.substitute_of_not_mem ' ' t hplus,
      Percent.unescape_plain_append t hpercent, unescapeValue]

/-- A plus sign stands for a space. -/
theorem plus : Conveys "+" " " :=
  ⟨"+", Percent.unescape_cons (by decide), fun x => Percent.unescape_cons (by decide) _,
    List.all_eq_true.1 rfl, List.all_eq_true.1 rfl⟩

/-- Joined parts stand for the joined texts. -/
theorem intercalate {sep sep' : Text} (hsep : Conveys sep sep') {ws ts : List Text}
    (h : List.Forall₂ Conveys ws ts) :
    Conveys (List.intercalate sep ws) (List.intercalate sep' ts) := by
  induction h with
  | nil => exact nil
  | @cons w t ws ts hw htail ih =>
    cases htail with
    | nil =>
      rw [List.intercalate_singleton, List.intercalate_singleton]
      exact hw
    | cons _ _ =>
      rw [List.intercalate_cons_cons, List.intercalate_cons_cons]
      exact (hw.append hsep).append ih

end Conveys

/-! ### The query as it is meant -/

namespace SearchView

/-- One operator with its value. -/
def term (name : Text) (value : Option Text) : List Text :=
  match value with
  | some v => [name ++ ":" ++ v]
  | none => []

/-- The topic, in quotes if it holds white space. -/
def topicTerm (topic : Option Text) : List Text :=
  match topic with
  | some t => if t.any isBlank then ["topic:\"" ++ t ++ "\""] else ["topic:" ++ t]
  | none => []

/-- The hashtag, in quotes and in lower case. -/
def hashtagTerm (hashtag : Option Text) : List Text :=
  match hashtag with
  | some h => ["hashtag:\"" ++ Text.lowercase h ++ "\""]
  | none => []

/-- The status, or several as alternatives in parentheses. -/
def statusTerm (statuses : List Text) : List Text :=
  let one (s : Text) : Text := "status:" ++ s
  match statuses with
  | [] => []
  | [s] => [one s]
  | _ => ["(" ++ List.intercalate " OR " (statuses.map one) ++ ")"]

/-- The operators that are set, in order. -/
def terms (v : SearchView) : List Text :=
  term "owner" v.owner ++ term "project" v.project ++ term "branch" v.branch ++ topicTerm v.topic
    ++ hashtagTerm v.hashtag ++ statusTerm v.statuses

/-- The text that is searched for: the query, or else the operators, joined by spaces. -/
def queryText (v : SearchView) : Text :=
  match v.query with
  | some q => q
  | none => List.intercalate " " v.terms

/-- The query as it is written in the address. -/
def writtenQuery (v : SearchView) : Text :=
  match v.query with
  | some q => escapeSegment true q
  | none => List.intercalate "+"
      (operator "owner" v.owner ++ operator "project" v.project ++ operator "branch" v.branch
        ++ topicOperator v.topic ++ hashtagOperator v.hashtag ++ statusOperator v.statuses)

theorem address_eq (v : SearchView) : v.address = "/q/" ++ v.writtenQuery ++ offsetTail v.offset :=
  rfl

theorem conveys_operator {name : Text} (hname : Conveys name name) (value : Option Text) :
    List.Forall₂ Conveys (operator name value) (term name value) := by
  cases value with
  | none => exact .nil
  | some v =>
    exact .cons ((hname.append (Conveys.mark ":" (by decide))).append (Conveys.segment false v)) .nil

theorem conveys_topicOperator (topic : Option Text) :
    List.Forall₂ Conveys (topicOperator topic) (topicTerm topic) := by
  cases topic with
  | none => exact .nil
  | some t =>
    simp only [topicOperator, topicTerm]
    split
    · exact .cons (((Conveys.mark "topic:\"" (by decide)).append (Conveys.segment false t)).append
        (Conveys.mark "\"" (by decide))) .nil
    · exact .cons ((Conveys.mark "topic:" (by decide)).append (Conveys.segment false t)) .nil

theorem conveys_hashtagOperator (hashtag : Option Text) :
    List.Forall₂ Conveys (hashtagOperator hashtag) (hashtagTerm hashtag) := by
  cases hashtag with
  | none => exact .nil
  | some h =>
    exact .cons (((Conveys.mark "hashtag:\"" (by decide)).append
      (Conveys.segment false (Text.lowercase h))).append (Conveys.mark "\"" (by decide))) .nil

theorem conveys_statusOperator (statuses : List Text) :
    List.Forall₂ Conveys (statusOperator statuses) (statusTerm statuses) := by
  have hone : ∀ s : Text, Conveys ("status:" ++ escapeSegment false s) ("status:" ++ s) := by
    intro s
    exact (Conveys.mark "status:" (by decide)).append (Conveys.segment false s)
  have hall : ∀ l : List Text, List.Forall₂ Conveys
      (l.map fun s => "status:".toList ++ escapeSegment false s) (l.map fun s => "status:".toList ++ s) := by
    intro l
    induction l with
    | nil => exact .nil
    | cons s l ih => exact .cons (hone s) ih
  match statuses with
  | [] => exact .nil
  | [s] => exact .cons (hone s) .nil
  | s :: s' :: l =>
    have halternatives := (Conveys.mark " OR " (by decide)).intercalate (hall (s :: s' :: l))
    exact .cons (((Conveys.mark "(" (by decide)).append halternatives).append
      (Conveys.mark ")" (by decide))) .nil

/-- **The written query stands for the query text.** -/
theorem conveys_writtenQuery (v : SearchView) : Conveys v.writtenQuery v.queryText := by
  unfold writtenQuery queryText
  cases v.query with
  | some q => exact Conveys.segment true q
  | none =>
    refine Conveys.plus.intercalate ?_
    refine List.rel_append (List.rel_append (List.rel_append (List.rel_append (List.rel_append ?_ ?_)
      ?_) ?_) ?_) ?_
    · exact conveys_operator (Conveys.mark "owner" (by decide)) v.owner
    · exact conveys_operator (Conveys.mark "project" (by decide)) v.project
    · exact conveys_operator (Conveys.mark "branch" (by decide)) v.branch
    · exact conveys_topicOperator v.topic
    · exact conveys_hashtagOperator v.hashtag
    · exact conveys_statusOperator v.statuses

end SearchView

/-! ### The path of a search -/

/-- What the route of a search captures. -/
def queryCaptures (seen : Text) (offset : UInt32) : List (Text × Text) :=
  offsetCaptures offset ++ [("query".toList, seen)]

namespace Route

variable {seen : Text}

theorem match?_query (hne : seen ≠ []) (hcomma : ',' ∉ seen) (offset : UInt32) :
    query.match? ("/q/" ++ (seen ++ offsetTail offset)) = some (queryCaptures seen offset) := by
  have hrun : isRun (.besides ',') seen := by
    intro c hc
    rw [CharSet.mem_besides]
    intro heq
    rw [heq] at hc
    exact hcomma hc
  show (row (lit "/q/" ++ [.capture "query" (plus (.besides ',')), offsetPart, stop])).matchAt? none _ = _
  rw [matchAt?, run_lit]
  refine run_capture_plus_of_longest hne hrun ?_ ?_
  · rw [← List.append_nil (offsetTail offset)]
    refine run_row_of_unique (reads_offsetTail offset) ?_
    intro w r cs heq hreads
    rw [List.append_nil] at heq
    exact unique_offsetTail offset hreads heq
  · -- a longer query would hold the comma
    intro x u r cs htail hxne hxrun _
    cases x with
    | nil => exact hxne rfl
    | cons c x =>
      have hc : c ≠ ',' := CharSet.mem_besides.1 (isRun_cons.1 hxrun).1
      unfold offsetTail at htail
      split at htail
      · cases htail
      · exact hc (List.cons.inj htail).1.symm

/-- One comma is too few for the outdated suffix. -/
theorem match?_queryLegacySuffix_eq_none (hcomma : ',' ∉ seen) (offset : UInt32) :
    queryLegacySuffix.match? ("/q/" ++ (seen ++ offsetTail offset)) = none := by
  cases hmatch : queryLegacySuffix.match? ("/q/" ++ (seen ++ offsetTail offset)) with
  | none => rfl
  | some found =>
    obtain ⟨w, r, hpath, hreads⟩ := exists_reads_of_matchAt? hmatch
    obtain ⟨x, rfl, hx⟩ := reads_lit.1 hreads
    obtain ⟨u, y, rfl, -, -, hy⟩ := reads_plus.1 hx
    obtain ⟨z, rfl, hz⟩ := reads_lit.1 hy
    obtain ⟨rfl, rfl, -⟩ := reads_stop.1 hz
    have hcount := congrArg (List.count ',') hpath
    have hseen : seen.count ',' = 0 := List.count_eq_zero.2 hcomma
    have hslash : ("/q/".toList).count ',' = 0 := by decide
    have hsuffix : (",n,z".toList).count ',' = 2 := by decide
    have htail : (offsetTail offset).count ',' ≤ 1 := by
      unfold offsetTail
      split
      · exact Nat.zero_le 1
      · have hdigits : (Numeral.ofNat offset.toNat).count ',' = 0 :=
          List.count_eq_zero.2 (Numeral.not_mem_ofNat (by decide) _)
        rw [List.count_cons, hdigits]
        exact Nat.le_refl 1
    simp only [List.count_append, List.count_nil, hseen, hslash, hsuffix] at hcount
    omega

/-- The route of a search takes the path of a query without a comma, with its page number. -/
theorem takes_query (hne : seen ≠ []) (hcomma : ',' ∉ seen) (offset : UInt32) :
    query.Takes ("/q/" ++ (seen ++ offsetTail offset)) (queryCaptures seen offset) := by
  refine takes_of_opening (match?_query hne hcomma offset) ?_
  have hbefore : query.before.filter (mayOpen "/q/") = [queryLegacySuffix] := by
    decide
  rw [hbefore]
  intro r hr
  rw [List.mem_singleton.1 hr]
  exact match?_queryLegacySuffix_eq_none hcomma offset

end Route

/-- What the handler of a search makes of these captures. -/
theorem gives_query {A : Answers} {d : Deployment} {initialLoad : Bool} {l : Location}
    {seen text : Text} {offset : UInt32} (hseen : unescapeValue seen = text)
    {result : Except Failure Action}
    (h : (Route.query.handle d initialLoad l (Route.query.captured (queryCaptures seen offset))).Gives A
      result) :
    result = .ok (.present (.search { query := some text, offset })) := by
  have hoffset : (Route.query.captured (queryCaptures seen offset)).offset "offset" = .ok offset :=
    Captures.offset_captured .query offset rfl
  have hquery : (Route.query.captured (queryCaptures seen offset)).require "query" = .ok text := by
    apply Captures.require_eq
    rw [Route.get?_captured, ← hseen, queryCaptures, List.lookup_append]
    unfold offsetCaptures
    split <;> rfl
  delta Route.handle at h
  dsimp only at h
  rw [hoffset, hquery] at h
  exact h

/-! ### There and back -/

namespace SearchView

/-- The searches that their address can show: for a query, or for at least one operator. -/
def IsAddressable (v : SearchView) : Prop :=
  (∃ q, v.query = some q ∧ q ≠ []) ∨
    v.query = none ∧ (v.owner ≠ none ∨ v.project ≠ none ∨ v.branch ≠ none ∨ v.topic ≠ none ∨
      v.hashtag ≠ none ∨ v.statuses ≠ [])

/-- A character of a part is one of the joined parts. -/
theorem mem_intercalate {c : Char} {sep t : Text} {ts : List Text} (ht : t ∈ ts) (hc : c ∈ t) :
    c ∈ List.intercalate sep ts := by
  induction ts with
  | nil => exact absurd ht List.not_mem_nil
  | cons a ts ih =>
    cases ts with
    | nil =>
      rw [List.mem_singleton.1 ht] at hc
      rw [List.intercalate_singleton]
      exact hc
    | cons b ts =>
      rw [List.intercalate_cons_cons, List.mem_append, List.mem_append]
      rcases List.mem_cons.1 ht with heq | htail
      · rw [heq] at hc
        exact Or.inl (Or.inl hc)
      · exact Or.inr (ih htail)

theorem colon_mem_term (name : Text) {value : Option Text} (h : value ≠ none) :
    ∃ t ∈ term name value, ':' ∈ t := by
  obtain ⟨v, rfl⟩ := Option.ne_none_iff_exists'.1 h
  refine ⟨name ++ ":" ++ v, List.mem_singleton_self _, ?_⟩
  rw [List.mem_append, List.mem_append]
  exact Or.inl (Or.inr (List.mem_singleton_self ':'))

theorem colon_mem_topicTerm {topic : Option Text} (h : topic ≠ none) :
    ∃ t ∈ topicTerm topic, ':' ∈ t := by
  obtain ⟨t, rfl⟩ := Option.ne_none_iff_exists'.1 h
  simp only [topicTerm]
  split
  · refine ⟨_, List.mem_singleton_self _, ?_⟩
    rw [List.mem_append, List.mem_append]
    exact Or.inl (Or.inl (by decide))
  · refine ⟨_, List.mem_singleton_self _, ?_⟩
    rw [List.mem_append]
    exact Or.inl (by decide)

theorem colon_mem_hashtagTerm {hashtag : Option Text} (h : hashtag ≠ none) :
    ∃ t ∈ hashtagTerm hashtag, ':' ∈ t := by
  obtain ⟨t, rfl⟩ := Option.ne_none_iff_exists'.1 h
  refine ⟨_, List.mem_singleton_self _, ?_⟩
  rw [List.mem_append, List.mem_append]
  exact Or.inl (Or.inl (by decide))

theorem colon_mem_statusTerm {statuses : List Text} (h : statuses ≠ []) :
    ∃ t ∈ statusTerm statuses, ':' ∈ t := by
  have hone : ∀ s : Text, ':' ∈ "status:".toList ++ s := by
    intro s
    exact List.mem_append_left s (by decide)
  match statuses with
  | [] => exact absurd rfl h
  | [s] => exact ⟨_, List.mem_singleton_self _, hone s⟩
  | s :: s' :: l =>
    refine ⟨_, List.mem_singleton_self _, ?_⟩
    rw [List.mem_append, List.mem_append]
    exact Or.inl (Or.inr (mem_intercalate List.mem_cons_self (hone s)))

/-- Every operator holds a colon, so the text that is searched for is not empty. -/
theorem queryText_ne_nil {v : SearchView} (h : v.IsAddressable) : v.queryText ≠ [] := by
  rcases h with ⟨q, hq, hne⟩ | ⟨hnone, hset⟩
  · simp only [queryText, hq]
    exact hne
  · have hcolon : ∃ t ∈ v.terms, ':' ∈ t := by
      simp only [terms, List.mem_append, or_and_right, exists_or, or_assoc]
      rcases hset with howner | hproject | hbranch | htopic | hhashtag | hstatuses
      · exact Or.inl (colon_mem_term "owner" howner)
      · exact Or.inr (Or.inl (colon_mem_term "project" hproject))
      · exact Or.inr (Or.inr (Or.inl (colon_mem_term "branch" hbranch)))
      · exact Or.inr (Or.inr (Or.inr (Or.inl (colon_mem_topicTerm htopic))))
      · exact Or.inr (Or.inr (Or.inr (Or.inr (Or.inl (colon_mem_hashtagTerm hhashtag)))))
      · exact Or.inr (Or.inr (Or.inr (Or.inr (Or.inr (colon_mem_statusTerm hstatuses)))))
    obtain ⟨t, ht, hc⟩ := hcolon
    simp only [queryText, hnone]
    exact List.ne_nil_of_mem (mem_intercalate ht hc)

/-- The address of a search, as a route sees it. -/
theorem matchPath_searchAddress {written seen text : Text} (h : Carries written seen text)
    (offset : UInt32) :
    (Location.parse ("/q/" ++ written ++ offsetTail offset)).matchPath =
      "/q/" ++ (seen ++ offsetTail offset) := by
  have habsent : ∀ c : Char, isQueryChar c = false → c ≠ ',' → c.isDigit = false →
      c ∉ ("/q/" : Text) → c ∉ "/q/".toList ++ written ++ offsetTail offset := by
    intro c hc hcomma hdigit hopening
    simp only [List.mem_append, not_or]
    exact ⟨⟨hopening, (h.not_mem hc).1⟩, not_mem_offsetTail hcomma hdigit offset⟩
  have hhash := habsent '#' (by decide) (by decide) (by decide) (by decide)
  have hquestion := habsent '?' (by decide) (by decide) (by decide) (by decide)
  have hparse := Location.parse_eq [] [] (fun heq => by cases heq) hhash hquestion List.not_mem_nil
  simp only [if_true, List.append_nil] at hparse
  rw [Location.matchPath, congrArg Location.path hparse]
  show unescape ("/q/".toList ++ written ++ offsetTail offset) = _
  rw [List.append_assoc, Percent.unescape_plain_append _ (by decide), h.first,
    Percent.unescape_plain _ (not_mem_offsetTail (by decide) (by decide) offset)]

/-- Navigating to a written query presents the search for what it stands for. -/
theorem action_navigate_written {σ : Type} {n : Navigator} (hn : n.IsStandard) (s : Session σ) (st : σ)
    {written text : Text} (hwritten : Conveys written text) (hne : text ≠ []) (offset : UInt32) :
    ((n.navigate ("/q/" ++ written ++ offsetTail offset)).1.run s st).1.action =
      .present (.search { query := some text, offset }) := by
  obtain ⟨seen, hseen⟩ := hwritten
  have hcomma : ',' ∉ seen := (hseen.not_mem (by decide)).2
  have hread : unescapeValue seen = text := by
    have hsecond := hseen.second []
    rw [List.append_nil] at hsecond
    exact hsecond.trans (List.append_nil _)
  have htakes := Route.takes_query (hseen.seen_ne_nil hne) hcomma offset
  rw [← matchPath_searchAddress hseen offset] at htakes
  refine n.run_navigate hn (s.obeys_any st) htakes ?_
  intro initialLoad result hgives
  have hresult := gives_query hread (Handling.gives_guard_open.1 hgives)
  rw [hresult]
  rfl

/-- **Navigating to the address of a search presents the search for its query text**, from the same
offset on.  For every navigator over all routes at the root of its server, and every session. -/
theorem action_navigate_search_address {σ : Type} {n : Navigator} (hn : n.IsStandard) (s : Session σ)
    (st : σ) {v : SearchView} (hv : v.IsAddressable) :
    ((n.navigate v.address).1.run s st).1.action =
      .present (.search { query := some v.queryText, offset := v.offset }) := by
  rw [address_eq]
  exact action_navigate_written hn s st v.conveys_writtenQuery (queryText_ne_nil hv) v.offset

/-- Every operator, with marks of queries and of addresses in the values, from the last offset on. -/
def sample : SearchView :=
  { owner := some "a,b+c", project := some "100%/x#1?", branch := some "r\"q\""
    topic := some "two words", hashtag := some "ÄÖ \"", statuses := ["open", "a) OR (b", "x y"]
    offset := 4294967295 }

theorem isAddressable_sample : sample.IsAddressable :=
  Or.inr ⟨rfl, Or.inl (Option.some_ne_none _)⟩

theorem action_navigate_search_sample :
    Navigator.overAll.IsStandard ∧ sample.IsAddressable ∧
      ((Navigator.overAll.navigate sample.address).1.run .scripted {}).1.action =
        .present (.search { query := some sample.queryText, offset := 4294967295 }) ∧
      sample.queryText = "owner:a,b+c project:100%/x#1? branch:r\"q\" topic:\"two words\" " ++
        "hashtag:\"äö \"\" (status:open OR status:a) OR (b OR status:x y)" := by
  refine ⟨Navigator.isStandard_overAll, isAddressable_sample, ?_, ?_⟩
  · exact action_navigate_search_address Navigator.isStandard_overAll .scripted {} isAddressable_sample
  · decide +kernel

end SearchView

end ReviewRouter
