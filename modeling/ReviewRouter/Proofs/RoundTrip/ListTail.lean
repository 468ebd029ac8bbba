import ReviewRouter.Proofs.Route.Comma
import ReviewRouter.Proofs.RoundTrip.Offset

/-!
# Filters and page numbers

A list can be filtered, and it begins at some page; its address ends with both.  Three routes read
that end: without a filter, with one, and with a filter and a page number.

* `seenListTail`, `listCaptures` — the end of an address as routes see it, and what is captured of it;
* `listTailRow`, `listRoute` — the one of three rows, and of three routes, that reads it;
* `listRivals` — the other routes of the list that come before it;
* `readsOnly_listTail` — **the filter and the page number of a list are read in one way**;
* `not_reads_offset`, `not_reads_filterOffset` — and the other two rows do not read them;
* `match?_offsetRow_eq_none`, `match?_filterRow_eq_none`, `match?_filterRow_ne_none` — which routes of a list
  match the path of a name below it;
* `shownFilter` — the filter that a page is shown with;
* `Captures.offset_listCaptures`, `filterCapture?_captured` — handlers find them in the captures.
-/

namespace ReviewRouter

open Pattern
open Percent (readable escapeSegment unescape unescapeValue)

/-! ### Filters and page numbers -/

/-- The filter and the page number of a list, as a route sees them. -/
def seenListTail (filter : Option Text) (offset : UInt32) : Text :=
  (match filter with
    | some f => "/q/filter:" ++ readable false f
    | none => []) ++ offsetTail offset

/-- What is captured of them. -/
def listCaptures (filter : Option Text) (offset : UInt32) : List (Text × Text) :=
  offsetCaptures offset ++ (match filter with
    | some f => [("filter", readable false f)]
    | none => [])

/-- The row that reads them, in front of the end of a path. -/
def listTailRow (filter : Option Text) (offset : UInt32) (ps : List Pattern) : List Pattern :=
  match filter with
  | none => offsetPart :: ps
  | some _ => if offset = 0 then filterRow "/q/filter:" ps else filterOffsetRow "/q/filter:" ps

/-- Of three routes for a list, the one for this filter and page number. -/
def listRoute (plain page filtered : Route) (filter : Option Text) (offset : UInt32) : Route :=
  match filter with
  | none => plain
  | some _ => if offset = 0 then filtered else page

/-- The other routes of the list that are tried before. -/
def listRivals (plain page : Route) (filter : Option Text) (offset : UInt32) : List Route :=
  match filter with
  | none => []
  | some _ => if offset = 0 then [plain, page] else [plain]

theorem forall_listRivals {plain page : Route} {filter : Option Text} {offset : UInt32}
    {P : Route → Prop} (hplain : ∀ f, filter = some f → P plain)
    (hpage : ∀ f, filter = some f → offset = 0 → P page) :
    ∀ r ∈ listRivals plain page filter offset, P r := by
  intro r hr
  cases filter with
  | none => exact absurd hr List.not_mem_nil
  | some f =>
    rw [listRivals] at hr
    split at hr
    · next hzero =>
      rcases List.mem_cons.1 hr with rfl | hr
      · exact hplain f rfl
      · rw [List.mem_singleton.1 hr]
        exact hpage f rfl hzero
    · rw [List.mem_singleton.1 hr]
      exact hplain f rfl

theorem listTail_none (offset : UInt32) : listTail none offset = offsetTail offset := rfl

theorem listTail_some (f : Text) (offset : UInt32) :
    listTail (some f) offset = "/q/filter:".toList ++ (escapeSegment false f ++ offsetTail offset) :=
  List.append_assoc _ _ _

theorem seenListTail_none (offset : UInt32) : seenListTail none offset = offsetTail offset := rfl

theorem seenListTail_some (f : Text) (offset : UInt32) :
    seenListTail (some f) offset = "/q/filter:".toList ++ (readable false f ++ offsetTail offset) :=
  List.append_assoc _ _ _

theorem listCaptures_none (offset : UInt32) : listCaptures none offset = offsetCaptures offset :=
  List.append_nil _

theorem listCaptures_some (f : Text) (offset : UInt32) :
    listCaptures (some f) offset = offsetCaptures offset ++ [("filter".toList, readable false f)] :=
  rfl

theorem listTailRow_some (f : Text) (offset : UInt32) (ps : List Pattern) :
    listTailRow (some f) offset ps =
      if offset = 0 then filterRow "/q/filter:" ps else filterOffsetRow "/q/filter:" ps := rfl

theorem unescape_listTail (filter : Option Text) (offset : UInt32) :
    unescape (listTail filter offset) = seenListTail filter offset := by
  have hoffset : unescape (offsetTail offset) = offsetTail offset :=
    Percent.unescape_plain _ (not_mem_offsetTail (by decide) (by decide) offset)
  cases filter with
  | none => rw [listTail_none, seenListTail_none, hoffset]
  | some f =>
    rw [listTail_some, seenListTail_some, Percent.unescape_plain_append _ (by decide),
      Percent.unescape_escapeSegment_append, hoffset]

/-- Characters that do not occur in them. -/
theorem not_mem_listTail {c : Char} (hc : Percent.isSegmentChar c = false) (hcomma : c ≠ ',')
    (hdigit : c.isDigit = false) (filter : Option Text) (offset : UInt32) :
    c ∉ listTail filter offset := by
  have hoffset : c ∉ offsetTail offset := not_mem_offsetTail hcomma hdigit offset
  cases filter with
  | none =>
    rw [listTail_none]
    exact hoffset
  | some f =>
    have hmark : c ∉ ("/q/filter:" : Text) := by
      intro hmem
      have hall : ("/q/filter:" : Text).all Percent.isSegmentChar = true := by decide
      rw [List.all_eq_true.1 hall c hmem] at hc
      cases hc
    rw [listTail_some, List.mem_append, List.mem_append, not_or, not_or]
    exact ⟨hmark, not_mem_escapeSegment hc f, hoffset⟩

theorem commasLeadTo_offsetTail {s : Char → Bool} (hs : ∀ c, c.isDigit = true → s c = true)
    (offset : UInt32) : CommasLeadTo s (offsetTail offset) := by
  unfold offsetTail
  split
  · exact commasLeadTo_of_not_mem List.not_mem_nil
  · cases hdigits : Numeral.ofNat offset.toNat with
    | nil => exact absurd hdigits (Numeral.ofNat_ne_nil _)
    | cons d ds =>
      have hd : d.isDigit = true := Numeral.isDigit_of_mem_ofNat (hdigits ▸ List.mem_cons_self)
      refine CommasLeadTo.comma (hs d hd) (commasLeadTo_of_not_mem ?_)
      rw [← hdigits]
      exact Numeral.not_mem_ofNat (by decide) _

/-- The only comma of a list is in front of its page number. -/
theorem commasLeadTo_listTail {s : Char → Bool} (hs : ∀ c, c.isDigit = true → s c = true)
    (filter : Option Text) (offset : UInt32) : CommasLeadTo s (seenListTail filter offset) := by
  cases filter with
  | none =>
    rw [seenListTail_none]
    exact commasLeadTo_offsetTail hs offset
  | some f =>
    rw [seenListTail_some]
    exact (((commasLeadTo_offsetTail hs offset).append_left
      (not_mem_readable (by decide) f)).append_left (by decide))

section ListTail

variable {ps : List Pattern}

theorem readsOnly_offset (hps : IsEnd ps) (offset : UInt32) :
    ReadsOnly (offsetPart :: ps) (offsetTail offset) (offsetCaptures offset) := by
  unfold offsetTail offsetCaptures
  by_cases hzero : offset = 0
  · rw [if_pos hzero, if_pos hzero]
    refine ⟨fun before => reads_offsetPart.2 (Or.inr (hps.reads before)), ?_⟩
    intro before w r cs heq h
    obtain ⟨rfl, -⟩ := List.append_eq_nil_iff.1 heq.symm
    rcases reads_offsetPart.1 h with ⟨digits, v, cv, hw, -⟩ | h
    · cases hw
    · exact (hps.end_of_reads h).2.2
  · rw [if_neg hzero, if_neg hzero]
    constructor
    · intro before
      refine reads_offsetPart.2 (Or.inl ⟨_, [], [], ?_, Numeral.ofNat_ne_nil _, isRun_ofNat _, rfl,
        hps.reads _⟩)
      rw [List.append_nil]
    · intro before w r cs heq h
      rcases reads_offsetPart.1 h with ⟨digits, v, cv, rfl, -, -, rfl, hv⟩ | h
      · obtain ⟨hend, rfl, rfl⟩ := hps.end_of_reads hv
        rw [List.append_nil] at heq
        have hdigits := (List.cons.inj heq).2
        rcases hend with rfl | rfl
        · rw [List.append_nil] at hdigits
          rw [hdigits]
          rfl
        · -- a number does not end with a slash
          have hslash : '/' ∈ Numeral.ofNat offset.toNat := by
            rw [hdigits]
            exact List.mem_append_right digits List.mem_cons_self
          exact absurd hslash (Numeral.not_mem_ofNat (by decide) _)
      · obtain ⟨hend, rfl, -⟩ := hps.end_of_reads h
        rcases hend with rfl | rfl
        · exact absurd heq (List.cons_ne_nil _ _)
        · exact absurd (List.cons.inj heq).1 (by decide)

/-- Escaped names are no longer than up to a comma. -/
theorem isRun_besides_readable {c : Char} (hc : Percent.isSegmentChar c = false)
    (keepSlashes : Bool) (s : Text) : isRun (.besides c) (readable keepSlashes s) := by
  intro d hd
  rw [CharSet.mem_besides]
  rintro rfl
  exact not_mem_readable hc s hd

theorem readsOnly_filter (hps : IsEnd ps) (f : Text) :
    ReadsOnly (filterRow "/q/filter:" ps) ("/q/filter:".toList ++ (readable false f ++ []))
      [("filter", readable false f)] := by
  have hf : Bare (reps (.besides ',')) (readable false f) :=
    bare_reps (isRun_besides_readable (by decide) false f)
  exact readsOnly_lit "/q/filter:" (readsOnly_capture_end hps hf (Percent.slash_not_mem_readable f))

theorem filterOffsetRow_eq (path : Text) (ps : List Pattern) :
    filterOffsetRow path ps = lit path ++ .capture "filter" (plus (.besides ',')) ::
      (lit "," ++ .capture "offset" (plus .digit) :: ps) :=
  List.append_assoc _ _ _

theorem readsOnly_filterOffset (hps : IsEnd ps) {f : Text} (hne : f ≠ []) (n : Nat) :
    ReadsOnly (filterOffsetRow "/q/filter:" ps)
      ("/q/filter:".toList ++ (readable false f ++ (",".toList ++ (Numeral.ofNat n ++ []))))
      [("offset", Numeral.ofNat n), ("filter", readable false f)] := by
  have hcomma : ',' ∉ readable false f := not_mem_readable (by decide) f
  have hf : Bare (plus (.besides ',')) (readable false f) :=
    bare_plus (fun h => hne (Percent.readable_eq_nil.1 h)) (isRun_besides_readable (by decide) false f)
  have hdigits : Bare (plus .digit) (Numeral.ofNat n) :=
    bare_plus (Numeral.ofNat_ne_nil n) (isRun_ofNat n)
  have hoffset : ReadsOnly (.capture "offset" (plus .digit) :: ps) (Numeral.ofNat n ++ [])
      [("offset", Numeral.ofNat n)] :=
    readsOnly_capture_end hps hdigits (Numeral.not_mem_ofNat (by decide) n)
  rw [filterOffsetRow_eq]
  refine readsOnly_lit "/q/filter:" (readsOnly_capture hf (readsOnly_lit "," hoffset) ?_)
  -- the filter ends at the only comma
  intro before w x r cw cs heq hw hx
  obtain ⟨-, hrun, -⟩ := (spells_plus_iff _ true _ _ _ _).1 hw
  obtain ⟨y, rfl, -⟩ := reads_lit.1 hx
  have hw : ',' ∉ w := fun h => CharSet.mem_besides.1 (hrun _ h) rfl
  have hcut : readable false f ++ ',' :: (Numeral.ofNat n ++ []) = w ++ ',' :: (y ++ r) := heq
  exact (cut_eq hcomma hw hcut).1

/-- **The filter and the page number of a list are read in one way**; a filter that is empty only on
the first page. -/
theorem readsOnly_listTail (hps : IsEnd ps) {filter : Option Text} {offset : UInt32}
    (hfilter : filter = some [] → offset = 0) :
    ReadsOnly (listTailRow filter offset ps) (seenListTail filter offset)
      (listCaptures filter offset) := by
  cases filter with
  | none =>
    rw [seenListTail_none, listCaptures_none]
    exact readsOnly_offset hps offset
  | some f =>
    rw [seenListTail_some, listCaptures_some, listTailRow_some, offsetTail, offsetCaptures]
    by_cases hzero : offset = 0
    · rw [if_pos hzero, if_pos hzero, if_pos hzero]
      exact readsOnly_filter hps f
    · have hne : f ≠ [] := fun h => hzero (hfilter (congrArg some h))
      have htail := readsOnly_filterOffset hps hne offset.toNat
      rw [List.append_nil] at htail
      rw [if_neg hzero, if_neg hzero, if_neg hzero]
      exact htail

/-- A list without a filter does not go on with a name. -/
theorem not_reads_offset_of_name (hps : IsEnd ps) {before : Option Char} {name w r : Text}
    {cs : List (Text × Text)} (hne : name ≠ []) (heq : '/' :: name = w ++ r) :
    ¬Reads (offsetPart :: ps) before w r cs := by
  intro h
  rcases reads_offsetPart.1 h with ⟨digits, v, cv, rfl, -⟩ | h
  · exact absurd (List.cons.inj heq).1 (by decide)
  · obtain ⟨hw, rfl, -⟩ := hps.end_of_reads h
    rcases hw with rfl | rfl
    · cases heq
    · exact absurd (List.cons.inj heq).2 hne

/-- Nor does it with a filter. -/
theorem not_reads_offset (hps : IsEnd ps) {before : Option Char} {w r t : Text}
    {cs : List (Text × Text)} (heq : "/q/filter:".toList ++ t = w ++ r) : ¬Reads (offsetPart :: ps) before w r cs :=
  not_reads_offset_of_name hps (List.cons_ne_nil _ _) heq

/-- Without a comma there is no page number behind a filter. -/
theorem not_reads_filterOffset {before : Option Char} {q w r t : Text} {cs : List (Text × Text)}
    (hcomma : ',' ∉ t) (heq : t = w ++ r) : ¬Reads (filterOffsetRow q ps) before w r cs := by
  intro h
  rw [filterOffsetRow_eq] at h
  obtain ⟨x, rfl, hx⟩ := reads_lit.1 h
  obtain ⟨f, y, cy, rfl, -, -, -, hy⟩ := reads_capture_plus.1 hx
  obtain ⟨z, rfl, -⟩ := reads_lit.1 hy
  refine hcomma ?_
  rw [heq]
  simp

end ListTail

/-! ### Names below a list -/

section Names

variable {r : Route} {q name : Text} {ps : List Pattern}

/-- The list itself does not match the path of a name below it. -/
theorem match?_offsetRow_eq_none (hshape : r.shape = offsetRow q) (hne : name ≠ []) :
    r.match? (q ++ '/' :: name) = none :=
  Route.match?_append_eq_none hshape fun _ _ _ _ heq => not_reads_offset_of_name isEnd_slash hne heq

/-- Nor does the list with a filter and a page number, if the path has no comma. -/
theorem match?_filterOffsetRow_eq_none (hshape : r.shape = filterOffsetRow q ps) {path : Text}
    (hcomma : ',' ∉ path) : r.match? path = none := by
  refine Route.match?_eq_none fun w rest cs hpath hreads => ?_
  rw [hshape] at hreads
  exact not_reads_filterOffset hcomma hpath hreads

/-- The list with a filter matches only if the name begins like one. -/
theorem match?_filterRow_eq_none (hshape : r.shape = filterRow (q ++ "/q/filter:") ps)
    (hfilter : ¬("q/filter:" : Text) <+: name) : r.match? (q ++ '/' :: name) = none := by
  refine Route.match?_eq_none_of_lit hshape fun hprefix => hfilter ?_
  have hname : ("/q/filter:" : Text) <+: '/' :: name := (List.prefix_append_right_inj q).1 hprefix
  exact (List.cons_prefix_cons.1 hname).2

/-- Then it does match, if the name has no comma. -/
theorem match?_filterRow_ne_none (hshape : r.shape = filterRow (q ++ "/q/filter:") [slash?, stop])
    (hcomma : ',' ∉ name) (hfilter : ("q/filter:" : Text) <+: name) : r.match? (q ++ '/' :: name) ≠ none := by
  obtain ⟨f, rfl⟩ := hfilter
  have hrun : isRun (.besides ',') f := by
    intro c hc
    rw [CharSet.mem_besides]
    rintro rfl
    exact hcomma (List.mem_append_right _ hc)
  have hreads : Reads r.shape none (q ++ '/' :: ("q/filter:" ++ f)) [] [("filter", f)] := by
    rw [hshape]
    refine reads_lit.2 ⟨f, by rw [List.append_assoc]; rfl, reads_capture.2 ?_⟩
    exact ⟨f, [], [], [], (List.append_nil f).symm, rfl, (spells_star_iff _ true _ _ _ _).2 ⟨hrun, rfl⟩,
      isEnd_slash.reads _⟩
  have hsome := matchAt?_ne_none hreads
  rw [List.append_nil] at hsome
  exact hsome

end Names

/-! ### Handlers -/

theorem lookup_listCaptures {name : Text} (hoffset : name ≠ "offset") (hfilter : name ≠ "filter")
    (filter : Option Text) (offset : UInt32) : (listCaptures filter offset).lookup name = none := by
  have hpage : (offsetCaptures offset).lookup name = none := by
    unfold offsetCaptures
    split
    · rfl
    · rw [List.lookup_cons, beq_eq_false_iff_ne.2 hoffset]
      rfl
  cases filter with
  | none => rw [listCaptures_none, hpage]
  | some f =>
    rw [listCaptures_some, List.lookup_append, hpage, List.lookup_cons, beq_eq_false_iff_ne.2 hfilter]
    rfl

theorem lookup_filter (filter : Option Text) (offset : UInt32) :
    (listCaptures filter offset).lookup "filter".toList = filter.map (readable false) := by
  have hoffset : (offsetCaptures offset).lookup "filter".toList = none := by
    unfold offsetCaptures
    split <;> rfl
  cases filter with
  | none => rw [listCaptures_none, hoffset, Option.map_none]
  | some f =>
    rw [listCaptures_some, List.lookup_append, hoffset, Option.none_or]
    rfl

/-- Handlers find the page number in the captures. -/
theorem Captures.offset_listCaptures (r : Route) (filter : Option Text) (offset : UInt32)
    {cs : List (Text × Text)} (hcs : cs.lookup "offset".toList = none) :
    (r.captured (listCaptures filter offset ++ cs)).offset "offset" = .ok offset := by
  cases filter with
  | none =>
    rw [listCaptures_none]
    exact Captures.offset_captured r offset hcs
  | some f =>
    rw [listCaptures_some, List.append_assoc]
    exact Captures.offset_captured r offset hcs

/-- The filter that a page is shown with: to handlers one that is empty is none. -/
def shownFilter (filter : Option Text) : Option Text :=
  if filter = some [] then none else filter

theorem shownFilter_eq_self {filter : Option Text} (h : filter ≠ some []) : shownFilter filter = filter :=
  if_neg h

theorem filterCapture?_eq (c : Captures) : filterCapture? c = shownFilter (c.get? "filter") := by
  unfold filterCapture?
  split
  · next hempty =>
    rw [hempty]
    rfl
  · next hne => exact (shownFilter_eq_self hne).symm

/-- Handlers find the filter in the captures. -/
theorem filterCapture?_captured (r : Route) (filter : Option Text) (offset : UInt32)
    {cs : List (Text × Text)} (hcs : cs.lookup "filter".toList = none) :
    filterCapture? (r.captured (listCaptures filter offset ++ cs)) = shownFilter filter := by
  have hget := Route.get?_captured r (listCaptures filter offset ++ cs) "filter"
  rw [List.lookup_append, lookup_filter, hcs, Option.or_none, Option.map_map] at hget
  have hread : unescapeValue ∘ readable false = id := funext (Percent.unescapeValue_readable false)
  rw [hread, Option.map_id, id] at hget
  rw [filterCapture?_eq, hget]

end ReviewRouter
