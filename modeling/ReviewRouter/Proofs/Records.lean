import ReviewRouter.View.Record
import ReviewRouter.Proofs.Written

/-!
# Views are read back from their records

Every field of a page is read back under its own name, because no other field has it.  The sides of
a patch range that are left out stand between the fields of the pages of a change and do not hide
any of them.

* `required?_eq`, `defaulted?_eq`, `optional?_ofOption` — a field of each sort;
* `PatchRange.ofFields?_around` — a range, whatever stands around it;
* `ChangeView.ofFields?_fields` and its siblings — the fields of one page;
* `View.ofRecord?_record`, `View.ofText?_text` — a record and its text;
* `View.survives_writing` — **reading undoes writing, and writing again changes nothing**.
-/

namespace ReviewRouter

/-! ### Tags -/

theorem GroupDetail.ofTag?_tag (d : GroupDetail) : GroupDetail.ofTag? d.tag = some d := by
  cases d <;> rfl

theorem RepoDetail.ofTag?_tag (d : RepoDetail) : RepoDetail.ofTag? d.tag = some d := by
  cases d <;> rfl

theorem AdminList.ofTag?_tag (l : AdminList) : AdminList.ofTag? l.tag = some l := by
  cases l <;> rfl

namespace Json

/-! ### Values -/

theorem word?_ofWord (n : UInt32) : (ofWord n).word? = some n :=
  Numeral.word32?_toNat n

theorem patchSet?_text (p : PatchSet) : (Json.str p.text).patchSet? = some p :=
  PatchSet.ofText?_text p

/-- A list is read back if its items are. -/
theorem listOf?_map {α : Type} {read : Json → Option α} (write : α → Json)
    (h : ∀ a, read (write a) = some a) (items : List α) :
    listOf? read (.arr (items.map write)) = some items := by
  rw [listOf?]
  induction items with
  | nil => rfl
  | cons a items ih => simp [h, ih]

/-! ### One field among others -/

variable {before after : Fields} {name : Text}

theorem filter_name_eq_nil (h : name ∉ before.map (·.1)) : before.filter (·.1 == name) = [] := by
  rw [List.filter_eq_nil_iff]
  intro field hmem hsame
  exact h (List.mem_map.2 ⟨field, hmem, eq_of_beq hsame⟩)

theorem single?_append_left (h : name ∉ before.map (·.1)) :
    single? (before ++ after) name = single? after name := by
  rw [single?, single?, List.filter_append, filter_name_eq_nil h, List.nil_append]

theorem single?_append_right (h : name ∉ after.map (·.1)) :
    single? (before ++ after) name = single? before name := by
  rw [single?, single?, List.filter_append, filter_name_eq_nil h, List.append_nil]

end Json

open Json

section Fields

variable {α : Type} {read : Json → Option α} {fields : Json.Fields} {name : Text}

theorem required?_eq {j : Json} {a : α} (h : single? fields name = some (some j))
    (hread : read j = some a) : required? read fields name = some a := by
  rw [required?, h]
  exact hread

theorem defaulted?_eq {j : Json} {a default : α} (h : single? fields name = some (some j))
    (hread : read j = some a) : defaulted? read fields name default = some a := by
  rw [defaulted?, h]
  exact hread

/-- A field that may be null is read back, if its values are and none of them is written as null. -/
theorem optional?_ofOption (write : α → Json) {o : Option α} (hread : ∀ a, read (write a) = some a)
    (hnull : ∀ a, write a ≠ .null) (h : single? fields name = some (some (ofOption write o))) :
    optional? read fields name = some o := by
  rw [optional?, h]
  cases o with
  | none => rfl
  | some a =>
    simp only [ofOption, Option.bind_eq_bind, Option.bind_some]
    split
    · contradiction
    · next heq => exact absurd (Option.some_inj.1 heq) (hnull a)
    · next heq => rw [← Option.some_inj.1 heq, hread, Option.map_some]

theorem optional?_ofText? {t : Option Text} (h : single? fields name = some (some (Json.ofText? t))) :
    optional? Json.text? fields name = some t :=
  optional?_ofOption .str (fun _ => rfl) (fun _ h => nomatch h) h

theorem optional?_ofWord? {n : Option UInt32} (h : single? fields name = some (some (ofWord? n))) :
    optional? word? fields name = some n :=
  optional?_ofOption ofWord word?_ofWord (fun _ h => nomatch h) h

/-- A side of a range is read back, left out or not. -/
theorem optional?_sideField {side : Option PatchSet}
    (h : single? fields name = single? (sideField name side) name) :
    optional? patchSet? fields name = some side := by
  cases side with
  | none =>
    rw [optional?, h]
    rfl
  | some p =>
    have hfound : single? fields name = some (some (ofOption (fun p : PatchSet => .str p.text) p)) := by
      rw [h]
      simp [single?, sideField, ofOption]
    exact optional?_ofOption _ patchSet?_text (fun _ h => nomatch h) hfound

end Fields

/-! ### Patch ranges -/

section Range

variable {before after : Json.Fields} {r : PatchRange}

/-- A range hides no field beside its own. -/
theorem single?_around (before : Json.Fields) {name : Text} (hbase : name ≠ "base_patch_num")
    (hpatch : name ≠ "patch_num") :
    single? (before ++ r.fields ++ after) name = single? (before ++ after) name := by
  have hside : ∀ (other : Text) (side : Option PatchSet), name ≠ other →
      (sideField other side).filter (·.1 == name) = [] := by
    intro other side hne
    apply Json.filter_name_eq_nil
    cases side <;> simp [sideField, hne]
  simp only [single?, List.filter_append, PatchRange.fields, hside _ _ hbase, hside _ _ hpatch,
    List.append_nil]

/-- A range is read back if no field around it has the name of a side. -/
theorem PatchRange.ofFields?_around (hbase : "base_patch_num".toList ∉ (before ++ after).map (·.1))
    (hpatch : "patch_num".toList ∉ (before ++ after).map (·.1)) :
    PatchRange.ofFields? (before ++ r.fields ++ after) = some r := by
  simp only [List.map_append, List.mem_append, not_or] at hbase hpatch
  have hbaseField : optional? patchSet? (before ++ r.fields ++ after) "base_patch_num" = some r.base := by
    apply optional?_sideField
    rw [single?_append_right hbase.2, single?_append_left hbase.1, PatchRange.fields,
      single?_append_right]
    cases r.patch <;> simp [sideField]
  have hpatchField : optional? patchSet? (before ++ r.fields ++ after) "patch_num" = some r.patch := by
    apply optional?_sideField
    rw [single?_append_right hpatch.2, single?_append_left hpatch.1, PatchRange.fields,
      single?_append_left]
    cases r.base <;> simp [sideField]
  simp only [PatchRange.ofFields?, hbaseField, hpatchField]
  rfl

end Range

/-! ### Pages -/

theorem AdminView.ofFields?_fields (tag : Json) (v : AdminView) :
    AdminView.ofFields? (("view", tag) :: v.fields) = some v := by
  have hlist : required? (fun j => j.tag?.bind AdminList.ofTag?) (("view", tag) :: v.fields)
      "admin_view" = some v.list :=
    required?_eq rfl v.list.ofTag?_tag
  have hoffset : defaulted? word? (("view", tag) :: v.fields) "offset" 0 = some v.offset :=
    defaulted?_eq rfl (word?_ofWord v.offset)
  have hfilter : optional? text? (("view", tag) :: v.fields) "filter" = some v.filter :=
    optional?_ofText? rfl
  have hcreate : defaulted? bool? (("view", tag) :: v.fields) "open_create_modal" false =
      some v.openCreate :=
    defaulted?_eq rfl rfl
  simp only [AdminView.ofFields?, hlist, hoffset, hfilter, hcreate]
  rfl

theorem ChangeView.ofFields?_fields (tag : Json) (v : ChangeView) :
    ChangeView.ofFields? (("view", tag) :: v.fields) = some v := by
  have hproject : optional? text? (("view", tag) :: v.fields) "project" = some v.project :=
    optional?_ofText? (single?_around [_, _, _] (by decide) (by decide))
  have hchange : required? word? (("view", tag) :: v.fields) "change_num" = some v.change :=
    required?_eq (single?_around [_, _, _] (by decide) (by decide)) (word?_ofWord v.change)
  have hrange : PatchRange.ofFields? (("view", tag) :: v.fields) = some v.range :=
    PatchRange.ofFields?_around (by simp) (by simp)
  have hedit : defaulted? bool? (("view", tag) :: v.fields) "edit" false = some v.edit :=
    defaulted?_eq (single?_around [_, _, _] (by decide) (by decide)) rfl
  have hcomment : optional? text? (("view", tag) :: v.fields) "comment_id" = some v.comment :=
    optional?_ofText? (single?_around [_, _, _] (by decide) (by decide))
  have hhash : optional? text? (("view", tag) :: v.fields) "message_hash" = some v.messageHash :=
    optional?_ofText? (single?_around [_, _, _] (by decide) (by decide))
  have htab : optional? text? (("view", tag) :: v.fields) "tab" = some v.tab :=
    optional?_ofText? (single?_around [_, _, _] (by decide) (by decide))
  have hfilter : optional? text? (("view", tag) :: v.fields) "filter" = some v.filter :=
    optional?_ofText? (single?_around [_, _, _] (by decide) (by decide))
  have hselect : optional? text? (("view", tag) :: v.fields) "select" = some v.select :=
    optional?_ofText? (single?_around [_, _, _] (by decide) (by decide))
  have hattempt : optional? word? (("view", tag) :: v.fields) "attempt" = some v.attempt :=
    optional?_ofWord? (single?_around [_, _, _] (by decide) (by decide))
  simp only [ChangeView.ofFields?, hproject, hchange, hrange, hedit, hcomment, hhash, htab, hfilter,
    hselect, hattempt]
  rfl

theorem DiffView.ofFields?_fields (tag : Json) (v : DiffView) :
    DiffView.ofFields? (("view", tag) :: v.fields) = some v := by
  have hproject : optional? text? (("view", tag) :: v.fields) "project" = some v.project :=
    optional?_ofText? (single?_around [_, _, _] (by decide) (by decide))
  have hchange : required? word? (("view", tag) :: v.fields) "change_num" = some v.change :=
    required?_eq (single?_around [_, _, _] (by decide) (by decide)) (word?_ofWord v.change)
  have hrange : PatchRange.ofFields? (("view", tag) :: v.fields) = some v.range :=
    PatchRange.ofFields?_around (by simp) (by simp)
  have hpath : optional? text? (("view", tag) :: v.fields) "path" = some v.path :=
    optional?_ofText? (single?_around [_, _, _] (by decide) (by decide))
  have hline : optional? word? (("view", tag) :: v.fields) "line_num" = some v.line :=
    optional?_ofWord? (single?_around [_, _, _] (by decide) (by decide))
  have hleft : defaulted? bool? (("view", tag) :: v.fields) "left_side" false = some v.leftSide :=
    defaulted?_eq (single?_around [_, _, _] (by decide) (by decide)) rfl
  have hcomment : optional? text? (("view", tag) :: v.fields) "comment_id" = some v.comment :=
    optional?_ofText? (single?_around [_, _, _] (by decide) (by decide))
  simp only [DiffView.ofFields?, hproject, hchange, hrange, hpath, hline, hleft, hcomment]
  rfl

theorem EditView.ofFields?_fields (tag : Json) (v : EditView) :
    EditView.ofFields? (("view", tag) :: v.fields) = some v := by
  have hproject : optional? text? (("view", tag) :: v.fields) "project" = some v.project :=
    optional?_ofText? (single?_around [_, _, _] (by decide) (by decide))
  have hchange : required? word? (("view", tag) :: v.fields) "change_num" = some v.change :=
    required?_eq (single?_around [_, _, _] (by decide) (by decide)) (word?_ofWord v.change)
  have hrange : PatchRange.ofFields? (("view", tag) :: v.fields) = some v.range :=
    PatchRange.ofFields?_around (by simp) (by simp)
  have hpath : required? text? (("view", tag) :: v.fields) "path" = some v.path :=
    required?_eq (single?_around [_, _, _] (by decide) (by decide)) rfl
  have hline : optional? word? (("view", tag) :: v.fields) "line_num" = some v.line :=
    optional?_ofWord? (single?_around [_, _, _] (by decide) (by decide))
  simp only [EditView.ofFields?, hproject, hchange, hrange, hpath, hline]
  rfl

theorem SearchView.ofFields?_fields (tag : Json) (v : SearchView) :
    SearchView.ofFields? (("view", tag) :: v.fields) = some v := by
  have hquery : optional? text? (("view", tag) :: v.fields) "query" = some v.query :=
    optional?_ofText? rfl
  have hoffset : defaulted? word? (("view", tag) :: v.fields) "offset" 0 = some v.offset :=
    defaulted?_eq rfl (word?_ofWord v.offset)
  have howner : optional? text? (("view", tag) :: v.fields) "owner" = some v.owner :=
    optional?_ofText? rfl
  have hproject : optional? text? (("view", tag) :: v.fields) "project" = some v.project :=
    optional?_ofText? rfl
  have hbranch : optional? text? (("view", tag) :: v.fields) "branch" = some v.branch :=
    optional?_ofText? rfl
  have htopic : optional? text? (("view", tag) :: v.fields) "topic" = some v.topic :=
    optional?_ofText? rfl
  have hhashtag : optional? text? (("view", tag) :: v.fields) "hashtag" = some v.hashtag :=
    optional?_ofText? rfl
  have hstatuses : defaulted? (listOf? text?) (("view", tag) :: v.fields) "statuses" [] =
      some v.statuses :=
    defaulted?_eq rfl (listOf?_map .str (fun _ => rfl) v.statuses)
  simp only [SearchView.ofFields?, hquery, hoffset, howner, hproject, hbranch, htopic, hhashtag,
    hstatuses]
  rfl

theorem DashboardSection.ofRecord?_record (s : DashboardSection) :
    DashboardSection.ofRecord? s.record = some s :=
  rfl

theorem DashboardView.ofFields?_fields (tag : Json) (v : DashboardView) :
    DashboardView.ofFields? (("view", tag) :: v.fields) = some v := by
  have huser : optional? text? (("view", tag) :: v.fields) "user" = some v.user :=
    optional?_ofText? rfl
  have hrepo : optional? text? (("view", tag) :: v.fields) "repo" = some v.repo :=
    optional?_ofText? rfl
  have hdashboard : optional? text? (("view", tag) :: v.fields) "dashboard" = some v.dashboard :=
    optional?_ofText? rfl
  have hsections : defaulted? (listOf? DashboardSection.ofRecord?) (("view", tag) :: v.fields)
      "sections" [] = some v.sections :=
    defaulted?_eq rfl (listOf?_map _ DashboardSection.ofRecord?_record v.sections)
  have htitle : optional? text? (("view", tag) :: v.fields) "title" = some v.title :=
    optional?_ofText? rfl
  simp only [DashboardView.ofFields?, huser, hrepo, hdashboard, hsections, htitle]
  rfl

theorem RepoView.ofFields?_fields (tag : Json) (v : RepoView) :
    RepoView.ofFields? (("view", tag) :: v.fields) = some v := by
  have hrepo : required? text? (("view", tag) :: v.fields) "repo" = some v.repo := required?_eq rfl rfl
  have hdetail : defaulted? (fun j => j.tag?.bind RepoDetail.ofTag?) (("view", tag) :: v.fields)
      "detail" .general = some v.detail :=
    defaulted?_eq rfl v.detail.ofTag?_tag
  have hfilter : optional? text? (("view", tag) :: v.fields) "filter" = some v.filter :=
    optional?_ofText? rfl
  have hoffset : defaulted? word? (("view", tag) :: v.fields) "offset" 0 = some v.offset :=
    defaulted?_eq rfl (word?_ofWord v.offset)
  simp only [RepoView.ofFields?, hrepo, hdetail, hfilter, hoffset]
  rfl

/-! ### Views -/

namespace View

/-- The tag of a record is found, whatever the fields of the page. -/
theorem required?_view (v : View) :
    required? text? (("view", .str v.name) :: v.fields) "view" = some v.name := by
  cases v with
  | change v =>
    have htag : single? (("view", .str "CHANGE") :: v.fields) "view" = some (some (.str "CHANGE")) :=
      single?_around [_, _, _] (by decide) (by decide)
    exact required?_eq htag rfl
  | diff v =>
    have htag : single? (("view", .str "DIFF") :: v.fields) "view" = some (some (.str "DIFF")) :=
      single?_around [_, _, _] (by decide) (by decide)
    exact required?_eq htag rfl
  | edit v =>
    have htag : single? (("view", .str "EDIT") :: v.fields) "view" = some (some (.str "EDIT")) :=
      single?_around [_, _, _] (by decide) (by decide)
    exact required?_eq htag rfl
  | _ => exact required?_eq rfl rfl

theorem ofBody?_record (v : View) :
    ofBody? v.name (.obj (("view", .str v.name) :: v.fields)) = some v := by
  cases v with
  | admin v => exact congrArg (Option.map admin) (v.ofFields?_fields _)
  | agreements => rfl
  | change v => exact congrArg (Option.map change) (v.ofFields?_fields _)
  | dashboard v => exact congrArg (Option.map dashboard) (v.ofFields?_fields _)
  | diff v => exact congrArg (Option.map diff) (v.ofFields?_fields _)
  | documentationSearch filter =>
    exact congrArg (Option.map documentationSearch) (optional?_ofText? rfl)
  | edit v => exact congrArg (Option.map edit) (v.ofFields?_fields _)
  | group id detail =>
    cases detail with
    | none => rfl
    | some d => cases d <;> rfl
  | pluginScreen plugin screen => rfl
  | repo v => exact congrArg (Option.map repo) (v.ofFields?_fields _)
  | root => rfl
  | search v => exact congrArg (Option.map search) (v.ofFields?_fields _)
  | settings token => exact congrArg (Option.map settings) (optional?_ofText? rfl)
  | topic t => rfl

/-- **The record of a view is read as the view.** -/
theorem ofRecord?_record (v : View) : ofRecord? v.record = some v := by
  rw [record, ofRecord?, v.required?_view]
  exact v.ofBody?_record

/-! ### Written records -/

theorem plain_fields (v : View) : ∀ m ∈ v.fields, Plain 126 m.2 := by
  have hside : ∀ name side, ∀ m ∈ sideField name side, Plain 126 m.2 := by
    intro name side
    cases side with
    | none => exact List.forall_mem_nil _
    | some p => exact List.forall_mem_singleton.2 (.str _ _)
  have hrange : ∀ r : PatchRange, (∀ m ∈ r.fields, Plain 126 m.2) ↔ True := fun r =>
    iff_true_intro (List.forall_mem_append.2 ⟨hside _ _, hside _ _⟩)
  have hstatuses : ∀ l : List Text, Plain 126 (.arr (l.map .str)) := Plain.map (.str _)
  have hsections : ∀ l : List DashboardSection, Plain 126 (.arr (l.map DashboardSection.record)) :=
    Plain.map fun s => .obj (by simp [Plain.str])
  have hdetail : ∀ d : Option GroupDetail, Plain 126 (ofOption (fun d => .str d.tag) d) :=
    Plain.ofOption fun d => .str _ d.tag
  have hword : ∀ n : UInt32, Plain 126 (ofWord n) := fun n => .num _ _
  have hword? : ∀ n : Option UInt32, Plain 126 (ofWord? n) := Plain.ofOption hword
  have htext? : ∀ t : Option Text, Plain 126 (Json.ofText? t) := Plain.ofOption (.str _)
  cases v <;>
    simp only [View.fields, AdminView.fields, ChangeView.fields, DashboardView.fields,
      DiffView.fields, EditView.fields, RepoView.fields, SearchView.fields, List.forall_mem_append,
      List.forall_mem_cons, List.not_mem_nil, false_implies, implies_true, and_self, Plain.bool,
      Plain.str, hrange, hstatuses, hsections, hdetail, hword, hword?, htext?]

theorem read?_text (v : View) : Json.read? v.text = some v.record :=
  Json.read?_text (List.forall_mem_cons.2 ⟨.str _ _, v.plain_fields⟩)

theorem ofText?_text (v : View) : ofText? v.text = some v := by
  rw [ofText?, v.read?_text, Option.bind_some, v.ofRecord?_record]

/-- **Views survive being written.**  Every view is read back from its record and from its text.
What is written of a value that can be read stays as it is when it is read and written again. -/
theorem survives_writing :
    (∀ v : View, ofRecord? v.record = some v ∧ ofText? v.text = some v) ∧
      ∀ j : Json,
        ((ofRecord? j).map text).bind (fun t => (ofText? t).map text) = (ofRecord? j).map text := by
  refine ⟨fun v => ⟨v.ofRecord?_record, v.ofText?_text⟩, ?_⟩
  intro j
  cases ofRecord? j with
  | none => rfl
  | some v => rw [Option.map_some, Option.bind_some, v.ofText?_text, Option.map_some]

example : View.root.text = "\x7b\"view\":\"ROOT\"\x7d" := by
  decide

/-- An array is written as an object. -/
example : (ofText? "[\"TOPIC\", \"a\"]").map text = some "\x7b\"view\":\"TOPIC\",\"topic\":\"a\"\x7d" := by
  decide +kernel

end View

end ReviewRouter
