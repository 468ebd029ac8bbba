import ReviewRouter.View
import ReviewRouter.Json.Reader
import ReviewRouter.Json.Writer

/-!
# Views as records

A view can be stored as a JSON object: the tag of the page under `view`, every other field under
its own name.  A field of a page that may be absent is written as null, except the two sides of a
patch range, which are left out.  Reading ignores fields it does not know and refuses a known field
that is there twice.  It also takes an array, of the tag and the values of the fields in their
order, for any page without a patch range.

* `View.record`, `View.text` — the object of a view, and how it is written;
* `View.ofRecord?`, `View.ofText?` — the view of a value, and of a written one;
* `required?`, `optional?`, `defaulted?` — how the three sorts of fields are read;
* `Json.fieldsOf?` — the fields of an object or of an array.
-/

namespace ReviewRouter

/-! ### Tags -/

/-- The tag of a subpage of a group. -/
def GroupDetail.tag : GroupDetail → Text
  | .members => "MEMBERS"
  | .log => "LOG"

/-- The tag of a subpage of a repository. -/
def RepoDetail.tag : RepoDetail → Text
  | .general => "GENERAL"
  | .access => "ACCESS"
  | .branches => "BRANCHES"
  | .tags => "TAGS"
  | .commands => "COMMANDS"
  | .dashboards => "DASHBOARDS"

/-- The tag of an administration list. -/
def AdminList.tag : AdminList → Text
  | .groups => "GROUP_LIST"
  | .repos => "REPO_LIST"
  | .plugins => "PLUGIN_LIST"

/-- The member of the list with the given tag. -/
def ofTag? {α : Type} (tag : α → Text) (all : List α) (t : Text) : Option α :=
  all.find? fun a => tag a == t

/-- The subpage of a group with this tag. -/
def GroupDetail.ofTag? (t : Text) : Option GroupDetail :=
  ReviewRouter.ofTag? GroupDetail.tag [.members, .log] t

/-- The subpage of a repository with this tag. -/
def RepoDetail.ofTag? (t : Text) : Option RepoDetail :=
  ReviewRouter.ofTag? RepoDetail.tag [.general, .access, .branches, .tags, .commands, .dashboards] t

/-- The administration list with this tag. -/
def AdminList.ofTag? (t : Text) : Option AdminList :=
  ReviewRouter.ofTag? AdminList.tag [.groups, .repos, .plugins] t

/-! ### Writing -/

namespace Json

/-- A word as a number. -/
def ofWord (n : UInt32) : Json := .num n.toNat

/-- A text, or null. -/
def ofText? (t : Option Text) : Json := ofOption .str t

/-- A word, or null. -/
def ofWord? (n : Option UInt32) : Json := ofOption ofWord n

end Json

/-- One side of a patch range, left out if it is open. -/
def sideField (name : Text) (side : Option PatchSet) : Json.Fields :=
  match side with
  | some p => [(name, .str p.text)]
  | none => []

/-- The fields of the sides that are given. -/
def PatchRange.fields (r : PatchRange) : Json.Fields :=
  sideField "base_patch_num" r.base ++ sideField "patch_num" r.patch

/-- The fields of a change page. -/
def ChangeView.fields (v : ChangeView) : Json.Fields :=
  ([("project", Json.ofText? v.project), ("change_num", Json.ofWord v.change)] : Json.Fields)
    ++ v.range.fields
    ++ ([("edit", .bool v.edit), ("comment_id", Json.ofText? v.comment),
      ("message_hash", Json.ofText? v.messageHash), ("tab", Json.ofText? v.tab),
      ("filter", Json.ofText? v.filter), ("select", Json.ofText? v.select),
      ("attempt", Json.ofWord? v.attempt)] : Json.Fields)

/-- The fields of a comparison. -/
def DiffView.fields (v : DiffView) : Json.Fields :=
  ([("project", Json.ofText? v.project), ("change_num", Json.ofWord v.change)] : Json.Fields)
    ++ v.range.fields
    ++ ([("path", Json.ofText? v.path), ("line_num", Json.ofWord? v.line),
      ("left_side", .bool v.leftSide), ("comment_id", Json.ofText? v.comment)] : Json.Fields)

/-- The fields of an editor. -/
def EditView.fields (v : EditView) : Json.Fields :=
  ([("project", Json.ofText? v.project), ("change_num", Json.ofWord v.change)] : Json.Fields)
    ++ v.range.fields
    ++ ([("path", .str v.path), ("line_num", Json.ofWord? v.line)] : Json.Fields)

/-- The fields of a search. -/
def SearchView.fields (v : SearchView) : Json.Fields :=
  [("query", Json.ofText? v.query), ("offset", Json.ofWord v.offset),
    ("owner", Json.ofText? v.owner), ("project", Json.ofText? v.project),
    ("branch", Json.ofText? v.branch), ("topic", Json.ofText? v.topic),
    ("hashtag", Json.ofText? v.hashtag), ("statuses", .arr (v.statuses.map .str))]

/-- The record of a section. -/
def DashboardSection.record (s : DashboardSection) : Json :=
  .obj [("name", .str s.name), ("query", .str s.query)]

/-- The fields of a dashboard. -/
def DashboardView.fields (v : DashboardView) : Json.Fields :=
  [("user", Json.ofText? v.user), ("repo", Json.ofText? v.repo),
    ("dashboard", Json.ofText? v.dashboard),
    ("sections", .arr (v.sections.map DashboardSection.record)), ("title", Json.ofText? v.title)]

/-- The fields of a repository page. -/
def RepoView.fields (v : RepoView) : Json.Fields :=
  [("repo", .str v.repo), ("detail", .str v.detail.tag), ("filter", Json.ofText? v.filter),
    ("offset", Json.ofWord v.offset)]

/-- The fields of an administration page. -/
def AdminView.fields (v : AdminView) : Json.Fields :=
  [("admin_view", .str v.list.tag), ("offset", Json.ofWord v.offset),
    ("filter", Json.ofText? v.filter), ("open_create_modal", .bool v.openCreate)]

/-- The fields of a view beside its tag. -/
def View.fields : View → Json.Fields
  | .admin v => v.fields
  | .agreements => []
  | .change v => v.fields
  | .dashboard v => v.fields
  | .diff v => v.fields
  | .documentationSearch filter => [("filter", Json.ofText? filter)]
  | .edit v => v.fields
  | .group id detail =>
    [("group_id", .str id), ("detail", Json.ofOption (fun d => .str (GroupDetail.tag d)) detail)]
  | .pluginScreen plugin screen => [("plugin", .str plugin), ("screen", .str screen)]
  | .repo v => v.fields
  | .root => []
  | .search v => v.fields
  | .settings token => [("email_token", Json.ofText? token)]
  | .topic t => [("topic", .str t)]

/-- The record of a view. -/
def View.record (v : View) : Json :=
  .obj (("view", .str v.name) :: v.fields)

/-- The record of a view as it is written. -/
def View.text (v : View) : Text :=
  v.record.text

/-! ### Reading -/

/-- A 32-bit word. -/
def Json.word? (j : Json) : Option UInt32 :=
  j.natural?.bind Numeral.word32?

/-- A patch set, written as a string. -/
def Json.patchSet? (j : Json) : Option PatchSet :=
  j.text?.bind PatchSet.ofText?

/-- A tag: a string, or an object whose only field has the tag as its name and holds nothing. -/
def Json.tag? : Json → Option Text
  | .str t => some t
  | .obj [(t, .null)] => some t
  | .obj [(t, .obj [])] => some t
  | _ => none

/-- The fields of an object, or of an array that holds their values in the order of the names.  At
the end of the array those after the first `least` may be missing. -/
def Json.fieldsOf? (names : List Text) (least : Nat) : Json → Option Fields
  | .obj members => some members
  | .arr items =>
    if least ≤ items.length ∧ items.length ≤ names.length then some (names.zip items) else none
  | _ => none

section Fields

variable {α : Type} (read : Json → Option α) (fields : Json.Fields) (name : Text)

/-- A field that has to be there. -/
def required? : Option α := do
  (← Json.single? fields name).bind read

/-- A field that may be missing or null. -/
def optional? : Option (Option α) := do
  match ← Json.single? fields name with
  | none => some none
  | some .null => some none
  | some j => (read j).map some

/-- A field that may be missing, but not null. -/
def defaulted? (default : α) : Option α := do
  match ← Json.single? fields name with
  | none => some default
  | some j => read j

end Fields

/-- Reads the sides of a patch range. -/
def PatchRange.ofFields? (fields : Json.Fields) : Option PatchRange := do
  let base ← optional? Json.patchSet? fields "base_patch_num"
  let patch ← optional? Json.patchSet? fields "patch_num"
  return ⟨base, patch⟩

/-- Reads a change page. -/
def ChangeView.ofFields? (fields : Json.Fields) : Option ChangeView := do
  let project ← optional? Json.text? fields "project"
  let change ← required? Json.word? fields "change_num"
  let range ← PatchRange.ofFields? fields
  let edit ← defaulted? Json.bool? fields "edit" false
  let comment ← optional? Json.text? fields "comment_id"
  let messageHash ← optional? Json.text? fields "message_hash"
  let tab ← optional? Json.text? fields "tab"
  let filter ← optional? Json.text? fields "filter"
  let select ← optional? Json.text? fields "select"
  let attempt ← optional? Json.word? fields "attempt"
  return { project, change, range, edit, comment, messageHash, tab, filter, select, attempt }

/-- Reads a comparison. -/
def DiffView.ofFields? (fields : Json.Fields) : Option DiffView := do
  let project ← optional? Json.text? fields "project"
  let change ← required? Json.word? fields "change_num"
  let range ← PatchRange.ofFields? fields
  let path ← optional? Json.text? fields "path"
  let line ← optional? Json.word? fields "line_num"
  let leftSide ← defaulted? Json.bool? fields "left_side" false
  let comment ← optional? Json.text? fields "comment_id"
  return { project, change, range, path, line, leftSide, comment }

/-- Reads an editor. -/
def EditView.ofFields? (fields : Json.Fields) : Option EditView := do
  let project ← optional? Json.text? fields "project"
  let change ← required? Json.word? fields "change_num"
  let range ← PatchRange.ofFields? fields
  let path ← required? Json.text? fields "path"
  let line ← optional? Json.word? fields "line_num"
  return { project, change, range, path, line }

/-- Reads a search. -/
def SearchView.ofFields? (fields : Json.Fields) : Option SearchView := do
  let query ← optional? Json.text? fields "query"
  let offset ← defaulted? Json.word? fields "offset" 0
  let owner ← optional? Json.text? fields "owner"
  let project ← optional? Json.text? fields "project"
  let branch ← optional? Json.text? fields "branch"
  let topic ← optional? Json.text? fields "topic"
  let hashtag ← optional? Json.text? fields "hashtag"
  let statuses ← defaulted? (Json.listOf? Json.text?) fields "statuses" []
  return { query, offset, owner, project, branch, topic, hashtag, statuses }

/-- Reads a section. -/
def DashboardSection.ofRecord? (j : Json) : Option DashboardSection := do
  let fields ← j.fieldsOf? ["name", "query"] 2
  let name ← required? Json.text? fields "name"
  let query ← required? Json.text? fields "query"
  return { name, query }

/-- Reads a dashboard. -/
def DashboardView.ofFields? (fields : Json.Fields) : Option DashboardView := do
  let user ← optional? Json.text? fields "user"
  let repo ← optional? Json.text? fields "repo"
  let dashboard ← optional? Json.text? fields "dashboard"
  let sections ← defaulted? (Json.listOf? DashboardSection.ofRecord?) fields "sections" []
  let title ← optional? Json.text? fields "title"
  return { user, repo, dashboard, sections, title }

/-- Reads a repository page. -/
def RepoView.ofFields? (fields : Json.Fields) : Option RepoView := do
  let repo ← required? Json.text? fields "repo"
  let detail ← defaulted? (fun j => j.tag?.bind RepoDetail.ofTag?) fields "detail" .general
  let filter ← optional? Json.text? fields "filter"
  let offset ← defaulted? Json.word? fields "offset" 0
  return { repo, detail, filter, offset }

/-- Reads an administration page. -/
def AdminView.ofFields? (fields : Json.Fields) : Option AdminView := do
  let list ← required? (fun j => j.tag?.bind AdminList.ofTag?) fields "admin_view"
  let offset ← defaulted? Json.word? fields "offset" 0
  let filter ← optional? Json.text? fields "filter"
  let openCreate ← defaulted? Json.bool? fields "open_create_modal" false
  return { list, offset, filter, openCreate }

/-- The page with the given tag and body: the whole of an object, or an array after its tag.  A
patch range is not looked for in an array. -/
def View.ofBody? (tag : Text) (body : Json) : Option View := do
  if tag = "ADMIN" then
    let fields ← body.fieldsOf? ["admin_view", "offset", "filter", "open_create_modal"] 3
    (AdminView.ofFields? fields).map .admin
  else if tag = "AGREEMENTS" then
    (body.fieldsOf? [] 0).map fun _ => .agreements
  else if tag = "CHANGE" then
    let fields ← body.members?
    (ChangeView.ofFields? fields).map .change
  else if tag = "DASHBOARD" then
    let fields ← body.fieldsOf? ["user", "repo", "dashboard", "sections", "title"] 5
    (DashboardView.ofFields? fields).map .dashboard
  else if tag = "DIFF" then
    let fields ← body.members?
    (DiffView.ofFields? fields).map .diff
  else if tag = "DOCUMENTATION_SEARCH" then
    let fields ← body.fieldsOf? ["filter"] 1
    (optional? Json.text? fields "filter").map .documentationSearch
  else if tag = "EDIT" then
    let fields ← body.members?
    (EditView.ofFields? fields).map .edit
  else if tag = "GROUP" then
    let fields ← body.fieldsOf? ["group_id", "detail"] 2
    let id ← required? Json.text? fields "group_id"
    let detail ← optional? (fun j => j.tag?.bind GroupDetail.ofTag?) fields "detail"
    return .group id detail
  else if tag = "PLUGIN_SCREEN" then
    let fields ← body.fieldsOf? ["plugin", "screen"] 2
    let plugin ← required? Json.text? fields "plugin"
    let screen ← required? Json.text? fields "screen"
    return .pluginScreen plugin screen
  else if tag = "REPO" then
    let fields ← body.fieldsOf? ["repo", "detail", "filter", "offset"] 3
    (RepoView.ofFields? fields).map .repo
  else if tag = "ROOT" then
    (body.fieldsOf? [] 0).map fun _ => .root
  else if tag = "SEARCH" then
    let fields ← body.fieldsOf?
      ["query", "offset", "owner", "project", "branch", "topic", "hashtag", "statuses"] 7
    (SearchView.ofFields? fields).map .search
  else if tag = "SETTINGS" then
    let fields ← body.fieldsOf? ["email_token"] 1
    (optional? Json.text? fields "email_token").map .settings
  else if tag = "TOPIC" then
    let fields ← body.fieldsOf? ["topic"] 1
    (required? Json.text? fields "topic").map .topic
  else none

/-- The view of a record. -/
def View.ofRecord? : Json → Option View
  | .obj members => do
    let tag ← required? Json.text? members "view"
    View.ofBody? tag (.obj members)
  | .arr (.str tag :: items) => View.ofBody? tag (.arr items)
  | _ => none

/-- The view whose record the text holds. -/
def View.ofText? (t : Text) : Option View :=
  (Json.read? t).bind View.ofRecord?

end ReviewRouter
