import ReviewRouter.View
import ReviewRouter.Text.Percent
import ReviewRouter.Text.Blank
import ReviewRouter.Text.Lowercase

/-!
# The address of a view

Every view has one canonical address inside the application, and routing that address leads back
to the view.  Names from outside (repositories, paths, queries) are escaped twice; tokens, plugin
names and user names stand as they are.

* `PatchRange.tail` — the range as a path segment;
* `ChangeView.address`, `DiffView.address`, … — one address per kind of view;
* `View.address` — the address of any view.
-/

namespace ReviewRouter

open Percent (escape escapeSegment)

/-! ### Pages of a change -/

/-- The address of a change, with or without its repository. -/
def changeRoot (project : Option Text) (change : UInt32) : Text :=
  match project with
  | some p => "/c/" ++ escapeSegment true p ++ "/+/" ++ Numeral.ofNat change.toNat
  | none => "/c/" ++ Numeral.ofNat change.toNat

/-- The range as a further path segment; nothing if it has no expression. -/
def PatchRange.tail (r : PatchRange) : Text :=
  if r.expression = [] then [] else '/' :: r.expression

/-- One field of a query, unless its value is missing or empty. -/
def queryField (name : Text) (value : Option Text) : List Text :=
  match value with
  | some v => if v = [] then [] else [name ++ "=" ++ escape v]
  | none => []

/-- The fields of a query after a `?`; nothing if there are none. -/
def queryTail (fields : List Text) : Text :=
  if fields = [] then [] else '?' :: List.intercalate "&" fields

/-- The address of a change page: comments take the place of the range, the query and the
message anchor follow. -/
def ChangeView.address (v : ChangeView) : Text :=
  let place : Text := match v.comment with
    | some c => "/comments/" ++ c
    | none => v.range.tail ++ (if v.edit then ",edit" else "")
  let fields := queryField "tab" v.tab ++ queryField "filter" v.filter
    ++ queryField "select" v.select
    ++ (match v.attempt with
      | some n => ["attempt=" ++ Numeral.ofNat n.toNat]
      | none => [])
  let anchor : Text := match v.messageHash with
    | some h => '#' :: Text.trimStart '#' h
    | none => []
  changeRoot v.project v.change ++ place ++ queryTail fields ++ anchor

/-- The address of a comparison: that of the comment it shows, or range, file and line. -/
def DiffView.address (v : DiffView) : Text :=
  match v.comment with
  | some c => changeRoot v.project v.change ++ "/comment/" ++ c ++ "/"
  | none =>
    let file : Text := match v.path with
      | some p => '/' :: escapeSegment true p
      | none => []
    let line : Text := match v.line with
      | some n => "#" ++ (if v.leftSide then "b" else "") ++ Numeral.ofNat n.toNat
      | none => []
    changeRoot v.project v.change ++ v.range.tail ++ file ++ line

/-- The address of an editor. -/
def EditView.address (v : EditView) : Text :=
  let line : Text := match v.line with
    | some n => '#' :: Numeral.ofNat n.toNat
    | none => []
  changeRoot v.project v.change ++ v.range.tail ++ "/" ++ escapeSegment true v.path ++ ",edit"
    ++ line

/-! ### Lists of changes -/

/-- A page number at the end of a path; the first page has none. -/
def offsetTail (offset : UInt32) : Text :=
  if offset = 0 then [] else ',' :: Numeral.ofNat offset.toNat

/-- One operator of a structured query. -/
def operator (name : Text) (value : Option Text) : List Text :=
  match value with
  | some v => [name ++ ":" ++ escapeSegment false v]
  | none => []

/-- A topic is quoted if it holds white space. -/
def topicOperator (topic : Option Text) : List Text :=
  match topic with
  | some t =>
    if t.any isBlank then ["topic:\"" ++ escapeSegment false t ++ "\""]
    else ["topic:" ++ escapeSegment false t]
  | none => []

/-- A hashtag is quoted and written in lower case. -/
def hashtagOperator (hashtag : Option Text) : List Text :=
  match hashtag with
  | some h => ["hashtag:\"" ++ escapeSegment false (Text.lowercase h) ++ "\""]
  | none => []

/-- Several statuses are alternatives in parentheses. -/
def statusOperator (statuses : List Text) : List Text :=
  let one (s : Text) : Text := "status:" ++ escapeSegment false s
  match statuses with
  | [] => []
  | [s] => [one s]
  | _ => ["(" ++ List.intercalate " OR " (statuses.map one) ++ ")"]

/-- The address of a search: the query, or the operators that are set, joined by spaces. -/
def SearchView.address (v : SearchView) : Text :=
  let query : Text := match v.query with
    | some q => escapeSegment true q
    | none => List.intercalate "+"
        (operator "owner" v.owner ++ operator "project" v.project ++ operator "branch" v.branch
          ++ topicOperator v.topic ++ hashtagOperator v.hashtag ++ statusOperator v.statuses)
  "/q/" ++ query ++ offsetTail v.offset

/-- The query of a section, with the repository in place of its two placeholders. -/
def DashboardSection.queryFor (repo : Option Text) (s : DashboardSection) : Text :=
  match repo with
  | some r => Text.replaceAll "$\x7brepo\x7d" r (Text.replaceAll "$\x7bproject\x7d" r s.query)
  | none => s.query

/-- The address of a dashboard: its sections if it has any, else its repository, else its user. -/
def DashboardView.address (v : DashboardView) : Text :=
  if v.sections ≠ [] then
    let pairs := v.sections.map fun s => escape s.name ++ "=" ++ escape (s.queryFor v.repo)
    let title : List Text := match v.title with
      | some t => ["title=" ++ escape t]
      | none => []
    "/dashboard/" ++ v.user.getD [] ++ "?" ++ List.intercalate "&" (pairs ++ title)
  else match v.repo with
    | some r =>
      "/p/" ++ escapeSegment true r ++ "/+/dashboard/" ++ escapeSegment true (v.dashboard.getD [])
    | none => "/dashboard/" ++ v.user.getD "self"

/-! ### Administration -/

/-- The filter and the page number of a list. -/
def listTail (filter : Option Text) (offset : UInt32) : Text :=
  (match filter with
    | some f => "/q/filter:" ++ escapeSegment false f
    | none => []) ++ offsetTail offset

/-- The address of a group or one of its subpages. -/
def groupAddress (id : Text) (detail : Option GroupDetail) : Text :=
  let subpage : Text := match detail with
    | some .members => ",members"
    | some .log => ",audit-log"
    | none => []
  "/admin/groups/" ++ escapeSegment true id ++ subpage

/-- The address of a repository page. -/
def RepoView.address (v : RepoView) : Text :=
  let subpage : Text := match v.detail with
    | .general => ",general"
    | .access => ",access"
    | .commands => ",commands"
    | .dashboards => ",dashboards"
    | .branches => ",branches" ++ listTail v.filter v.offset
    | .tags => ",tags" ++ listTail v.filter v.offset
  "/admin/repos/" ++ escapeSegment true v.repo ++ subpage

/-- The address of the first page of a list. -/
def AdminList.address : AdminList → Text
  | .groups => "/admin/groups"
  | .repos => "/admin/repos"
  | .plugins => "/admin/plugins"

/-- The address of an administration page. -/
def AdminView.address (v : AdminView) : Text :=
  v.list.address ++ listTail v.filter v.offset ++ (if v.openCreate then "#create" else "")

/-! ### Any view -/

/-- The canonical address of a view. -/
def View.address : View → Text
  | .admin v => v.address
  | .agreements => "/settings/new-agreement"
  | .change v => v.address
  | .dashboard v => v.address
  | .diff v => v.address
  | .documentationSearch filter => "/Documentation/q/filter:" ++ escapeSegment false (filter.getD [])
  | .edit v => v.address
  | .group id detail => groupAddress id detail
  | .pluginScreen plugin screen => "/x/" ++ plugin ++ "/" ++ screen
  | .repo v => v.address
  | .root => "/"
  | .search v => v.address
  | .settings (some token) => "/settings/VE/" ++ token
  | .settings none => "/settings"
  | .topic t => "/c/topic/" ++ escapeSegment false t

end ReviewRouter
