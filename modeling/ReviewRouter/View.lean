import ReviewRouter.PatchSet

/-!
# Views

The outcome of routing is a view: which page to show, with the parameters of that page.

* `ChangeView`, `DiffView`, `EditView` — the pages of one change, each with a patch range;
* `SearchView`, `DashboardView` — lists of changes;
* `RepoView`, `AdminView` — the administration pages;
* `View` — any page;
* `View.name` — the page's tag;
* `View.range?` / `View.withRange` — the patch range of a page that has one.
-/

namespace ReviewRouter

/-! ### Pages of a change -/

/-- The page of a change.  `messageHash` is the anchor of a message on it. -/
structure ChangeView where
  project : Option Text := none
  change : UInt32
  range : PatchRange := {}
  edit : Bool := false
  comment : Option Text := none
  messageHash : Option Text := none
  tab : Option Text := none
  filter : Option Text := none
  select : Option Text := none
  attempt : Option UInt32 := none
  deriving DecidableEq, Repr

/-- The comparison of one file between two patch sets. -/
structure DiffView where
  project : Option Text := none
  change : UInt32
  range : PatchRange := {}
  path : Option Text := none
  line : Option UInt32 := none
  leftSide : Bool := false
  comment : Option Text := none
  deriving DecidableEq, Repr

/-- The editor of one file of a patch set. -/
structure EditView where
  project : Option Text := none
  change : UInt32
  range : PatchRange := {}
  path : Text
  line : Option UInt32 := none
  deriving DecidableEq, Repr

/-! ### Lists of changes -/

/-- Search results.  With a `query` the other operators play no part. -/
structure SearchView where
  query : Option Text := none
  offset : UInt32 := 0
  owner : Option Text := none
  project : Option Text := none
  branch : Option Text := none
  topic : Option Text := none
  hashtag : Option Text := none
  statuses : List Text := []
  deriving DecidableEq, Repr

/-- A heading on a dashboard and the query of the changes below it. -/
structure DashboardSection where
  name : Text
  query : Text
  deriving DecidableEq, Repr

/-- A user's own dashboard, one made of sections, or one kept in a repository. -/
structure DashboardView where
  user : Option Text := none
  repo : Option Text := none
  dashboard : Option Text := none
  sections : List DashboardSection := []
  title : Option Text := none
  deriving DecidableEq, Repr

/-- The title of a dashboard that does not bring its own. -/
def DashboardView.defaultTitle : Text := "Custom Dashboard"

/-! ### Administration -/

/-- The subpages of a group. -/
inductive GroupDetail where
  | members
  | log
  deriving DecidableEq, Repr

/-- The subpages of a repository. -/
inductive RepoDetail where
  | general
  | access
  | branches
  | tags
  | commands
  | dashboards
  deriving DecidableEq, Repr

/-- One subpage of a repository; branches and tags can be filtered and paged. -/
structure RepoView where
  repo : Text
  detail : RepoDetail := .general
  filter : Option Text := none
  offset : UInt32 := 0
  deriving DecidableEq, Repr

/-- The lists for administrators. -/
inductive AdminList where
  | groups
  | repos
  | plugins
  deriving DecidableEq, Repr

/-- A page of one of these lists, perhaps with the dialog for a new item open. -/
structure AdminView where
  list : AdminList
  offset : UInt32 := 0
  filter : Option Text := none
  openCreate : Bool := false
  deriving DecidableEq, Repr

/-! ### Any page -/

/-- A page and its parameters. -/
inductive View where
  | admin (v : AdminView)
  | agreements
  | change (v : ChangeView)
  | dashboard (v : DashboardView)
  | diff (v : DiffView)
  | documentationSearch (filter : Option Text)
  | edit (v : EditView)
  | group (id : Text) (detail : Option GroupDetail)
  | pluginScreen (plugin screen : Text)
  | repo (v : RepoView)
  | root
  | search (v : SearchView)
  | settings (emailToken : Option Text)
  | topic (topic : Text)
  deriving DecidableEq, Repr

namespace View

/-- The tag of the page. -/
def name : View → Text
  | .admin _ => "ADMIN"
  | .agreements => "AGREEMENTS"
  | .change _ => "CHANGE"
  | .dashboard _ => "DASHBOARD"
  | .diff _ => "DIFF"
  | .documentationSearch _ => "DOCUMENTATION_SEARCH"
  | .edit _ => "EDIT"
  | .group _ _ => "GROUP"
  | .pluginScreen _ _ => "PLUGIN_SCREEN"
  | .repo _ => "REPO"
  | .root => "ROOT"
  | .search _ => "SEARCH"
  | .settings _ => "SETTINGS"
  | .topic _ => "TOPIC"

/-- The patch range of a page of a change. -/
def range? : View → Option PatchRange
  | .change v => some v.range
  | .diff v => some v.range
  | .edit v => some v.range
  | _ => none

/-- The same page with another patch range, if it has one at all. -/
def withRange (r : PatchRange) : View → View
  | .change v => .change { v with range := r }
  | .diff v => .diff { v with range := r }
  | .edit v => .edit { v with range := r }
  | v => v

end View

end ReviewRouter
