import ReviewRouter.Route.Captures
import ReviewRouter.Route.Gate

/-!
# Dashboards

* `DashboardDraft` — a dashboard in the course of reading;
* `DashboardView.ofQuery?` — a dashboard whose sections stand in a query string;
* `handleRoot` — the address `/`: older links, or the start page;
* `handleUserDashboard` — the dashboard of a user.
-/

namespace ReviewRouter

/-! ### Dashboards in query strings -/

/-- What has been read of a dashboard: its title, the common part of its queries, and its sections
without that part. -/
structure DashboardDraft where
  title : Option Text := none
  common : Option Text := none
  sections : List DashboardSection := []
  deriving DecidableEq, Repr

/-- Takes in one pair of a query string.  Empty values do not count, the names `title` and
`foreach` are reserved, and every other name is the heading of a section. -/
def DashboardDraft.add (draft : DashboardDraft) (pair : Text × Text) : DashboardDraft :=
  let (name, value) := pair
  if value = [] then draft
  else if name = "title" then { draft with title := some value }
  else if name = "foreach" then { draft with common := some value }
  else { draft with sections := draft.sections ++ [⟨name, value⟩] }

/-- A dashboard made of the sections in a query string, none if there are none.  The common part
is put before the query of every section. -/
def DashboardView.ofQuery? (query : Text) (user : Option Text) : Option DashboardView :=
  let draft := (queryPairs query).foldl DashboardDraft.add {}
  let sections : List DashboardSection := match draft.common with
    | some common => draft.sections.map fun s => { s with query := common ++ " " ++ s.query }
    | none => draft.sections
  if sections = [] then none
  else some
    { user := some (user.getD "self")
      sections := sections
      title := some (draft.title.getD defaultTitle) }

/-! ### Handlers -/

/-- Where signed-in users start. -/
def homeSignedIn : Text := "/dashboard/self"

/-- Where visitors start. -/
def homeSignedOut : Text := "/q/status:open+-is:wip"

/-- The address that an anchor of the root page leads to: older links keep their whole path in the
anchor, tokens of mail addresses without the settings page they belong to. -/
def anchorAddress (l : Location) : Text :=
  let raw := l.rawHash
  let path := if raw.head? = some '/' then raw else '/' :: raw
  let path := if ("/VE/" : Text).isPrefixOf path then "/settings" ++ path else path
  if Text.occursIn "/+/" l.address then Text.replaceAll "/ /" "/+/" path else path

/-- The root page closes a sign-in window, follows the anchor of an older link, or leads to the
start page. -/
def handleRoot (l : Location) : Handling Action := do
  if Text.occursIn "closeAfterLogin" l.query then return .closeWindow
  else if l.hash ≠ [] then return .redirect (anchorAddress l)
  else if ← Handling.loggedIn then return .redirect homeSignedIn
  else return .redirect homeSignedOut

/-- The dashboard of a user.  One with sections is for everybody; without them visitors are sent to
sign in for their own, and to a search for that of another user. -/
def handleUserDashboard (l : Location) (c : Captures) : Handling Action := do
  let user ← c.require "user"
  match DashboardView.ofQuery? l.query (some user) with
  | some v => return .present (.dashboard v)
  | none =>
    if ← Handling.loggedIn then return .present (.dashboard { user := some user })
    else if user.map Char.toLower = "self" then return .redirect (loginAddress l)
    else return .redirect ("/q/owner:" ++ Percent.escape user)

end ReviewRouter
