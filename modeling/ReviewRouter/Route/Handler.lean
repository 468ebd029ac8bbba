import ReviewRouter.Deployment
import ReviewRouter.Route
import ReviewRouter.Route.Changes
import ReviewRouter.Route.Dashboards

/-!
# What each route does

* `Route.handle` — the handler of every route: from a location and the captures of its path to one
  action;
* `groupPage`, `repoPage`, `adminPage` — the pages of the administration;
* `withoutLegacySuffix`, `lineToAnchor`, `plusRestored` — the addresses that outdated links stand
  for.
-/

namespace ReviewRouter

/-! ### Administration -/

/-- A filter that is not empty. -/
def filterCapture? (c : Captures) : Option Text :=
  match c.get? "filter" with
  | some [] => none
  | filter => filter

/-- A page of a group. -/
def groupPage (c : Captures) (detail : Option GroupDetail) : Handling Action := do
  return .present (.group (← c.require "group") detail)

/-- A page of a repository. -/
def repoPage (c : Captures) (detail : RepoDetail) : Handling Action := do
  let repo ← c.require "repo"
  let offset ← c.offset "offset"
  return .present (.repo { repo, detail, filter := filterCapture? c, offset })

/-- A page of an administration list; on the lists that allow it the anchor `create` opens the
dialog for a new item. -/
def adminPage (l : Location) (c : Captures) (list : AdminList) (canCreate : Bool) :
    Handling Action := do
  let offset ← c.offset "offset"
  let openCreate := canCreate && l.hash == "create"
  return .present (.admin { list, offset, filter := filterCapture? c, openCreate })

/-! ### Outdated links -/

/-- The address without `,n,z` at its end, which may be escaped. -/
def withoutLegacySuffix (l : Location) : Text :=
  match Text.dropSuffix? ",n,z" l.path with
  | some kept => kept
  | none => (Text.dropSuffix? ",n,z" l.matchPath).getD l.matchPath

/-- The address with the line after the last `@`, which may be escaped, moved into the anchor. -/
def lineToAnchor (l : Location) : Text :=
  let path := if l.path.contains '@' then l.path else l.matchPath
  match Text.splitLast? '@' path with
  | some (file, line) => file ++ "#" ++ line
  | none => path

/-- The address with the plus sign put back that was taken for a space. -/
def plusRestored (l : Location) : Text :=
  let path := Text.replaceFirst "/ /" "/+/" (Text.replaceFirst "/%20/" "/+/" l.path)
  path ++ (if l.rawHash = [] then [] else '#' :: l.rawHash)

/-- Where a new user goes: on to the page that was asked for, but not to register again. -/
def afterRegistration (c : Captures) : Text :=
  let next := (c.get? "next").getD []
  if next = [] ∨ ("/register" : Text).isPrefixOf next then "/" else next

/-! ### All routes -/

/-- A dashboard kept in a repository. -/
def repoDashboard (c : Captures) : Handling View := do
  let repo ← c.require "repo"
  let dashboard ← c.require "dashboard"
  return .dashboard { repo := some repo, dashboard := some dashboard }

/-- What a route makes of a location and the captures of its path.  On the first load there is no
server to fall back to, for the page has just come from there. -/
def Route.handle (d : Deployment) (initialLoad : Bool) (l : Location) (c : Captures) :
    Route → Handling Action
  | .root => handleRoot l
  | .dashboard => handleUserDashboard l c
  | .customDashboard =>
    match DashboardView.ofQuery? l.query none with
    | some v => return .present (.dashboard v)
    | none => return .redirect homeSignedIn
  | .projectDashboard => return .present (← repoDashboard c)
  | .legacyProjectDashboard => return .redirect (← repoDashboard c).address
  | .groupInfo => return .redirect (groupAddress (← c.require "group") none)
  | .groupAuditLog => groupPage c (some .log)
  | .groupMembers => groupPage c (some .members)
  | .group => groupPage c none
  | .groupListOffset => adminPage l c .groups true
  | .groupListFilterOffset => adminPage l c .groups false
  | .groupListFilter => adminPage l c .groups false
  | .groupSelf => return .redirect "/settings/#Groups"
  | .legacyCreateGroup => return .redirect "/admin/groups#create"
  | .projectOld => return .redirect ("/admin/repos/" ++ (c.get? "repo").getD [])
  | .repoCommands => repoPage c .commands
  | .repoGeneral => repoPage c .general
  | .repoAccess => repoPage c .access
  | .repoDashboards => repoPage c .dashboards
  | .branchListOffset => repoPage c .branches
  | .branchListFilterOffset => repoPage c .branches
  | .branchListFilter => repoPage c .branches
  | .tagListOffset => repoPage c .tags
  | .tagListFilterOffset => repoPage c .tags
  | .tagListFilter => repoPage c .tags
  | .legacyCreateProject => return .redirect "/admin/repos#create"
  | .repoListOffset => adminPage l c .repos true
  | .repoListFilterOffset => adminPage l c .repos false
  | .repoListFilter => adminPage l c .repos false
  | .repo => return .redirect (l.path ++ ",general")
  | .plugins => return .passThrough
  | .pluginListOffset => adminPage l c .plugins false
  | .pluginListFilterOffset => adminPage l c .plugins false
  | .pluginListFilter => adminPage l c .plugins false
  | .queryLegacySuffix => return .redirect (withoutLegacySuffix l)
  | .query => do
    let offset ← c.offset "offset"
    let query ← c.require "query"
    return .present (.search { query := some query, offset })
  | .topic => return .present (.topic (← c.require "topic"))
  | .changeIdQuery => return .present (.search { query := some (← c.require "change_id") })
  | .diffLegacyLinenum => return .redirect (lineToAnchor l)
  | .changeNumberLegacy => do
    let change ← c.parse Numeral.u32? "change"
    return .redirect ("/c/" ++ Numeral.ofNat change.toNat)
  | .diffEdit => handleDiffEdit l c
  | .changeEdit => handleChangeEdit l c
  | .comment => handleComment c
  | .commentsTab => handleCommentsTab c
  | .diff => handleDiff l c
  | .change => handleChange l c
  | .changeLegacy => handleLegacyChange l c
  | .agreements => return .redirect "/settings/#Agreements"
  | .newAgreements => return .present .agreements
  | .settingsLegacy => do
    -- reading the token took its plus signs for spaces
    let token ← c.require "token"
    return .present (.settings (some (Text.substitute ' ' '+' token)))
  | .settings => return .present (.settings none)
  | .register => return .registered (afterRegistration c)
  | .logInOrOut => return .passThrough
  | .improperlyEncodedPlus => return .redirect (plusRestored l)
  | .pluginScreen => do
    let plugin ← c.require "plugin"
    let screen ← c.require "screen"
    return .present (.pluginScreen plugin screen)
  | .documentationSearchFilter =>
    return .present (.documentationSearch (some (← c.require "filter")))
  | .documentationSearch => do
    let filter ← c.require "filter"
    return .redirect ("/Documentation/q/filter:" ++ Percent.escapeSegment false filter)
  | .documentation =>
    match c.get? "page" with
    | some (_ :: _) => return .passThrough
    | _ => return .redirect "/Documentation/index.html"
  | .fallback =>
    if d.serverFallback && !initialLoad then return .passThrough
    else throw (.noRoute l.path)

end ReviewRouter
