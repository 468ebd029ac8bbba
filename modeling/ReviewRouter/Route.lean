import ReviewRouter.Text.Basic

/-!
# Routes

The routes of the application, in the order in which they are tried: the more specific ones first,
and last the one that takes every path.

* `Route` — the identity of a route;
* `Route.all` — the order of trial;
* `RouteDef` / `Route.definition` — name, pattern, captures and protection of a route.
-/

namespace ReviewRouter

/-- The identity of a route. -/
inductive Route where
  | root
  | dashboard
  | customDashboard
  | projectDashboard
  | legacyProjectDashboard
  | groupInfo
  | groupAuditLog
  | groupMembers
  | groupListOffset
  | groupListFilterOffset
  | groupListFilter
  | groupSelf
  | group
  | projectOld
  | repoCommands
  | repoGeneral
  | repoAccess
  | repoDashboards
  | branchListOffset
  | branchListFilterOffset
  | branchListFilter
  | tagListOffset
  | tagListFilterOffset
  | tagListFilter
  | legacyCreateGroup
  | legacyCreateProject
  | repoListOffset
  | repoListFilterOffset
  | repoListFilter
  | repo
  | plugins
  | pluginListOffset
  | pluginListFilterOffset
  | pluginListFilter
  | queryLegacySuffix
  | query
  | topic
  | changeIdQuery
  | diffLegacyLinenum
  | changeNumberLegacy
  | diffEdit
  | changeEdit
  | comment
  | commentsTab
  | diff
  | change
  | changeLegacy
  | agreements
  | newAgreements
  | settingsLegacy
  | settings
  | register
  | logInOrOut
  | improperlyEncodedPlus
  | pluginScreen
  | documentationSearchFilter
  | documentationSearch
  | documentation
  | fallback
  deriving DecidableEq, Repr

/-- What is laid down for a route: its name, its pattern, the captures that its handler reads, and
whether it is for signed-in users only. -/
structure RouteDef where
  name : Text
  pattern : Text
  captures : List Text
  requiresAuth : Bool
  deriving DecidableEq, Repr

namespace Route

/-- All routes in the order in which they are tried. -/
def all : List Route :=
  [.root, .dashboard, .customDashboard, .projectDashboard, .legacyProjectDashboard, .groupInfo,
   .groupAuditLog, .groupMembers, .groupListOffset, .groupListFilterOffset, .groupListFilter,
   .groupSelf, .group, .projectOld, .repoCommands, .repoGeneral, .repoAccess, .repoDashboards,
   .branchListOffset, .branchListFilterOffset, .branchListFilter, .tagListOffset,
   .tagListFilterOffset, .tagListFilter, .legacyCreateGroup, .legacyCreateProject,
   .repoListOffset, .repoListFilterOffset, .repoListFilter, .repo, .plugins, .pluginListOffset,
   .pluginListFilterOffset, .pluginListFilter, .queryLegacySuffix, .query, .topic,
   .changeIdQuery, .diffLegacyLinenum, .changeNumberLegacy, .diffEdit, .changeEdit, .comment,
   .commentsTab, .diff, .change, .changeLegacy, .agreements, .newAgreements, .settingsLegacy,
   .settings, .register, .logInOrOut, .improperlyEncodedPlus, .pluginScreen,
   .documentationSearchFilter, .documentationSearch, .documentation, .fallback]

/-- What is laid down for each route. -/
def definition : Route → RouteDef
  | .root => ⟨"ROOT", r"^/$", [], false⟩
  | .dashboard => ⟨"DASHBOARD", r"^/dashboard/(?P<user>.+)$", ["user"], false⟩
  | .customDashboard => ⟨"CUSTOM_DASHBOARD", r"^/dashboard/?$", [], false⟩
  | .projectDashboard =>
    ⟨"PROJECT_DASHBOARD",
      r"^/p/(?P<repo>.+)/\+/dashboard/(?P<dashboard>.+)",
      ["repo", "dashboard"], false⟩
  | .legacyProjectDashboard =>
    ⟨"LEGACY_PROJECT_DASHBOARD",
      r"^/projects/(?P<repo>.+),dashboards/(?P<dashboard>.+)",
      ["repo", "dashboard"], false⟩
  | .groupInfo =>
    ⟨"GROUP_INFO",
      r"^/admin/groups/(?:uuid-)?(?P<group>[^,]+),info$",
      ["group"], true⟩
  | .groupAuditLog =>
    ⟨"GROUP_AUDIT_LOG",
      r"^/admin/groups/(?:uuid-)?(?P<group>[^,]+),audit-log$",
      ["group"], true⟩
  | .groupMembers =>
    ⟨"GROUP_MEMBERS",
      r"^/admin/groups/(?:uuid-)?(?P<group>[^,]+),members$",
      ["group"], true⟩
  | .groupListOffset =>
    ⟨"GROUP_LIST_OFFSET",
      r"^/admin/groups(?:,(?P<offset>\d+))?/?$",
      ["offset"], true⟩
  | .groupListFilterOffset =>
    ⟨"GROUP_LIST_FILTER_OFFSET",
      r"^/admin/groups/q/filter:(?P<filter>[^,]+),(?P<offset>\d+)/?$",
      ["filter", "offset"], true⟩
  | .groupListFilter =>
    ⟨"GROUP_LIST_FILTER",
      r"^/admin/groups/q/filter:(?P<filter>[^,]*)/?$",
      ["filter"], true⟩
  | .groupSelf => ⟨"GROUP_SELF", r"^/groups/self", [], true⟩
  | .group => ⟨"GROUP", r"^/admin/groups/(?:uuid-)?(?P<group>[^,]+)$", ["group"], true⟩
  | .projectOld => ⟨"PROJECT_OLD", r"^/admin/projects/?(?P<repo>.+)?$", ["repo"], false⟩
  | .repoCommands => ⟨"REPO_COMMANDS", r"^/admin/repos/(?P<repo>.+),commands$", ["repo"], true⟩
  | .repoGeneral => ⟨"REPO_GENERAL", r"^/admin/repos/(?P<repo>.+),general$", ["repo"], false⟩
  | .repoAccess => ⟨"REPO_ACCESS", r"^/admin/repos/(?P<repo>.+),access$", ["repo"], false⟩
  | .repoDashboards =>
    ⟨"REPO_DASHBOARDS",
      r"^/admin/repos/(?P<repo>.+),dashboards$",
      ["repo"], false⟩
  | .branchListOffset =>
    ⟨"BRANCH_LIST_OFFSET",
      r"^/admin/repos/(?P<repo>.+),branches(?:,(?P<offset>\d+))?$",
      ["repo", "offset"], false⟩
  | .branchListFilterOffset =>
    ⟨"BRANCH_LIST_FILTER_OFFSET",
      r"^/admin/repos/(?P<repo>.+),branches/q/filter:(?P<filter>[^,]+),(?P<offset>\d+)$",
      ["repo", "filter", "offset"], false⟩
  | .branchListFilter =>
    ⟨"BRANCH_LIST_FILTER",
      r"^/admin/repos/(?P<repo>.+),branches/q/filter:(?P<filter>[^,]*)$",
      ["repo", "filter"], false⟩
  | .tagListOffset =>
    ⟨"TAG_LIST_OFFSET",
      r"^/admin/repos/(?P<repo>.+),tags(?:,(?P<offset>\d+))?$",
      ["repo", "offset"], false⟩
  | .tagListFilterOffset =>
    ⟨"TAG_LIST_FILTER_OFFSET",
      r"^/admin/repos/(?P<repo>.+),tags/q/filter:(?P<filter>[^,]+),(?P<offset>\d+)$",
      ["repo", "filter", "offset"], false⟩
  | .tagListFilter =>
    ⟨"TAG_LIST_FILTER",
      r"^/admin/repos/(?P<repo>.+),tags/q/filter:(?P<filter>[^,]*)$",
      ["repo", "filter"], false⟩
  | .legacyCreateGroup => ⟨"LEGACY_CREATE_GROUP", r"^/admin/create-group/?$", [], true⟩
  | .legacyCreateProject => ⟨"LEGACY_CREATE_PROJECT", r"^/admin/create-project/?$", [], true⟩
  | .repoListOffset =>
    ⟨"REPO_LIST_OFFSET",
      r"^/admin/repos(?:,(?P<offset>\d+))?/?$",
      ["offset"], false⟩
  | .repoListFilterOffset =>
    ⟨"REPO_LIST_FILTER_OFFSET",
      r"^/admin/repos/q/filter:(?P<filter>[^,]+),(?P<offset>\d+)/?$",
      ["filter", "offset"], false⟩
  | .repoListFilter =>
    ⟨"REPO_LIST_FILTER",
      r"^/admin/repos/q/filter:(?P<filter>[^,]*)/?$",
      ["filter"], false⟩
  | .repo => ⟨"REPO", r"^/admin/repos/(?P<repo>[^,]+)$", ["repo"], false⟩
  | .plugins => ⟨"PLUGINS", r"^/plugins/.+$", [], false⟩
  | .pluginListOffset =>
    ⟨"PLUGIN_LIST_OFFSET",
      r"^/admin/plugins(?:,(?P<offset>\d+))?/?$",
      ["offset"], true⟩
  | .pluginListFilterOffset =>
    ⟨"PLUGIN_LIST_FILTER_OFFSET",
      r"^/admin/plugins/q/filter:(?P<filter>[^,]+),(?P<offset>\d+)/?$",
      ["filter", "offset"], true⟩
  | .pluginListFilter =>
    ⟨"PLUGIN_LIST_FILTER",
      r"^/admin/plugins/q/filter:(?P<filter>[^,]*)/?$",
      ["filter"], true⟩
  | .queryLegacySuffix => ⟨"QUERY_LEGACY_SUFFIX", r"^/q/.+,n,z$", [], false⟩
  | .query => ⟨"QUERY", r"^/q/(?P<query>[^,]+)(?:,(?P<offset>\d+))?$", ["query", "offset"], false⟩
  | .topic => ⟨"TOPIC", r"^/c/topic/(?P<topic>[^/]*)/?$", ["topic"], false⟩
  | .changeIdQuery =>
    ⟨"CHANGE_ID_QUERY",
      r"^/id/(?P<change_id>I[0-9a-f]{40})$",
      ["change_id"], false⟩
  | .diffLegacyLinenum => ⟨"DIFF_LEGACY_LINENUM", r"^/c/.+@[ab]?\d+$", [], false⟩
  | .changeNumberLegacy => ⟨"CHANGE_NUMBER_LEGACY", r"^/(?P<change>\d+)/?", ["change"], false⟩
  | .diffEdit =>
    ⟨"DIFF_EDIT",
      r"^/c/(?P<repo>.+)/\+/(?P<change>\d+)/(?P<patch>\d+|edit)/(?P<path>.+),edit$",
      ["repo", "change", "patch", "path"], true⟩
  | .changeEdit =>
    ⟨"CHANGE_EDIT",
      r"^/c/(?P<repo>.+)/\+/(?P<change>\d+)(?:/(?P<patch>\d+))?,edit/?$",
      ["repo", "change", "patch"], true⟩
  | .comment =>
    ⟨"COMMENT",
      r"^/c/(?P<repo>.+)/\+/(?P<change>\d+)/comment/(?P<comment>\w+)/?$",
      ["repo", "change", "comment"], false⟩
  | .commentsTab =>
    ⟨"COMMENTS_TAB",
      r"^/c/(?P<repo>.+)/\+/(?P<change>\d+)/comments/?(?P<comment>\w+)?/?$",
      ["repo", "change", "comment"], false⟩
  | .diff =>
    ⟨"DIFF",
      r"^/c/(?P<repo>.+)/\+/(?P<change>\d+)/(?P<base>-?\d+|edit)(?:\.\.(?P<patch>\d+|edit))?/(?P<path>.+)$",
      ["repo", "change", "base", "patch", "path"], false⟩
  | .change =>
    ⟨"CHANGE",
      r"^/c/(?P<repo>.+)/\+/(?P<change>\d+)(?:/?(?:(?P<base>-?\d+|edit)(?:\.\.(?P<patch>\d+|edit))?))?/?$",
      ["repo", "change", "base", "patch"], false⟩
  | .changeLegacy => ⟨"CHANGE_LEGACY", r"^/c/(?P<change>\d+)/?(?P<rest>.*)$", ["change"], false⟩
  | .agreements => ⟨"AGREEMENTS", r"^/settings/agreements/?", [], true⟩
  | .newAgreements => ⟨"NEW_AGREEMENTS", r"^/settings/new-agreement/?", [], true⟩
  | .settingsLegacy => ⟨"SETTINGS_LEGACY", r"^/settings/VE/(?P<token>\S+)", ["token"], true⟩
  | .settings => ⟨"SETTINGS", r"^/settings/?", [], true⟩
  | .register => ⟨"REGISTER", r"^/register(?P<next>/.*)?$", ["next"], false⟩
  | .logInOrOut => ⟨"LOG_IN_OR_OUT", r"^/log(?:in|out)(?:/.+)?$", [], false⟩
  | .improperlyEncodedPlus =>
    ⟨"IMPROPERLY_ENCODED_PLUS",
      r"^/c/(?P<repo>.+)/ /(?P<rest>.+)$",
      ["repo", "rest"], false⟩
  | .pluginScreen =>
    ⟨"PLUGIN_SCREEN",
      r"^/x/(?P<plugin>[\w-]+)/(?P<screen>[\w-]+)/?",
      ["plugin", "screen"], false⟩
  | .documentationSearchFilter =>
    ⟨"DOCUMENTATION_SEARCH_FILTER",
      r"^/Documentation/q/filter:(?P<filter>[^/]+)/?$",
      ["filter"], false⟩
  | .documentationSearch =>
    ⟨"DOCUMENTATION_SEARCH",
      r"^/Documentation/q/(?P<filter>.*)$",
      ["filter"], false⟩
  | .documentation => ⟨"DOCUMENTATION", r"^/Documentation/?(?P<page>.+)?", ["page"], false⟩
  | .fallback => ⟨"DEFAULT", r"^.*$", [], false⟩

/-- The name of a route. -/
def name (r : Route) : Text :=
  r.definition.name

/-- Whether a route is for signed-in users only. -/
def requiresAuth (r : Route) : Bool :=
  r.definition.requiresAuth

/-- The route with the given name. -/
def ofName? (name : Text) : Option Route :=
  all.find? fun r => r.name == name

end Route

end ReviewRouter
