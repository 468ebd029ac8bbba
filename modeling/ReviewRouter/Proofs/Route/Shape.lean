import ReviewRouter.Proofs.Pattern.Row
import ReviewRouter.Route.Table

/-!
# The patterns of the routes, taken apart

The patterns of the routes are written down as text.  Here is the row of parts that is read from
each of them.

* `Route.shape` — the parts of a route behind the start of the path;
* `Route.entry_eq` — **reading the pattern of a route yields these parts**;
* `RouteTable.standard_eq` — the standard table has one such entry for each route, in order;
* `Route.captures?_eq` — matching a path is matching the row of parts from its start.
-/

namespace ReviewRouter

open Pattern

/-! ### Parts -/

namespace CharSet

/-- Everything but a line end. -/
def dot : CharSet := .compl (.one '\n')

/-- Everything but one character. -/
def besides (c : Char) : CharSet := .compl (.union .empty (.one c))

theorem mem_dot {c : Char} : dot.mem c = true ↔ c ≠ '\n' := by
  simp only [dot, mem, Bool.not_eq_true', beq_eq_false_iff_ne, ne_comm]

theorem mem_besides {c d : Char} : (besides c).mem d = true ↔ d ≠ c := by
  simp only [besides, mem, Bool.false_or, Bool.not_eq_true', beq_eq_false_iff_ne, ne_comm]

end CharSet

/-- A run of dots has no line end. -/
theorem isRun_dot_iff {w : Text} : isRun .dot w ↔ '\n' ∉ w := by
  constructor
  · intro hrun hend
    exact CharSet.mem_dot.1 (hrun '\n' hend) rfl
  · intro hend c hc
    rw [CharSet.mem_dot]
    rintro rfl
    exact hend hc

/-- A slash that may be missing. -/
def slash? : Pattern := maybe (.char (.one '/'))

/-- The number of a patch set, or the edit. -/
def patchPart : Pattern := .alt (plus .digit) (row (lit "edit"))

/-- The same; the parents of a merge have negative numbers. -/
def basePart : Pattern :=
  .alt (row [maybe (.char (.one '-')), plus .digit]) (row (lit "edit"))

/-- The second half of a patch range. -/
def rangePart : Pattern :=
  maybe (row (lit ".." ++ [.capture "patch" patchPart]))

/-- The page number behind a comma. -/
def offsetPart : Pattern :=
  maybe (row (lit "," ++ [.capture "offset" (plus .digit)]))

/-- The pages of a change: repository and number, and what follows them. -/
def changeRow (tail : List Pattern) : List Pattern :=
  lit "/c/" ++ .capture "repo" (plus .dot) :: (lit "/+/" ++ .capture "change" (plus .digit) :: tail)

/-- A page of a change, perhaps of one of its patch ranges. -/
def changeTail : List Pattern :=
  [maybe (row [slash?, .capture "base" basePart, rangePart]), slash?, stop]

/-- The edit mode of a change. -/
def changeEditTail : List Pattern :=
  maybe (row (lit "/" ++ [.capture "patch" (plus .digit)])) :: (lit ",edit" ++ [slash?, stop])

/-- A comment of a change. -/
def commentTail : List Pattern :=
  lit "/comment/" ++ [.capture "comment" (plus .word), slash?, stop]

/-- The comments of a change. -/
def commentsTail : List Pattern :=
  lit "/comments" ++ [slash?, maybe (.capture "comment" (plus .word)), slash?, stop]

/-- A file between two patch sets. -/
def diffTail : List Pattern :=
  lit "/" ++ .capture "base" basePart :: rangePart :: (lit "/" ++
    [.capture "path" (plus .dot), stop])

/-- A file in the editor. -/
def diffEditTail : List Pattern :=
  lit "/" ++ .capture "patch" patchPart :: (lit "/" ++
    .capture "path" (plus .dot) :: (lit ",edit" ++ [stop]))

/-- The pages of a group. -/
def groupRow (tail : List Pattern) : List Pattern :=
  lit "/admin/groups/" ++ maybe (row (lit "uuid-")) ::
    .capture "group" (plus (.besides ',')) :: tail

/-- The pages of a repository. -/
def repoRow (tail : List Pattern) : List Pattern :=
  lit "/admin/repos/" ++ .capture "repo" (plus .dot) :: tail

/-- A list with a page number. -/
def offsetRow (path : Text) : List Pattern :=
  lit path ++ [offsetPart, slash?, stop]

/-- A list with a filter and a page number. -/
def filterOffsetRow (path : Text) (tail : List Pattern) : List Pattern :=
  lit path ++ .capture "filter" (plus (.besides ',')) :: lit "," ++
    .capture "offset" (plus .digit) :: tail

/-- A list with a filter. -/
def filterRow (path : Text) (tail : List Pattern) : List Pattern :=
  lit path ++ .capture "filter" (reps (.besides ',')) :: tail

/-- The parts of a route, behind the start of the path. -/
def Route.shape : Route → List Pattern
  | .root => lit "/" ++ [stop]
  | .dashboard => lit "/dashboard/" ++ [.capture "user" (plus .dot), stop]
  | .customDashboard => lit "/dashboard" ++ [slash?, stop]
  | .projectDashboard =>
    lit "/p/" ++ .capture "repo" (plus .dot) :: (lit "/+/dashboard/" ++
      [.capture "dashboard" (plus .dot)])
  | .legacyProjectDashboard =>
    lit "/projects/" ++ .capture "repo" (plus .dot) :: (lit ",dashboards/" ++
      [.capture "dashboard" (plus .dot)])
  | .groupInfo => groupRow (lit ",info" ++ [stop])
  | .groupAuditLog => groupRow (lit ",audit-log" ++ [stop])
  | .groupMembers => groupRow (lit ",members" ++ [stop])
  | .groupListOffset => offsetRow "/admin/groups"
  | .groupListFilterOffset => filterOffsetRow "/admin/groups/q/filter:" [slash?, stop]
  | .groupListFilter => filterRow "/admin/groups/q/filter:" [slash?, stop]
  | .groupSelf => lit "/groups/self"
  | .group => groupRow [stop]
  | .projectOld => lit "/admin/projects" ++ [slash?, maybe (.capture "repo" (plus .dot)), stop]
  | .repoCommands => repoRow (lit ",commands" ++ [stop])
  | .repoGeneral => repoRow (lit ",general" ++ [stop])
  | .repoAccess => repoRow (lit ",access" ++ [stop])
  | .repoDashboards => repoRow (lit ",dashboards" ++ [stop])
  | .branchListOffset => repoRow (lit ",branches" ++ [offsetPart, stop])
  | .branchListFilterOffset => repoRow (filterOffsetRow ",branches/q/filter:" [stop])
  | .branchListFilter => repoRow (filterRow ",branches/q/filter:" [stop])
  | .tagListOffset => repoRow (lit ",tags" ++ [offsetPart, stop])
  | .tagListFilterOffset => repoRow (filterOffsetRow ",tags/q/filter:" [stop])
  | .tagListFilter => repoRow (filterRow ",tags/q/filter:" [stop])
  | .legacyCreateGroup => lit "/admin/create-group" ++ [slash?, stop]
  | .legacyCreateProject => lit "/admin/create-project" ++ [slash?, stop]
  | .repoListOffset => offsetRow "/admin/repos"
  | .repoListFilterOffset => filterOffsetRow "/admin/repos/q/filter:" [slash?, stop]
  | .repoListFilter => filterRow "/admin/repos/q/filter:" [slash?, stop]
  | .repo => lit "/admin/repos/" ++ [.capture "repo" (plus (.besides ',')), stop]
  | .plugins => lit "/plugins/" ++ [plus .dot, stop]
  | .pluginListOffset => offsetRow "/admin/plugins"
  | .pluginListFilterOffset => filterOffsetRow "/admin/plugins/q/filter:" [slash?, stop]
  | .pluginListFilter => filterRow "/admin/plugins/q/filter:" [slash?, stop]
  | .queryLegacySuffix => lit "/q/" ++ plus .dot :: (lit ",n,z" ++ [stop])
  | .query => lit "/q/" ++ [.capture "query" (plus (.besides ',')), offsetPart, stop]
  | .topic => lit "/c/topic/" ++ [.capture "topic" (reps (.besides '/')), slash?, stop]
  | .changeIdQuery =>
    lit "/id/" ++ [.capture "change_id" (row (lit "I" ++
      [.rep (.char (.union (.union .empty .asciiDigit) (.range 'a' 'f'))) 40 (some 40) true])), stop]
  | .diffLegacyLinenum =>
    lit "/c/" ++ plus .dot :: (lit "@" ++
      [maybe (.char (.union (.union .empty (.one 'a')) (.one 'b'))), plus .digit, stop])
  | .changeNumberLegacy => lit "/" ++ [.capture "change" (plus .digit), slash?]
  | .diffEdit => changeRow diffEditTail
  | .changeEdit => changeRow changeEditTail
  | .comment => changeRow commentTail
  | .commentsTab => changeRow commentsTail
  | .diff => changeRow diffTail
  | .change => changeRow changeTail
  | .changeLegacy =>
    lit "/c/" ++ [.capture "change" (plus .digit), slash?, .capture "rest" (reps .dot), stop]
  | .agreements => lit "/settings/agreements" ++ [slash?]
  | .newAgreements => lit "/settings/new-agreement" ++ [slash?]
  | .settingsLegacy => lit "/settings/VE/" ++ [.capture "token" (plus (.compl .blank))]
  | .settings => lit "/settings" ++ [slash?]
  | .register =>
    lit "/register" ++ [maybe (.capture "next" (row (lit "/" ++ [reps .dot]))), stop]
  | .logInOrOut =>
    lit "/log" ++ [.alt (row (lit "in")) (row (lit "out")),
      maybe (row (lit "/" ++ [plus .dot])), stop]
  | .improperlyEncodedPlus =>
    lit "/c/" ++ .capture "repo" (plus .dot) :: (lit "/ /" ++ [.capture "rest" (plus .dot), stop])
  | .pluginScreen =>
    let name : Pattern := plus (.union (.union .empty .word) (.one '-'))
    lit "/x/" ++ .capture "plugin" name :: (lit "/" ++ [.capture "screen" name, slash?])
  | .documentationSearchFilter =>
    lit "/Documentation/q/filter:" ++ [.capture "filter" (plus (.besides '/')), slash?, stop]
  | .documentationSearch => lit "/Documentation/q/" ++ [.capture "filter" (reps .dot), stop]
  | .documentation => lit "/Documentation" ++ [slash?, maybe (.capture "page" (plus .dot))]
  | .fallback => [reps .dot, stop]

/-! ### Reading the table -/

/-- A route under its own pattern. -/
def Route.entry (r : Route) : RouteEntry :=
  ⟨r, ⟨r.name, .seq (.anchor .textStart) (row r.shape)⟩⟩

/-- What a match of a route has captured, from the start of a path. -/
def Route.match? (r : Route) (path : Text) : Option (List (Text × Text)) :=
  (row r.shape).matchAt? none path

/-- The captures that the handler of a route is given. -/
def Route.captured (r : Route) (found : List (Text × Text)) : Captures :=
  { route := r.name, values := found.map fun (name, text) => (name, Percent.unescapeValue text) }

theorem toOption_eq_some {ε α : Type} {e : Except ε α} {a : α} (h : e.toOption = some a) :
    e = .ok a := by
  cases e with
  | error e => cases h
  | ok b => exact congrArg Except.ok (Option.some_inj.1 h)

theorem read_literal {s : String} {l : List Char} {p : Pattern} (hs : s = String.ofList l)
    (h : (Pattern.read l).toOption = some p) : (Pattern.read s.toList).toOption = some p := by
  rw [hs, String.toList_ofList]
  exact h

/-- The pattern of each route, read by evaluation. -/
theorem Route.read_pattern (r : Route) :
    Pattern.read r.definition.pattern = .ok (.seq (.anchor .textStart) (row r.shape)) := by
  apply toOption_eq_some
  -- unfolded by hand, since equations for the 59 routes take long to derive
  delta Route.definition Route.shape
  cases r <;> dsimp only <;> exact read_literal rfl (by decide +kernel)

theorem Route.declared (r : Route) :
    r.definition.captures.find?
      (!(Pattern.seq (.anchor .textStart) (row r.shape)).names.contains ·) = none := by
  delta Route.definition Route.shape
  cases r <;> dsimp only <;> decide

/-- **Reading the pattern of a route yields its parts.** -/
theorem Route.entry_eq (r : Route) : RouteTable.entry r = .ok r.entry := by
  have hread : RoutePattern.read r.definition.name r.definition.pattern r.definition.captures =
      .ok r.entry.pattern := by
    rw [RoutePattern.read, r.read_pattern]
    simp only [r.declared]
    rfl
  simp only [RouteTable.entry, Option.getD_none, hread]
  rfl

theorem mapM_ok {ε α β : Type} {f : α → Except ε β} {g : α → β} (h : ∀ a, f a = .ok (g a))
    (l : List α) : l.mapM f = .ok (l.map g) := by
  induction l with
  | nil => rfl
  | cons a l ih =>
    rw [List.mapM_cons, h, ih]
    rfl

/-- The standard table has one entry for each route, in order. -/
theorem RouteTable.standard_eq : RouteTable.standard = .ok (Route.all.map Route.entry) :=
  mapM_ok Route.entry_eq Route.all

/-- Matching a path is matching the row of parts from its start. -/
theorem Route.captures?_eq (r : Route) (path : Text) :
    r.entry.pattern.captures? path = (r.match? path).map r.captured := by
  rw [RoutePattern.captures?, entry, find?_anchored]
  rfl

end ReviewRouter
