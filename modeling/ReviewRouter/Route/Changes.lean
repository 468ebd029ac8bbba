import ReviewRouter.Location.Line
import ReviewRouter.Route.Captures
import ReviewRouter.Route.Gate

/-!
# Pages of a change

* `changeTarget` — the project and the number in the path, which the session is told about;
* `handleChange`, `handleChangeEdit`, `handleCommentsTab`, `handleComment`, `handleDiff`,
  `handleDiffEdit` — the pages;
* `handleLegacyChange` — a link without its project, which the session has to look up.
-/

namespace ReviewRouter

/-! ### Pages with a project -/

/-- The project and the change of a path.  The session learns that they belong together. -/
def changeTarget (c : Captures) : Handling (Text × UInt32) := do
  let project ← c.require "repo"
  let change ← c.parse Numeral.u32? "change"
  Handling.record change project
  return (project, change)

/-- The page of a change. -/
def handleChange (l : Location) (c : Captures) : Handling Action := do
  let (project, change) ← changeTarget c
  let base ← c.parse? PatchSet.ofText? "base"
  let patch ← c.parse? PatchSet.ofText? "patch"
  let v : ChangeView :=
    { project := some project
      change := change
      range := ⟨base, patch⟩
      tab := l.queryValue? "tab"
      filter := l.queryValue? "filter"
      select := l.queryValue? "select"
      attempt := (l.queryValue? "attempt").bind Numeral.u32? }
  return (View.change v).settle

/-- The page of a change in edit mode. -/
def handleChangeEdit (l : Location) (c : Captures) : Handling Action := do
  let (project, change) ← changeTarget c
  let patch ← c.parse? PatchSet.ofText? "patch"
  let v : ChangeView :=
    { project := some project
      change := change
      range := ⟨none, patch⟩
      edit := true
      tab := l.queryValue? "tab" }
  return (View.change v).settle

/-- The comments of a change, perhaps at one of them. -/
def handleCommentsTab (c : Captures) : Handling Action := do
  let (project, change) ← changeTarget c
  let v : ChangeView :=
    { project := some project
      change := change
      comment := c.get? "comment" }
  return (View.change v).settle

/-- One comment in its file. -/
def handleComment (c : Captures) : Handling Action := do
  let (project, change) ← changeTarget c
  let comment ← c.require "comment"
  let v : DiffView :=
    { project := some project
      change := change
      comment := some comment }
  return (View.diff v).settle

/-- A file between two patch sets. -/
def handleDiff (l : Location) (c : Captures) : Handling Action := do
  let (project, change) ← changeTarget c
  let address := LineAddress.ofText? l.hash
  let base ← c.parse? PatchSet.ofText? "base"
  let patch ← c.parse? PatchSet.ofText? "patch"
  let path ← c.require "path"
  let v : DiffView :=
    { project := some project
      change := change
      range := ⟨base, patch⟩
      path := some path
      line := address.map LineAddress.line
      leftSide := address.any LineAddress.leftSide }
  return (View.diff v).settle

/-- A file in the editor. -/
def handleDiffEdit (l : Location) (c : Captures) : Handling Action := do
  let (project, change) ← changeTarget c
  let patch ← c.parse PatchSet.ofText? "patch"
  let path ← c.require "path"
  let v : EditView :=
    { project := some project
      change := change
      range := ⟨none, some patch⟩
      path := path
      line := Numeral.u32? l.hash }
  return (View.edit v).settle

/-! ### Links without a project -/

/-- The address with the project put in: what followed the number as it is written in the path,
query and anchor are kept. -/
def legacyChangeAddress (l : Location) (written project : Text) (change : UInt32) : Text :=
  let rest := Text.trimStart '/' ((("/c/" ++ written).isPrefixOf? l.path).getD [])
  "/c/" ++ Percent.escapeSegment true project ++ "/+/" ++ Numeral.ofNat change.toNat
    ++ (if rest = [] then [] else '/' :: rest)
    ++ (if l.query = [] then [] else '?' :: l.query)
    ++ (if l.rawHash = [] then [] else '#' :: l.rawHash)

/-- A link without its project leads to the one with it. -/
def handleLegacyChange (l : Location) (c : Captures) : Handling Action := do
  let change ← c.parse Numeral.u32? "change"
  match ← Handling.projectOf change with
  | none => throw (.unknownChange change)
  | some project =>
    Handling.note (.projectResolved change project)
    let written ← c.require "change"
    return .redirect (legacyChangeAddress l written project change)

end ReviewRouter
