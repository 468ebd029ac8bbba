import ReviewRouter.Route
import ReviewRouter.Route.Captures

/-!
# Route tables

* `RouteEntry` — a route with the pattern it is registered under;
* `RouteTable` — entries in the order in which they are tried;
* `RouteTable.register` — appends a route, under its own pattern or another one;
* `RouteTable.standard` — all routes under their own patterns;
* `RouteTable.match?` — the first entry whose pattern matches.
-/

namespace ReviewRouter

/-- A route and the pattern it is registered under. -/
structure RouteEntry where
  route : Route
  pattern : RoutePattern
  deriving DecidableEq, Repr

/-- Whether the entry is for signed-in users only. -/
def RouteEntry.requiresAuth (e : RouteEntry) : Bool :=
  e.route.requiresAuth

/-- Entries in the order in which they are tried. -/
abbrev RouteTable := List RouteEntry

namespace RouteTable

/-- The entry of a route under the given pattern, or under its own. -/
def entry (r : Route) (pattern : Option Text := none) : Except Failure RouteEntry := do
  let d := r.definition
  return ⟨r, ← RoutePattern.read d.name (pattern.getD d.pattern) d.captures⟩

/-- The table with one more entry at the end. -/
def register (t : RouteTable) (r : Route) (pattern : Option Text := none) :
    Except Failure RouteTable := do
  return t ++ [← entry r pattern]

/-- All routes under their own patterns. -/
def standard : Except Failure RouteTable :=
  Route.all.mapM fun r => entry r

/-- The first entry whose pattern matches the path, with what it captures. -/
def match? (t : RouteTable) (path : Text) : Option (RouteEntry × Captures) :=
  t.findSome? fun e => (e.pattern.captures? path).map fun c => (e, c)

end RouteTable

end ReviewRouter
