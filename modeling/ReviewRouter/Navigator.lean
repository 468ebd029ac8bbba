import ReviewRouter.Route.Handler
import ReviewRouter.Route.Table

/-!
# Navigations in sequence

A navigation gets its number when it begins and is resolved some time later.  Only the navigation
that began last may have an effect; others come too late.

* `Navigator` — the route table, the deployment and the number of navigations begun;
* `Navigator.begin` — takes an address apart and gives out the next number;
* `Navigator.resolve` — finds the route and runs its handler behind the gate; a failure becomes an
  error page, and so does a route that leads to itself;
* `Navigator.navigate` — both in one;
* `Navigator.settle` — the action of a navigation, unless another one has begun since.
-/

namespace ReviewRouter

/-- A navigation that has begun. -/
structure PendingNavigation where
  seq : Nat
  location : Location
  deriving DecidableEq, Repr

/-- A navigation that has been resolved. -/
structure Navigation where
  seq : Nat
  action : Action
  deriving DecidableEq, Repr

/-- The routes, the deployment, and how many navigations have begun. -/
structure Navigator where
  table : RouteTable
  deployment : Deployment := {}
  issued : Nat := 0
  deriving DecidableEq, Repr

namespace Navigator

/-- A navigator over all routes. -/
def standard (d : Deployment) : Except Failure Navigator := do
  return { table := ← RouteTable.standard, deployment := d }

/-- Begins a navigation to an address on the server. -/
def begin (n : Navigator) (url : Text) : PendingNavigation × Navigator :=
  let seq := n.issued + 1
  (⟨seq, .ofAddress n.deployment url⟩, { n with issued := seq })

/-- What becomes of the result of a handler: failures become error pages, and a redirect to the
very address it came from would never end. -/
def conclude (seq : Nat) (r : Route) (l : Location) : Except Failure Action → Plan Action
  | .ok (.redirect target) =>
    if target = l.address then .note (.selfRedirect seq r.name target) (.done .notFound)
    else .done (.redirect target)
  | .ok action => .done action
  | .error e => .note (.navigationFailed seq r.name e) (.done (.pageError e.status))

/-- Finds the route of a navigation and runs its handler behind the gate. -/
def resolve (n : Navigator) (p : PendingNavigation) : Plan Navigation :=
  match n.table.match? p.location.matchPath with
  | none => .note (.nothingMatched p.location.path) (.done ⟨p.seq, .notFound⟩)
  | some (e, captures) =>
    .note (.routeMatched p.seq e.route.name p.location.path) do
      let handler := e.route.handle n.deployment (p.seq == 1) p.location captures
      let result ← (guard e.requiresAuth p.location handler).run
      let action ← conclude p.seq e.route p.location result
      return ⟨p.seq, action⟩

/-- Begins a navigation and resolves it at once. -/
def navigate (n : Navigator) (url : Text) : Plan Navigation × Navigator :=
  let (p, n) := n.begin url
  (n.resolve p, n)

/-- Whether no other navigation has begun since. -/
def isCurrent (n : Navigator) (done : Navigation) : Bool :=
  done.seq == n.issued

/-- The action of a navigation that is still current, and the events of dropping one that is not. -/
def settle (n : Navigator) (done : Navigation) : Option Action × List Event :=
  if n.isCurrent done then (some done.action, [])
  else (none, [.staleDiscarded done.seq n.issued])

end Navigator

end ReviewRouter
