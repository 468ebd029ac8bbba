import ReviewRouter.Text.Basic

/-!
# Where the application is deployed

The application lives below a base path of its server, empty when it lives at the root.  Inside,
addresses are relative to that base.

* `Deployment.ofBase` — a deployment below a path, trailing slashes dropped;
* `Deployment.absolute` — the address on the server of an address inside the application;
* `Deployment.relative` — the way back: the base is taken off only where it ends a path segment.
-/

namespace ReviewRouter

/-- The base path, and whether unknown pages are left to the server once the application runs. -/
structure Deployment where
  base : Text := []
  serverFallback : Bool := false
  deriving DecidableEq, Repr

namespace Deployment

/-- A deployment below the given path. -/
def ofBase (base : Text) : Deployment :=
  { base := Text.trimEnd '/' base }

/-- The address on the server. -/
def absolute (d : Deployment) (address : Text) : Text :=
  d.base ++ address

/-- The address inside the application; one that is not below the base stays as it is. -/
def relative (d : Deployment) (address : Text) : Text :=
  if d.base = [] then address
  else match d.base.isPrefixOf? address with
    | some [] => "/"
    | some (c :: rest) => if c = '/' ∨ c = '?' ∨ c = '#' then c :: rest else address
    | none => address

end Deployment

end ReviewRouter
