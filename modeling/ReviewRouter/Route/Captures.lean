import ReviewRouter.Failure
import ReviewRouter.Pattern.Matching
import ReviewRouter.Pattern.Reader
import ReviewRouter.Text.Percent

/-!
# Captures of a route

* `Captures` — the named parts of a matched path, unescaped once more;
* `Captures.require`, `parse`, `parse?`, `offset` — reading one of them;
* `RoutePattern` — the pattern of a route, checked to define the captures that are read;
* `RoutePattern.captures?` — matching a path.
-/

namespace ReviewRouter

/-! ### Reading captures -/

/-- The captures that took part in a match of a route. -/
structure Captures where
  route : Text := []
  values : List (Text × Text) := []
  deriving DecidableEq, Repr

namespace Captures

/-- The value of a capture that took part. -/
def get? (c : Captures) (name : Text) : Option Text :=
  c.values.lookup name

/-- The value of a capture that must have taken part. -/
def require (c : Captures) (name : Text) : Except Failure Text :=
  match c.get? name with
  | some value => .ok value
  | none => .error (.missingCapture c.route name)

/-- A capture that must have taken part, read as a value of another type. -/
def parse {α : Type} (read : Text → Option α) (c : Captures) (name : Text) : Except Failure α := do
  let raw ← c.require name
  match read raw with
  | some a => return a
  | none => throw (.invalidCapture c.route name raw)

/-- A capture read as a value of another type, if it took part and is not empty. -/
def parse? {α : Type} (read : Text → Option α) (c : Captures) (name : Text) :
    Except Failure (Option α) :=
  match c.get? name with
  | none => .ok none
  | some [] => .ok none
  | some _ => some <$> c.parse read name

/-- A page offset, zero if it is not there. -/
def offset (c : Captures) (name : Text) : Except Failure UInt32 := do
  return (← c.parse? Numeral.u32? name).getD 0

end Captures

/-! ### Patterns of routes -/

/-- The pattern of a route. -/
structure RoutePattern where
  route : Text
  pattern : Pattern
  deriving DecidableEq, Repr

namespace RoutePattern

/-- Reads the pattern of a route; every capture in `required` has to be one of its names. -/
def read (route text : Text) (required : List Text) : Except Failure RoutePattern :=
  match Pattern.read text with
  | .error cause => .error (.invalidPattern route cause)
  | .ok pattern =>
    match required.find? (!pattern.names.contains ·) with
    | some name => .error (.undeclaredCapture route name)
    | none => .ok ⟨route, pattern⟩

/-- The captures of the first match in a path, each unescaped as a value. -/
def captures? (p : RoutePattern) (path : Text) : Option Captures :=
  (p.pattern.find? path).map fun found =>
    { route := p.route, values := found.map fun (name, text) => (name, Percent.unescapeValue text) }

end RoutePattern

end ReviewRouter
