import ReviewRouter.Action

/-!
# What the user sees

* `Screen` — nothing yet, a view, or an error page;
* `Screen.ofAction?` — the actions that change what is seen;
* `Screen.name`, `Screen.label`, `Screen.address?` — how a screen is named.
-/

namespace ReviewRouter

/-- What is on display. -/
inductive Screen where
  | loading
  | view (v : View)
  | error (status : Nat)
  deriving DecidableEq, Repr

namespace Screen

/-- The screen of an action that has one. -/
def ofAction? : Action → Option Screen
  | .present v => some (.view v)
  | .pageError status => some (.error status)
  | _ => none

/-- The tag of a screen. -/
def name : Screen → Text
  | .loading => "LOADING"
  | .view v => v.name
  | .error _ => "ERROR"

/-- The tag, with the status of an error page. -/
def label : Screen → Text
  | .error status => "ERROR " ++ Numeral.ofNat status
  | s => s.name

/-- The canonical address of a view on display. -/
def address? : Screen → Option Text
  | .view v => some v.address
  | _ => none

/-- The view on display. -/
def view? : Screen → Option View
  | .view v => some v
  | _ => none

end Screen

end ReviewRouter
