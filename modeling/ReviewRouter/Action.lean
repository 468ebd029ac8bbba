import ReviewRouter.View.Address

/-!
# Actions

* `Action` — what a navigation comes to; all addresses in it are inside the application;
* `View.settle` — presents a view whose patch range is canonical and leads to its address otherwise.
-/

namespace ReviewRouter

/-- The outcome of a navigation, for the shell to carry out. -/
inductive Action where
  | present (v : View)
  | redirect (address : Text)
  | passThrough
  | closeWindow
  | registered (address : Text)
  | pageError (status : Nat)
  deriving DecidableEq, Repr

/-- The page that says that nothing was found. -/
def Action.notFound : Action := .pageError 404

/-- Brings the patch range of a view into its canonical form, and presents the view or, if its address
has changed by that, leads to the new address. -/
def View.settle (v : View) : Action :=
  match v.range? with
  | none => .present v
  | some r =>
    let (range, moved) := r.normalize
    let v := v.withRange range
    if moved then .redirect v.address else .present v

end ReviewRouter
