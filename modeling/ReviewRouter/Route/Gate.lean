import ReviewRouter.Action
import ReviewRouter.Location
import ReviewRouter.Session.Plan

/-!
# The gate before protected routes

* `loginAddress` — where to sign in, with the way back;
* `guard` — asks the session before a protected route and sends visitors to the sign-in page.
-/

namespace ReviewRouter

/-- Signing in happens below this path. -/
def loginPath : Text := "/login/"

/-- The address to sign in at; after it stands the whole address to come back to, escaped. -/
def loginAddress (l : Location) : Text :=
  loginPath ++ Percent.escape l.address

/-- Runs the handler of a route, for a protected route only if the user is signed in. -/
def guard (requiresAuth : Bool) (l : Location) (handler : Handling Action) : Handling Action := do
  if requiresAuth then
    if ← Handling.loggedIn then handler
    else
      Handling.note (.loginNeeded l.address)
      return .redirect (loginAddress l)
  else handler

end ReviewRouter
