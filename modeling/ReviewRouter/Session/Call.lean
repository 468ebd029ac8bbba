import ReviewRouter.Text.Numeral

/-!
# Calls to a session

* `SessionCall` — what a session was asked or told, or what it requested in turn;
* `SessionCall.text` — how a call is written down.
-/

namespace ReviewRouter

/-- Something a session was asked or told, or a request it sent. -/
inductive SessionCall where
  | loggedIn
  | projectOf (change : UInt32)
  | record (change : UInt32) (project : Text)
  | get (url : Text)
  deriving DecidableEq, Repr

/-- The written form of a call. -/
def SessionCall.text : SessionCall → Text
  | .loggedIn => "is_logged_in"
  | .projectOf change => "lookup:" ++ Numeral.ofNat change.toNat
  | .record change project => "record:" ++ Numeral.ofNat change.toNat ++ ":" ++ project
  | .get url => "GET " ++ url

end ReviewRouter
