import ReviewRouter.Failure

/-!
# Events

What happens on the way is reported as events, each with a level, a message and named fields.

* `Event` — the events;
* `Event.level`, `Event.message`, `Event.fields` — how an event is written down.
-/

namespace ReviewRouter

/-- Something worth reporting.  Navigations are known by their sequence number. -/
inductive Event where
  | navigationStarted (seq : Nat) (url : Text)
  | nothingMatched (path : Text)
  | routeMatched (seq : Nat) (route path : Text)
  | loginNeeded (path : Text)
  | projectResolved (change : UInt32) (project : Text)
  | selfRedirect (seq : Nat) (route target : Text)
  | navigationFailed (seq : Nat) (route : Text) (failure : Failure)
  | staleDiscarded (seq latest : Nat)
  | responseArrived (url : Text) (status : Nat)
  | sessionActive (account : UInt64)
  | routeSettled (view : Text)
  | redirected (path : Text)
  deriving DecidableEq, Repr

/-- How much attention an event deserves. -/
inductive Level where
  | debug
  | info
  | warn
  deriving DecidableEq, Repr

/-- The name of a level. -/
def Level.name : Level → Text
  | .debug => "DEBUG"
  | .info => "INFO"
  | .warn => "WARN"

/-- The value of a field of an event. -/
inductive FieldValue where
  | num (n : Nat)
  | text (t : Text)
  deriving DecidableEq, Repr

namespace Event

/-- Discarded and failed navigations are warnings, settled routes are news, all else is detail. -/
def level : Event → Level
  | .nothingMatched _ => .warn
  | .selfRedirect _ _ _ => .warn
  | .navigationFailed _ _ _ => .warn
  | .staleDiscarded _ _ => .warn
  | .routeSettled _ => .info
  | _ => .debug

/-- The message of an event. -/
def message : Event → Text
  | .navigationStarted _ _ => "navigation started"
  | .nothingMatched _ => "no route matched"
  | .routeMatched _ _ _ => "route matched"
  | .loginNeeded _ => "not logged in, redirecting to login"
  | .projectResolved _ _ => "resolved project for legacy change link"
  | .selfRedirect _ _ _ => "route redirects to itself"
  | .navigationFailed _ _ failure => "navigation failed: " ++ failure.message
  | .staleDiscarded _ _ => "discarding stale navigation"
  | .responseArrived _ _ => "REST GET"
  | .sessionActive _ => "session active"
  | .routeSettled _ => "route settled"
  | .redirected _ => "redirect"

/-- The named fields of an event. -/
def fields : Event → List (Text × FieldValue)
  | .navigationStarted seq url => [("seq", .num seq), ("url", .text url)]
  | .nothingMatched path => [("path", .text path)]
  | .routeMatched seq route path => [("seq", .num seq), ("route", .text route), ("path", .text path)]
  | .loginNeeded path => [("path", .text path)]
  | .projectResolved change project => [("change", .num change.toNat), ("project", .text project)]
  | .selfRedirect seq route target =>
    [("seq", .num seq), ("route", .text route), ("target", .text target)]
  | .navigationFailed seq route failure =>
    [("seq", .num seq), ("route", .text route), ("code", .text failure.code)]
  | .staleDiscarded seq latest => [("seq", .num seq), ("latest", .num latest)]
  | .responseArrived url status => [("url", .text url), ("status", .num status)]
  | .sessionActive account => [("account_id", .num account.toNat)]
  | .routeSettled view => [("view", .text view)]
  | .redirected path => [("path", .text path)]

end Event

end ReviewRouter
