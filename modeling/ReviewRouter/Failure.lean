import ReviewRouter.Pattern.Error
import ReviewRouter.Text.Numeral
import ReviewRouter.Text.Quoted

/-!
# Failures

* `HttpFailure` — why a request brought no response;
* `Failure` — why a route could not be registered or a navigation could not be carried out;
* `Failure.message`, `Failure.code`, `Failure.status` — how a failure is reported.
-/

namespace ReviewRouter

/-! ### Requests -/

/-- Why a request brought no usable response. -/
inductive HttpFailure where
  | building (reason : Text)
  | network (reason : Text)
  | reading (reason : Text)
  deriving DecidableEq, Repr

/-- The wording of a failed request. -/
def HttpFailure.message : HttpFailure → Text
  | .building reason => "failed to build request: " ++ reason
  | .network reason => "network error: " ++ reason
  | .reading reason => "failed to read response: " ++ reason

/-! ### Routing -/

/-- What can go wrong in routing.  The last two are faults of a route table, the others of a single
navigation. -/
inductive Failure where
  | noRoute (path : Text)
  | missingCapture (route name : Text)
  | invalidCapture (route name value : Text)
  | unknownChange (change : UInt32)
  | rest (reason : Text)
  | invalidPattern (route : Text) (cause : PatternError)
  | undeclaredCapture (route name : Text)
  deriving DecidableEq, Repr

namespace Failure

/-- The failure of a session whose request failed. -/
def ofHttp (e : HttpFailure) : Failure :=
  .rest e.message

/-- The wording of a failure. -/
def message : Failure → Text
  | .noRoute path => "no route matches path " ++ Quoted.quote path
  | .missingCapture route name => "route " ++ route ++ " is missing capture `" ++ name ++ "`"
  | .invalidCapture route name value =>
    "route " ++ route ++ " capture `" ++ name ++ "` has invalid value " ++ Quoted.quote value
  | .unknownChange change => "no project found for change " ++ Numeral.ofNat change.toNat
  | .rest reason => "REST request failed: " ++ reason
  | .invalidPattern route _ => "route " ++ route ++ " has an invalid pattern"
  | .undeclaredCapture route name =>
    "route " ++ route ++ " reads capture `" ++ name ++ "` but its pattern does not define it"

/-- The tag of the kind of failure. -/
def code : Failure → Text
  | .noRoute _ => "NO_ROUTE"
  | .missingCapture _ _ => "MISSING_CAPTURE"
  | .invalidCapture _ _ _ => "INVALID_CAPTURE"
  | .unknownChange _ => "UNKNOWN_CHANGE"
  | .rest _ => "REST_ERROR"
  | .invalidPattern _ _ => "INVALID_PATTERN"
  | .undeclaredCapture _ _ => "UNDECLARED_CAPTURE"

/-- The status of the error page: faults of the table are the application's own, all else is not
found. -/
def status : Failure → Nat
  | .invalidPattern _ _ => 500
  | .undeclaredCapture _ _ => 500
  | _ => 404

end Failure

end ReviewRouter
