import ReviewRouter.Browser

/-!
# A session in the browser

The session of a review server, reached by requests from a browser window that may stay open.

* `RestClient` — the server's base path, the cache, the window and the journal;
* `Asked` — what asking comes to: an answer, or a request that is still open;
* `RestClient.askLogin`, `askProject` — ask, from the cache if possible;
* `RestClient.takeLogin`, `takeProject` — take in the reply to an open request.
-/

namespace ReviewRouter

/-- A session in a browser window. -/
structure RestClient where
  base : Text := []
  browser : Browser := {}
  cache : RestCache := {}
  journal : List Event := []
  deriving DecidableEq, Repr

/-- What asking comes to.  An open request is known by its address, and by the status of the
response if that has arrived without its body. -/
inductive Asked (α : Type) where
  | answered (a : Except Failure α)
  | waiting (url : Text) (status : Option Nat)

namespace RestClient

/-- Reports events. -/
def report (c : RestClient) (events : List Event) : RestClient :=
  { c with journal := c.journal ++ events }

/-- Takes in the reply to the account request. -/
def takeLogin (c : RestClient) (url : Text) (reply : Reply) : Except Failure Bool × RestClient :=
  let (answer, cache, events) := c.cache.login url reply
  (answer, { c with cache := cache }.report events)

/-- Takes in the reply to the request for a change. -/
def takeProject (c : RestClient) (change : UInt32) (url : Text) (reply : Reply) :
    Except Failure (Option Text) × RestClient :=
  let (answer, cache, events) := c.cache.project change url reply
  (answer, { c with cache := cache }.report events)

/-- Sends a request and takes in the reply if there is one at once. -/
def send {α : Type} (c : RestClient) (url : Text)
    (take : RestClient → Reply → Except Failure α × RestClient) : Asked α × RestClient :=
  let (fetched, browser) := c.browser.fetch url
  let c := { c with browser := browser }
  match fetched with
  | .replied r =>
    let (answer, c) := take c r
    (.answered answer, c)
  | .bodyOpen status => (.waiting url (some status), c)
  | .unanswered => (.waiting url none, c)

/-- Asks whether the user is signed in. -/
def askLogin (c : RestClient) : Asked Bool × RestClient :=
  match c.cache.loggedIn with
  | some known => (.answered (.ok known), c)
  | none =>
    let url := RestQuestion.account.url c.base
    c.send url fun c reply => c.takeLogin url reply

/-- Asks which project a change belongs to. -/
def askProject (c : RestClient) (change : UInt32) : Asked (Option Text) × RestClient :=
  match c.cache.project? change with
  | some known => (.answered (.ok (some known)), c)
  | none =>
    let url := (RestQuestion.change change).url c.base
    c.send url fun c reply => c.takeProject change url reply

end RestClient

end ReviewRouter
