import ReviewRouter.Navigator
import ReviewRouter.Screen
import ReviewRouter.Session.Client

/-!
# The shell: navigations in a browser window

The shell begins a navigation for every link that is followed and every step through the history,
runs them as far as their requests allow, and carries out the action of the one that began last.

* `Flight` — a navigation that waits for the reply to a request;
* `Shell` — the navigator, the session, what is on display, and the navigations under way;
* `Shell.start`, `navigate`, `popstate`, `reply` — what can happen to it;
* `Shell.apply` — carries out an action;
* `Shell.advance` — runs the plan of a navigation up to its next open request.
-/

namespace ReviewRouter

/-! ### State -/

/-- What a waiting navigation has asked, and how it goes on with the answer. -/
inductive Waiting where
  | login (next : Except Failure Bool → Plan Navigation)
  | project (change : UInt32) (next : Except Failure (Option Text) → Plan Navigation)

/-- A navigation that waits: its number, the address of its request, the status of the response if
only the body is missing, and what it has asked. -/
structure Flight where
  seq : Nat
  url : Text
  status : Option Nat
  waiting : Waiting

/-- The state of the application in its window.  Navigations under way have begun and not yet been
run (`ready`), or wait for a response (`fetching`) or for the body of one (`reading`). -/
structure Shell where
  navigator : Navigator
  client : RestClient
  screen : Screen := .loading
  justRegistered : Bool := false
  ready : List PendingNavigation := []
  fetching : List Flight := []
  reading : List Flight := []

namespace Shell

/-- Changes the browser window. -/
def onBrowser (s : Shell) (f : Browser → Browser) : Shell :=
  { s with client := { s.client with browser := f s.client.browser } }

/-- Reports events. -/
def report (s : Shell) (events : List Event) : Shell :=
  { s with client := s.client.report events }

/-- The address on the server of an address inside the application. -/
def href (s : Shell) (address : Text) : Text :=
  s.navigator.deployment.absolute address

/-! ### Carrying out actions -/

/-- Begins a navigation to an address on the server. -/
def dispatch (s : Shell) (url : Text) : Shell :=
  let (pending, navigator) := s.navigator.begin url
  { s with navigator := navigator, ready := s.ready ++ [pending] }.report
    [.navigationStarted pending.seq url]

/-- Puts an address inside the application in the place of the current one and navigates there. -/
def redirect (s : Shell) (address : Text) : Shell :=
  let url := s.href address
  ((s.report [.redirected address]).onBrowser (·.replaceUrl url)).dispatch url

/-- Carries out an action. -/
def apply (s : Shell) : Action → Shell
  | .present v => { s with screen := .view v }.report [.routeSettled (Screen.view v).label]
  | .pageError status =>
    { s with screen := .error status }.report [.routeSettled (Screen.error status).label]
  | .redirect address => s.redirect address
  | .registered address => { s with justRegistered := true }.redirect address
  | .passThrough => s.onBrowser Browser.reload
  | .closeWindow => s.onBrowser Browser.close

/-- Carries out the action of a resolved navigation, unless another one has begun since. -/
def finish (s : Shell) (done : Navigation) : Shell :=
  let (action, events) := s.navigator.settle done
  let s := s.report events
  match action with
  | some a => s.apply a
  | none => s

/-! ### Running navigations -/

/-- Adds a waiting navigation behind the others that wait for the same. -/
def await (s : Shell) (f : Flight) : Shell :=
  match f.status with
  | none => { s with fetching := s.fetching ++ [f] }
  | some _ => { s with reading := s.reading ++ [f] }

/-- Runs the plan of a navigation until it is done or waits for a reply. -/
def advance (seq : Nat) : Plan Navigation → Shell → Shell
  | .done a, s => s.finish a
  | .note e next, s => advance seq next (s.report [e])
  | .record change project next, s =>
    let cache := s.client.cache.learn change project
    advance seq next { s with client := { s.client with cache := cache } }
  | .askLogin next, s =>
    match s.client.askLogin with
    | (.answered a, client) => advance seq (next a) { s with client := client }
    | (.waiting url status, client) =>
      { s with client := client }.await ⟨seq, url, status, .login next⟩
  | .askProject change next, s =>
    match s.client.askProject change with
    | (.answered a, client) => advance seq (next a) { s with client := client }
    | (.waiting url status, client) =>
      { s with client := client }.await ⟨seq, url, status, .project change next⟩

/-- Runs the navigation that has been ready for longest. -/
def runOne (s : Shell) : Option Shell :=
  match s.ready with
  | [] => none
  | p :: rest => some (advance p.seq (s.navigator.resolve p) { s with ready := rest })

/-- Runs navigations until all wait, at most `bound` of them. -/
def runReady : (bound : Nat) → Shell → Shell
  | 0, s => s
  | bound + 1, s =>
    match s.runOne with
    | some s => runReady bound s
    | none => s

/-- No chain of redirects that comes to an end is longer. -/
def longestChain : Nat := 10000

/-- Runs navigations until all wait. -/
def settle (s : Shell) : Shell :=
  s.runReady longestChain

/-! ### What can happen -/

/-- Opens the application in a window. -/
def start (d : Deployment) (base : Text) (b : Browser) : Except Failure Shell := do
  let navigator ← Navigator.standard d
  let s : Shell := { navigator, client := { base := base, browser := b.listen } }
  return (s.dispatch s.client.browser.currentUrl).settle

/-- A link to an address inside the application is followed. -/
def navigate (s : Shell) (address : Text) : Shell :=
  let url := s.href address
  ((s.onBrowser (·.pushUrl url)).dispatch url).settle

/-- The user goes back or forth in the history. -/
def popstate (s : Shell) (url : Text) : Shell :=
  let s := s.onBrowser fun b => { b with location := url }
  if s.client.browser.listening then (s.dispatch s.client.browser.currentUrl).settle else s

/-- A waiting navigation gets its reply. -/
def resume (s : Shell) (f : Flight) (reply : Reply) : Shell :=
  match f.waiting with
  | .login next =>
    let (answer, client) := s.client.takeLogin f.url reply
    (advance f.seq (next answer) { s with client := client }).settle
  | .project change next =>
    let (answer, client) := s.client.takeProject change f.url reply
    (advance f.seq (next answer) { s with client := client }).settle

/-- Takes the first waiting navigation with the given address out of a list. -/
def take? (url : Text) : List Flight → Option (Flight × List Flight)
  | [] => none
  | f :: rest =>
    if f.url = url then some (f, rest)
    else (take? url rest).map fun (found, rest) => (found, f :: rest)

/-- The oldest open request to an address is answered or, if there is none, the oldest open body
arrives.  Nothing comes of it if there is neither. -/
def reply (s : Shell) (url : Text) (r : ReplyScript) (body : Text) : Option Shell :=
  match take? url s.fetching with
  | some (f, rest) =>
    let s := { s with fetching := rest }
    match r.outcome with
    | .replied reply => some (s.resume f reply)
    | .bodyOpen status => some (s.await { f with status := some status })
    | .unanswered => some (s.await f)
  | none =>
    match take? url s.reading with
    | some (f, rest) =>
      some ({ s with reading := rest }.resume f (.ok ⟨f.status.getD 0, body⟩))
    | none => none

/-- The addresses of the open requests, oldest first, then of the open bodies. -/
def openUrls (s : Shell) : List Text :=
  s.fetching.map Flight.url ++ s.reading.map Flight.url

end Shell

end ReviewRouter
