import ReviewRouter.Session.Rest
import ReviewRouter.Text.Quoted

/-!
# A browser window

The part of a browser that the application touches: the location, its history, and requests.  Any
of its features may be broken, and what a request comes to is laid down by address.

* `Fault` — what may be broken;
* `ReplyScript` / `Fetched` — how a request is answered, and what that means to the client;
* `BrowserCall` — what the application has done to the window;
* `Browser` — the window, with `currentUrl`, `pushUrl`, `replaceUrl`, `reload`, `close`, `listen`
  and `fetch`.
-/

namespace ReviewRouter

/-! ### Faults -/

/-- A feature that may be broken. -/
inductive Fault where
  | window
  | history
  | pathname
  | search
  | hash
  | push
  | replace
  | reload
  | close
  | listen
  | headers
  | headerSet
  | request
  deriving DecidableEq, Repr

namespace Fault

/-- The name of a feature. -/
def name : Fault → Text
  | .window => "window"
  | .history => "history"
  | .pathname => "pathname"
  | .search => "search"
  | .hash => "hash"
  | .push => "push"
  | .replace => "replace"
  | .reload => "reload"
  | .close => "close"
  | .listen => "listen"
  | .headers => "headers"
  | .headerSet => "header_set"
  | .request => "request"

/-- All features. -/
def all : List Fault :=
  [.window, .history, .pathname, .search, .hash, .push, .replace, .reload, .close, .listen,
   .headers, .headerSet, .request]

/-- The feature with the given name. -/
def ofName? (t : Text) : Option Fault :=
  all.find? fun f => f.name == t

end Fault

/-- How a thrown text is shown. -/
def thrown (t : Text) : Text :=
  "JsValue(" ++ Quoted.quote t ++ ")"

/-- What a broken feature throws. -/
def Fault.thrown (f : Fault) : Text :=
  ReviewRouter.thrown (f.name ++ " failed")

/-! ### Requests -/

/-- How a request is answered. -/
inductive ReplyScript where
  | response (r : Response)
  | headOnly (status : Nat)
  | rejected (reason : Text)
  | notResponse
  | bodyThrows (reason : Text)
  | bodyRejected (reason : Text)
  | bodyNotText
  deriving DecidableEq, Repr

/-- What a request comes to: a reply, a response whose body is still open, or nothing yet. -/
inductive Fetched where
  | replied (r : Reply)
  | bodyOpen (status : Nat)
  | unanswered

/-- What the client makes of an answer. -/
def ReplyScript.outcome : ReplyScript → Fetched
  | .response r => .replied (.ok r)
  | .headOnly status => .bodyOpen status
  | .rejected reason => .replied (.error (.network (thrown reason)))
  | .notResponse =>
    .replied (.error (.reading ("unexpected response type: " ++ thrown "not a response")))
  | .bodyThrows reason => .replied (.error (.reading (thrown reason)))
  | .bodyRejected reason => .replied (.error (.reading (thrown reason)))
  | .bodyNotText => .replied (.error (.reading "body is not a string"))

/-! ### The window -/

/-- Something the application has done to the window. -/
inductive BrowserCall where
  | listen
  | push (url : Text)
  | replace (url : Text)
  | reload
  | close
  | get (url : Text)
  deriving DecidableEq, Repr

/-- The written form of a call; requests always ask for JSON. -/
def BrowserCall.text : BrowserCall → Text
  | .listen => "listen popstate"
  | .push url => "push " ++ url
  | .replace url => "replace " ++ url
  | .reload => "reload"
  | .close => "close"
  | .get url => "GET " ++ url ++ " [Accept: application/json]"

/-- A browser window: its location, the answers to requests (of two for one address the first
counts), its faults, whether the application listens to its history, and what has been done to
it. -/
structure Browser where
  location : Text := "/"
  replies : List (Text × ReplyScript) := []
  faults : List Fault := []
  listening : Bool := false
  calls : List BrowserCall := []
  deriving DecidableEq, Repr

namespace Browser

/-- Whether the feature is broken. -/
def lacks (b : Browser) (f : Fault) : Bool :=
  b.faults.contains f

/-- Breaks or mends a feature. -/
def setFault (b : Browser) (f : Fault) (broken : Bool) : Browser :=
  let others := b.faults.filter (· != f)
  { b with faults := if broken then f :: others else others }

/-- Lays down how an address is answered from now on. -/
def script (b : Browser) (url : Text) (r : ReplyScript) : Browser :=
  { b with replies := (url, r) :: b.replies }

/-- Writes down a call. -/
def called (b : Browser) (c : BrowserCall) : Browser :=
  { b with calls := b.calls ++ [c] }

/-! ### The location -/

/-- The path of an address, `/` if it is empty. -/
def pathOf (url : Text) : Text :=
  match url.takeWhile fun c => c != '?' && c != '#' with
  | [] => "/"
  | path => path

/-- A part of an address with its sign in front; nothing if only the sign is there. -/
def marked (sign : Char) (part : Option (Text × Text)) : Text :=
  match part with
  | some (_, []) => []
  | some (_, rest) => sign :: rest
  | none => []

/-- The query of an address, with its question mark. -/
def searchOf (url : Text) : Text :=
  marked '?' (Text.splitOnce? '?' (url.takeWhile (· != '#')))

/-- The anchor of an address, with its sign. -/
def hashOf (url : Text) : Text :=
  marked '#' (Text.splitOnce? '#' url)

/-- The address on display, as far as the window tells it. -/
def currentUrl (b : Browser) : Text :=
  if b.lacks .window then "/"
  else
    (if b.lacks .pathname then ("/" : Text) else pathOf b.location)
      ++ (if b.lacks .search then [] else searchOf b.location)
      ++ (if b.lacks .hash then [] else hashOf b.location)

/-- Moves to an address by way of the history. -/
def move (b : Browser) (f : Fault) (c : BrowserCall) (url : Text) : Browser :=
  if b.lacks .window || b.lacks .history then b
  else if b.lacks f then b.called c
  else { b.called c with location := url }

/-- Adds an address to the history and goes there. -/
def pushUrl (b : Browser) (url : Text) : Browser :=
  b.move .push (.push url) url

/-- Puts an address in the place of the current one and goes there. -/
def replaceUrl (b : Browser) (url : Text) : Browser :=
  b.move .replace (.replace url) url

/-- Loads the page anew from the server. -/
def reload (b : Browser) : Browser :=
  if b.lacks .window then b else b.called .reload

/-- Closes the window. -/
def close (b : Browser) : Browser :=
  if b.lacks .window then b else b.called .close

/-- Begins to listen to the history. -/
def listen (b : Browser) : Browser :=
  if b.lacks .window then b
  else { b.called .listen with listening := !b.lacks .listen }

/-! ### Requests -/

/-- Sends a request. -/
def fetch (b : Browser) (url : Text) : Fetched × Browser :=
  if b.lacks .headers then
    (.replied (.error (.building ("failed to create headers: " ++ Fault.headers.thrown))), b)
  else if b.lacks .headerSet then
    (.replied (.error (.building ("failed to set header: " ++ Fault.headerSet.thrown))), b)
  else if b.lacks .request then (.replied (.error (.building Fault.request.thrown)), b)
  else if b.lacks .window then
    (.replied (.error (.network "window is not available")), b)
  else
    let fetched := match b.replies.lookup url with
      | some r => r.outcome
      | none => .unanswered
    (fetched, b.called (.get url))

end Browser

end ReviewRouter
