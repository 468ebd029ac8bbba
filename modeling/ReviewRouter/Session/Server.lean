import ReviewRouter.Session.Call
import ReviewRouter.Session.Rest

/-!
# A session over a scripted server

* `ScriptedServer` — a server that answers each address at once and always alike;
* `RestSession` — what a session over such a server knows and has done;
* `Session.rest` — the session.
-/

namespace ReviewRouter

/-- The answers of a server by address; of two for one address the first in the list counts. -/
structure ScriptedServer where
  offline : Bool := false
  responses : List (Text × Response) := []
  deriving DecidableEq, Repr

namespace ScriptedServer

/-- The reply to a request; an address without an answer is not found. -/
def reply (s : ScriptedServer) (url : Text) : Reply :=
  if s.offline then .error (.network "offline")
  else .ok ((s.responses.lookup url).getD ⟨404, "Not Found"⟩)

/-- Sets the answer of an address. -/
def respond (s : ScriptedServer) (url : Text) (r : Response) : ScriptedServer :=
  { s with responses := (url, r) :: s.responses }

end ScriptedServer

/-- A session over a scripted server: its base path, what it has learnt, the requests it sent and
the events it reported. -/
structure RestSession where
  base : Text
  server : ScriptedServer := {}
  cache : RestCache := {}
  calls : List SessionCall := []
  journal : List Event := []
  deriving DecidableEq, Repr

namespace RestSession

/-- Sends a request. -/
def send (s : RestSession) (q : RestQuestion) : Reply × Text × RestSession :=
  let url := q.url s.base
  (s.server.reply url, url, { s with calls := s.calls ++ [.get url] })

/-- Asks the server only if the answer is not known. -/
def loggedIn (s : RestSession) : Except Failure Bool × RestSession :=
  match s.cache.loggedIn with
  | some known => (.ok known, s)
  | none =>
    let (reply, url, s) := s.send .account
    let (answer, cache, events) := s.cache.login url reply
    (answer, { s with cache := cache, journal := s.journal ++ events })

/-- Asks the server only if the answer is not known. -/
def projectOf (change : UInt32) (s : RestSession) : Except Failure (Option Text) × RestSession :=
  match s.cache.project? change with
  | some known => (.ok (some known), s)
  | none =>
    let (reply, url, s) := s.send (.change change)
    let (answer, cache, events) := s.cache.project change url reply
    (answer, { s with cache := cache, journal := s.journal ++ events })

end RestSession

/-- The session over a scripted server. -/
def Session.rest : Session RestSession where
  loggedIn := RestSession.loggedIn
  projectOf := RestSession.projectOf
  record change project s := { s with cache := s.cache.learn change project }
  note e s := { s with journal := s.journal ++ [e] }

end ReviewRouter
