import ReviewRouter.Session.Call
import ReviewRouter.Session.Plan

/-!
# A scripted session

A session that knows its answers in advance, remembers which projects it is told, and keeps the
list of its calls.

* `Scripted` — the script and the lists;
* `Session.scripted` — the session that follows it.
-/

namespace ReviewRouter

/-- The answers of a session, its calls and the events reported to it, both in order. -/
structure Scripted where
  loggedIn : Bool := false
  failLogin : Bool := false
  failLookup : Bool := false
  projects : List (UInt32 × Text) := []
  calls : List SessionCall := []
  journal : List Event := []
  deriving DecidableEq, Repr

namespace Scripted

/-- Writes down a call. -/
def called (s : Scripted) (c : SessionCall) : Scripted :=
  { s with calls := s.calls ++ [c] }

/-- Remembers the project of a change in place of an earlier one. -/
def learn (s : Scripted) (change : UInt32) (project : Text) : Scripted :=
  { s with projects := (change, project) :: s.projects }

end Scripted

/-- The session that follows its script. -/
def Session.scripted : Session Scripted where
  loggedIn s :=
    let answer := if s.failLogin then .error (.rest "login check failed") else .ok s.loggedIn
    (answer, s.called .loggedIn)
  projectOf change s :=
    let answer := if s.failLookup then .error (.rest "lookup failed")
      else .ok (s.projects.lookup change)
    (answer, s.called (.projectOf change))
  record change project s := (s.called (.record change project)).learn change project
  note e s := { s with journal := s.journal ++ [e] }

end ReviewRouter
