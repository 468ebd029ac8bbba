import ReviewRouter.Json.Reader
import ReviewRouter.Session.Plan
import ReviewRouter.Text.Blank
import ReviewRouter.View.Record

/-!
# The session of a review server

Both questions are answered by a review server, each by one request, and what has been learnt is
kept for the lifetime of the page.

* `Account`, `ChangeInfo` — what the server says, and how its bodies are read;
* `RestQuestion` — the two questions and the paths that ask them;
* `RestCache` — what has been learnt;
* `RestCache.login`, `RestCache.project` — what an answer means, and what is kept of it.
-/

namespace ReviewRouter

/-! ### Bodies -/

/-- The account behind a session. -/
structure Account where
  id : UInt64
  name : Option Text := none
  email : Option Text := none
  deriving DecidableEq, Repr

/-- A change that was looked up. -/
structure ChangeInfo where
  project : Text
  number : UInt32
  deriving DecidableEq, Repr

/-- Servers put this in front of a body so that it cannot be run as a script. -/
def bodyGuard : Text := ")]\x7d\x27"

/-- The JSON text of a body, without the guard and the white space after it. -/
def bodyJson (body : Text) : Text :=
  Text.dropBlanks ((bodyGuard.isPrefixOf? body).getD body)

/-- A text field that may be missing or null. -/
def Json.optionalText? (fields : Json.Fields) (name : Text) : Option (Option Text) := do
  match ← Json.single? fields name with
  | none => some none
  | some .null => some none
  | some j => j.text?.map some

/-- An account. -/
def Account.ofJson? (j : Json) : Option Account := do
  let fields ← j.members?
  let id ← (← Json.single? fields "_account_id").bind Json.natural?
  let name ← Json.optionalText? fields "name"
  let email ← Json.optionalText? fields "email"
  if id < UInt64.size then some ⟨UInt64.ofNat id, name, email⟩ else none

/-- A change. -/
def ChangeInfo.ofJson? (j : Json) : Option ChangeInfo := do
  let fields ← j.members?
  let project ← (← Json.single? fields "project").bind Json.text?
  let number ← (← Json.single? fields "_number").bind Json.word?
  return ⟨project, number⟩

/-- A body read as JSON and then as something else. -/
def readBody {α : Type} (read : Json → Option α) (body : Text) : Except Failure α :=
  match (Json.read? (bodyJson body)).bind read with
  | some a => .ok a
  | none => .error (.rest "invalid JSON response")

/-- The account in a body. -/
def readAccount (body : Text) : Except Failure Account :=
  readBody Account.ofJson? body

/-- The changes in a body. -/
def readChanges (body : Text) : Except Failure (List ChangeInfo) :=
  readBody (Json.listOf? ChangeInfo.ofJson?) body

/-! ### Requests -/

/-- What a server is asked. -/
inductive RestQuestion where
  | account
  | change (number : UInt32)
  deriving DecidableEq, Repr

/-- The path of the request, below the base of the server. -/
def RestQuestion.path : RestQuestion → Text
  | .account => "/accounts/self/detail"
  | .change number => "/changes/?q=change:" ++ Numeral.ofNat number.toNat ++ "&n=1"

/-- The address of the request on a server. -/
def RestQuestion.url (base : Text) (q : RestQuestion) : Text :=
  Text.trimEnd '/' base ++ q.path

/-- The answer to a request. -/
structure Response where
  status : Nat
  body : Text
  deriving DecidableEq, Repr

/-- Whether the request was successful. -/
def Response.isSuccess (r : Response) : Bool :=
  200 ≤ r.status && r.status < 300

/-- A response, or why there is none. -/
abbrev Reply := Except HttpFailure Response

/-! ### The cache -/

/-- What has been learnt from the server and from routing; of two projects for one change the
first in the list counts. -/
structure RestCache where
  loggedIn : Option Bool := none
  projects : List (UInt32 × Text) := []
  deriving DecidableEq, Repr

namespace RestCache

/-- Remembers the project of a change. -/
def learn (c : RestCache) (change : UInt32) (project : Text) : RestCache :=
  { c with projects := (change, project) :: c.projects }

/-- The project of a change, if it is known. -/
def project? (c : RestCache) (change : UInt32) : Option Text :=
  c.projects.lookup change

/-- Whether the response to the account request shows a session, with its account if so.  A
refusal shows that there is none. -/
def loginOf (r : Response) : Except Failure (Option Account) :=
  if r.status = 401 ∨ r.status = 403 then .ok none
  else if r.isSuccess then (readAccount r.body).map some
  else .error (.rest ("account lookup failed with status " ++ Numeral.ofNat r.status))

/-- Takes in the reply to the account request sent to `url`.  Only a clear answer is kept. -/
def login (c : RestCache) (url : Text) (reply : Reply) :
    Except Failure Bool × RestCache × List Event :=
  match reply with
  | .error e => (.error (.ofHttp e), c, [])
  | .ok r =>
    let arrived := Event.responseArrived url r.status
    match loginOf r with
    | .error e => (.error e, c, [arrived])
    | .ok none => (.ok false, { c with loggedIn := some false }, [arrived])
    | .ok (some a) =>
      (.ok true, { c with loggedIn := some true }, [arrived, .sessionActive a.id])

/-- The project named in the response to a change request, none if the change is unknown. -/
def projectOf (r : Response) : Except Failure (Option Text) :=
  if r.status = 404 then .ok none
  else if r.isSuccess then
    (readChanges r.body).map fun changes => changes.head?.map ChangeInfo.project
  else .error (.rest ("change lookup failed with status " ++ Numeral.ofNat r.status))

/-- Takes in the reply to the request for a change sent to `url`.  A project that was found is
kept. -/
def project (c : RestCache) (change : UInt32) (url : Text) (reply : Reply) :
    Except Failure (Option Text) × RestCache × List Event :=
  match reply with
  | .error e => (.error (.ofHttp e), c, [])
  | .ok r =>
    let arrived := Event.responseArrived url r.status
    match projectOf r with
    | .error e => (.error e, c, [arrived])
    | .ok none => (.ok none, c, [arrived])
    | .ok (some p) => (.ok (some p), c.learn change p, [arrived])

end RestCache

end ReviewRouter
