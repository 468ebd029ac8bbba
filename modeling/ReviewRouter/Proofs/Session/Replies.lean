import ReviewRouter.Proofs.Exchanges
import ReviewRouter.Session.Rest

/-!
# What a reply says

The session of a review server takes in the replies to its requests.  What it answers depends on the reply
alone, not on what it knew before; and what it keeps of the reply is what it answers.

* `RestCache.loginIn`, `RestCache.projectIn` — what a reply says;
* `RestCache.keep` — what is kept of an exchange;
* `RestCache.login_eq`, `RestCache.project_eq` — **the answer, and what is kept of it**.
-/

namespace ReviewRouter.RestCache

/-- What the reply to an account request says. -/
def loginIn : Reply → Except Failure Bool
  | .error e => .error (.ofHttp e)
  | .ok r => (loginOf r).map Option.isSome

/-- What the reply to the request for a change says. -/
def projectIn : Reply → Except Failure (Option Text)
  | .error e => .error (.ofHttp e)
  | .ok r => projectOf r

/-- What is kept of an exchange: clear answers, and what is told. -/
def keep (c : RestCache) : Exchange → RestCache
  | .loggedIn (.ok b) => { c with loggedIn := some b }
  | .projectOf change (.ok (some p)) => c.learn change p
  | .record change p => c.learn change p
  | _ => c

/-- A successful reply shows a session if its account can be read. -/
theorem loginIn_of_isSuccess {r : Response} (h : r.isSuccess = true) :
    loginIn (.ok r) = (readAccount r.body).map fun _ => true := by
  have hstatus : 200 ≤ r.status ∧ r.status < 300 := by
    simpa only [Response.isSuccess, Bool.and_eq_true, decide_eq_true_eq] using h
  have hsession : ¬ (r.status = 401 ∨ r.status = 403) := by omega
  unfold loginIn loginOf
  dsimp only
  rw [if_neg hsession, if_pos h]
  cases readAccount r.body <;> rfl

/-- The answer about the user depends on the reply alone. -/
theorem login_eq (c : RestCache) (url : Text) (reply : Reply) :
    (c.login url reply).1 = loginIn reply ∧
      (c.login url reply).2.1 = c.keep (.loggedIn (loginIn reply)) := by
  cases reply with
  | error e => exact ⟨rfl, rfl⟩
  | ok r =>
    unfold login loginIn
    dsimp only
    cases loginOf r with
    | error f => exact ⟨rfl, rfl⟩
    | ok account =>
      cases account with
      | none => exact ⟨rfl, rfl⟩
      | some a => exact ⟨rfl, rfl⟩

/-- The answer about a change depends on the reply alone. -/
theorem project_eq (c : RestCache) (change : UInt32) (url : Text) (reply : Reply) :
    (c.project change url reply).1 = projectIn reply ∧
      (c.project change url reply).2.1 = c.keep (.projectOf change (projectIn reply)) := by
  cases reply with
  | error e => exact ⟨rfl, rfl⟩
  | ok r =>
    unfold project projectIn
    dsimp only
    cases projectOf r with
    | error f => exact ⟨rfl, rfl⟩
    | ok found =>
      cases found with
      | none => exact ⟨rfl, rfl⟩
      | some p => exact ⟨rfl, rfl⟩

end ReviewRouter.RestCache
