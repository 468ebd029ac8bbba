import Mathlib.Data.Bool.AllAny
import ReviewRouter.Proofs.Cutting
import ReviewRouter.Proofs.Exchanges
import ReviewRouter.Proofs.Navigation

/-!
# The application below a base

Wherever the application is deployed, the base is put in front of an address on the way out and taken off
on the way in.  Handlers see addresses inside the application only, so a deployed navigator does what one at
the root of the server does.

* `IsLocal`, `Deployment.relative_absolute_of_isLocal` — the addresses that come back as they were sent;
* `Location.ofAddress_absolute` — they are taken apart as if there were no base;
* `Navigator.AlikeButBase`, `Navigator.resolve_eq` — **handlers do not see the base**;
* `Navigator.exists_rooted` — a navigator at the root of the server that does the same;
* `Navigator.tour` — navigations to several addresses, one after the other;
* `Navigator.navigate_absolute`, `Navigator.tour_absolute` — one navigation below the base, and any number
  of them;
* `Navigator.tour_below_base` — **below any base the application does the same**.
-/

namespace ReviewRouter

/-! ### Addresses through the base -/

/-- The address begins with a path, a query or an anchor. -/
def IsLocal (t : Text) : Prop :=
  t.head? = some '/' ∨ t.head? = some '?' ∨ t.head? = some '#'

instance (t : Text) : Decidable (IsLocal t) :=
  inferInstanceAs (Decidable (_ ∨ _))

theorem IsLocal.exists_eq {t : Text} (h : IsLocal t) :
    ∃ c u, t = c :: u ∧ (c = '/' ∨ c = '?' ∨ c = '#') := by
  cases t with
  | nil => rcases h with h | h | h <;> cases h
  | cons c u =>
    refine ⟨c, u, rfl, ?_⟩
    rcases h with h | h | h
    · exact Or.inl (Option.some_inj.1 h)
    · exact Or.inr (Or.inl (Option.some_inj.1 h))
    · exact Or.inr (Or.inr (Option.some_inj.1 h))

/-- The base is taken off where it was put in front, also if the address goes on like the base itself. -/
theorem Deployment.relative_absolute_of_isLocal (d : Deployment) {t : Text} (ht : IsLocal t) :
    d.relative (d.absolute t) = t := by
  obtain ⟨c, u, rfl, hc⟩ := ht.exists_eq
  unfold relative absolute
  split
  · next hbase => rw [hbase, List.nil_append]
  · rw [Text.isPrefixOf?_append]
    exact if_pos hc

/-- Below a base the address is taken apart as if there were none. -/
theorem Location.ofAddress_absolute (d : Deployment) {t : Text} (ht : IsLocal t) :
    ofAddress d (d.absolute t) = parse t := by
  have hinside : d.relative (d.absolute t) = ({} : Deployment).relative t :=
    d.relative_absolute_of_isLocal ht
  unfold parse ofAddress
  rw [hinside]

/-! ### Handlers -/

/-- Of the deployment a handler sees only whether unknown pages are left to the server. -/
theorem Route.handle_eq {d d' : Deployment} (h : d.serverFallback = d'.serverFallback)
    (initialLoad : Bool) (l : Location) (c : Captures) (r : Route) :
    r.handle d initialLoad l c = r.handle d' initialLoad l c := by
  cases r with
  | fallback =>
    delta handle
    dsimp only
    rw [h]
  | _ => rfl

namespace Navigator

variable {n n' : Navigator} {σ : Type}

/-- The navigators differ in nothing but the base of their deployments. -/
structure AlikeButBase (n n' : Navigator) : Prop where
  table : n.table = n'.table
  serverFallback : n.deployment.serverFallback = n'.deployment.serverFallback
  issued : n.issued = n'.issued

/-- **Handlers do not see the base.** -/
theorem resolve_eq (h : n.AlikeButBase n') (p : PendingNavigation) : n.resolve p = n'.resolve p := by
  unfold resolve
  rw [h.table]
  split
  · rfl
  · next e c _ =>
    dsimp only
    rw [Route.handle_eq h.serverFallback]

/-! ### Navigations -/

/-- One navigation below the base. -/
theorem navigate_absolute (h : n.AlikeButBase n') (hroot : n'.deployment.base = []) {url : Text}
    (hurl : IsLocal url) :
    (n.navigate (n.deployment.absolute url)).1 = (n'.navigate url).1 ∧
      (n.navigate (n.deployment.absolute url)).2.AlikeButBase (n'.navigate url).2 := by
  have hlocation : Location.ofAddress n.deployment (n.deployment.absolute url) =
      Location.ofAddress n'.deployment url := by
    rw [Location.ofAddress_absolute n.deployment hurl, Location.ofAddress_eq_parse hroot]
  have hlater : (n.navigate (n.deployment.absolute url)).2.AlikeButBase (n'.navigate url).2 :=
    ⟨h.table, h.serverFallback, congrArg (· + 1) h.issued⟩
  refine ⟨?_, hlater⟩
  show Navigator.resolve _ ⟨n.issued + 1, _⟩ = Navigator.resolve _ ⟨n'.issued + 1, _⟩
  rw [hlocation, h.issued]
  exact resolve_eq hlater _

/-- Below its base a navigator over all routes does what one at the root of the server does. -/
theorem exists_rooted {n : Navigator} (htable : RouteTable.standard = .ok n.table) :
    ∃ m : Navigator, m.IsStandard ∧ ∀ url, IsLocal url →
      (n.navigate (n.deployment.absolute url)).1 = (m.navigate url).1 := by
  let m : Navigator := { n with deployment := { n.deployment with base := [] } }
  have halike : n.AlikeButBase m := ⟨rfl, rfl, rfl⟩
  exact ⟨m, ⟨htable, rfl⟩, fun _ hurl => (navigate_absolute halike rfl hurl).1⟩

/-- Navigations to several addresses, one after the other and each to its end: what they come to, with
what they say to the session, and the state in which they leave it. -/
def tour (s : Session σ) : Navigator → List Text → σ → List (Navigation × List Exchange) × σ
  | _, [], st => ([], st)
  | n, url :: urls, st =>
    let (plan, next) := n.navigate url
    let (done, later) := plan.run s st
    let (others, last) := tour s next urls later
    ((done, plan.exchanges s st) :: others, last)

/-- Any number of navigations below the base. -/
theorem tour_absolute (h : n.AlikeButBase n') (hroot : n'.deployment.base = []) (s : Session σ)
    {urls : List Text} (hurls : ∀ url ∈ urls, IsLocal url) (st : σ) :
    n.tour s (urls.map n.deployment.absolute) st = n'.tour s urls st := by
  induction urls generalizing n n' st with
  | nil => rfl
  | cons url urls ih =>
    obtain ⟨hplan, hlater⟩ := navigate_absolute h hroot (hurls url List.mem_cons_self)
    -- navigating leaves the deployment as it is
    have hrest := ih hlater hroot (fun u hu => hurls u (List.mem_cons_of_mem url hu))
      (((n'.navigate url).1.run s st).2)
    replace hrest : (n.navigate (n.deployment.absolute url)).2.tour s
        (urls.map n.deployment.absolute) _ = _ := hrest
    simp only [List.map_cons, tour, hplan, hrest]

/-- **Below any base the application does the same**: for every table, base and session, the navigations
to addresses with the base in front come to the same, under the same numbers, and say the same to the
session, as the navigations to the addresses themselves at the root of the server. -/
theorem tour_below_base (table : RouteTable) (base : Text) (serverFallback : Bool) (s : Session σ)
    {urls : List Text} (hurls : ∀ url ∈ urls, IsLocal url) (st : σ) :
    tour s { table, deployment := { Deployment.ofBase base with serverFallback } }
        (urls.map (Deployment.ofBase base).absolute) st =
      tour s { table, deployment := { serverFallback } } urls st := by
  have halike : AlikeButBase
      { table, deployment := { Deployment.ofBase base with serverFallback } }
      { table, deployment := { serverFallback } } := ⟨rfl, rfl, rfl⟩
  exact tour_absolute halike rfl s hurls st

/-- A query, a page whose path begins like the base, an anchor, and an older link. -/
def addressesSample : List Text :=
  ["?closeAfterLogin", "/review/c/1", "#/c/1", "/c/1"]

/-- Below `/review` the path `/review/c/1` is one of the application itself, and unknown to it. -/
theorem tour_below_base_sample :
    (∀ url ∈ addressesSample, IsLocal url) ∧
      (tour Session.scripted
          { table := overAll.table
            deployment := { Deployment.ofBase "/review/" with serverFallback := true } }
          (addressesSample.map (Deployment.ofBase "/review/").absolute)
          { projects := [(1, "p")] }).1.map (fun done => (done.1.seq, done.1.action)) =
        [(1, .closeWindow), (2, .passThrough), (3, .redirect "/c/1"), (4, .redirect "/c/p/+/1")] := by
  have hlocal : ∀ url ∈ addressesSample, IsLocal url := List.all_iff_forall_prop.1 (by decide)
  refine ⟨hlocal, ?_⟩
  rw [tour_below_base overAll.table "/review/" true Session.scripted hlocal { projects := [(1, "p")] }]
  decide +kernel

end Navigator

end ReviewRouter
