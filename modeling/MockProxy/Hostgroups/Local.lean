import MockProxy.Hostgroups.Connection
import MockProxy.Hostgroups.Select

/-!
# The connections a thread keeps for itself

`get_MyConn_local` looks for a connection of a hostgroup that the client could use as it is, first
among those that the thread has cached. Without a GTID it returns the first suitable one. With a
GTID it returns none: a server is asked for the GTID only if it is already among the excluded ones,
and these are never looked at.
-/

namespace MockProxy.Hostgroups

open Variables

variable {hash : String → Nat}

/-- What the checks before those of the server ask of a connection. -/
def Conn.suits (c : Conn hash) (client : Tracked hash) : Bool :=
  client.matchTrackedOptions c.tracked ∧ c.tracked.vars.requiresChangeUser client.vars = false ∧
    c.tracked.vars.userinfo.schemaname = client.vars.userinfo.schemaname ∧
    (c.tracked.vars.numberOfMatchingSessionVariables client.vars 0).2 = 0

/-- How the loop goes on after one connection; `parents` are the servers excluded for the GTID. -/
inductive Next where
  | take
  | skip (parents : List SrvId)
  deriving DecidableEq

/-- The last checks, for a connection that suits the client. -/
def Conn.lastChecks (c : Conn hash) (env : Env) (srv : SrvId → MySrvC) (r : Request)
    (parents : List SrvId) : Next :=
  match r.gtidUuid with
  | some uuid =>
    if c.parent ∈ parents then
      if env.gtidExists (srv c.parent) uuid r.gtidTrxid then .take
        else .skip (parents ++ [c.parent])
    else .skip parents
  | none => if (srv c.parent).lagWithin r.maxLagMs then .take else .skip parents

/-- The body of the loop of `get_MyConn_local`. -/
def Conn.look (c : Conn hash) (env : Env) (srv : SrvId → MySrvC) (hid : Nat) (client : Tracked hash)
    (r : Request) (parents : List SrvId) : Next :=
  if (srv c.parent).hid = hid ∧ (r.gtidUuid = none ∨ c.parent ∉ parents) ∧ c.suits client then
    c.lastChecks env srv r parents
  else .skip parents

/-- The index at which the loop returns. -/
def findLocal (env : Env) (srv : SrvId → MySrvC) (hid : Nat) (client : Tracked hash) (r : Request) :
    (i : Nat) → (parents : List SrvId) → List (Conn hash) → Option Nat
  | _, _, [] => none
  | i, parents, c :: rest =>
    match c.look env srv hid client r parents with
    | .take => some i
    | .skip parents => findLocal env srv hid client r (i + 1) parents rest

/-- `MySQL_Thread::get_MyConn_local`: the connection and what is left of `cached_connections`.
`client` is `sess->client_myds->myconn`, if that and its `userinfo` are there. -/
def getMyConnLocal (env : Env) (srv : SrvId → MySrvC) (hid : Nat) (client : Option (Tracked hash))
    (r : Request) (cached : List (Conn hash)) : Option (Conn hash) × List (Conn hash) :=
  match client with
  | none => (none, cached)
  | some client =>
    match findLocal env srv hid client r 0 [] cached with
    | none => (none, cached)
    | some i => (cached[i]?, PtrArray.removeIndexFast i cached)

/-! ### What is looked for -/

def MySrvC.Satisfies (v : MySrvC) (env : Env) (r : Request) : Prop :=
  match r.gtidUuid with
  | some uuid => env.gtidExists v uuid r.gtidTrxid = true
  | none => v.lagWithin r.maxLagMs = true

/-- A cached connection that the request could use. -/
structure Conn.Suitable (c : Conn hash) (env : Env) (srv : SrvId → MySrvC) (hid : Nat)
    (client : Option (Tracked hash)) (r : Request) : Prop where
  hostgroup : (srv c.parent).hid = hid
  client : ∃ d ∈ client, d.matchTrackedOptions c.tracked = true ∧
    c.tracked.vars.requiresChangeUser d.vars = false ∧
    c.tracked.vars.userinfo.schemaname = d.vars.userinfo.schemaname ∧
    c.tracked.vars.MatchesAll d.vars
  server : (srv c.parent).Satisfies env r

section

variable {env : Env} {srv : SrvId → MySrvC} {hid : Nat} {client : Tracked hash} {r : Request}
  {uuid : String}

theorem Conn.suitable_iff (c : Conn hash) : c.Suitable env srv hid (some client) r ↔
      (srv c.parent).hid = hid ∧ c.suits client ∧ (srv c.parent).Satisfies env r := by
  have suits : c.suits client ↔ client.matchTrackedOptions c.tracked ∧
      c.tracked.vars.requiresChangeUser client.vars = false ∧
      c.tracked.vars.userinfo.schemaname = client.vars.userinfo.schemaname ∧
      c.tracked.vars.MatchesAll client.vars := by
    rw [← MysqlConnection.notMatching_eq_zero_iff, Conn.suits, decide_eq_true_iff]
  rw [suits]
  constructor
  · rintro ⟨hostgroup, ⟨d, here, fits⟩, server⟩
    cases here
    exact ⟨hostgroup, fits, server⟩
  · rintro ⟨hostgroup, fits, server⟩
    exact ⟨hostgroup, ⟨client, rfl, fits⟩, server⟩

theorem Conn.look_of_none (noGtid : r.gtidUuid = none) (c : Conn hash) (parents : List SrvId) :
    c.Suitable env srv hid (some client) r ∧ c.look env srv hid client r parents = .take ∨
      ¬ c.Suitable env srv hid (some client) r ∧
        c.look env srv hid client r parents = .skip parents := by
  have server : (srv c.parent).Satisfies env r ↔ (srv c.parent).lagWithin r.maxLagMs := by
    rw [MySrvC.Satisfies, noGtid]
  rw [Conn.suitable_iff, server, Conn.look, Conn.lastChecks, noGtid]
  by_cases fits : (srv c.parent).hid = hid ∧ c.suits client
  · rw [if_pos ⟨fits.1, .inl rfl, fits.2⟩]
    by_cases near : (srv c.parent).lagWithin r.maxLagMs
    · exact .inl ⟨⟨fits.1, fits.2, near⟩, if_pos near⟩
    · exact .inr ⟨fun all => near all.2.2, if_neg near⟩
  · right
    refine ⟨fun all => fits ⟨all.1, all.2.1⟩, if_neg ?_⟩
    intro all
    exact fits ⟨all.1, all.2.2⟩

theorem Conn.look_of_some (gtid : r.gtidUuid = some uuid) (c : Conn hash) (parents : List SrvId) :
    c.look env srv hid client r parents = .skip parents := by
  rw [Conn.look, Conn.lastChecks, gtid]
  split
  next fits =>
    have notExcluded : c.parent ∉ parents := by
      rcases fits.2.1 with none | notExcluded
      · cases none
      · exact notExcluded
    exact if_neg notExcluded
  · rfl

theorem findLocal_of_some (gtid : r.gtidUuid = some uuid) (cached : List (Conn hash)) (i : Nat)
    (parents : List SrvId) : findLocal env srv hid client r i parents cached = none := by
  induction cached generalizing i with
  | nil => rfl
  | cons c rest ih =>
    rw [findLocal, Conn.look_of_some gtid]
    exact ih (i + 1)

/-- The index found is that of a suitable connection; if none is found, there is none. -/
def Finds (suitable : Conn hash → Prop) (cached : List (Conn hash)) (i : Nat) : Option Nat → Prop
  | none => ∀ c ∈ cached, ¬ suitable c
  | some j => ∃ k c, j = i + k ∧ cached[k]? = some c ∧ suitable c

theorem findLocal_of_none (env : Env) (srv : SrvId → MySrvC) (hid : Nat) (client : Tracked hash)
    (noGtid : r.gtidUuid = none) (cached : List (Conn hash)) (i : Nat) (parents : List SrvId) :
    Finds (fun c => c.Suitable env srv hid (some client) r) cached i
      (findLocal env srv hid client r i parents cached) := by
  induction cached generalizing i with
  | nil =>
    intro c never
    cases never
  | cons c rest ih =>
    rw [findLocal]
    rcases c.look_of_none noGtid parents with ⟨suitable, taken⟩ | ⟨unsuitable, skipped⟩
    · rw [taken]
      exact ⟨0, c, rfl, rfl, suitable⟩
    · rw [skipped]
      dsimp only
      have later := ih (i + 1)
      cases found : findLocal env srv hid client r (i + 1) parents rest with
      | none =>
        rw [found] at later
        exact List.forall_mem_cons.mpr ⟨unsuitable, later⟩
      | some j =>
        rw [found] at later
        obtain ⟨k, d, rfl, there, suitable⟩ := later
        exact ⟨k + 1, d, by omega, there, suitable⟩

end

/-! ### What is returned -/

/-- The result for a request: a connection if there is a suitable one, which is then taken out and
is suitable; nothing else is removed. -/
structure TakesSuitable (suitable : Conn hash → Prop) (cached : List (Conn hash))
    (result : Option (Conn hash) × List (Conn hash)) : Prop where
  found : result.1.isSome = true ↔ ∃ c ∈ cached, suitable c
  taken : ∀ c ∈ result.1, suitable c ∧ (c :: result.2).Perm cached
  kept : result.1 = none → result.2 = cached

theorem takesSuitable_none_iff (suitable : Conn hash → Prop) (cached : List (Conn hash)) :
    TakesSuitable suitable cached (none, cached) ↔ ∀ c ∈ cached, ¬ suitable c := by
  constructor
  · intro takes c member isSuitable
    have some := takes.found.mpr ⟨c, member, isSuitable⟩
    cases some
  · intro never
    constructor
    · constructor
      · intro some
        cases some
      · rintro ⟨c, member, isSuitable⟩
        exact absurd isSuitable (never c member)
    · intro c here
      cases here
    · intro _
      rfl

/-- A cached connection is returned, and taken out, exactly if there is a suitable one, for every
request without a GTID; for a request with a GTID this is so only if there is none. -/
theorem getMyConnLocal_takes_iff (env : Env) (srv : SrvId → MySrvC) (hid : Nat)
    (client : Option (Tracked hash)) (r : Request) (cached : List (Conn hash)) :
    TakesSuitable (fun c => c.Suitable env srv hid client r) cached
        (getMyConnLocal env srv hid client r cached) ↔
      r.gtidUuid = none ∨ ∀ c ∈ cached, ¬ c.Suitable env srv hid client r := by
  cases client with
  | none =>
    have never : ∀ c ∈ cached, ¬ c.Suitable env srv hid none r := by
      rintro c - ⟨-, ⟨d, nobody, -⟩, -⟩
      cases nobody
    exact iff_of_true ((takesSuitable_none_iff _ cached).mpr never) (.inr never)
  | some client =>
    unfold getMyConnLocal
    dsimp only
    cases gtid : r.gtidUuid with
    | some uuid =>
      rw [findLocal_of_some gtid, takesSuitable_none_iff]
      simp
    | none =>
      have finds := findLocal_of_none env srv hid client gtid cached 0 []
      refine iff_of_true ?_ (.inl rfl)
      split
      next notFound =>
        rw [notFound] at finds
        exact (takesSuitable_none_iff _ cached).mpr finds
      next i found =>
        rw [found] at finds
        obtain ⟨k, c, rfl, there, suitable⟩ := finds
        rw [Nat.zero_add, there]
        have member := List.mem_of_getElem? there
        constructor
        · exact iff_of_true rfl ⟨c, member, suitable⟩
        · intro d same
          cases same
          exact ⟨suitable, PtrArray.removeIndexFast_perm there⟩
        · intro none
          cases none

/-- A server in hostgroup 1 that is asked for a transaction it has, and a connection to it that
suits the client. -/
theorem gtid_connection_not_returned :
    ∃ (env : Env) (srv : SrvId → MySrvC) (client : Tracked fun _ => 1) (r : Request)
      (c : Conn fun _ => 1), c.Suitable env srv 1 (some client) r ∧
        getMyConnLocal env srv 1 (some client) r [c] = (none, [c]) := by
  let executed : GtidServerData := ⟨true, fun _ => some [(1, 100)]⟩
  let env : Env := { Servers.defaultEnv with gtidMap := fun _ => some executed }
  let srv : SrvId → MySrvC := fun _ => { Servers.shunnedFull with status := .online }
  let client : Tracked fun _ => 1 := ⟨0, .create ⟨"", "", 0⟩⟩
  have all : client.vars.MatchesAll client.vars := ⟨fun _ _ _ _ => rfl, fun _ _ => rfl⟩
  let r : Request := ⟨some "server", 7, -1⟩
  have gtid : r.gtidUuid = some "server" := rfl
  refine ⟨env, srv, client, r, Conn.create 0 true, ?_, ?_⟩
  · have options : client.matchTrackedOptions client = true :=
      decide_eq_true ⟨rfl, rfl, rfl, rfl⟩
    have sameUser : client.vars.requiresChangeUser client.vars = false := by decide +kernel
    have server : (srv 0).Satisfies env r := by
      simp [MySrvC.Satisfies, Env.gtidExists, GtidServerData.gtidExists, env, r, executed,
        Int.bmod_def]
    exact ⟨rfl, ⟨client, rfl, options, sameUser, rfl, all⟩, server⟩
  · unfold getMyConnLocal
    dsimp only
    rw [findLocal_of_some gtid]

end MockProxy.Hostgroups
