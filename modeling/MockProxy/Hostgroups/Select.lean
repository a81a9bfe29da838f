import MockProxy.Hostgroups.Server
import MockProxy.Lib.Machine
import MockProxy.Lib.PtrArray

/-!
# Choosing a server

`get_random_MySrvC` collects candidates in a scan over the servers of the hostgroup, brings back
shunned servers as it goes, scans a second time if there is no weight at all, drops candidates and
draws one by weight.

A server that is online when it is looked at has to have fewer connections in use than
`max_connections`. A server that is brought back does not (`selects_eligible_iff`).
-/

namespace MockProxy.Hostgroups

open Function Machine MySrvC List

inductive Fault where
  | divisionByZero
  | assertFailed
  | outOfBounds
  | useAfterFree
  | uninitialised
  | nullPointer
  deriving DecidableEq

/-- The weight as it is added to an `unsigned int`. -/
def MySrvC.weight32 (v : MySrvC) : Nat := (v.weight % 2 ^ 32).toNat

/-- `mysrvcCandidates` with its `sum` -/
structure Candidates where
  list : List SrvId
  sum : Nat
  deriving DecidableEq

namespace Servers

variable (env : Env) (r : Request)

/-- A host that is not too far and that serves the request becomes a candidate. -/
def consider (s : Servers) (c : Candidates) (id : SrvId) : Candidates :=
  if (s.srv id).near env && (s.srv id).serves env r then
    ⟨c.list ++ [id], (c.sum + (s.srv id).weight32) % 2 ^ 32⟩
  else c

/-- One server of the first scan. -/
def visit (sc : Servers × Candidates) (id : SrvId) : Servers × Candidates :=
  let v := sc.1.srv id
  if v.status = .online then
    let myhgc := sc.1.hostgroup v.hid
    if myhgc.numOnlineServers ≤ myhgc.attributes.maxNumOnlineServers ∧
        v.connectionsUsed.length < v.maxConnections then
      (sc.1, sc.1.consider env r sc.2 id)
    else sc
  else if v.status = .shunned ∧ v.shunnedAutomatic ∧ env.vars.shunRecoveryTimeSec ≠ 0 ∧
      v.waited env.now env.vars.maxWaitSec then
    let s := sc.1.unshun id
    let s :=
      if env.vars.unshunAlgorithm = 1 then
        s.unshunServerAllHostgroups v.address v.port env.now env.vars.maxWaitSec v.hid
      else s
    (s, s.consider env r sc.2 id)
  else sc

/-- One server of the second scan. -/
def visitDesperate (sc : Servers × Candidates) (id : SrvId) : Servers × Candidates :=
  let v := sc.1.srv id
  if v.status = .shunned ∧ v.shunnedAutomatic ∧
      env.now - v.timeLastDetectedError > env.vars.desperateWaitSec then
    let s := sc.1.unshunDesperate id
    (s, s.consider env r sc.2 id)
  else sc

/-- The loop that removes the writer. The candidate that takes the place of a removed one is not
looked at. -/
def removeWriters (s : Servers) : (fuel j : Nat) → Candidates → Candidates
  | 0, _, c => c
  | fuel + 1, j, c =>
    match c.list[j]? with
    | none => c
    | some id =>
      if (s.srv id).auroraCurrentLagUs = 0 then
        s.removeWriters fuel (j + 1)
          ⟨PtrArray.removeIndexFast j c.list, (c.sum + (2 ^ 32 - (s.srv id).weight32)) % 2 ^ 32⟩
      else s.removeWriters fuel (j + 1) c

def total (s : Servers) (f : MySrvC → Nat) (list : List SrvId) : Nat :=
  list.foldl (fun sum id => (sum + f (s.srv id)) % 2 ^ 32) 0

/-- With Aurora, read from the replicas only if there are enough of them. -/
def onlyReplicas (s : Servers) (c : Candidates) : Candidates :=
  let minNumReplicas := env.vars.auroraMaxLagMsOnlyReadFromReplicas
  if 0 < r.maxLagMs ∧ minNumReplicas ≠ 0 ∧ minNumReplicas ≤ c.list.length ∧
      s.total auroraCurrentLagUs c.list ≠ 0 then
    s.removeWriters c.list.length 0 c
  else c

/-- The loop that removes candidates with more than the average latency. -/
def removeSlow (s : Servers) (avg : Nat) (list : List SrvId) : List SrvId :=
  PtrArray.removeWhere (fun id => (s.srv id).currentLatencyUs > avg) list.length 0 list

/-- The latency awareness algorithm. -/
def latencyAware (s : Servers) (c : Candidates) : Candidates :=
  let minNum := env.vars.minNumServersLatencyAwareness
  if minNum ≠ 0 ∧ minNum ≤ c.list.length ∧
      c.list.countP (fun id => (s.srv id).currentLatencyUs ≠ 0) = c.list.length then
    let avg := s.total currentLatencyUs c.list / c.list.length
    let list := s.removeSlow avg c.list
    ⟨list, s.total weight32 list⟩
  else c

/-- The first candidate whose weight, with those before it, reaches `k`. -/
def pick (s : Servers) (k : Nat) : (sum : Nat) → List SrvId → Option SrvId
  | _, [] => none
  | sum, id :: rest =>
    let sum := (sum + (s.srv id).weight32) % 2 ^ 32
    if k ≤ sum then some id else s.pick k sum rest

/-- Draw one of the candidates. -/
def draw (s : Servers) (c : Candidates) (random : Nat) : Except Fault (Option SrvId) :=
  if c.sum = 0 then .ok none
  else
    let c := s.latencyAware env c
    if c.sum = 0 then .error .divisionByZero
    else .ok (s.pick (random % c.sum + 1) 0 c.list)

/-- The candidates of `get_random_MySrvC` before the draw. -/
def collect (s : Servers) (hid : Nat) : Servers × Candidates :=
  let servers := (s.hostgroup hid).mysrvs
  let first := servers.foldl (visit env r) (s, ⟨[], 0⟩)
  let candidates := first.1.onlyReplicas env r first.2
  if candidates.sum = 0 then servers.foldl (visitDesperate env r) (first.1, candidates)
  else (first.1, candidates)

/-- `MyHGC::get_random_MySrvC`; a session that is not there has both of its variables 0. -/
def getRandomMySrvC (s : Servers) (hid random : Nat) : Except Fault (Option SrvId × Servers) := do
  let collected := s.collect env r hid
  let chosen ← collected.1.draw env collected.2 random
  return (chosen, collected.1)

end Servers

/-! ### What a selection changes -/

namespace MySrvC

/-- The fields that bringing a server back leaves alone, with the others as they are afterwards. -/
def core (v : MySrvC) : MySrvC :=
  { v.cleared with status := .online, shunnedAndKillAllConnections := false }

def Evolves (v v' : MySrvC) : Prop := v' = v ∨ v'.status = .online ∧ v'.core = v.core

variable {v v' : MySrvC}

theorem Evolves.core (evolves : Evolves v v') : v'.core = v.core := by
  rcases evolves with rfl | ⟨-, same⟩
  · rfl
  · exact same

theorem Evolves.trans {v'' : MySrvC} (first : Evolves v v') (second : Evolves v' v'') :
    Evolves v v'' := by
  rcases second with rfl | ⟨online, same⟩
  · exact first
  · exact .inr ⟨online, same.trans first.core⟩

theorem Evolves.online (evolves : Evolves v v') (online : v.status = .online) :
    v'.status = .online := by
  rcases evolves with rfl | ⟨online', -⟩
  · exact online
  · exact online'

theorem Evolves.eq_of_shunned (evolves : Evolves v v') (shunned : v'.status = .shunned) :
    v' = v := by
  rcases evolves with same | ⟨online, -⟩
  · exact same
  · rw [shunned] at online
    cases online

theorem of_core {α : Type} (f : MySrvC → α) (same : v'.core = v.core)
    (reads : ∀ v, f v.core = f v := by exact fun _ => rfl) : f v' = f v := by
  rw [← reads v', same, reads v]

end MySrvC

namespace Servers

variable {s s' : Servers} {env : Env} {r : Request} {P : Servers → Prop} {sc : Servers × Candidates}

def Evolves (s s' : Servers) : Prop := ∀ id, MySrvC.Evolves (s.srv id) (s'.srv id)

theorem Evolves.refl (s : Servers) : Evolves s s := fun _ => .inl rfl

theorem Evolves.trans {s'' : Servers} (first : Evolves s s') (second : Evolves s' s'') :
    Evolves s s'' :=
  fun id => (first id).trans (second id)

theorem srv_refresh (s : Servers) (hid : Nat) : (s.refreshOnlineServerCount hid).srv = s.srv := by
  unfold refreshOnlineServerCount
  split
  · rfl
  · rfl

theorem srv_setStatus (s : Servers) (id : SrvId) (status : Status) :
    (s.setStatus id status).srv = update s.srv id { s.srv id with status := status } := by
  unfold setStatus
  rw [srv_refresh]
  rfl

theorem srv_unshun_self (s : Servers) (id : SrvId) : (s.unshun id).srv id = (s.srv id).core := by
  simp [unshun, put, srv_setStatus, core, cleared]

theorem srv_unshun_of_ne (s : Servers) {id id' : SrvId} (other : id' ≠ id) :
    (s.unshun id).srv id' = s.srv id' := by
  simp [unshun, put, srv_setStatus, other]

theorem evolves_unshun (s : Servers) (id : SrvId) : Evolves s (s.unshun id) := by
  intro id'
  by_cases same : id' = id
  · subst same
    right
    rw [srv_unshun_self]
    exact ⟨rfl, rfl⟩
  · exact .inl (s.srv_unshun_of_ne same)

theorem evolves_unshunDesperate (s : Servers) (id : SrvId) :
    Evolves s (s.unshunDesperate id) ∧ ((s.unshunDesperate id).srv id).status = .online := by
  have here : (s.unshunDesperate id).srv id = { (s.srv id).cleared with status := .online } := by
    simp [unshunDesperate, put, srv_setStatus, cleared]
  refine ⟨?_, by rw [here]⟩
  intro id'
  by_cases same : id' = id
  · subst same
    right
    rw [here]
    exact ⟨rfl, rfl⟩
  · left
    simp [unshunDesperate, put, srv_setStatus, same]

/-- What is kept when one server that has waited is brought back is kept in all hostgroups. -/
theorem unshunServerAllHostgroups_keeps {s : Servers} {address : String} {port : Nat}
    {now maxWaitSec : Int} {skipHid : Nat} (start : P s)
    (keeps : ∀ s id, P s → (s.srv id).waited now maxWaitSec → P (s.unshun id)) :
    P (s.unshunServerAllHostgroups address port now maxWaitSec skipHid) := by
  unfold unshunServerAllHostgroups
  generalize s.hids = hids
  induction hids generalizing s with
  | nil => exact start
  | cons hid hids ih =>
    rw [foldl_cons]
    apply ih
    split
    · exact start
    · split
      · exact start
      · split
        next waited =>
          exact keeps s _ start waited
        · exact start

section

variable (start : P sc.1) (keeps : ∀ s id, P s →
    (s.srv id).waited env.now env.vars.maxWaitSec = true → P (s.unshun id))

include start keeps

theorem visit_keeps (id : SrvId) : P (visit env r sc id).1 := by
  unfold visit
  dsimp only
  split
  · split
    · exact start
    · exact start
  · split
    next recovers =>
      have back := keeps sc.1 id start recovers.2.2.2
      split
      · exact unshunServerAllHostgroups_keeps back keeps
      · exact back
    · exact start

theorem firstScan_keeps (ids : List SrvId) : P (ids.foldl (visit env r) sc).1 := by
  apply foldlRecOn (motive := fun sc : Servers × Candidates => P sc.1)
  · exact start
  · intro sc before id _
    exact visit_keeps before keeps id

end

theorem evolves_unshunServerAllHostgroups (s : Servers) (address : String) (port : Nat)
    (now maxWaitSec : Int) (skipHid : Nat) :
    Evolves s (s.unshunServerAllHostgroups address port now maxWaitSec skipHid) := by
  apply unshunServerAllHostgroups_keeps (Evolves.refl s)
  intro s' id evolved _
  exact evolved.trans (s'.evolves_unshun id)

end Servers

/-! ### What holds of a candidate -/

/-- A selection may bring the server back, in one of its scans. -/
def MySrvC.Recoverable (v : MySrvC) (env : Env) : Prop :=
  v.status = .shunned ∧ v.shunnedAutomatic = true ∧
    (env.vars.shunRecoveryTimeSec ≠ 0 ∧ v.waited env.now env.vars.maxWaitSec = true ∨
      env.now - v.timeLastDetectedError > env.vars.desperateWaitSec)

/-- A candidate that was `v` before the selection and is `v'` now. -/
structure Candidate (env : Env) (r : Request) (v v' : MySrvC) : Prop where
  online : v'.status = .online
  near : v.near env = true
  serves : v.serves env r = true
  roomOrRecovered : v.connectionsUsed.length < v.maxConnections ∨ v.Recoverable env

/-- What a visit of the server `id` may do: servers are brought back, and it becomes a candidate. -/
structure Visited (env : Env) (r : Request) (id : SrvId) (entitled : Prop)
    (sc sc' : Servers × Candidates) : Prop where
  evolves : Servers.Evolves sc.1 sc'.1
  adds : sc'.2 = sc.2 ∨ (entitled ∧ (sc'.1.srv id).status = .online ∧
      (sc'.1.srv id).near env = true ∧ (sc'.1.srv id).serves env r = true) ∧
    sc'.2 = ⟨sc.2.list ++ [id], (sc.2.sum + (sc'.1.srv id).weight32) % 2 ^ 32⟩

/-- The servers may have been brought back, and the candidates are candidates out of `ids`. -/
structure Collecting (env : Env) (r : Request) (s : Servers) (ids : List SrvId)
    (sc : Servers × Candidates) : Prop where
  evolves : Servers.Evolves s sc.1
  candidates : ∀ id ∈ sc.2.list, id ∈ ids ∧ Candidate env r (s.srv id) (sc.1.srv id)

namespace Visited

variable {env : Env} {r : Request} {sc sc' : Servers × Candidates} {id : SrvId} {entitled : Prop}

theorem idle : Visited env r id entitled sc sc := ⟨.refl _, .inl rfl⟩

theorem consider {s' : Servers} (evolves : Servers.Evolves sc.1 s')
    (online : (s'.srv id).status = .online) (allowed : entitled) :
    Visited env r id entitled sc (s', s'.consider env r sc.2 id) := by
  refine ⟨evolves, ?_⟩
  unfold Servers.consider
  split
  next fit =>
    rw [Bool.and_eq_true] at fit
    exact .inr ⟨⟨allowed, online, fit⟩, rfl⟩
  · exact .inl rfl

theorem visit (sc : Servers × Candidates) (id : SrvId) :
    Visited env r id ((sc.1.srv id).connectionsUsed.length < (sc.1.srv id).maxConnections ∨
      (sc.1.srv id).Recoverable env) sc (Servers.visit env r sc id) := by
  unfold Servers.visit
  dsimp only
  split
  next online =>
    split
    next within => exact .consider (.refl _) online (.inl within.2)
    · exact .idle
  · split
    next recovers =>
      obtain ⟨shunned, automatic, recovered⟩ := recovers
      have allowed : (sc.1.srv id).Recoverable env := ⟨shunned, automatic, .inl recovered⟩
      have back : ((sc.1.unshun id).srv id).status = .online := by
        rw [Servers.srv_unshun_self]
        rfl
      have evolves := sc.1.evolves_unshun id
      split
      · have others := (sc.1.unshun id).evolves_unshunServerAllHostgroups (sc.1.srv id).address
          (sc.1.srv id).port env.now env.vars.maxWaitSec (sc.1.srv id).hid
        exact .consider (evolves.trans others) ((others id).online back) (.inr allowed)
      · exact .consider evolves back (.inr allowed)
    · exact .idle

theorem visitDesperate (sc : Servers × Candidates) (id : SrvId) :
    Visited env r id ((sc.1.srv id).Recoverable env) sc (Servers.visitDesperate env r sc id) := by
  unfold Servers.visitDesperate
  dsimp only
  split
  next recovers =>
    obtain ⟨evolves, back⟩ := sc.1.evolves_unshunDesperate id
    exact .consider evolves back ⟨recovers.1, recovers.2.1, .inr recovers.2.2⟩
  · exact .idle

variable (visited : Visited env r id entitled sc sc')

include visited

theorem mem {x : SrvId} (member : x ∈ sc'.2.list) :
    x ∈ sc.2.list ∨ x = id ∧ entitled ∧ (sc'.1.srv id).status = .online ∧
      (sc'.1.srv id).near env ∧ (sc'.1.srv id).serves env r := by
  rcases visited.adds with same | ⟨fit, same⟩
  · exact .inl (same ▸ member)
  · rw [same] at member
    exact (mem_append.mp member).imp_right fun new => ⟨mem_singleton.mp new, fit⟩

variable {s : Servers} {ids : List SrvId}

theorem collecting (collecting : Collecting env r s ids sc) (listed : id ∈ ids)
    (allowed : entitled → (sc.1.srv id).connectionsUsed.length < (sc.1.srv id).maxConnections ∨
      (sc.1.srv id).Recoverable env) : Collecting env r s ids sc' := by
  have now := collecting.evolves.trans visited.evolves
  refine ⟨now, fun x member => ?_⟩
  rcases visited.mem member with old | ⟨rfl, fit, online, near, serves⟩
  · obtain ⟨inside, before⟩ := collecting.candidates x old
    exact ⟨inside, (visited.evolves x).online before.online, before.near, before.serves,
      before.roomOrRecovered⟩
  · rw [MySrvC.of_core (MySrvC.near · env) (now x).core] at near
    rw [MySrvC.of_core (MySrvC.serves · env r) (now x).core] at serves
    refine ⟨listed, online, near, serves, (allowed fit).imp (fun room => ?_) fun recoverable => ?_⟩
    · have core := (collecting.evolves x).core
      rwa [MySrvC.of_core connectionsUsed core,
        MySrvC.of_core maxConnections core] at room
    · -- it has not been brought back yet, so it is as it was
      rwa [(collecting.evolves x).eq_of_shunned recoverable.1] at recoverable

end Visited

namespace Collecting

variable {env : Env} {r : Request} {s : Servers} {ids : List SrvId} {sc : Servers × Candidates}

theorem start (s : Servers) (ids : List SrvId) : Collecting env r s ids (s, ⟨[], 0⟩) :=
  ⟨.refl s, fun _ never => absurd never not_mem_nil⟩

variable (collecting : Collecting env r s ids sc)

include collecting

theorem visit {id : SrvId} (listed : id ∈ ids) :
    Collecting env r s ids (Servers.visit env r sc id) :=
  (Visited.visit sc id).collecting collecting listed fun allowed => allowed

theorem visitDesperate {id : SrvId} (listed : id ∈ ids) :
    Collecting env r s ids (Servers.visitDesperate env r sc id) :=
  (Visited.visitDesperate sc id).collecting collecting listed .inr

theorem scan {visit : Servers × Candidates → SrvId → Servers × Candidates}
    (keeps : ∀ sc id, Collecting env r s ids sc → id ∈ ids → Collecting env r s ids (visit sc id))
    {scanned : List SrvId} (listed : scanned ⊆ ids) :
    Collecting env r s ids (scanned.foldl visit sc) := by
  induction scanned generalizing sc with
  | nil => exact collecting
  | cons id scanned ih =>
    rw [cons_subset] at listed
    exact ih (keeps sc id collecting listed.1) listed.2

theorem of_subset {c : Candidates} (fewer : c.list ⊆ sc.2.list) :
    Collecting env r s ids (sc.1, c) :=
  ⟨collecting.evolves, fun id member => collecting.candidates id (fewer member)⟩

end Collecting

/-! ### The candidates that are left -/

namespace Servers

variable {s : Servers} {env : Env} {id : SrvId}

theorem removeWriters_subset (s : Servers) (fuel j : Nat) (c : Candidates) :
    (s.removeWriters fuel j c).list ⊆ c.list := by
  induction fuel generalizing j c with
  | zero => exact List.Subset.refl c.list
  | succ fuel ih =>
    unfold removeWriters
    split
    · exact List.Subset.refl c.list
    next id there =>
      split
      · intro x member
        exact PtrArray.mem_of_mem_removeIndexFast there (ih _ _ member)
      · exact ih _ c

theorem onlyReplicas_subset (env : Env) (r : Request) (s : Servers) (c : Candidates) :
    (s.onlyReplicas env r c).list ⊆ c.list := by
  unfold onlyReplicas
  dsimp only
  split
  · exact s.removeWriters_subset _ _ c
  · exact List.Subset.refl c.list

theorem latencyAware_subset (env : Env) (s : Servers) (c : Candidates) :
    (s.latencyAware env c).list ⊆ c.list := by
  unfold latencyAware
  dsimp only
  split
  · exact fun id member => PtrArray.mem_of_mem_removeWhere member
  · exact List.Subset.refl c.list

/-- A candidate is picked where the sum of the weights passes `k`, so it has a weight. -/
theorem pick_eq_some {k sum : Nat} {list : List SrvId} (below : sum < k) (fits : sum < 2 ^ 32)
    (picked : s.pick k sum list = some id) : id ∈ list ∧ (s.srv id).weight32 ≠ 0 := by
  induction list generalizing sum with
  | nil => cases picked
  | cons first rest ih =>
    unfold pick at picked
    dsimp only at picked
    split at picked
    next reached =>
      cases picked
      refine ⟨mem_cons_self, ?_⟩
      omega
    next notReached =>
      obtain ⟨member, weight⟩ := ih (by omega) (Nat.mod_lt _ (by decide)) picked
      exact ⟨mem_cons_of_mem first member, weight⟩

theorem draw_eq_some {c : Candidates} {random : Nat} (drawn : s.draw env c random = .ok (some id)) :
    id ∈ c.list ∧ (s.srv id).weight32 ≠ 0 := by
  unfold draw at drawn
  split at drawn
  · cases drawn
  · dsimp only at drawn
    split at drawn
    · cases drawn
    · obtain ⟨member, weight⟩ := pick_eq_some (by omega) (by decide) (Except.ok.inj drawn)
      exact ⟨latencyAware_subset env s c member, weight⟩

theorem collecting_collect (env : Env) (r : Request) (s : Servers) (hid : Nat) :
    Collecting env r s (s.hostgroup hid).mysrvs (s.collect env r hid) := by
  have first : Collecting env r s _ _ := (Collecting.start s (s.hostgroup hid).mysrvs).scan
    (fun _ _ collecting => collecting.visit) (List.Subset.refl _)
  unfold collect
  dsimp only
  generalize (s.hostgroup hid).mysrvs.foldl (visit env r) (s, ⟨[], 0⟩) = sc at first ⊢
  have fewer := first.of_subset (onlyReplicas_subset env r sc.1 sc.2)
  split
  · exact fewer.scan (fun _ _ collecting => collecting.visitDesperate) (List.Subset.refl _)
  · exact fewer

theorem collect_subset (env : Env) (r : Request) (s : Servers) (hid : Nat) :
    (s.collect env r hid).2.list ⊆ (s.hostgroup hid).mysrvs :=
  fun id member => ((collecting_collect env r s hid).candidates id member).1

end Servers

/-! ### The server that is returned -/

/-- What a request may expect of the server it gets. -/
structure MySrvC.Eligible (v : MySrvC) (env : Env) (r : Request) : Prop where
  online : v.status = .online
  room : v.connectionsUsed.length < v.maxConnections
  latency : v.currentLatencyUs ≤ v.maxLatency env
  serves : v.serves env r = true

/-- A server that a selection may bring back and return although all its connections are in use. -/
structure MySrvC.ReturnsFull (v : MySrvC) (env : Env) (r : Request) : Prop where
  recoverable : v.Recoverable env
  full : v.maxConnections ≤ v.connectionsUsed.length
  near : v.near env = true
  serves : v.serves env r = true
  weight : v.weight32 ≠ 0

namespace Servers

variable {env : Env} {r : Request} (s : Servers)

theorem srv_lookup (hid : Nat) : (s.lookup hid).srv = s.srv := by
  unfold lookup
  split
  · rfl
  · rfl

variable {s s' : Servers} {hid random : Nat} {id : SrvId} {v : MySrvC}

theorem Evolves.of_lookup (evolves : Evolves (s.lookup hid) s') : Evolves s s' := by
  unfold Evolves at evolves
  rwa [srv_lookup] at evolves

theorem getRandomMySrvC_evolves {chosen : Option SrvId}
    (returned : getRandomMySrvC env r s hid random = .ok (chosen, s')) : Evolves s s' := by
  obtain ⟨chosen, -, ⟨⟩⟩ := return_eq_ok.mp returned
  exact (collecting_collect env r s hid).evolves

section

variable (returned : getRandomMySrvC env r s hid random = .ok (some id, s'))

include returned

theorem getRandomMySrvC_eq_some :
    MySrvC.Evolves (s.srv id) (s'.srv id) ∧ Candidate env r (s.srv id) (s'.srv id) ∧
      (s.srv id).weight32 ≠ 0 := by
  obtain ⟨chosen, drawn, ⟨⟩⟩ := return_eq_ok.mp returned
  obtain ⟨member, weight⟩ := draw_eq_some drawn
  have collecting := collecting_collect env r s hid
  have evolves := collecting.evolves id
  rw [MySrvC.of_core weight32 evolves.core] at weight
  exact ⟨evolves, (collecting.candidates id member).2, weight⟩

theorem mem_of_returned : id ∈ (s.hostgroup hid).mysrvs := by
  obtain ⟨chosen, drawn, ⟨⟩⟩ := return_eq_ok.mp returned
  exact collect_subset env r s hid (draw_eq_some drawn).1

theorem eligible_of_returned
    (sound : ¬ (s.srv id).ReturnsFull env r) : (s'.srv id).Eligible env r := by
  obtain ⟨evolves, candidate, weight⟩ := getRandomMySrvC_eq_some returned
  have core := evolves.core
  constructor
  · exact candidate.online
  · rw [MySrvC.of_core connectionsUsed core,
      MySrvC.of_core maxConnections core]
    rcases candidate.roomOrRecovered with room | recoverable
    · exact room
    · by_contra full
      exact sound ⟨recoverable, not_lt.mp full, candidate.near, candidate.serves, weight⟩
  · have near : (s.srv id).currentLatencyUs < (s.srv id).maxLatency env % 2 ^ 32 :=
      of_decide_eq_true candidate.near
    rw [MySrvC.of_core currentLatencyUs core,
      MySrvC.of_core (maxLatency · env) core]
    exact near.le.trans (Nat.mod_le _ _)
  · rw [MySrvC.of_core (MySrvC.serves · env r) core]
    exact candidate.serves

end

/-! ### A hostgroup of one server -/

def alone (v : MySrvC) : Servers where
  srv := fun _ => v
  hids := [v.hid]
  hostgroup := fun _ => { MyHGC.create with mysrvs := [0] }

theorem weight32_lt (v : MySrvC) : v.weight32 < 2 ^ 32 := by
  unfold weight32
  omega

theorem consider_alone (core : (s.srv 0).core = v.core) (full : v.ReturnsFull env r) :
    s.consider env r ⟨[], 0⟩ 0 = ⟨[0], v.weight32⟩ := by
  have near := MySrvC.of_core (MySrvC.near · env) core
  have serves := MySrvC.of_core (MySrvC.serves · env r) core
  have weight := MySrvC.of_core weight32 core
  unfold consider
  rw [near, serves, full.near, full.serves, weight, Nat.zero_add,
    Nat.mod_eq_of_lt (weight32_lt v)]
  rfl

theorem onlyReplicas_empty : s.onlyReplicas env r ⟨[], 0⟩ = ⟨[], 0⟩ := by
  unfold onlyReplicas
  dsimp only
  split
  · rfl
  · rfl

theorem total_single (f : MySrvC → Nat) (id : SrvId) : s.total f [id] = f (s.srv id) % 2 ^ 32 := by
  simp [total]

theorem onlyReplicas_single (id : SrvId) (sum : Nat) :
    s.onlyReplicas env r ⟨[id], sum⟩ = ⟨[id], sum⟩ := by
  unfold onlyReplicas
  dsimp only
  split
  next replicas =>
    have lag : (s.srv id).auroraCurrentLagUs ≠ 0 := by
      intro none
      exact replicas.2.2.2 (by rw [total_single, none, Nat.zero_mod])
    simp [removeWriters, lag]
  · rfl

theorem latencyAware_single (near : (s.srv id).near env) :
    s.latencyAware env ⟨[id], (s.srv id).weight32⟩ = ⟨[id], (s.srv id).weight32⟩ := by
  have bounded : (s.srv id).currentLatencyUs < (s.srv id).maxLatency env % 2 ^ 32 :=
    of_decide_eq_true near
  have latency : (s.srv id).currentLatencyUs % 2 ^ 32 = (s.srv id).currentLatencyUs := by
    omega
  have alone : s.removeSlow (s.srv id).currentLatencyUs [id] = [id] := by
    simp [removeSlow, PtrArray.removeWhere]
  unfold latencyAware
  dsimp only
  split
  · rw [total_single, latency, length_singleton, Nat.div_one, alone, total_single,
      Nat.mod_eq_of_lt (weight32_lt _)]
  · rfl

theorem draw_alone (core : (s.srv 0).core = v.core) (full : v.ReturnsFull env r) (random : Nat) :
    s.draw env ⟨[0], v.weight32⟩ random = .ok (some 0) := by
  have near : (s.srv 0).near env := by
    rw [MySrvC.of_core (MySrvC.near · env) core]
    exact full.near
  have weight := MySrvC.of_core weight32 core
  have positive : 0 < (s.srv 0).weight32 := by
    rw [weight]
    exact Nat.pos_of_ne_zero full.weight
  have reached : random % (s.srv 0).weight32 + 1 ≤ (s.srv 0).weight32 % 2 ^ 32 := by
    rw [Nat.mod_eq_of_lt (weight32_lt _)]
    exact Nat.mod_lt random positive
  rw [← weight]
  unfold draw
  rw [if_neg positive.ne', latencyAware_single near]
  rw [if_neg positive.ne']
  unfold pick
  rw [Nat.zero_add, if_pos reached]

theorem collect_alone (full : v.ReturnsFull env r) :
    ∃ s', (alone v).collect env r v.hid = (s', ⟨[0], v.weight32⟩) ∧ (s'.srv 0).core = v.core := by
  obtain ⟨shunned, automatic, either⟩ := full.recoverable
  have servers : ((alone v).hostgroup v.hid).mysrvs = [0] := rfl
  by_cases waited : env.vars.shunRecoveryTimeSec ≠ 0 ∧ v.waited env.now env.vars.maxWaitSec
  · -- the first scan brings it back, and there is no other hostgroup
    have back : ((((alone v).unshun 0).srv 0)).core = v.core := by
      rfl
    have others : ((alone v).unshun 0).unshunServerAllHostgroups v.address v.port env.now
        env.vars.maxWaitSec v.hid = (alone v).unshun 0 := by
      simp [unshunServerAllHostgroups, unshun, put, setStatus, refreshOnlineServerCount, alone]
    have visited : visit env r (alone v, ⟨[], 0⟩) 0 =
        ((alone v).unshun 0, ⟨[0], v.weight32⟩) := by
      unfold visit
      dsimp only
      rw [if_neg (by simp [alone, shunned]), if_pos
        (by simpa [alone, shunned, automatic] using waited)]
      have same : (alone v).srv 0 = v := rfl
      rw [same, others, ite_self, consider_alone back full]
    refine ⟨(alone v).unshun 0, ?_, back⟩
    unfold collect
    dsimp only
    rw [servers, foldl_cons, foldl_nil, visited]
    rw [onlyReplicas_single, if_neg full.weight]
  · have desperate := either.resolve_left waited
    have back : ((((alone v).unshunDesperate 0).srv 0)).core = v.core :=
      ((alone v).evolves_unshunDesperate 0).1 0 |>.core
    have skipped : visit env r (alone v, ⟨[], 0⟩) 0 = (alone v, ⟨[], 0⟩) := by
      unfold visit
      rw [if_neg (by simp [alone, shunned]), if_neg
        (by simpa [alone, shunned, automatic] using waited)]
    have visited : visitDesperate env r (alone v, ⟨[], 0⟩) 0 =
        ((alone v).unshunDesperate 0, ⟨[0], v.weight32⟩) := by
      unfold visitDesperate
      dsimp only
      rw [if_pos ⟨shunned, automatic, desperate⟩, consider_alone back full]
    refine ⟨(alone v).unshunDesperate 0, ?_, back⟩
    unfold collect
    dsimp only
    rw [servers, foldl_cons, foldl_nil, skipped]
    rw [onlyReplicas_empty, if_pos rfl, foldl_cons, foldl_nil, visited]

/-- A server is eligible whenever it is returned, exactly if it is not one that a selection may
bring back and return although all its connections are in use. -/
theorem selects_eligible_iff (env : Env) (r : Request) (v : MySrvC) :
    (∀ (s s' : Servers) (hid random : Nat) (id : SrvId), s.srv id = v →
      getRandomMySrvC env r s hid random = .ok (some id, s') → (s'.srv id).Eligible env r) ↔
      ¬ v.ReturnsFull env r := by
  constructor
  · intro eligible full
    obtain ⟨s', collected, core⟩ := collect_alone full
    have returned : getRandomMySrvC env r (alone v) v.hid 0 = .ok (some 0, s') := by
      apply bind_eq_ok.mpr
      rw [collected]
      exact ⟨some 0, draw_alone core full 0, rfl⟩
    have room := (eligible (alone v) s' v.hid 0 0 rfl returned).room
    rw [MySrvC.of_core connectionsUsed core,
      MySrvC.of_core maxConnections core] at room
    exact absurd full.full (not_le.mpr room)
  · intro sound s s' hid random id was returned
    apply eligible_of_returned returned
    rw [was]
    exact sound

/-- A server with its only connection in use that was shunned 100 seconds ago. -/
def shunnedFull : MySrvC where
  hid := 1
  address := "db1"
  port := 3306
  weight := 1
  status := .shunned
  maxConnections := 1
  auroraCurrentLagUs := 0
  currentLatencyUs := 0
  maxLatencyUs := 0
  maxConnectionsUsed := 1
  timeLastDetectedError := 0
  connectErrAtTimeLastDetectedError := 5
  shunnedAutomatic := true
  shunnedAndKillAllConnections := false
  connectionsUsed := [0]
  connectionsFree := []

/-- The variables as they are by default. -/
def defaultEnv : Env where
  now := 100
  vars :=
    { defaultMaxLatencyMs := 1000
      shunRecoveryTimeSec := 10
      connectTimeoutServerMax := 10000
      unshunAlgorithm := 0
      auroraMaxLagMsOnlyReadFromReplicas := 2
      minNumServersLatencyAwareness := 1000 }
  gtidMap := fun _ => none

/-- It is returned. -/
theorem full_server_returned :
    ∃ s', getRandomMySrvC defaultEnv ⟨none, 0, -1⟩ (alone shunnedFull) 1 0 = .ok (some 0, s') ∧
      (s'.srv 0).maxConnections = 1 ∧ (s'.srv 0).connectionsUsed = [0] :=
  ⟨_, rfl, rfl, rfl⟩

end Servers

end MockProxy.Hostgroups
