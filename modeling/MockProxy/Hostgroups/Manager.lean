import MockProxy.Hostgroups.ConnList

/-!
# The connection pool

The operations of `MySQL_HostGroups_Manager` that move connections: a session gets a connection from
the pool, pushes it back or destroys it; and idle connections are handed out to be pinged, after
those that are too many or too old are dropped.

A connection that is to be reset stays among the used ones while it waits in the queue.
-/

namespace MockProxy.Hostgroups

open Machine

variable {hash : String → Nat}

namespace Manager

/-! ### Getting, pushing, destroying -/

variable (m : Manager hash)

/-- `ConnectionsUsed->add` and `update_max_connections_used` -/
def hand (id : SrvId) (c : ConnId) : Manager hash :=
  let v := m.srv id
  let used := v.connectionsUsed ++ [c]
  m.putSrv id
    { v with connectionsUsed := used, maxConnectionsUsed := max v.maxConnectionsUsed used.length }

def getMyConnFromPool (env : Env) (pool : PoolEnv) (hid : Nat) (r : Request)
    (client : Option (Tracked hash)) (ff : Bool) (random : Nat × Nat) :
    Except Fault (Option ConnId × Manager hash) := do
  let selected ← Servers.getRandomMySrvC env r (m.servers.lookup hid) hid random.1
  let m := { m with servers := selected.2 }
  match selected.1 with
  | none => return (none, m)
  | some id =>
    let found ← m.getRandomMyConn pool id client ff random.2
    match found.1 with
    | none => return found
    | some c => return (some c, found.2.hand id c)

variable (pool : PoolEnv)

/-- A connection that is still good waits to be reset instead of being deleted, if there is room in
the queue. -/
def resettable (conn : Conn hash) : Except Fault Bool :=
  if (m.srv conn.parent).status = .online ∧ conn.sendQuit then do
    let h ← pool.handler
    return m.queue.length < h.connpollResetQueueLength ∧ conn.asyncIdle ∧
      ¬ (2000 ≤ conn.errno ∧ conn.errno < 3000)
  else return false

def destroyMyConnFromPool (c : ConnId) : Except Fault (Manager hash) := do
  let conn ← m.conn c
  let toReset ← m.resettable pool conn
  if toReset then return { m with queue := m.queue ++ [c] }
  else
    let m ← m.removeUsed conn.parent c
    m.delete c

def pushMyConnToPool (c : ConnId) : Except Fault (Manager hash) := do
  let conn ← m.conn c
  let m ← (m.putConn c { conn with autoIncrementDelayToken := 0 }).removeUsed conn.parent c
  match pool.gloMTH with
  | none => return m
  | some h =>
    if conn.largestQueryLength > h.thresholdQueryLength then m.delete c
    else if (m.srv conn.parent).status = .online then
      if conn.asyncIdle then
        if conn.numBackendStmts > h.maxStmtsPerConnection then
          (m.addUsed conn.parent c).destroyMyConnFromPool pool c
        else return m.addFree conn.parent c
      else m.delete c
    else m.delete c

/-! ### Idle connections -/

/-- The loop over the ages of the free connections. A connection that is too old makes it drop the
first one. -/
def dropAged (now maxAge : Nat) (id : SrvId) :
    (fuel i : Nat) → Manager hash → Except Fault (Manager hash)
  | 0, _, m => .ok m
  | fuel + 1, i, m =>
    match (m.srv id).connectionsFree[i]? with
    | none => .ok m
    | some c => do
      let conn ← m.conn c
      if now > conn.creationTime + maxAge then
        let m ← m.dropFree id
        dropAged now maxAge id fuel i m
      else dropAged now maxAge id fuel (i + 1) m

/-- `ConnectionsFree` is not empty and the connections are more than `max_connections`. -/
def beyondMax (v : MySrvC) : Bool :=
  v.connectionsFree ≠ [] ∧
    ((v.connectionsUsed.length + v.connectionsFree.length : Nat) : Int) > v.maxConnections

def dropOffline (id : SrvId) : Except Fault (Manager hash) :=
  if (m.srv id).status ≠ .online then m.dropAllWhile id fun v => v.connectionsFree ≠ [] else .ok m

/-- One server of `drop_all_idle_connections`. -/
def dropIdleConnections (id : SrvId) : Except Fault (Manager hash) := do
  let m ← m.dropOffline id
  let m ← m.dropAllWhile id beyondMax
  let limit := m.expectedFree pool id
  let m ← m.dropAllWhile id fun v => (v.connectionsFree.length : Int) > limit
  if pool.connectionMaxAgeMs ≠ 0 then
    dropAged pool.monotonicTime (pool.connectionMaxAgeMs * 1000) id
      (m.srv id).connectionsFree.length 0 m
  else return m

def serversOf (hids : List Nat) : List SrvId :=
  hids.flatMap fun hid => (m.servers.hostgroup hid).mysrvs

def dropAllIdleConnections : Except Fault (Manager hash) :=
  (m.serversOf m.servers.hids).foldlM (fun m id => m.dropIdleConnections pool id) m

end Manager

/-- An entry of `oldest_idle_connections`. -/
structure Idle where
  lastTimeUsed : Nat
  mysrvc : SrvId
  index : Nat
  deriving DecidableEq

def insertIdle (e : Idle) : List Idle → List Idle
  | [] => [e]
  | x :: xs => if e.lastTimeUsed < x.lastTimeUsed then e :: x :: xs else x :: insertIdle e xs

theorem insertIdle_perm (e : Idle) (oldest : List Idle) :
    (insertIdle e oldest).Perm (e :: oldest) := by
  induction oldest with
  | nil => exact .refl _
  | cons first rest ih =>
    unfold insertIdle
    split
    · exact .refl _
    · exact (ih.cons first).trans (.swap ..)

/-- Keep the `numConn` oldest. -/
def offerIdle (maxLastTimeUsed numConn : Nat) (oldest : List Idle) (e : Idle) : List Idle :=
  if e.lastTimeUsed ≠ 0 ∧ e.lastTimeUsed < maxLastTimeUsed then
    if oldest.length < numConn then insertIdle e oldest
    else match oldest.getLast? with
      | none => oldest
      | some last =>
        if e.lastTimeUsed < last.lastTimeUsed then insertIdle e oldest.dropLast else oldest
  else oldest

namespace Manager

variable (m : Manager hash)

/-- The free connections of one server are offered. -/
def offerServer (maxLastTimeUsed numConn : Nat) (oldest : List Idle) (id : SrvId) :
    Except Fault (List Idle) :=
  (m.srv id).connectionsFree.zipIdx.foldlM (fun oldest c => do
    let conn ← m.conn c.1
    return offerIdle maxLastTimeUsed numConn oldest ⟨conn.lastTimeUsed, id, c.2⟩) oldest

def examined : Option Nat → List Nat
  | none => m.servers.hids
  | some hid => if hid ∈ m.servers.hids then [hid] else []

def movesOf (oldest : List Idle) (order : List SrvId) : List (SrvId × Nat) :=
  order.flatMap fun id =>
    (((oldest.filter fun e => e.mysrvc = id).map Idle.index).mergeSort (· ≥ ·)).map fun k => (id, k)

/-- The connections are moved from the free to the used ones. -/
def moveIdle (numConn : Nat) : List (SrvId × Nat) → List ConnId → Manager hash →
    Except Fault (List ConnId × Manager hash)
  | [], moved, m => .ok (moved, m)
  | (id, k) :: moves, moved, m => do
    let taken ← m.takeFree id k
    let m := taken.2.addUsed id taken.1
    if numConn ≤ moved.length + 1 then return (moved ++ [taken.1], m)
    else moveIdle numConn moves (moved ++ [taken.1]) m

/-- `get_multiple_idle_connections`. The servers are gone through in the order of an
`unordered_map`; `order` is that order. -/
def getMultipleIdleConnections (pool : PoolEnv) (hid : Option Nat) (maxLastTimeUsed numConn : Nat)
    (order : List SrvId → List SrvId) : Except Fault (List ConnId × Manager hash) := do
  let m ← m.dropAllIdleConnections pool
  let oldest ← (m.serversOf (m.examined hid)).foldlM (m.offerServer maxLastTimeUsed numConn) []
  moveIdle numConn (movesOf oldest (order (oldest.map Idle.mysrvc).dedup)) [] m

/-! ### What dropping connections keeps -/

variable {m m' : Manager hash}

def DropClosed (P : Manager hash → Prop) : Prop :=
  ∀ m m' id, P m → m.dropFree id = .ok m' → P m'

def GroupClosed (P : Manager hash → Prop) : Prop :=
  ∀ m servers, P m → servers.srv = m.servers.srv → P { m with servers := servers }

variable {P : Manager hash → Prop} {id : SrvId} {pool : PoolEnv}

section

variable (drops : DropClosed P) (holds : P m)

include drops holds

theorem dropFreeWhile_keeps {reason : MySrvC → Bool} {fuel : Nat}
    (done : dropFreeWhile reason id fuel m = .ok m') : P m' := by
  induction fuel generalizing m with
  | zero =>
    cases done
    exact holds
  | succ fuel ih =>
    unfold dropFreeWhile at done
    split at done
    · obtain ⟨next, dropped, rest⟩ := bind_eq_ok.mp done
      exact ih (drops m next id holds dropped) rest
    · cases done
      exact holds

theorem dropSome_keeps {n : Nat} (done : dropSome id n m = .ok m') : P m' := by
  induction n generalizing m with
  | zero =>
    cases done
    exact holds
  | succ n ih =>
    unfold dropSome at done
    split at done
    · cases done
      exact holds
    · obtain ⟨next, dropped, rest⟩ := bind_eq_ok.mp done
      exact ih (drops m next id holds dropped) rest

theorem dropAged_keeps {now maxAge : Nat} {fuel i : Nat}
    (done : dropAged now maxAge id fuel i m = .ok m') : P m' := by
  induction fuel generalizing m i with
  | zero =>
    cases done
    exact holds
  | succ fuel ih =>
    unfold dropAged at done
    split at done
    · cases done
      exact holds
    · obtain ⟨conn, -, done⟩ := bind_eq_ok.mp done
      split at done
      · obtain ⟨next, dropped, rest⟩ := bind_eq_ok.mp done
        exact ih (drops m next id holds dropped) rest
      · exact ih holds done

theorem dropIdle_tail_keeps {limit : Int}
    (done : (do
      let m ← m.dropAllWhile id fun v => (v.connectionsFree.length : Int) > limit
      if pool.connectionMaxAgeMs ≠ 0 then
        dropAged pool.monotonicTime (pool.connectionMaxAgeMs * 1000) id
          (m.srv id).connectionsFree.length 0 m
      else return m) = .ok m') :
    P m' := by
  obtain ⟨next, trimmed, done⟩ := bind_eq_ok.mp done
  have after := dropFreeWhile_keeps drops holds trimmed
  split at done
  · exact dropAged_keeps drops after done
  · cases done
    exact after

theorem dropIdleConnections_keeps (done : m.dropIdleConnections pool id = .ok m') : P m' := by
  obtain ⟨first, offline, done⟩ := bind_eq_ok.mp done
  obtain ⟨second, trimmed, done⟩ := bind_eq_ok.mp done
  have afterFirst : P first := by
    unfold dropOffline at offline
    split at offline
    · exact dropFreeWhile_keeps drops holds offline
    · cases offline
      exact holds
  exact dropIdle_tail_keeps drops (dropFreeWhile_keeps drops afterFirst trimmed) done

theorem dropEach_keeps {ids : List SrvId}
    (done : ids.foldlM (fun m id => m.dropIdleConnections pool id) m = .ok m') : P m' :=
  foldlM_invariant done P holds fun _ _ _ _ holds => dropIdleConnections_keeps drops holds

end

variable {client : Option (Tracked hash)} {ff : Bool}

/-- `get_random_MyConn` returns nothing, a new connection or a free one, possibly after dropping
free ones. -/
theorem getRandomMyConn_cases (drops : DropClosed P) (groups : GroupClosed P) {random : Nat}
    {found : Option ConnId} (holds : P m)
    (done : m.getRandomMyConn pool id client ff random = .ok (found, m')) :
    ∃ before, P before ∧ (found = none ∧ m' = before ∨ before.create id = (found, m') ∨
      ∃ c k, found = some c ∧ before.takeFree id k = .ok (c, m')) := by
  have takes {s : Search} {n : Manager hash} (holds : P n)
      (done : n.takeFound id s = .ok (found, m')) :
      ∃ before, P before ∧ (found = none ∧ m' = before ∨ before.create id = (found, m') ∨
        ∃ c k, found = some c ∧ before.takeFree id k = .ok (c, m')) := by
    unfold takeFound at done
    split at done
    · cases done
    next k _ =>
      obtain ⟨⟨c, next⟩, taken, ⟨⟩⟩ := return_eq_ok.mp done
      exact ⟨n, holds, .inr (.inr ⟨c, k, rfl, taken⟩)⟩
  unfold getRandomMyConn at done
  dsimp only at done
  split at done
  · split at done
    · obtain ⟨⟨c, next⟩, taken, ⟨⟩⟩ := return_eq_ok.mp done
      exact ⟨m, holds, .inr (.inr ⟨c, _, rfl, taken⟩)⟩
    · obtain ⟨s, -, served⟩ := bind_eq_ok.mp done
      unfold serve at served
      dsimp only at served
      split at served
      · obtain ⟨next, dropped, returned⟩ := bind_eq_ok.mp served
        exact ⟨next, dropSome_keeps drops holds dropped, .inr (.inl (Except.ok.inj returned))⟩
      · split at served
        · split at served
          · exact ⟨m, holds, .inr (.inl (Except.ok.inj served))⟩
          · exact takes holds served
        · split at served
          · exact takes holds served
          · cases served
  · have throttled := Except.ok.inj done
    unfold createThrottled at throttled
    dsimp only at throttled
    split at throttled
    · cases throttled
      refine ⟨_, ?_, .inl ⟨rfl, rfl⟩⟩
      exact groups m _ holds rfl
    · refine ⟨_, ?_, .inr (.inl throttled)⟩
      exact groups m _ holds rfl

/-! ### What the operations do -/

theorem getMyConnFromPool_cases {env : Env} {hid : Nat} {r : Request} {random : Nat × Nat}
    {result : Option ConnId}
    (done : m.getMyConnFromPool env pool hid r client ff random = .ok (result, m')) :
    ∃ chosen servers,
      Servers.getRandomMySrvC env r (m.servers.lookup hid) hid random.1 = .ok (chosen, servers) ∧
      (m' = { m with servers := servers } ∨
        ∃ id found next, chosen = some id ∧
          ({ m with servers := servers } : Manager hash).getRandomMyConn pool id client
          ff random.2 =
            .ok (found, next) ∧
          (found = none ∧ m' = next ∨ ∃ c, found = some c ∧ m' = next.hand id c)) := by
  obtain ⟨⟨chosen, servers⟩, selected, done⟩ := bind_eq_ok.mp done
  refine ⟨chosen, servers, selected, ?_⟩
  cases chosen with
  | none =>
    cases done
    exact .inl rfl
  | some id =>
    obtain ⟨⟨found, next⟩, got, done⟩ := bind_eq_ok.mp done
    refine .inr ⟨id, found, next, rfl, got, ?_⟩
    cases found with
    | none =>
      cases done
      exact .inl ⟨rfl, rfl⟩
    | some c =>
      cases done
      exact .inr ⟨c, rfl, rfl⟩

theorem destroyMyConnFromPool_cases {c : ConnId} (done : m.destroyMyConnFromPool pool c = .ok m') :
    m' = { m with queue := m.queue ++ [c] } ∨
      ∃ id next, m.removeUsed id c = .ok next ∧ next.delete c = .ok m' := by
  obtain ⟨conn, -, done⟩ := bind_eq_ok.mp done
  obtain ⟨toReset, -, done⟩ := bind_eq_ok.mp done
  split at done
  · cases done
    exact .inl rfl
  · obtain ⟨next, removed, deleted⟩ := bind_eq_ok.mp done
    exact .inr ⟨conn.parent, next, removed, deleted⟩

theorem pushMyConnToPool_cases {c : ConnId} (done : m.pushMyConnToPool pool c = .ok m') :
    ∃ conn next, m.conns c = some conn ∧
      (m.putConn c { conn with autoIncrementDelayToken := 0 }).removeUsed conn.parent c = .ok next ∧
      (pool.gloMTH = none ∧ m' = next ∨ next.delete c = .ok m' ∨
        (next.addUsed conn.parent c).destroyMyConnFromPool pool c = .ok m' ∨
        m' = next.addFree conn.parent c) := by
  obtain ⟨conn, found, done⟩ := bind_eq_ok.mp done
  obtain ⟨next, removed, done⟩ := bind_eq_ok.mp done
  refine ⟨conn, next, conn_eq_ok.mp found, removed, ?_⟩
  split at done
  next absent =>
    cases done
    exact .inl ⟨absent, rfl⟩
  · right
    split at done
    · exact .inl done
    · split at done
      · split at done
        · split at done
          · exact .inr (.inl done)
          · cases done
            exact .inr (.inr rfl)
        · exact .inl done
      · exact .inl done

end Manager

/-! ### Runs of the pool -/

/-- The operations, and what other code does in between: it uses a connection, changes a server
other than its connections, changes the hostgroups, or takes a connection from the queue. -/
inductive PoolEvent (hash : String → Nat) where
  | get (env : Env) (pool : PoolEnv) (hid : Nat) (r : Request) (client : Option (Tracked hash))
      (ff : Bool) (random : Nat × Nat)
  | push (pool : PoolEnv) (c : ConnId)
  | destroy (pool : PoolEnv) (c : ConnId)
  | idle (pool : PoolEnv) (hid : Option Nat) (maxLastTimeUsed numConn : Nat)
      (order : List SrvId → List SrvId)
  | use (c : ConnId) (conn : Conn hash)
  | server (id : SrvId) (v : MySrvC)
  | hostgroups (hids : List Nat) (hostgroup : Nat → MyHGC)
  | dequeue

namespace Manager

def step (m : Manager hash) : PoolEvent hash → Except Fault (Manager hash)
  | .get env pool hid r client ff random =>
    (m.getMyConnFromPool env pool hid r client ff random).map Prod.snd
  | .push pool c => m.pushMyConnToPool pool c
  | .destroy pool c => m.destroyMyConnFromPool pool c
  | .idle pool hid maxLastTimeUsed numConn order =>
    (m.getMultipleIdleConnections pool hid maxLastTimeUsed numConn order).map Prod.snd
  | .use c conn => do
    let old ← m.conn c
    return m.putConn c { conn with parent := old.parent }
  | .server id v =>
    let old := m.srv id
    .ok (m.putSrv id
      { v with connectionsUsed := old.connectionsUsed, connectionsFree := old.connectionsFree })
  | .hostgroups hids hostgroup =>
    .ok { m with servers := { m.servers with hids := hids, hostgroup := hostgroup } }
  | .dequeue => .ok { m with queue := m.queue.tail }

/-- A pool without connections. -/
structure Empty (m : Manager hash) : Prop where
  conns : ∀ c, m.conns c = none
  used : ∀ id, (m.srv id).connectionsUsed = []
  free : ∀ id, (m.srv id).connectionsFree = []

def single : Manager hash where
  servers := .alone { Servers.shunnedFull with status := .online, connectionsUsed := [] }
  conns := fun _ => none
  fresh := 0
  queue := []

theorem empty_single : (single : Manager hash).Empty where
  conns := fun _ => rfl
  used := fun _ => rfl
  free := fun _ => rfl

end Manager

/-- The variables as they are by default. -/
def PoolEnv.default : PoolEnv where
  freeConnectionsPct := 10
  connectionWarming := false
  throttleConnectionsPerSecToHostgroup := 1000000
  resetConnectionAlgorithm := 2
  connectionMaxAgeMs := 0
  monotonicTime := 0
  gloMTH := some ⟨524288, 20, 50⟩

def PoolEvent.getAny : PoolEvent hash :=
  .get Servers.defaultEnv .default 1 ⟨none, 0, -1⟩ none false (0, 0)

end MockProxy.Hostgroups
