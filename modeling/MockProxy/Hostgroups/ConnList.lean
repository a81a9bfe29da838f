import MockProxy.Hostgroups.Connection
import MockProxy.Hostgroups.Select

/-!
# The connections of a server

`MySrvC` holds its connections in two arrays, `ConnectionsUsed` and `ConnectionsFree`.
`get_random_MyConn` takes a free connection that suits the client as well as possible, or makes a
new one.

A connection is created and deleted in the heap `conns`; using or deleting one that is not there is
a fault, and so are a failed `assert` and an index beyond an array.
-/

namespace MockProxy.Hostgroups

open Function

/-- The variables of `GloMTH` that the pool reads. -/
structure HandlerVars where
  thresholdQueryLength : Nat
  maxStmtsPerConnection : Nat
  connpollResetQueueLength : Nat
  deriving DecidableEq

/-- What the pool reads besides its own state: variables of the thread, the clock in microseconds,
and `GloMTH`, which may not be there. -/
structure PoolEnv where
  freeConnectionsPct : Int
  connectionWarming : Bool
  throttleConnectionsPerSecToHostgroup : Nat
  resetConnectionAlgorithm : Nat
  connectionMaxAgeMs : Nat
  monotonicTime : Nat
  gloMTH : Option HandlerVars
  deriving DecidableEq

/-- `GloMTH->variables` -/
def PoolEnv.handler (env : PoolEnv) : Except Fault HandlerVars :=
  match env.gloMTH with
  | some h => .ok h
  | none => .error .nullPointer

/-- `MySQL_HostGroups_Manager`; `queue` has the connections that wait to be reset. -/
structure Manager (hash : String → Nat) where
  servers : Servers
  conns : ConnId → Option (Conn hash)
  -- the address `new` gives next
  fresh : ConnId
  queue : List ConnId

variable {hash : String → Nat}

namespace Manager

variable (m : Manager hash) (id : SrvId)

def srv : MySrvC := m.servers.srv id

def myhgc : MyHGC := m.servers.hostgroup (m.srv id).hid

def putSrv (v : MySrvC) : Manager hash :=
  { m with servers := m.servers.put id v }

def conn (m : Manager hash) (c : ConnId) : Except Fault (Conn hash) :=
  match m.conns c with
  | some conn => .ok conn
  | none => .error .useAfterFree

variable (c : ConnId)

def putConn (conn : Conn hash) : Manager hash :=
  { m with conns := update m.conns c (some conn) }

/-- `delete c` -/
def delete (m : Manager hash) (c : ConnId) : Except Fault (Manager hash) := do
  let _ ← m.conn c
  return { m with conns := update m.conns c none }

/-- `new MySQL_Connection()` for a server -/
def create : Option ConnId × Manager hash :=
  (some m.fresh,
    { m with
      conns := update m.conns m.fresh (some (.create id (m.myhgc id).attributes.multiplex))
      fresh := m.fresh + 1 })

/-! ### The arrays -/

def setFree (free : List ConnId) : Manager hash :=
  m.putSrv id { m.srv id with connectionsFree := free }

def setUsed (used : List ConnId) : Manager hash :=
  m.putSrv id { m.srv id with connectionsUsed := used }

/-- `ConnectionsFree->add(c)` -/
def addFree : Manager hash :=
  m.setFree id ((m.srv id).connectionsFree ++ [c])

/-- `ConnectionsUsed->add(c)` -/
def addUsed : Manager hash :=
  m.setUsed id ((m.srv id).connectionsUsed ++ [c])

/-- `ConnectionsFree->remove(k)` -/
def takeFree (k : Nat) : Except Fault (ConnId × Manager hash) :=
  match (m.srv id).connectionsFree[k]? with
  | none => .error .outOfBounds
  | some c => .ok (c, m.setFree id (PtrArray.removeIndexFast k (m.srv id).connectionsFree))

/-- `ConnectionsUsed->remove(c)` -/
def removeUsed : Except Fault (Manager hash) :=
  match (m.srv id).connectionsUsed.idxOf? c with
  | none => .error .assertFailed
  | some k => .ok (m.setUsed id (PtrArray.removeIndexFast k (m.srv id).connectionsUsed))

def dropFree : Except Fault (Manager hash) := do
  let taken ← m.takeFree id 0
  taken.2.delete taken.1

/-- Free connections are dropped while there is reason to. Each time the array gets shorter, so its
length and one are enough fuel. -/
def dropFreeWhile (reason : MySrvC → Bool) (id : SrvId) :
    (fuel : Nat) → Manager hash → Except Fault (Manager hash)
  | 0, m => .ok m
  | fuel + 1, m =>
    if reason (m.srv id) then do
      let m ← m.dropFree id
      dropFreeWhile reason id fuel m
    else .ok m

def dropAllWhile (reason : MySrvC → Bool) : Except Fault (Manager hash) :=
  dropFreeWhile reason id ((m.srv id).connectionsFree.length + 1) m

/-! ### Choosing a free connection -/

end Manager

/-- What the search has found: `conn_found_idx`, which is not set at first,
`connection_quality_level` and `number_of_matching_session_variables`. -/
structure Search where
  connFoundIdx : Option Nat
  quality : Nat
  matching : Nat
  deriving DecidableEq

/-- The number of session variables, and the schema, that match and that do not. -/
def Conn.countMatches (conn : Conn hash) (client : Tracked hash) : Nat × Nat :=
  let counts := conn.tracked.vars.numberOfMatchingSessionVariables client.vars 0
  if conn.tracked.vars.userinfo.schemaname = client.vars.userinfo.schemaname then
    (counts.1 + 1, counts.2)
  else (counts.1, counts.2 + 1)

/-- The connection at `k` needs no change of user; the search is over if it is perfect. -/
def Search.usable (s : Search) (conn : Conn hash) (client : Tracked hash) (k : Nat) :
    Search × Bool :=
  let s := if s.quality = 1 then { s with quality := 2, connFoundIdx := some k } else s
  let counts := conn.countMatches client
  if counts.2 = 0 then (⟨some k, 3, counts.1⟩, true)
  else if counts.1 > s.matching then
    ({ s with matching := counts.1, connFoundIdx := some k }, false)
  else (s, false)

/-- The body of the loop of `get_random_MyConn_inner_search`. -/
def Search.visit (s : Search) (env : PoolEnv) (conn : Conn hash) (client : Tracked hash) (k : Nat) :
    Except Fault (Search × Bool) :=
  if conn.tracked.matchTrackedOptions client then
    let s := if s.quality = 0 then { s with quality := 1, connFoundIdx := some k } else s
    if conn.tracked.vars.requiresChangeUser client.vars = false then .ok (s.usable conn client k)
    else if s.quality = 1 ∧ env.resetConnectionAlgorithm = 1 then do
      let h ← env.handler
      -- such a connection is not returned, so that it is not reset on the way
      if h.connpollResetQueueLength = 0 then return ({ s with quality := 0 }, false)
      else return (s, false)
    else .ok (s, false)
  else .ok (s, false)

namespace Manager

/-- `get_random_MyConn_inner_search`, over the indexes from `start` to `end` -/
def innerSearch (m : Manager hash) (env : PoolEnv) (free : List ConnId) (client : Tracked hash) :
    List Nat → Search → Except Fault Search
  | [], s => .ok s
  | k :: ks, s =>
    match free[k]? with
    | none => .error .outOfBounds
    | some c => do
      let conn ← m.conn c
      let visited ← s.visit env conn client k
      if visited.2 then return visited.1 else m.innerSearch env free client ks visited.1

/-- Both parts of the search, from a random start. -/
def search (m : Manager hash) (env : PoolEnv) (free : List ConnId) (client : Tracked hash)
    (start : Nat) : Except Fault Search := do
  let s ← m.innerSearch env free client (List.range' start (free.length - start)) ⟨none, 0, 0⟩
  if s.quality ≠ 3 then m.innerSearch env free client (List.range start) s else return s

/-- The connections to free before a new one is made: from three quarters of `max_connections` on,
at least one. -/
def connectionsToFree (v : MySrvC) : Nat :=
  let total := v.connectionsFree.length + v.connectionsUsed.length
  let pctMaxConnections := ((3 * v.maxConnections).tdiv 4 % 2 ^ 32).toNat
  if pctMaxConnections ≤ total then max 1 (total - pctMaxConnections) else 0

/-- `n` free connections are dropped, or all of them. -/
def dropSome (id : SrvId) : (n : Nat) → Manager hash → Except Fault (Manager hash)
  | 0, m => .ok m
  | n + 1, m =>
    if (m.srv id).connectionsFree = [] then .ok m
    else do
      let m ← m.dropFree id
      dropSome id n m

def takeFound (m : Manager hash) (id : SrvId) (s : Search) :
    Except Fault (Option ConnId × Manager hash) :=
  match s.connFoundIdx with
  | none => .error .uninitialised
  | some k => do
    let taken ← m.takeFree id k
    return (some taken.1, taken.2)

/-- What is returned for the quality that was found. -/
def serve (m : Manager hash) (id : SrvId) (s : Search) :
    Except Fault (Option ConnId × Manager hash) :=
  let v := m.srv id
  let used := v.connectionsUsed.length
  let free := v.connectionsFree.length
  if s.quality = 0 then do
    let m ← dropSome id (connectionsToFree v) m
    return m.create id
  else if s.quality = 1 then
    if free < used ∧ v.maxConnections > (free / 2 + used / 2 : Nat) then .ok (m.create id)
    else m.takeFound id s
  else if s.quality ≤ 3 then m.takeFound id s
  else .error .assertFailed

def countNew (g : MyHGC) (curtime : Nat) : MyHGC :=
  if curtime > g.currentTimeNow then { g with currentTimeNow := curtime, newConnectionsNow := 1 }
  else { g with newConnectionsNow := g.newConnectionsNow + 1 }

def throttleOf (g : MyHGC) (env : PoolEnv) : Nat :=
  if g.attributes.configured then g.attributes.throttleConnectionsPerSec
  else env.throttleConnectionsPerSecToHostgroup

/-- A new connection, unless too many were made in this second. -/
def createThrottled (m : Manager hash) (env : PoolEnv) (id : SrvId) :
    Option ConnId × Manager hash :=
  let hid := (m.srv id).hid
  let g := countNew (m.servers.hostgroup hid) (env.monotonicTime / 1000 / 1000)
  let m := { m with servers := { m.servers with hostgroup := update m.servers.hostgroup hid g } }
  if g.newConnectionsNow > throttleOf g env then (none, m) else m.create id

def freeConnectionsPct (m : Manager hash) (env : PoolEnv) (id : SrvId) : Int :=
  if (m.myhgc id).attributes.configured then (m.myhgc id).attributes.freeConnectionsPct
  else env.freeConnectionsPct

/-- The part of `max_connections` that may be free. -/
def expectedFree (m : Manager hash) (env : PoolEnv) (id : SrvId) : Int :=
  (m.freeConnectionsPct env id * (m.srv id).maxConnections).tdiv 100

def needsWarming (m : Manager hash) (env : PoolEnv) (id : SrvId) : Bool :=
  let warming :=
    if (m.myhgc id).attributes.configured then (m.myhgc id).attributes.connectionWarming
    else env.connectionWarming
  let total := (m.srv id).connectionsFree.length + (m.srv id).connectionsUsed.length
  warming && total < (m.expectedFree env id % 2 ^ 32).toNat

/-- `MySrvConnList::get_random_MyConn` on `ConnectionsFree`. `client` is the connection of the
session, if it has one. -/
def getRandomMyConn (m : Manager hash) (env : PoolEnv) (id : SrvId) (client : Option (Tracked hash))
    (ff : Bool) (random : Nat) : Except Fault (Option ConnId × Manager hash) :=
  let free := (m.srv id).connectionsFree
  if free ≠ [] ∧ ff = false ∧ m.needsWarming env id = false then
    let i := random % free.length
    match client with
    | none => do
      let taken ← m.takeFree id i
      return (some taken.1, taken.2)
    | some client => do
      let s ← m.search env free client i
      m.serve id s
  else .ok (m.createThrottled env id)

/-! ### What the updates do -/

variable {m m' : Manager hash} {id id' : SrvId} {c : ConnId}

theorem conn_eq_ok {conn : Conn hash} : m.conn c = .ok conn ↔ m.conns c = some conn := by
  unfold Manager.conn
  split
  next found =>
    simp [found]
  next absent =>
    simp [absent]

/-- What holds for the server that is put, and for the others as they are, holds for all. -/
theorem forall_srv_putSrv {v : MySrvC} {P : SrvId → MySrvC → Prop} (here : P id v)
    (others : ∀ id', id' ≠ id → P id' (m.srv id')) (id' : SrvId) :
    P id' ((m.putSrv id v).srv id') := by
  by_cases same : id' = id
  · subst same
    have self : (m.putSrv id' v).srv id' = v := update_self ..
    rw [self]
    exact here
  · have other : (m.putSrv id v).srv id' = m.srv id' := update_of_ne same ..
    rw [other]
    exact others id' same

theorem srv_setFree_self (m : Manager hash) (id : SrvId) (free : List ConnId) :
    (m.setFree id free).srv id = { m.srv id with connectionsFree := free } :=
  update_self ..

theorem srv_setFree_of_ne (m : Manager hash) (other : id' ≠ id) (free : List ConnId) :
    (m.setFree id free).srv id' = m.srv id' :=
  update_of_ne other ..

theorem srv_setUsed_self (m : Manager hash) (id : SrvId) (used : List ConnId) :
    (m.setUsed id used).srv id = { m.srv id with connectionsUsed := used } :=
  update_self ..

theorem srv_setUsed_of_ne (m : Manager hash) (other : id' ≠ id) (used : List ConnId) :
    (m.setUsed id used).srv id' = m.srv id' :=
  update_of_ne other ..

theorem takeFree_eq_ok {k : Nat} : m.takeFree id k = .ok (c, m') ↔
      (m.srv id).connectionsFree[k]? = some c ∧
        m' = m.setFree id (PtrArray.removeIndexFast k (m.srv id).connectionsFree) := by
  unfold takeFree
  split
  next absent =>
    simp [absent]
  next d there =>
    rw [there, Option.some.injEq]
    constructor
    · intro taken
      cases taken
      exact ⟨rfl, rfl⟩
    · rintro ⟨rfl, rfl⟩
      rfl

theorem removeUsed_eq_ok (done : m.removeUsed id c = .ok m') :
    ∃ k, (m.srv id).connectionsUsed[k]? = some c ∧
      m' = m.setUsed id (PtrArray.removeIndexFast k (m.srv id).connectionsUsed) := by
  unfold removeUsed at done
  split at done
  · cases done
  next k found =>
    cases done
    obtain ⟨bound, same, -⟩ := List.findIdx?_eq_some_iff_getElem.mp found
    exact ⟨k, List.getElem?_eq_some_iff.mpr ⟨bound, by simpa using same⟩, rfl⟩

end Manager

end MockProxy.Hostgroups
