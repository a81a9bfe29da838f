import MockProxy.Hostgroups.Select

/-!
# The status of a server

Many parts of the proxy change the status of a server: the admin, who loads `mysql_servers`; connect
errors; the monitor, which pings the servers and reports their replication lag; and the selection of
a server, which brings back those that are shunned. Nearly all of them go through `set_status`,
which counts the servers online of the hostgroup again. `connect_error` and the method
`shun_and_killall` of a server write the field itself.

The hostgroups are a machine whose operations are these writers, in any order.
-/

namespace MockProxy.Hostgroups

open Function
open CString (int32)

/-- The fields of `MySrvC` that belong to the replication lag -/
structure ReplicationLag where
  maxReplicationLag : Nat
  curReplicationLag : Int := 0
  curReplicationLagCount : Nat := 0
  deriving DecidableEq

/-- The hostgroups with what the monitor keeps about their servers. `brk` is the address of the next
server, and `slaveLagWhenNull` is the attribute `monitor_slave_lag_when_null` of a hostgroup. -/
structure Monitored extends Servers where
  lag : SrvId → ReplicationLag
  slaveLagWhenNull : Nat → Int
  brk : SrvId

/-- The variables of the thread that change a status -/
structure MonitorVars where
  shunOnFailures : Nat
  connectRetriesOnFailure : Nat
  shunRecoveryTimeSec : Int
  monitorEnabled : Bool
  monitorPingInterval : Int
  monitorReplicationLagCount : Nat
  monitorSlaveLagWhenNull : Int
  maxTransactionsBehindCount : Int
  evaluateReplicationLagOnServersLoad : Bool
  deriving DecidableEq

/-- The values without any configuration -/
def MonitorVars.defaults : MonitorVars where
  shunOnFailures := 5
  connectRetriesOnFailure := 10
  shunRecoveryTimeSec := 10
  monitorEnabled := true
  monitorPingInterval := 8000
  monitorReplicationLagCount := 1
  monitorSlaveLagWhenNull := 60
  maxTransactionsBehindCount := 3
  evaluateReplicationLagOnServersLoad := true

/-! ### Connect errors -/

/-- Errors that say nothing about the server. -/
def ignoredError (errNum : Int) : Bool :=
  1048 ≤ errNum ∧ errNum ≤ 1052 ∨ 1054 ≤ errNum ∧ errNum ≤ 1075 ∨ 1099 ≤ errNum ∧ errNum ≤ 1104 ∨
    1106 ≤ errNum ∧ errNum ≤ 1113 ∨ 1116 ≤ errNum ∧ errNum ≤ 1118 ∨
    errNum = 1136 ∨ 1138 ≤ errNum ∧ errNum ≤ 1149 ∨
    errNum ∈ [1007, 1008, 1044, 1045, 1120, 1203, 1226, 3118]

def MonitorVars.maxFailures (vars : MonitorVars) : Nat :=
  let connectRetries := vars.connectRetriesOnFailure + 1
  if vars.shunOnFailures > connectRetries then connectRetries else vars.shunOnFailures

/-- The error counts, another one was seen in the same second, and they have become too many. -/
def MySrvC.tooManyErrors (v : MySrvC) (now : Int) (vars : MonitorVars) (errNum : Int) : Bool :=
  ¬ ignoredError errNum ∧ now = v.timeLastDetectedError ∧
    vars.maxFailures ≤ (v.connectErrAtTimeLastDetectedError + 1) % 2 ^ 32

/-- `MySrvC::connect_error` on the server alone -/
def MySrvC.connectError (v : MySrvC) (now : Int) (vars : MonitorVars) (errNum : Int) : MySrvC :=
  if ignoredError errNum then v
  else if now > v.timeLastDetectedError then
    { v with timeLastDetectedError := now, connectErrAtTimeLastDetectedError := 1 }
  else if now < v.timeLastDetectedError then v
  else
    let counted :=
      { v with connectErrAtTimeLastDetectedError := (v.connectErrAtTimeLastDetectedError +
        1) % 2 ^ 32 }
    if v.tooManyErrors now vars errNum ∧ v.status = .online then
      { counted with status := .shunned, shunnedAutomatic := true }
    else counted

def MySrvC.shunAndKillall (v : MySrvC) : MySrvC :=
  { v with status := .shunned, shunnedAutomatic := true, shunnedAndKillAllConnections := true }

namespace Servers

/-! ### A server that does not answer pings -/

variable (s : Servers) (id : SrvId)

/-- The server is to be shunned until all its connections are gone; the free ones are dropped. -/
def killConnections : Servers :=
  s.put id
    { s.srv id with
      shunnedAutomatic := true, shunnedAndKillAllConnections := true, connectionsFree := [] }

/-- The `switch` on the status in `shun_and_killall`, with its fallthroughs -/
def shunByStatus : Servers :=
  match (s.srv id).status with
  | .shunned =>
    if (s.srv id).shunnedAutomatic then (s.setStatus id .shunned).killConnections id else s
  | .online => (s.setStatus id .shunned).killConnections id
  | .offlineSoft => s.killConnections id
  | .offlineHard => s
  | .shunnedReplicationLag => s

variable (vars : MonitorVars)

/-- One server of `shun_and_killall`. The time moves on with each server that is found. -/
def shunServer (hostname : String) (port : Nat) (st : Servers × Int × Bool) (id : SrvId) :
    Servers × Int × Bool :=
  let (s, t, ret) := st
  if (s.srv id).port = port ∧ (s.srv id).address = hostname then
    let ret := ret || (s.srv id).status = .online
    let s := s.shunByStatus id
    let b := vars.monitorPingInterval.tdiv 1000
    let t := if vars.monitorEnabled ∧ b > vars.shunRecoveryTimeSec then
      t + (b - vars.shunRecoveryTimeSec) else t
    (s.put id { s.srv id with timeLastDetectedError := t }, t, ret)
  else st

/-- `MySQL_HostGroups_Manager::shun_and_killall`, which returns whether a server was online -/
def shunAndKillall (now : Int) (hostname : String) (port : Nat) : Servers × Bool :=
  let done := s.hids.foldl (fun st hid =>
    (st.1.hostgroup hid).mysrvs.foldl (shunServer vars hostname port) st) (s, now, false)
  (done.1, done.2.2)

/-! ### Group replication -/

/-- One server of `group_replication_lag_action_set_server_status` -/
def groupReplicationServer (address : String) (port : Nat) (lagCount : Int) (enable : Bool)
    (s : Servers) (id : SrvId) : Servers :=
  let v := s.srv id
  if v.address = address ∧ v.port = port then
    if enable then
      if v.status = .shunnedReplicationLag ∨ v.status = .shunned then s.setStatus id .online else s
    else if v.status = .online then s.setStatus id .shunned
    else if v.status = .shunned ∧ lagCount ≥ vars.maxTransactionsBehindCount * 2 then
      s.setStatus id .shunnedReplicationLag
    else s
  else s

variable (hid : Nat)

def groupReplicationLagActionSetServerStatus (address : String) (port : Nat) (lagCount : Int)
    (enable : Bool) : Servers :=
  (s.hostgroup hid).mysrvs.foldl (groupReplicationServer vars address port lagCount enable) s

/-! ### Adding and removing servers -/

/-- `MySrvList::add` of the server at `id` -/
def addToList (id : SrvId) : Servers :=
  let myhgc := s.hostgroup hid
  { s with hostgroup := update s.hostgroup hid { myhgc with mysrvs := myhgc.mysrvs ++ [id] } }
    |>.refreshOnlineServerCount hid

/-- `MySrvList::remove` -/
def removeFromList (id : SrvId) : Except Fault Servers :=
  let myhgc := s.hostgroup hid
  if id ∈ myhgc.mysrvs then
    .ok ({ s with
        hostgroup := update s.hostgroup hid
          { myhgc with mysrvs := PtrArray.removeFast id myhgc.mysrvs } }
      |>.refreshOnlineServerCount hid)
  else .error .assertFailed

def setOfflineHard : Servers :=
  let s := s.setStatus id .offlineHard
  s.put id { s.srv id with connectionsFree := [] }

def purgeable : Bool :=
  (s.srv id).status = .offlineHard ∧ (s.srv id).connectionsUsed = [] ∧
    (s.srv id).connectionsFree = []

/-- One hostgroup of `purge_mysql_servers_table`; nothing is counted again. -/
def purgeHostgroup : Servers :=
  let myhgc := s.hostgroup hid
  { s with
    hostgroup := update s.hostgroup hid
      { myhgc with mysrvs := PtrArray.removeWhere s.purgeable myhgc.mysrvs.length 0 myhgc.mysrvs } }

def purgeMysqlServersTable : Servers := s.hids.foldl purgeHostgroup s

def Live : Prop :=
  (s.srv id).hid ∈ s.hids ∧ id ∈ (s.hostgroup (s.srv id).hid).mysrvs

instance (s : Servers) (id : SrvId) : Decidable (s.Live id) := inferInstanceAs (Decidable (_ ∧ _))

end Servers

/-- A row of `mysql_servers`, as far as `commit` compares it -/
structure ServerRow where
  weight : Int
  status : Status
  maxConnections : Int
  maxReplicationLag : Nat
  maxLatencyMs : Nat
  deriving DecidableEq

/-- `MySrvC::MySrvC`; `add` gives it its hostgroup. -/
def ServerRow.newServer (row : ServerRow) (hid : Nat) (address : String) (port : Nat) : MySrvC where
  hid := hid
  address := address
  port := port
  weight := row.weight
  status := row.status
  maxConnections := row.maxConnections
  auroraCurrentLagUs := 0
  currentLatencyUs := 0
  maxLatencyUs := row.maxLatencyMs * 1000 % 2 ^ 32
  maxConnectionsUsed := 0
  timeLastDetectedError := 0
  connectErrAtTimeLastDetectedError := 0
  shunnedAutomatic := false
  shunnedAndKillAllConnections := false
  connectionsUsed := []
  connectionsFree := []

def ReplicationLag.exceeded (l : ReplicationLag) (lag : Int) : Bool :=
  lag ≥ 0 ∧ l.maxReplicationLag > 0 ∧ lag > int32 l.maxReplicationLag

namespace Monitored

variable (w : Monitored)

def withServers (s : Servers) : Monitored := { w with toServers := s }

@[simp] theorem toServers_withServers (s : Servers) :
    (w.withServers s).toServers = s := rfl

@[simp] theorem lag_withServers (s : Servers) : (w.withServers s).lag = w.lag := rfl

def putLag (id : SrvId) (l : ReplicationLag) : Monitored :=
  { w with lag := update w.lag id l }

@[simp] theorem toServers_putLag (id : SrvId) (l : ReplicationLag) :
    (w.putLag id l).toServers = w.toServers := rfl

@[simp] theorem lag_putLag (id : SrvId) (l : ReplicationLag) :
    (w.putLag id l).lag = update w.lag id l := rfl

/-- `MySQL_HostGroups_Manager::add` of a new server -/
def add (w : Monitored) (hid : Nat) (address : String) (port : Nat) (row : ServerRow) : Monitored :=
  let s := w.toServers.lookup hid
  let s := s.put w.brk (row.newServer hid address port)
  { w with
    toServers := s.addToList hid w.brk
    lag := update w.lag w.brk { maxReplicationLag := row.maxReplicationLag }
    brk := w.brk + 1 }

/-! ### The admin loads the servers -/

variable (vars : MonitorVars)

/-- A server that is shunned for its lag is not put online while the lag is too great. -/
def keepsShunned (id : SrvId) (row : ServerRow) : Bool :=
  let cur := (w.lag id).curReplicationLag
  vars.evaluateReplicationLagOnServersLoad ∧ (w.srv id).status = .shunnedReplicationLag ∧
    row.status = .online ∧ cur ≠ -2 ∧
    (cur < 0 ∨ row.maxReplicationLag > 0 ∧ cur > row.maxReplicationLag)

/-- The status of a row that has changed. A server the admin shuns is not brought back. -/
def commitStatus (id : SrvId) (row : ServerRow) : Monitored :=
  let s := if w.keepsShunned vars id row then w.toServers else w.setStatus id row.status
  w.withServers (if (s.srv id).status = .shunned then
    s.put id { s.srv id with shunnedAutomatic := false } else s)

/-- The greatest lag of a row that has changed. -/
def commitMaxReplicationLag (id : SrvId) (row : ServerRow) : Monitored :=
  let w := w.putLag id { w.lag id with maxReplicationLag := row.maxReplicationLag }
  if row.maxReplicationLag = 0 ∧ (w.srv id).status = .shunnedReplicationLag then
    w.withServers (w.setStatus id .online)
  else w

/-- `commit` for a server that stays: `was` is its row in `mysql_servers`, `row` the new one. -/
def commitServer (id : SrvId) (was row : ServerRow) : Monitored :=
  let w := if was.weight ≠ row.weight then
    w.withServers (w.put id { w.srv id with weight := row.weight }) else w
  let w := if was.status ≠ row.status then w.commitStatus vars id row else w
  let w := if was.maxConnections ≠ row.maxConnections then
    w.withServers (w.put id { w.srv id with maxConnections := row.maxConnections }) else w
  let w := if was.maxReplicationLag ≠ row.maxReplicationLag then
    w.commitMaxReplicationLag id row else w
  if was.maxLatencyMs ≠ row.maxLatencyMs then
    w.withServers (w.put id { w.srv id with maxLatencyUs := 1000 * row.maxLatencyMs % 2 ^ 32 })
      else w

theorem commitServer_keeps {P : Monitored → Prop} {w : Monitored} {vars : MonitorVars} {id : SrvId}
    {was row : ServerRow}
    (put : ∀ w v, P w → v.hid = (w.srv id).hid → v.status = (w.srv id).status →
      P (w.withServers (w.put id v))) (status : ∀ w, P w → P (w.commitStatus vars id row))
    (limit : ∀ w, P w → P (w.commitMaxReplicationLag id row)) (before : P w) :
    P (w.commitServer vars id was row) := by
  unfold commitServer
  extract_lets _ w₁ w₂ _ w₃ w₄
  have weight_set : P w₁ := by
    unfold w₁
    split
    · exact put w _ before rfl rfl
    · exact before
  have status_set : P w₂ := by
    unfold w₂
    split
    · exact status w₁ weight_set
    · exact weight_set
  have connections_set : P w₃ := by
    unfold w₃
    split
    · exact put w₂ _ status_set rfl rfl
    · exact status_set
  have limit_set : P w₄ := by
    unfold w₄
    split
    · exact limit w₃ connections_set
    · exact connections_set
  split
  · exact put w₄ _ limit_set rfl rfl
  · exact limit_set

/-! ### Replication lag -/

/-- A report of the monitor: `overrideReplLag` says that the lag stands for something else. -/
structure LagReport where
  address : String
  port : Nat
  currentReplicationLag : Int
  overrideReplLag : Bool
  deriving DecidableEq

def getMonitorSlaveLagWhenNull (vars : MonitorVars) (hid : Nat) : Int :=
  if (w.hostgroup hid).attributes.configured ∧
    w.slaveLagWhenNull hid ≠ -1 then w.slaveLagWhenNull hid
  else vars.monitorSlaveLagWhenNull

/-- A lag that is NULL is replaced. -/
def resolveNull (vars : MonitorVars) (hid : Nat) (r : LagReport) : LagReport :=
  if r.currentReplicationLag = -1 ∧ r.overrideReplLag then
    { r with
      currentReplicationLag := w.getMonitorSlaveLagWhenNull vars hid, overrideReplLag := false }
  else r

def reported (hid : Nat) (r : LagReport) : Option SrvId :=
  (w.hostgroup hid).mysrvs.find? fun id => (w.srv id).address = r.address ∧ (w.srv id).port = r.port

/-- A report about a server that is online. Lags over the limit are counted. -/
def lagWhileOnline (vars : MonitorVars) (id : SrvId) (lag : Int) : Monitored :=
  let l := w.lag id
  if l.exceeded lag then
    let count := (l.curReplicationLagCount + 1) % 2 ^ 32
    let w := w.putLag id { l with curReplicationLagCount := count }
    if vars.monitorReplicationLagCount ≤ count then
      w.withServers (w.setStatus id .shunnedReplicationLag)
    else w
  else w.putLag id { l with curReplicationLagCount := 0 }

def recovers (id : SrvId) (r : LagReport) : Bool :=
  r.overrideReplLag = false ∧ r.currentReplicationLag ≤ int32 (w.lag id).maxReplicationLag ∨
    r.currentReplicationLag = -2 ∧ r.overrideReplLag = true

/-- A report about a server that is shunned for its lag. -/
def lagWhileShunned (id : SrvId) (r : LagReport) : Monitored :=
  if w.recovers id r then
    let w := w.withServers (w.setStatus id .online)
    w.putLag id { w.lag id with curReplicationLagCount := 0 }
  else w

def replicationLagActionInner (vars : MonitorVars) (hid : Nat) (r : LagReport) : Monitored :=
  let r := w.resolveNull vars hid r
  match w.reported hid r with
  | none => w
  | some id =>
    let w := w.putLag id { w.lag id with curReplicationLag := r.currentReplicationLag }
    if (w.srv id).status = .online then w.lagWhileOnline vars id r.currentReplicationLag
    else if (w.srv id).status = .shunnedReplicationLag then w.lagWhileShunned id r
    else w

end Monitored

/-! ### The machine -/

/-- What can happen to the hostgroups. `setStatus` is any other caller of `set_status` (Aurora,
Galera, servers that were discovered, `read_only`), and `connections` is what sessions do. -/
inductive StatusOp where
  | add (hid : Nat) (address : String) (port : Nat) (row : ServerRow)
  | remove (id : SrvId)
  | commit (vars : MonitorVars) (id : SrvId) (was row : ServerRow)
  | offline (id : SrvId)
  | purge
  | setStatus (id : SrvId) (status : Status)
  | connectError (now : Int) (vars : MonitorVars) (id : SrvId) (errNum : Int)
  | shun (id : SrvId)
  | shunAndKillall (now : Int) (vars : MonitorVars) (hostname : String) (port : Nat)
  | groupReplicationLag (vars : MonitorVars) (hid : Nat) (address : String) (port : Nat)
    (lagCount : Int)
      (enable : Bool)
  | replicationLag (vars : MonitorVars) (hid : Nat) (r : Monitored.LagReport)
  | select (env : Env) (r : Request) (hid random : Nat)
  | connections (id : SrvId) (used free : List ConnId)
  | shutdown

namespace Monitored

/-- No hostgroup yet -/
def start : Monitored where
  srv := fun _ => ServerRow.newServer ⟨1, .online, 1000, 0, 0⟩ 0 "" 0
  hids := []
  hostgroup := fun _ => .create
  lag := fun _ => { maxReplicationLag := 0 }
  slaveLagWhenNull := fun _ => -1
  brk := 0

def onLive (w : Monitored) (id : SrvId) (next : Monitored) : Except Fault Monitored :=
  if w.Live id then .ok next else .error .useAfterFree

def step (w : Monitored) : StatusOp → Except Fault Monitored
  | .add hid address port row => .ok (w.add hid address port row)
  | .remove id => do
    let s ← w.removeFromList (w.srv id).hid id
    w.onLive id (w.withServers s)
  | .commit vars id was row => w.onLive id (w.commitServer vars id was row)
  | .offline id => w.onLive id (w.withServers (w.setOfflineHard id))
  | .purge => .ok (w.withServers w.purgeMysqlServersTable)
  | .setStatus id status => w.onLive id (w.withServers (w.toServers.setStatus id status))
  | .connectError now vars id errNum =>
    w.onLive id (w.withServers (w.put id ((w.srv id).connectError now vars errNum)))
  | .shun id => w.onLive id (w.withServers (w.put id (w.srv id).shunAndKillall))
  | .shunAndKillall now vars hostname port =>
    .ok (w.withServers (w.toServers.shunAndKillall vars now hostname port).1)
  | .groupReplicationLag vars hid address port lagCount enable =>
    -- `MyHGC_find` may find nothing
    if hid ∈ w.hids then
      .ok
        (w.withServers (w.groupReplicationLagActionSetServerStatus vars hid address port
        lagCount enable))
    else .ok w
  | .replicationLag vars hid r =>
    if hid ∈ w.hids then .ok (w.replicationLagActionInner vars hid r) else .error .nullPointer
  | .select env r hid random => do
    let selected ← Servers.getRandomMySrvC env r (w.lookup hid) hid random
    return w.withServers selected.2
  | .connections id used free =>
    w.onLive id (w.withServers
      (w.put id { w.srv id with connectionsUsed := used, connectionsFree := free }))
  | .shutdown => .ok (w.withServers { w.toServers with shutdown := true })

variable {w w' : Monitored}

theorem of_onLive {id : SrvId} {next : Monitored} (done : w.onLive id next = .ok w') :
    w.Live id ∧ w' = next := by
  unfold onLive at done
  split at done
  next live =>
    cases done
    exact ⟨live, rfl⟩
  · cases done

end Monitored

end MockProxy.Hostgroups
