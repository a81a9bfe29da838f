import MockProxy.Lib.CString

/-!
# Servers and hostgroups

A server (`MySrvC`) belongs to one hostgroup (`MyHGC`) and holds its connections in two lists, those
in use and the free ones. Servers and connections are named by their addresses, hostgroups by their
`hid`.

A server that is shunned because of connect errors is brought back by the next selection that finds
it shunned for long enough; `unshun_server_all_hostgroups` then brings it back in the other
hostgroups as well.
-/

namespace MockProxy.Hostgroups

open Function
open CString (int32)

abbrev SrvId := Nat
abbrev ConnId := Nat

/-- `MySerStatus` -/
inductive Status where
  | online
  | shunned
  | offlineSoft
  | offlineHard
  | shunnedReplicationLag
  deriving DecidableEq

/-- `MySrvC`; `hid` is that of `myhgc`. -/
structure MySrvC where
  hid : Nat
  address : String
  port : Nat
  weight : Int
  status : Status
  maxConnections : Int
  auroraCurrentLagUs : Nat
  currentLatencyUs : Nat
  maxLatencyUs : Nat
  maxConnectionsUsed : Nat
  timeLastDetectedError : Int
  connectErrAtTimeLastDetectedError : Nat
  shunnedAutomatic : Bool
  shunnedAndKillAllConnections : Bool
  connectionsUsed : List ConnId
  connectionsFree : List ConnId
  deriving DecidableEq

/-- `mysql_hostgroup_attributes`, as far as the pool reads it -/
structure Attributes where
  configured : Bool
  maxNumOnlineServers : Nat
  throttleConnectionsPerSec : Nat
  freeConnectionsPct : Int
  multiplex : Bool
  connectionWarming : Bool
  deriving DecidableEq

/-- `reset_attributes` -/
def Attributes.defaults : Attributes where
  configured := false
  maxNumOnlineServers := 1000000
  throttleConnectionsPerSec := 1000000
  freeConnectionsPct := 10
  multiplex := true
  connectionWarming := false

structure MyHGC where
  mysrvs : List SrvId
  numOnlineServers : Nat
  attributes : Attributes
  currentTimeNow : Nat
  newConnectionsNow : Nat
  deriving DecidableEq

/-- `MyHGC::MyHGC` -/
def MyHGC.create : MyHGC := ⟨[], 0, .defaults, 0, 0⟩

/-- All hostgroups; `hids` is the order of `MyHostGroups`. -/
structure Servers where
  srv : SrvId → MySrvC
  hids : List Nat
  hostgroup : Nat → MyHGC
  -- `glovars.shutdown`
  shutdown : Bool := false

namespace Servers

def put (s : Servers) (id : SrvId) (v : MySrvC) : Servers :=
  { s with srv := update s.srv id v }

/-- `MyHGC_lookup`, which creates a hostgroup that does not exist. -/
def lookup (s : Servers) (hid : Nat) : Servers :=
  if hid ∈ s.hids then s
  else { s with hids := s.hids ++ [hid], hostgroup := update s.hostgroup hid .create }

/-- `refresh_online_server_count`, which does nothing while the process shuts down -/
def refreshOnlineServerCount (s : Servers) (hid : Nat) : Servers :=
  if s.shutdown then s
  else
    let myhgc := s.hostgroup hid
    let count := myhgc.mysrvs.countP fun id => (s.srv id).status = .online
    { s with hostgroup := update s.hostgroup hid { myhgc with numOnlineServers := count } }

def setStatus (s : Servers) (id : SrvId) (status : Status) : Servers :=
  (s.put id { s.srv id with status := status }).refreshOnlineServerCount (s.srv id).hid

end Servers

/-! ### Requests -/

/-- The thread's variables and those of its session. -/
structure ThreadVars where
  defaultMaxLatencyMs : Nat
  shunRecoveryTimeSec : Nat
  connectTimeoutServerMax : Nat
  unshunAlgorithm : Nat
  auroraMaxLagMsOnlyReadFromReplicas : Nat
  minNumServersLatencyAwareness : Nat
  deriving DecidableEq

/-- `GTID_Server_Data`: the executed transactions as intervals for each uuid. -/
structure GtidServerData where
  active : Bool
  gtidExecuted : String → Option (List (Int × Int))

/-- The clock, the variables and `gtid_map`, which do not change during a call. -/
structure Env where
  now : Int
  vars : ThreadVars
  gtidMap : String → Option GtidServerData

/-- The arguments of a request for a connection. -/
structure Request where
  gtidUuid : Option String
  gtidTrxid : Nat
  maxLagMs : Int
  deriving DecidableEq

def GtidServerData.gtidExists (d : GtidServerData) (uuid : String) (trxid : Nat) : Bool :=
  match d.gtidExecuted uuid with
  | none => false
  | some intervals =>
    intervals.any fun i => i.1 ≤ Int.bmod trxid (2 ^ 64) ∧ Int.bmod trxid (2 ^ 64) ≤ i.2

/-- `MySQL_HostGroups_Manager::gtid_exists`; without a uuid there is nothing to look for. -/
def Env.gtidExists (env : Env) (v : MySrvC) (uuid : Option String) (trxid : Nat) : Bool :=
  match env.gtidMap (v.address ++ ":" ++ toString v.port), uuid with
  | some d, some uuid => d.active && d.gtidExists uuid trxid
  | _, _ => false

variable (v : MySrvC)

/-- `(unsigned int)max_lag_ms >= aws_aurora_current_lag_us / 1000`, where a lag is given -/
def MySrvC.lagWithin (maxLagMs : Int) : Bool :=
  maxLagMs < 0 ∨ (v.auroraCurrentLagUs / 1000 : Nat) ≤ maxLagMs

def MySrvC.serves (env : Env) (r : Request) : Bool :=
  if r.gtidTrxid ≠ 0 then env.gtidExists v r.gtidUuid r.gtidTrxid else v.lagWithin r.maxLagMs

/-- `mysrvc->max_latency_us ? mysrvc->max_latency_us :
mysql_thread___default_max_latency_ms*1000` -/
def MySrvC.maxLatency (env : Env) : Nat :=
  if v.maxLatencyUs ≠ 0 then v.maxLatencyUs else env.vars.defaultMaxLatencyMs * 1000

def MySrvC.near (env : Env) : Bool := v.currentLatencyUs < v.maxLatency env % 2 ^ 32

/-! ### Bringing back shunned servers -/

/-- `max_wait_sec` of the first scan -/
def ThreadVars.maxWaitSec (vars : ThreadVars) : Int :=
  max 1 (if int32 (vars.shunRecoveryTimeSec * 1000) ≥ vars.connectTimeoutServerMax then
    vars.connectTimeoutServerMax / 1000 - 1 else vars.shunRecoveryTimeSec)

/-- `max_wait_sec` of the second scan: a tenth -/
def ThreadVars.desperateWaitSec (vars : ThreadVars) : Int :=
  max 1 (if int32 (vars.shunRecoveryTimeSec * 1000) ≥ vars.connectTimeoutServerMax then
    vars.connectTimeoutServerMax / 10000 - 1 else vars.shunRecoveryTimeSec / 10)

/-- The last error is long enough ago, and connections that had to be killed are gone. -/
def MySrvC.waited (now maxWaitSec : Int) : Bool :=
  now > v.timeLastDetectedError ∧ now - v.timeLastDetectedError > maxWaitSec ∧
    (v.shunnedAndKillAllConnections = false ∨ v.connectionsUsed = [] ∧ v.connectionsFree = [])

def MySrvC.cleared : MySrvC :=
  { v with
    shunnedAutomatic := false
    connectErrAtTimeLastDetectedError := 0
    timeLastDetectedError := 0 }

namespace Servers

variable (s : Servers)

def unshun (id : SrvId) : Servers :=
  let s := s.setStatus id .online
  s.put id { (s.srv id).cleared with shunnedAndKillAllConnections := false }

def unshunDesperate (id : SrvId) : Servers :=
  let s := s.setStatus id .online
  s.put id (s.srv id).cleared

/-- The server that `unshun_server_all_hostgroups` finds in a hostgroup. -/
def findShunned (hid : Nat) (address : String) (port : Nat) : Option SrvId :=
  (s.hostgroup hid).mysrvs.find? fun id =>
    (s.srv id).status = .shunned ∧ (s.srv id).address = address ∧ (s.srv id).port = port

def unshunServerAllHostgroups (address : String) (port : Nat) (now maxWaitSec : Int)
    (skipHid : Nat) : Servers :=
  s.hids.foldl (fun s hid =>
    if hid = skipHid then s
    else match s.findShunned hid address port with
      | none => s
      | some id => if (s.srv id).waited now maxWaitSec then s.unshun id else s) s

end Servers

end MockProxy.Hostgroups
