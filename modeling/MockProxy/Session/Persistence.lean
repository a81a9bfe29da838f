import MockProxy.Lib.Machine
import MockProxy.Session.Transactions

/-!
# Transactions stay on their hostgroup

With `transaction_persistent`, a query that leaves a transaction open pins the session to the
hostgroup it ran on, and later queries are to go there until the transaction ends. The hostgroup of
a query is decided in several places, and not all of them look at the pin: `COMMIT` goes where
`FindOneActiveTransaction` says, `SHOW WARNINGS` to where the warnings are, a query that mentions
`LAST_INSERT_ID` to where rows were last changed. A query that ends without a transaction on its own
connection removes the pin, whichever connection that is.

Hostgroup -1 is `none`. Whether a server has a transaction open is part of the state of the
connection, next to what the proxy knows of it.
-/

namespace MockProxy.Session

/-- The settings that the decision depends on. -/
structure TrxConfig where
  transactionPersistent : Bool
  multiplexing : Bool
  setQueryLockOnHostgroup : Bool
  autocommitFalseIsTransaction : Bool
  defaultHostgroup : Nat

/-- A backend connection and what its server has. That is visible to the proxy: an OK packet carries
the status, and after an error it counts as unknown. -/
structure TrxConn extends BackendConn where
  -- a transaction is open on the server
  inTransaction : Bool
  visible : inTransaction = true → toBackendConn.isActiveTransaction false = true

/-- `MySQL_Backend` -/
structure TrxBackend where
  hostgroupId : Nat
  conn : Option TrxConn

inductive StmtKind where
  | query
  | prepare
  | execute
  deriving DecidableEq

/-- What the parsing of a `SET` statement leads to. -/
inductive SetOutcome where
  | notSet
  | answered
  -- it cannot be parsed; the session is locked and the statement forwarded
  | locks
  deriving DecidableEq

/-- A query of the client, with the answers of the parts of the proxy that it is shown to. -/
structure TrxQuery where
  kind : StmtKind
  text : String
  digestText : Option String
  -- answered before the query processor, or a `USE`
  special : Bool
  -- too large, or answered by a rule's `OK_msg` or `error_msg`
  ruled : Bool
  set : SetOutcome
  -- `SELECT CONNECTION_ID()`
  connectionId : Bool
  -- one of the plain forms of `SELECT LAST_INSERT_ID()` and `SELECT @@IDENTITY`
  plainLastInsertId : Bool
  kill : Bool
  cached : Bool
  -- the statement to prepare is known already
  prepared : Bool
  destinationHostgroup : Option Nat
  -- the connection that has warnings is reusable, with multiplexing not disabled
  releasable : Bool

namespace TrxQuery

variable (q : TrxQuery)

def isCommitRollback : Bool :=
  q.kind = .query ∧ (sameText q.text "commit" ∨ sameText q.text "rollback")

def isShowWarnings : Bool := q.digestText.any (sameText · "SHOW WARNINGS")

def isShowCountWarnings : Bool :=
  q.digestText.any (sameText · "SHOW COUNT(*) WARNINGS")

def mentionsLastInsertId : Bool :=
  q.digestText.any fun d => mentions d "LAST_INSERT_ID" || mentions d "@@IDENTITY"

end TrxQuery

/-- `MySQL_Session`, as far as the choice of the hostgroup goes. -/
structure TrxSession where
  currentHostgroup : Option Nat
  transactionPersistentHostgroup : Option Nat
  lockedOnHostgroup : Option Nat
  lastHgAffectedRows : Option Nat
  warningInHg : Option Nat
  mybes : List TrxBackend
  -- the hostgroup that the query under way was sent to
  sentTo : Option Nat

namespace TrxSession

def fresh : TrxSession := ⟨none, none, none, none, none, [], none⟩

/-! ### Backends -/

variable (s : TrxSession)

def setConn (hg : Nat) (conn : Option TrxConn) : TrxSession :=
  { s with mybes := s.mybes.map fun b => if b.hostgroupId = hg then { b with conn := conn } else b }

/-- `return_MySQL_Connection_To_Pool` -/
def returnToPool (hg : Nat) : TrxSession :=
  { s.setConn hg none with
    lastHgAffectedRows := if s.lastHgAffectedRows = some hg then none else s.lastHgAffectedRows }

def findConn (hg : Nat) : Option TrxConn :=
  (s.mybes.find? fun b => b.hostgroupId = hg).bind TrxBackend.conn

def findOrCreateBackend (hg : Nat) : TrxSession :=
  if s.mybes.any fun b => b.hostgroupId = hg then s
  else { s with mybes := s.mybes ++ [⟨hg, none⟩] }

variable (cfg : TrxConfig) (s : TrxSession)

/-- `FindOneActiveTransaction(true)` -/
def findOneActiveTransaction : Option Nat :=
  findOneActive some cfg.autocommitFalseIsTransaction true none
    (s.mybes.map fun b => b.conn.map TrxConn.toBackendConn)

variable (q : TrxQuery)

/-- `reset_warning_hostgroup_flag_and_release_connection` -/
def releaseWarning : TrxSession :=
  match s.warningInHg with
  | none => s
  | some hg =>
    let idle := (s.findConn hg).any fun c =>
      q.releasable && !c.isActiveTransaction cfg.autocommitFalseIsTransaction
    let s := if idle then s.returnToPool hg else s
    { s with warningInHg := none }

/-! ### The hostgroup of a query -/

/-- What a handler does with a query: answer it, or send it on, `lock` if the session is to be
locked on the hostgroup. -/
inductive Routed where
  | answered (s : TrxSession)
  | goesOn (s : TrxSession) (lock : Bool)

def beginCommand : TrxSession :=
  { s with
    currentHostgroup := startHostgroup none cfg.setQueryLockOnHostgroup
      s.transactionPersistentHostgroup s.lockedOnHostgroup (some cfg.defaultHostgroup)
      s.currentHostgroup }

def handlerCommitRollback : Routed :=
  match s.findOneActiveTransaction cfg with
  | some hg => .goesOn { s with currentHostgroup := some hg } false
  | none => .answered s

/-- `handler_special_queries`, only called for `COM_QUERY` -/
def handlerSpecialQueries : Routed :=
  if q.special then .answered s
  else if s.lockedOnHostgroup = none ∧ q.isCommitRollback then s.handlerCommitRollback cfg
  else .goesOn s false

def setDestination : TrxSession :=
  { s with
    currentHostgroup := redirectHostgroup none q.destinationHostgroup.isSome
      s.transactionPersistentHostgroup q.destinationHostgroup s.currentHostgroup }

/-- `__exit_set_destination_hostgroup` -/
def exitSetDestination : Routed :=
  let s := s.setDestination q
  if cfg.setQueryLockOnHostgroup ∧ s.lockedOnHostgroup ≠ none ∧
      s.currentHostgroup ≠ s.lockedOnHostgroup then .answered s
  else .goesOn s false

/-- `KILL` and the query cache -/
def handlerCache (cached : Bool) : Routed :=
  if q.kill then .answered s
  else if cached ∧ q.kind ≠ .prepare then
    if s.transactionPersistentHostgroup = none then .answered { s with currentHostgroup := none }
    else .answered s
  else s.exitSetDestination cfg q

/-- The hostgroup where rows were last changed, if the session still has its connection. -/
def lastWriteHostgroup : Option Nat :=
  s.lastHgAffectedRows.filter fun hg => (s.findConn hg).isSome

/-- `SET` statements, `SELECT CONNECTION_ID()` and `LAST_INSERT_ID` -/
def handlerText : Routed :=
  if s.lockedOnHostgroup = none ∧ q.set = .answered then .answered s
  else if s.lockedOnHostgroup = none ∧ q.set = .locks then .goesOn s true
  else if q.connectionId then .answered s
  else if q.mentionsLastInsertId then
    match s.lastWriteHostgroup with
    | some hg => .goesOn { s with currentHostgroup := some hg } false
    | none =>
      if q.plainLastInsertId then .answered s
      else s.handlerCache cfg q false
  else s.handlerCache cfg q q.cached

/-- `handler___status_WAITING_CLIENT_DATA___STATE_SLEEP___MYSQL_COM_QUERY_qpo` -/
def qpo (cfg : TrxConfig) (s : TrxSession) (q : TrxQuery) : Routed :=
  if q.ruled then .answered (s.releaseWarning cfg q)
  else if q.kind = .execute then (s.releaseWarning cfg q).exitSetDestination cfg q
  else if q.isShowWarnings then
    match s.warningInHg with
    | some hg => .goesOn { s with currentHostgroup := some hg } false
    | none => .answered s
  else if q.isShowCountWarnings then
    match s.warningInHg with
    | some hg => .answered { s with currentHostgroup := some hg }
    | none => .answered s
  else (s.releaseWarning cfg q).handlerText cfg q

/-- The lock on the hostgroup, behind the query processor. -/
def lockHostgroup (lock : Bool) : TrxSession :=
  if cfg.setQueryLockOnHostgroup ∧ s.lockedOnHostgroup = none ∧ lock then
    -- only the branch of COM_QUERY looks at the destination once more
    let s := if q.kind = .query then s.setDestination q else s
    { s with lockedOnHostgroup := s.currentHostgroup }
  else s

/-- The query is sent to the current hostgroup, unless the session is locked on another. -/
def send (lock : Bool) : TrxSession :=
  let s := s.lockHostgroup cfg q lock
  if cfg.setQueryLockOnHostgroup ∧ s.lockedOnHostgroup ≠ none ∧
      s.currentHostgroup ≠ s.lockedOnHostgroup then s
  else
    match s.currentHostgroup with
    | none => s
    | some hg =>
      let s := s.findOrCreateBackend hg
      if q.kind = .prepare ∧ q.prepared then s else { s with sentTo := some hg }

/-- A query, from `get_pkts_from_client` until it is answered or sent. -/
def route : TrxSession :=
  let special :=
    if q.kind = .query then (s.beginCommand cfg).handlerSpecialQueries cfg q
    else .goesOn (s.beginCommand cfg) false
  match special with
  | .answered s => s
  | .goesOn s _ =>
    match s.qpo cfg q with
    | .answered s => s
    | .goesOn s lock => s.send cfg q lock

/-! ### The end of a query -/

/-- What `ProcessQueryAndSetStatusFlags_Warnings` does. -/
inductive WarningChange where
  | found
  | cleared
  | kept

def changeWarning : WarningChange → TrxSession
  | .found => { s with warningInHg := s.currentHostgroup }
  | .cleared => { s with warningInHg := none }
  | .kept => s

/-- What becomes of a connection that is not needed any more. -/
inductive Release where
  | kept
  | pooled
  | destroyed

def release (hg : Nat) : Release → TrxSession
  | .kept => s
  | .pooled => s.returnToPool hg
  | .destroyed => s.setConn hg none

structure Result where
  conn : TrxConn
  affectedRows : Bool
  warning : WarningChange
  -- reusable, with multiplexing not disabled
  reusable : Bool
  release : Release

/-- `finishQuery`, for the connection to `hg` -/
def finishQuery (cfg : TrxConfig) (s : TrxSession) (hg : Nat) (r : Result) : TrxSession :=
  if cfg.multiplexing ∧ r.reusable ∧
    r.conn.isActiveTransaction cfg.autocommitFalseIsTransaction = false then
    let s := s.release hg r.release
    if cfg.transactionPersistent then { s with transactionPersistentHostgroup := none } else s
  else if cfg.transactionPersistent then
    if s.transactionPersistentHostgroup = none then
      if r.conn.isActiveTransaction cfg.autocommitFalseIsTransaction then
        { s with transactionPersistentHostgroup := s.currentHostgroup }
      else s
    else if r.conn.isActiveTransaction cfg.autocommitFalseIsTransaction = false then
      { s with transactionPersistentHostgroup := none }
    else s
  else s

/-- The query has succeeded. -/
def succeed (cfg : TrxConfig) (s : TrxSession) (hg : Nat) (r : Result) : TrxSession :=
  let s := (s.setConn hg (some r.conn)).changeWarning r.warning
  let s := if r.affectedRows then { s with lastHgAffectedRows := s.currentHostgroup } else s
  { s.finishQuery cfg hg r with sentTo := none }

/-- The query has failed, `handler_minus1_HandleBackendConnection`; the pin is not looked at. -/
def fail (cfg : TrxConfig) (s : TrxSession) (hg : Nat) (r : Result) : TrxSession :=
  let s := (s.setConn hg (some r.conn)).changeWarning r.warning
  let s :=
    if cfg.multiplexing ∧ r.reusable ∧
      r.conn.isActiveTransaction cfg.autocommitFalseIsTransaction = false then
      s.release hg r.release
    else s
  { s with sentTo := none }

/-! ### Steps -/

inductive Event where
  | query (q : TrxQuery)
  | succeeded (r : Result)
  | failed (r : Result)
  -- the connection is lost during the query, which is tried on another one or given up
  | lost (again : Bool)
  -- the connection is given back, or lost, between two queries
  | dropped (hg : Nat) (pooled : Bool)
  -- `COM_RESET_CONNECTION` and `COM_CHANGE_USER`
  | reset

/-- An event that cannot happen in the state is an error. -/
def step (e : Event) : Except Unit TrxSession :=
  match e, s.sentTo with
  | .query q, none => .ok (s.route cfg q)
  | .succeeded r, some hg => .ok (s.succeed cfg hg r)
  | .failed r, some hg => .ok (s.fail cfg hg r)
  | .lost again, some hg =>
    .ok { s.setConn hg none with sentTo := if again then some hg else none }
  -- only `return_MySQL_Connection_To_Pool` looks at `last_HG_affected_rows`
  | .dropped hg pooled, none => .ok (s.release hg (if pooled then .pooled else .destroyed))
  | .reset, none => .ok { fresh with lastHgAffectedRows := s.lastHgAffectedRows }
  | _, _ => .error ()

/-! ### What a query may change on its way -/

/-- The session has a connection to the hostgroup. -/
def HasConn (hg : Nat) (c : TrxConn) : Prop :=
  ∃ b ∈ s.mybes, b.hostgroupId = hg ∧ b.conn = some c

/-- A query may go to `hg`: the session is not pinned to another hostgroup. -/
def Allows (hg : Option Nat) : Prop :=
  ∀ h, s.transactionPersistentHostgroup = some h → hg = some h

def Pinned : Prop :=
  s.Allows s.currentHostgroup ∧ (s.warningInHg = none ∨ s.Allows s.warningInHg)

/-- Routing a query keeps the pin, opens no connection, and stays on the hostgroup of the pin. -/
structure Follows (s s' : TrxSession) : Prop where
  pin : s'.transactionPersistentHostgroup = s.transactionPersistentHostgroup
  conns : ∀ {hg c}, s'.HasConn hg c → s.HasConn hg c
  sentTo : s'.sentTo = s.sentTo
  pinned : s'.Pinned

variable {s s' : TrxSession} {hg g : Nat} {q : TrxQuery} {c : TrxConn} {cfg : TrxConfig}

theorem Follows.refl (pinned : s.Pinned) : Follows s s := ⟨rfl, id, rfl, pinned⟩

theorem Follows.trans {s'' : TrxSession} (first : Follows s s') (second : Follows s' s'') :
    Follows s s'' where
  pin := second.pin.trans first.pin
  conns := first.conns ∘ second.conns
  sentTo := second.sentTo.trans first.sentTo
  pinned := second.pinned

theorem allows_of_unpinned (unpinned : s.transactionPersistentHostgroup = none) (hg : Option Nat) :
    s.Allows hg := by
  intro h isPin
  rw [unpinned] at isPin
  cases isPin

theorem hasConn_setConn {conn : Option TrxConn} (has : (s.setConn hg conn).HasConn g c) :
    (g = hg ∧ conn = some c) ∨ (g ≠ hg ∧ s.HasConn g c) := by
  obtain ⟨b, member, rfl, isConn⟩ := has
  obtain ⟨b₀, member₀, rfl⟩ := List.mem_map.mp member
  by_cases same : b₀.hostgroupId = hg
  · simp_all
  · simp only [same] at isConn ⊢
    exact .inr ⟨same, b₀, member₀, rfl, isConn⟩

theorem hasConn_setConn_none (has : (s.setConn hg none).HasConn g c) : s.HasConn g c := by
  rcases hasConn_setConn has with ⟨-, gone⟩ | ⟨-, old⟩
  · cases gone
  · exact old

section

variable (pinned : s.Pinned)

include pinned

theorem follows_currentHostgroup {hg : Option Nat} (allowed : s.Allows hg) :
    Follows s { s with currentHostgroup := hg } :=
  ⟨rfl, id, rfl, allowed, pinned.2⟩

theorem follows_warning (warned : s.warningInHg = some hg) :
    Follows s { s with currentHostgroup := some hg } :=
  follows_currentHostgroup pinned (warned ▸ pinned.2.resolve_left (by simp [warned]))

theorem follows_setDestination (q : TrxQuery) : Follows s (s.setDestination q) := by
  refine follows_currentHostgroup pinned ?_
  unfold redirectHostgroup
  split
  next free => exact allows_of_unpinned free.2 _
  · exact pinned.1

theorem follows_release (hg : Nat) (r : Release) : Follows s (s.release hg r) := by
  cases r with
  | kept => exact .refl pinned
  | pooled | destroyed => exact ⟨rfl, hasConn_setConn_none, rfl, pinned⟩

theorem follows_releaseWarning (cfg : TrxConfig) (q : TrxQuery) :
    Follows s (s.releaseWarning cfg q) := by
  unfold releaseWarning
  split
  · exact .refl pinned
  · dsimp only
    split
    · exact ⟨rfl, hasConn_setConn_none, rfl, pinned.1, .inl rfl⟩
    · exact ⟨rfl, id, rfl, pinned.1, .inl rfl⟩

end

theorem releaseWarning_warningInHg (cfg : TrxConfig) (s : TrxSession) (q : TrxQuery) :
    (s.releaseWarning cfg q).warningInHg = none := by
  unfold releaseWarning
  split
  · assumption
  · rfl

/-! ### The handlers -/

/-- Whatever a handler does with the query, the session follows `s`; a query that goes on leaves
warnings only where it goes. -/
def Routed.Follow (s : TrxSession) : Routed → Prop
  | .answered s' => s.Follows s'
  | .goesOn s' lock => s.Follows s' ∧
      (s'.warningInHg = none ∨ (lock = false ∧ s'.warningInHg = s'.currentHostgroup))

theorem Routed.Follow.trans (first : s.Follows s') {r : Routed} (second : r.Follow s') :
    r.Follow s := by
  cases r with
  | answered s'' => exact first.trans second
  | goesOn s'' lock => exact ⟨first.trans second.1, second.2⟩

section

variable (cfg : TrxConfig) (pinned : s.Pinned) (noWarning : s.warningInHg = none)

include pinned noWarning

theorem follow_exitSetDestination (q : TrxQuery) : (s.exitSetDestination cfg q).Follow s := by
  have follows : s.Follows (s.setDestination q) ∧ (s.setDestination q).warningInHg = none :=
    ⟨follows_setDestination pinned q, noWarning⟩
  unfold exitSetDestination
  dsimp only
  split
  · exact follows.1
  · exact ⟨follows.1, .inl follows.2⟩

theorem follow_handlerCache (q : TrxQuery) (cached : Bool) :
    (s.handlerCache cfg q cached).Follow s := by
  unfold handlerCache
  split_ifs with kill hit unpinned
  · exact .refl pinned
  · exact follows_currentHostgroup pinned (allows_of_unpinned unpinned _)
  · exact .refl pinned
  · exact follow_exitSetDestination cfg pinned noWarning q

/-- A query that mentions `LAST_INSERT_ID` goes where rows were changed last. -/
theorem follow_handlerText (lastWrite : q.mentionsLastInsertId →
      ∀ g, s.lastWriteHostgroup = some g → s.Allows (some g)) : (s.handlerText cfg q).Follow s := by
  unfold handlerText
  split
  · exact .refl pinned
  split
  · exact ⟨.refl pinned, .inl noWarning⟩
  split
  · exact .refl pinned
  split
  next mentioned =>
    split
    next hg written =>
      exact ⟨follows_currentHostgroup pinned (lastWrite mentioned hg written), .inl noWarning⟩
    · split
      · exact .refl pinned
      · exact follow_handlerCache cfg pinned noWarning q _
  · exact follow_handlerCache cfg pinned noWarning q _

end

theorem findConn_setConn_none (found : (s.setConn hg none).findConn g = some c) :
    s.findConn g = some c := by
  simp only [findConn, setConn] at found ⊢
  generalize s.mybes = backends at found ⊢
  induction backends with
  | nil => exact found
  | cons b rest ih => by_cases here : b.hostgroupId = g <;> grind

theorem lastWriteHostgroup_returnToPool
    (written : (s.returnToPool hg).lastWriteHostgroup = some g) :
    s.lastWriteHostgroup = some g := by
  simp only [lastWriteHostgroup, returnToPool, Option.filter_eq_some_iff,
    Option.isSome_iff_exists] at written ⊢
  obtain ⟨last, c, found⟩ := written
  split at last
  · cases last
  · exact ⟨last, c, findConn_setConn_none found⟩

theorem lastWriteHostgroup_releaseWarning
    (written : (s.releaseWarning cfg q).lastWriteHostgroup = some g) :
    s.lastWriteHostgroup = some g := by
  unfold releaseWarning at written
  split at written
  · exact written
  · dsimp only at written
    split at written
    · exact lastWriteHostgroup_returnToPool written
    · exact written

/-- Where the two diversions that ignore the pin may go. -/
structure Undiverted (cfg : TrxConfig) (s : TrxSession) (q : TrxQuery) (h : Nat) : Prop where
  lastWrite : q.kind ≠ .execute → q.mentionsLastInsertId = true →
    ∀ g, s.lastWriteHostgroup = some g → g = h
  commit : s.lockedOnHostgroup = none → q.isCommitRollback = true →
    ∀ g, s.findOneActiveTransaction cfg = some g → g = h

theorem follow_qpo (cfg : TrxConfig) (pinned : s.Pinned)
    (lastWrite : q.kind ≠ .execute → q.mentionsLastInsertId →
      ∀ g, s.lastWriteHostgroup = some g → s.Allows (some g)) : (s.qpo cfg q).Follow s := by
  have released := follows_releaseWarning pinned cfg q
  have noWarning := releaseWarning_warningInHg cfg s q
  unfold qpo
  split
  · exact released
  split
  · exact .trans released (follow_exitSetDestination cfg released.pinned noWarning q)
  rename_i notExecute
  split
  · split
    next hg warned =>
      exact ⟨follows_warning pinned warned, .inr ⟨rfl, warned⟩⟩
    · exact .refl pinned
  split
  · split
    next hg warned =>
      exact follows_warning pinned warned
    · exact .refl pinned
  · refine .trans released (follow_handlerText cfg released.pinned noWarning ?_)
    intro mentioned g written h isPin
    rw [released.pin] at isPin
    exact lastWrite notExecute mentioned g (lastWriteHostgroup_releaseWarning written) h isPin

/-- Before the query processor a query is answered, or at most given another hostgroup. -/
theorem handlerSpecialQueries_cases (cfg : TrxConfig) (pinned : s.Pinned)
    (commit : s.lockedOnHostgroup = none → q.isCommitRollback →
      ∀ g, s.findOneActiveTransaction cfg = some g → s.Allows (some g)) :
    s.handlerSpecialQueries cfg q = .answered s ∨
      ∃ hg, s.handlerSpecialQueries cfg q = .goesOn { s with currentHostgroup := hg } false ∧
        s.Allows hg := by
  unfold handlerSpecialQueries handlerCommitRollback
  split
  · exact .inl rfl
  split
  next plain =>
    split
    next hg active =>
      exact .inr ⟨some hg, rfl, commit plain.1 plain.2 hg active⟩
    · exact .inl rfl
  · exact .inr ⟨s.currentHostgroup, rfl, pinned.1⟩

theorem beginCommand_eq (cfg : TrxConfig) (pinned : s.Pinned) :
    ∃ hg, s.beginCommand cfg = { s with currentHostgroup := hg } ∧ s.Allows hg := by
  refine ⟨_, rfl, ?_⟩
  unfold startHostgroup
  split
  next unpinned => exact allows_of_unpinned unpinned _
  · exact pinned.1

theorem follow_lockHostgroup (cfg : TrxConfig) (pinned : s.Pinned) (q : TrxQuery) {lock : Bool}
    (warning : s.warningInHg = none ∨ (lock = false ∧ s.warningInHg = s.currentHostgroup)) :
    s.Follows (s.lockHostgroup cfg q lock) ∧ ((s.lockHostgroup cfg q lock).warningInHg = none ∨
        (s.lockHostgroup cfg q lock).warningInHg =
          (s.lockHostgroup cfg q lock).currentHostgroup) := by
  unfold lockHostgroup
  split
  next locks =>
    have noWarning : s.warningInHg = none := by
      rcases warning with nowhere | ⟨unlocked, -⟩
      · exact nowhere
      · rw [unlocked] at locks
        cases locks.2.2
    split
    · obtain ⟨pin, conns, sentTo, pinned⟩ := follows_setDestination pinned q
      exact ⟨⟨pin, conns, sentTo, pinned⟩, .inl noWarning⟩
    · exact ⟨⟨rfl, id, rfl, pinned⟩, .inl noWarning⟩
  · exact ⟨.refl pinned, warning.imp_right And.right⟩

theorem hasConn_findOrCreateBackend (has : (s.findOrCreateBackend hg).HasConn g c) :
    s.HasConn g c := by
  unfold findOrCreateBackend at has
  split at has
  · exact has
  · obtain ⟨b, member, sameId, isConn⟩ := has
    rcases List.mem_append.mp member with old | new
    · exact ⟨b, old, sameId, isConn⟩
    · rw [List.mem_singleton.mp new] at isConn
      cases isConn

/-! ### Runs -/

/-- A transaction that is open on a hostgroup pins the session to it. -/
structure Persistent (s : TrxSession) : Prop where
  pinned : s.Pinned
  sent : ∀ h, s.sentTo = some h → s.currentHostgroup = some h ∧
    (s.warningInHg = none ∨ s.warningInHg = some h)
  opened : ∀ {hg c}, s.HasConn hg c → c.inTransaction = true →
    s.transactionPersistentHostgroup = some hg

theorem Persistent.of_follows (persistent : s.Persistent) (follows : s.Follows s')
    (waiting : s.sentTo = none) : s'.Persistent := by
  refine ⟨follows.pinned, fun h isSent => ?_, fun has inTransaction => ?_⟩
  · rw [follows.sentTo, waiting] at isSent
    cases isSent
  · exact follows.pin.trans (persistent.opened (follows.conns has) inTransaction)

theorem Persistent.send (persistent : s.Persistent) (waiting : s.sentTo = none) (cfg : TrxConfig)
    (q : TrxQuery) {lock : Bool}
    (warning : s.warningInHg = none ∨ (lock = false ∧ s.warningInHg = s.currentHostgroup)) :
    (s.send cfg q lock).Persistent ∧ (s.send cfg q lock).transactionPersistentHostgroup =
      s.transactionPersistentHostgroup := by
  obtain ⟨follows, warning'⟩ := follow_lockHostgroup cfg persistent.pinned q warning
  have locked := persistent.of_follows follows waiting
  unfold TrxSession.send
  generalize s.lockHostgroup cfg q lock = s' at *
  dsimp only
  split
  · exact ⟨locked, follows.pin⟩
  split
  · exact ⟨locked, follows.pin⟩
  rename_i hg current
  have opened {g : Nat} {c : TrxConn} (has : (s'.findOrCreateBackend hg).HasConn g c) :=
    locked.opened (hasConn_findOrCreateBackend has)
  have created : { s' with mybes := (s'.findOrCreateBackend hg).mybes } =
      s'.findOrCreateBackend hg := by
    unfold findOrCreateBackend
    split <;> rfl
  rw [← created] at opened ⊢
  split
  · exact ⟨{ __ := locked, opened }, follows.pin⟩
  · refine ⟨⟨locked.pinned, fun h isSent => ?_, opened⟩, follows.pin⟩
    cases isSent
    rw [current] at warning'
    exact ⟨current, warning'⟩

theorem Persistent.route (persistent : s.Persistent) (waiting : s.sentTo = none) (cfg : TrxConfig)
    (undiverted : ∀ h, s.transactionPersistentHostgroup = some h → s.Undiverted cfg q h) :
    (s.route cfg q).Persistent ∧ (s.route cfg q).transactionPersistentHostgroup =
      s.transactionPersistentHostgroup := by
  obtain ⟨hg, started, onPin⟩ := beginCommand_eq cfg persistent.pinned
  have follows := follows_currentHostgroup persistent.pinned onPin
  -- the query processor sees the session as it was, but for the hostgroup
  have processed : ∀ hg s', s.Allows hg →
      s' = (match { s with currentHostgroup := hg }.qpo cfg q with
        | .answered s => s
        | .goesOn s lock => s.send cfg q lock) →
      s'.Persistent ∧ s'.transactionPersistentHostgroup = s.transactionPersistentHostgroup := by
    intro hg s' onPin isResult
    have follows := follows_currentHostgroup persistent.pinned onPin
    have routed := follow_qpo cfg follows.pinned fun notExecute mentioned g written h isPin =>
      congrArg some ((undiverted h isPin).lastWrite notExecute mentioned g written)
    have persistent' := persistent.of_follows follows waiting
    cases handled : { s with currentHostgroup := hg }.qpo cfg q with
    | answered s'' =>
      rw [handled] at routed isResult
      subst isResult
      exact ⟨persistent'.of_follows routed waiting, routed.pin⟩
    | goesOn s'' lock =>
      rw [handled] at routed isResult
      subst isResult
      have ready := persistent'.of_follows routed.1 waiting
      have waiting' := routed.1.sentTo.trans waiting
      obtain ⟨sent, samePin⟩ := ready.send waiting' cfg q routed.2
      exact ⟨sent, samePin.trans routed.1.pin⟩
  unfold TrxSession.route
  rw [started]
  by_cases isQuery : q.kind = .query
  · simp only [isQuery]
    rcases handlerSpecialQueries_cases cfg follows.pinned fun unlocked plain g active h isPin =>
        congrArg some ((undiverted h isPin).commit unlocked plain g active)
      with answered | ⟨hg', goesOn, onPin'⟩
    · rw [answered]
      exact ⟨persistent.of_follows follows waiting, rfl⟩
    · rw [goesOn]
      exact processed hg' _ onPin' rfl
  · simp only [isQuery]
    exact processed hg _ onPin rfl

/-- A session whose query has ended: a transaction is at most open on the hostgroup it was sent
to. -/
structure Ended (s : TrxSession) (hg : Nat) (c : TrxConn) : Prop where
  current : s.currentHostgroup = some hg
  warning : s.warningInHg = none ∨ s.warningInHg = some hg
  pin : s.Allows (some hg)
  opened : ∀ {g d}, s.HasConn g d → d.inTransaction = true → g = hg ∧ d = c

theorem Persistent.ended (persistent : s.Persistent) (sent : s.sentTo = some hg) (c : TrxConn)
    (change : WarningChange) : ((s.setConn hg (some c)).changeWarning change).Ended hg c := by
  obtain ⟨current, warning⟩ := persistent.sent hg sent
  have pin : s.Allows (some hg) := current ▸ persistent.pinned.1
  have opened {g : Nat} {d : TrxConn} (has : (s.setConn hg (some c)).HasConn g d)
      (inTransaction : d.inTransaction) : g = hg ∧ d = c := by
    rcases hasConn_setConn has with ⟨sameId, new⟩ | ⟨other, old⟩
    · exact ⟨sameId, (Option.some.inj new).symm⟩
    · -- a transaction elsewhere would have pinned the session elsewhere
      have isPin := persistent.opened old inTransaction
      exact absurd (Option.some.inj (pin g isPin)).symm other
  cases change with
  | found => exact ⟨current, .inr current, pin, opened⟩
  | cleared => exact ⟨current, .inl rfl, pin, opened⟩
  | kept => exact ⟨current, warning, pin, opened⟩

theorem Ended.release (ended : s.Ended hg c) (r : Release) : (s.release hg r).Ended hg c := by
  obtain ⟨current, warning, pin, opened⟩ := ended
  cases r with
  | kept => exact ⟨current, warning, pin, opened⟩
  | pooled | destroyed =>
    exact ⟨current, warning, pin, fun has => opened (hasConn_setConn_none has)⟩

theorem Ended.persistent (ended : s.Ended hg c)
    (pins : c.inTransaction → s.transactionPersistentHostgroup = some hg) :
    ({ s with sentTo := none } : TrxSession).Persistent := by
  obtain ⟨current, warning, pin, opened⟩ := ended
  refine ⟨⟨current ▸ pin, warning.imp_right fun here h isPin => here.trans (pin h isPin)⟩, nofun,
    fun has inTransaction => ?_⟩
  obtain ⟨rfl, rfl⟩ := opened has inTransaction
  exact pins inTransaction

theorem Ended.pinTo (ended : s.Ended hg c) (pin : Option Nat)
    (here : ∀ h, pin = some h → some hg = some h) :
    ({ s with transactionPersistentHostgroup := pin } : TrxSession).Ended hg c :=
  { __ := ended, pin := here }

/-- A session that is pinned elsewhere could not have sent the query to `hg`; so the pin is removed
only with the transaction of its own connection. -/
theorem Ended.finishQuery (on : cfg.transactionPersistent) {r : Result}
    (ended : s.Ended hg r.conn) :
    ({ s.finishQuery cfg hg r with sentTo := none } : TrxSession).Persistent := by
  have noTransaction : r.conn.isActiveTransaction cfg.autocommitFalseIsTransaction = false →
    r.conn.inTransaction →
      ∀ P : Prop, P := by
    intro inactive inTransaction
    rw [BackendConn.isActiveTransaction_mono (r.conn.visible inTransaction)] at inactive
    cases inactive
  unfold TrxSession.finishQuery
  split
  next idle =>
    exact ((ended.release r.release).pinTo none nofun).persistent fun open' =>
      noTransaction idle.2.2 open' _
  split
  next unpinned =>
    split
    · exact (ended.pinTo _ fun h isPin => ended.current.symm.trans isPin).persistent fun _ =>
        ended.current
    next inactive =>
      exact ended.persistent fun open' => noTransaction (Bool.eq_false_iff.mpr inactive) open' _
  next isPinned =>
    split
    next inactive =>
      exact (ended.pinTo none nofun).persistent fun open' => noTransaction inactive open' _
    · refine ended.persistent fun _ => ?_
      obtain ⟨h, isPin⟩ := Option.ne_none_iff_exists'.mp isPinned
      rw [isPin, ended.pin h isPin]

theorem Persistent.succeed (on : cfg.transactionPersistent) (persistent : s.Persistent)
    (sent : s.sentTo = some hg) (r : Result) : (s.succeed cfg hg r).Persistent := by
  have ended := persistent.ended sent r.conn r.warning
  unfold TrxSession.succeed
  split
  · exact Ended.finishQuery on { __ := ended }
  · exact Ended.finishQuery on ended

theorem Persistent.fail (persistent : s.Persistent) (sent : s.sentTo = some hg) {r : Result}
    (noneLeft : s.transactionPersistentHostgroup = none → r.conn.inTransaction = false) :
    (s.fail cfg hg r).Persistent := by
  have ended := persistent.ended sent r.conn r.warning
  have samePin : ((s.setConn hg (some r.conn)).changeWarning
      r.warning).transactionPersistentHostgroup = s.transactionPersistentHostgroup := by
    cases r.warning <;> rfl
  unfold TrxSession.fail
  generalize (s.setConn hg (some r.conn)).changeWarning r.warning = s' at ended samePin ⊢
  have pins : r.conn.inTransaction → s'.transactionPersistentHostgroup = some hg := by
    intro inTransaction
    cases isPin : s.transactionPersistentHostgroup with
    | none =>
      rw [noneLeft isPin] at inTransaction
      cases inTransaction
    | some h =>
      have isPin := samePin.trans isPin
      rw [isPin, ended.pin h isPin]
  split
  · have kept : (s'.release hg r.release).transactionPersistentHostgroup =
        s'.transactionPersistentHostgroup := by
      cases r.release <;> rfl
    exact (ended.release r.release).persistent fun inTransaction => kept.trans (pins inTransaction)
  · exact ended.persistent pins

/-- The steps that leave a transaction where it is. -/
def Meets (cfg : TrxConfig) (s : TrxSession) : Event → Prop
  | .query q => ∀ h, s.transactionPersistentHostgroup = some h → s.Undiverted cfg q h
  | .failed r => s.transactionPersistentHostgroup = none → r.conn.inTransaction = false
  | _ => True

theorem persistent_unpinned (unpinned : s.transactionPersistentHostgroup = none)
    (none : s.mybes = [])
    (waiting : s.sentTo = .none) : s.Persistent := by
  refine ⟨⟨allows_of_unpinned unpinned _, .inr (allows_of_unpinned unpinned _)⟩, ?_, ?_⟩
  · simp [waiting]
  · simp [HasConn, none]

theorem Persistent.step (on : cfg.transactionPersistent) (persistent : s.Persistent)
    {e : Event} (meets : s.Meets cfg e) (stepped : s.step cfg e = .ok s') : s'.Persistent := by
  unfold TrxSession.step at stepped
  split at stepped
  next q waiting =>
    cases stepped
    exact (persistent.route waiting cfg meets).1
  next r hg sent =>
    cases stepped
    exact persistent.succeed on sent r
  next r hg sent =>
    cases stepped
    exact persistent.fail sent meets
  next again hg sent =>
    cases stepped
    refine ⟨persistent.pinned, fun h isSent => ?_,
      fun has => persistent.opened (hasConn_setConn_none has)⟩
    cases again with
    | true => exact persistent.sent h (sent.trans isSent)
    | false => cases isSent
  next hg pooled waiting =>
    cases stepped
    exact persistent.of_follows (follows_release persistent.pinned hg _) waiting
  · cases stepped
    exact persistent_unpinned rfl rfl rfl
  · cases stepped

/-! ### Two hostgroups -/

def trxConfig : TrxConfig := ⟨true, true, false, false, 0⟩

/-- A query that a rule sends to `hg`. -/
def ruleQuery (text : String) (hg : Nat) : TrxQuery where
  kind := .query
  text := text
  digestText := some text
  special := false
  ruled := false
  set := .notSet
  connectionId := false
  plainLastInsertId := false
  kill := false
  cached := false
  prepared := false
  destinationHostgroup := some hg
  releasable := false

/-- A query that succeeds on a connection which is not given back. -/
def okResult (hid : Nat) (inTransaction affectedRows : Bool) : Result where
  conn := {
    serverStatus := some (if inTransaction then 3 else 2)
    lastErrno := 0
    unknownTransactionStatus := false
    lastSetAutocommit := -1
    hasSavepoint := false
    hid := hid
    inTransaction := inTransaction
    visible := by rintro rfl; rfl }
  affectedRows := affectedRows
  warning := .kept
  reusable := false
  release := .kept

/-- While a transaction is open on a hostgroup the session is pinned to it, the query under way was
sent to it, and the next query keeps the pin and is sent nowhere else. -/
theorem transaction_keeps_hostgroup (cfg : TrxConfig) (on : cfg.transactionPersistent = true)
    {s : TrxSession} (run : Machine.Run (step cfg) (Meets cfg) fresh s) :
    ∀ b ∈ s.mybes, ∀ c, b.conn = some c → c.inTransaction = true →
      s.transactionPersistentHostgroup = some b.hostgroupId ∧
      (∀ h, s.sentTo = some h → h = b.hostgroupId) ∧ ∀ q, s.sentTo = none → s.Meets cfg (.query q) →
        (s.route cfg q).transactionPersistentHostgroup = some b.hostgroupId ∧
        ∀ h, (s.route cfg q).sentTo = some h → h = b.hostgroupId := by
  have persistent : s.Persistent := run.invariant Persistent (persistent_unpinned rfl rfl rfl)
    fun _ _ _ persistent meets stepped => persistent.step on meets stepped
  -- a query is sent to the current hostgroup, which is that of the pin
  have sentToPin : ∀ {s : TrxSession}, s.Persistent → ∀ {p h : Nat},
      s.transactionPersistentHostgroup = some p → s.sentTo = some h → h = p := by
    intro s persistent p h isPin isSent
    have current := (persistent.sent h isSent).1
    exact Option.some.inj (current.symm.trans (persistent.pinned.1 p isPin))
  intro b member c isConn inTransaction
  have isPin := persistent.opened ⟨b, member, rfl, isConn⟩ inTransaction
  refine ⟨isPin, fun h isSent => sentToPin persistent isPin isSent, fun q waiting meets => ?_⟩
  obtain ⟨routed, samePin⟩ := persistent.route waiting cfg meets
  have isPin' := samePin.trans isPin
  exact ⟨isPin', fun h isSent => sentToPin routed isPin' isSent⟩

theorem transaction_keeps_hostgroup_two :
    ∃ s : TrxSession, Machine.Run (step trxConfig) (Meets trxConfig) fresh s ∧
      s.transactionPersistentHostgroup = some 2 ∧ s.sentTo = none ∧
      ∀ h, (s.route trxConfig (ruleQuery "UPDATE t SET a=1" 1)).sentTo = some h → h = 2 := by
  have asked : Machine.Run (step trxConfig) (Meets trxConfig) fresh _ :=
    .step .start (by intro h isPin; cases isPin) (i := .query (ruleQuery "BEGIN" 2)) rfl
  have begun := asked.step (i := .succeeded (okResult 2 true false)) (by trivial) rfl
  have keeps := transaction_keeps_hostgroup trxConfig rfl begun
    ⟨2, some (okResult 2 true false).conn⟩
    List.mem_cons_self (okResult 2 true false).conn rfl rfl
  refine ⟨_, begun, keeps.1, rfl, (keeps.2.2 (ruleQuery "UPDATE t SET a=1" 1) rfl ?_).2⟩
  intro h _
  constructor
  · intro _ mentioned
    exact absurd mentioned (by decide)
  · intro _ plain
    exact absurd plain (by decide)

/-- Rows were changed on hostgroup 1, whose connection the session keeps; then a transaction is
begun on hostgroup 2. The query that mentions `LAST_INSERT_ID` goes to 1, its end removes the pin,
and the next write is sent to 1 although the transaction is still open on 2. -/
theorem last_insert_id_leaves_transaction :
    ∃ s : TrxSession, Machine.Run (step trxConfig) (fun _ _ => True) fresh s ∧
      (∃ b ∈ s.mybes, ∃ c, b.conn = some c ∧ c.inTransaction = true ∧ b.hostgroupId = 2) ∧
      s.transactionPersistentHostgroup = none ∧ s.sentTo = some 1 := by
  have ran : [.query (ruleQuery "INSERT INTO t VALUES (1)" 1), .succeeded (okResult 1 false true),
      .query (ruleQuery "BEGIN" 2), .succeeded (okResult 2 true false),
      .query (ruleQuery "SELECT LAST_INSERT_ID(), a FROM t" 2), .succeeded (okResult 1 false false),
      .query (ruleQuery "UPDATE t SET a=1" 1)].foldlM (step trxConfig) fresh = .ok _ := rfl
  exact ⟨_, Machine.run_of_foldlM ran, ⟨_, .tail _ (.head _), _, rfl, rfl, rfl⟩, rfl, rfl⟩

end TrxSession

end MockProxy.Session
