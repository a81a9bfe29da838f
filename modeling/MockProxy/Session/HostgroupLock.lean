import MockProxy.Session.Dispatch
import MockProxy.Session.Transactions

/-!
# Sessions locked on a hostgroup

A `SET` statement that the proxy cannot parse locks the session on a hostgroup. A thread counts its
locked sessions in the gauge `hostgroup_locked`.

The gauge goes up when a text query locks the session. `COM_STMT_PREPARE` locks it as well, without
counting. The gauge goes down in the destructor of the session, after `reset` has already removed
the lock: so it never goes down. In the runs before that, the gauge is the number of locked sessions
(`gauge_exact_iff`).
-/

namespace MockProxy.Session

open Machine

/-- The fields of a session that belong to the lock -/
structure LockSession where
  sessionType : SessionType
  lockedOnHostgroup : Int := -1
  currentHostgroup : Int := -1
  defaultHostgroup : Int := -1
  transactionPersistentHostgroup : Int := -1
  deriving DecidableEq

/-- What the handler of a query (`..._COM_QUERY_qpo`) makes of it -/
inductive Parsed where
  -- the proxy answers itself; some of the branches change `current_hostgroup`
  | answered (currentHostgroup : Int)
  -- `SHOW WARNINGS`, and every query of a mirror session
  | sentTo (hostgroup : Int)
  -- a `SET` statement that cannot be parsed, and no rule about it
  | unparsed
  | routed
  deriving DecidableEq

/-- The commands of a client. `lockOn` is `mysql_thread___set_query_lock_on_hostgroup` and
`destination` is `qpo->destination_hostgroup`. -/
inductive LockCommand where
  | query (lockOn : Bool) (destination : Int) (parsed : Parsed)
  | prepare (lockOn : Bool) (destination : Int) (parsed : Parsed)
  -- the handler of queries skips `SET` statements here: it answers, or finds a hostgroup
  | execute (lockOn : Bool) (destination : Int) (answered : Option Int)
  | resetConnection
  -- the default hostgroup of the new account, if it was accepted
  | changeUser (account : Option Int)
  -- anything else the session does with its other fields
  | other (currentHostgroup defaultHostgroup transactionPersistentHostgroup : Int)
  deriving DecidableEq

namespace LockSession

/-- `locked_on_hostgroup >= 0` -/
def Locked (s : LockSession) : Prop := 0 ≤ s.lockedOnHostgroup

instance (s : LockSession) : Decidable s.Locked := inferInstanceAs (Decidable (_ ≤ _))

variable (s : LockSession)

def reset : LockSession :=
  { s with lockedOnHostgroup := -1, currentHostgroup := -1, defaultHostgroup := -1 }

def init : LockSession := { s with transactionPersistentHostgroup := -1 }

/-- What is done first with every command. -/
def beginCommand (lockOn : Bool) : LockSession :=
  { s with
    currentHostgroup := startHostgroup (-1) lockOn s.transactionPersistentHostgroup
      s.lockedOnHostgroup s.defaultHostgroup s.currentHostgroup }

def redirect (destination : Int) : LockSession :=
  { s with
    currentHostgroup := redirectHostgroup (-1) (destination ≥ 0)
      s.transactionPersistentHostgroup destination s.currentHostgroup }

end LockSession

/-- The result of the handler: the session, its return value and `*lock_hostgroup` -/
structure Handled where
  session : LockSession
  rcBreak : Bool
  lockHostgroup : Bool

def Handled.Locks (h : Handled) (lockOn : Bool) : Prop :=
  h.rcBreak = false ∧ lockOn = true ∧ h.session.lockedOnHostgroup < 0 ∧ h.lockHostgroup = true

instance (h : Handled) (lockOn : Bool) : Decidable (h.Locks lockOn) :=
  inferInstanceAs (Decidable (_ ∧ _ ∧ _ ∧ _))

namespace LockSession

/-- From `__exit_set_destination_hostgroup` on: a locked session is not sent elsewhere. -/
def route (s : LockSession) (lockOn : Bool) (destination : Int) : Handled :=
  let s := s.redirect destination
  ⟨s, lockOn ∧ s.Locked ∧ s.currentHostgroup ≠ s.lockedOnHostgroup, false⟩

/-- `handler___status_WAITING_CLIENT_DATA___STATE_SLEEP___MYSQL_COM_QUERY_qpo` -/
def qpo (s : LockSession) (lockOn : Bool) (destination : Int) : Parsed → Handled
  | .answered hostgroup => ⟨{ s with currentHostgroup := hostgroup }, true, false⟩
  | .sentTo hostgroup => ⟨{ s with currentHostgroup := hostgroup }, false, false⟩
  | .unparsed =>
    -- a session that is locked does not parse `SET` statements any more
    if s.lockedOnHostgroup = -1 then ⟨s, false, true⟩ else s.route lockOn destination
  | .routed => s.route lockOn destination

def qpoExecute (s : LockSession) (lockOn : Bool) (destination : Int) : Option Int → Handled
  | some hostgroup => ⟨{ s with currentHostgroup := hostgroup }, true, false⟩
  | none => s.route lockOn destination

end LockSession

/-- `COM_QUERY` after the handler; the gauge goes up if the session is locked. -/
def Handled.lockQuery (h : Handled) (lockOn : Bool) (destination : Int) : LockSession × Bool :=
  if h.Locks lockOn then
    let s := h.session.redirect destination
    ({ s with lockedOnHostgroup := s.currentHostgroup }, true)
  else (h.session, false)

/-- `COM_STMT_PREPARE` and `COM_STMT_EXECUTE` after the handler -/
def Handled.lockStatement (h : Handled) (lockOn : Bool) : LockSession :=
  if h.Locks lockOn then { h.session with lockedOnHostgroup := h.session.currentHostgroup }
  else h.session

namespace LockSession

def Resettable (s : LockSession) : Prop := s.sessionType = .mysql ∨ s.sessionType = .sqlite

instance (s : LockSession) : Decidable s.Resettable := inferInstanceAs (Decidable (_ ∨ _))

/-- A command: the session afterwards, and whether the gauge goes up. -/
def run (s : LockSession) : LockCommand → LockSession × Bool
  | .query lockOn destination parsed =>
    let s := s.beginCommand lockOn
    if s.sessionType = .mysql then (s.qpo lockOn destination parsed).lockQuery lockOn destination
    else (s, false)
  | .prepare lockOn destination parsed =>
    let s := s.beginCommand lockOn
    if s.sessionType = .mysql then ((s.qpo lockOn destination parsed).lockStatement lockOn, false)
    else (s, false)
  | .execute lockOn destination answered =>
    let s := s.beginCommand lockOn
    if s.sessionType = .mysql then
      ((s.qpoExecute lockOn destination answered).lockStatement lockOn, false)
    else (s, false)
  | .resetConnection =>
    if s.Resettable then ({ s.reset.init with defaultHostgroup := s.defaultHostgroup }, false)
    else (s, false)
  | .changeUser account =>
    if s.Resettable then
      ({ s.reset.init with defaultHostgroup := account.getD s.reset.defaultHostgroup }, false)
    else (s, false)
  | .other currentHostgroup defaultHostgroup transactionPersistentHostgroup =>
    ({ s with currentHostgroup, defaultHostgroup, transactionPersistentHostgroup }, false)

end LockSession

/-! ### The thread -/

/-- The sessions of a thread, with the gauge -/
structure LockThread where
  sessions : List LockSession
  hostgroupLocked : Nat
  deriving DecidableEq

inductive LockOp where
  | connect (sessionType : SessionType)
  | command (i : Nat) (cmd : LockCommand)
  | disconnect (i : Nat)
  deriving DecidableEq

inductive LockFault where
  -- `mysql_sessions` has a length of 32 bits
  | arrayFull
  | noSession
  deriving DecidableEq

namespace LockThread

def start : LockThread := ⟨[], 0⟩

def step (t : LockThread) : LockOp → Except LockFault LockThread
  | .connect sessionType =>
    if t.sessions.length + 1 < 2 ^ 32 then
      .ok { t with sessions := t.sessions ++ [{ sessionType := sessionType }] }
    else .error .arrayFull
  | .command i cmd =>
    match t.sessions[i]? with
    | none => .error .noSession
    | some s =>
      let (s, counted) := s.run cmd
      .ok ⟨t.sessions.set i s, (t.hostgroupLocked + counted.toNat) % 2 ^ 64⟩
  | .disconnect i =>
    match t.sessions[i]? with
    | none => .error .noSession
    | some s =>
      -- `~MySQL_Session`, which resets the session first
      let s := s.reset
      .ok ⟨PtrArray.removeIndexFast i t.sessions,
        if s.Locked then (t.hostgroupLocked + (2 ^ 64 - 1)) % 2 ^ 64 else t.hostgroupLocked⟩

def Balanced (t : LockThread) : Prop :=
  t.hostgroupLocked = t.sessions.countP fun s => s.Locked

instance (t : LockThread) : Decidable t.Balanced := inferInstanceAs (Decidable (_ = _))

end LockThread

/-! ### One session -/

namespace LockSession

variable {s : LockSession}

/-- The command changes the lock and the gauge differently: a query locks the session on no
hostgroup, a statement is prepared and locks it, or a locked session is reset. -/
def Unbalances (s : LockSession) : LockCommand → Prop
  | .query lockOn destination parsed =>
    let h := (s.beginCommand lockOn).qpo lockOn destination parsed
    s.sessionType = .mysql ∧ h.Locks lockOn ∧ (h.session.redirect destination).currentHostgroup < 0
  | .prepare lockOn destination parsed =>
    let h := (s.beginCommand lockOn).qpo lockOn destination parsed
    s.sessionType = .mysql ∧ h.Locks lockOn ∧ 0 ≤ h.session.currentHostgroup
  | .resetConnection => s.Resettable ∧ s.Locked
  | .changeUser _ => s.Resettable ∧ s.Locked
  | .execute _ _ _ => False
  | .other _ _ _ => False

def weight (s : LockSession) : Nat := if s.Locked then 1 else 0

variable (lockOn : Bool)

theorem beginCommand_locked : (s.beginCommand lockOn).lockedOnHostgroup = s.lockedOnHostgroup := rfl

theorem beginCommand_type : (s.beginCommand lockOn).sessionType = s.sessionType := rfl

variable (destination : Int)

theorem qpo_locked (parsed : Parsed) :
    (s.qpo lockOn destination parsed).session.lockedOnHostgroup = s.lockedOnHostgroup := by
  unfold qpo
  split <;> try split
  all_goals rfl

theorem qpoExecute_locked (answered : Option Int) :
    (s.qpoExecute lockOn destination answered).session.lockedOnHostgroup = s.lockedOnHostgroup := by
  cases answered with
  | some hostgroup => rfl
  | none => rfl

theorem qpoExecute_not_locks (answered : Option Int) :
    ¬ (s.qpoExecute lockOn destination answered).Locks lockOn := by
  rintro ⟨-, -, -, lock⟩
  cases answered <;> cases lock

theorem weight_eq (s : LockSession) : s.weight = if 0 ≤ s.lockedOnHostgroup then 1 else 0 := rfl

theorem weight_congr {s' : LockSession} (same : s'.lockedOnHostgroup = s.lockedOnHostgroup) :
    s'.weight = s.weight := by
  rw [weight_eq, weight_eq, same]

end LockSession

namespace Handled

open LockSession

variable {h : Handled} {lockOn : Bool}

theorem lockQuery_iff (destination : Int) : (h.lockQuery lockOn destination).1.weight =
        h.session.weight + (h.lockQuery lockOn destination).2.toNat ↔
      ¬ (h.Locks lockOn ∧ (h.session.redirect destination).currentHostgroup < 0) := by
  unfold lockQuery
  by_cases locks : h.Locks lockOn
  · have free := locks.2.2.1
    rw [if_pos locks]
    simp only [weight_eq, locks]
    split_ifs <;> simp <;> omega
  · simp [locks]

theorem lockStatement_iff : (h.lockStatement lockOn).weight = h.session.weight ↔
      ¬ (h.Locks lockOn ∧ 0 ≤ h.session.currentHostgroup) := by
  unfold lockStatement
  by_cases locks : h.Locks lockOn
  · have free := locks.2.2.1
    rw [if_pos locks]
    simp only [weight_eq, locks]
    split_ifs <;> simp <;> omega
  · simp [locks]

end Handled

namespace LockSession

variable {s : LockSession}

theorem weight_handled (s : LockSession) (lockOn : Bool) (destination : Int) (parsed : Parsed) :
    ((s.beginCommand lockOn).qpo lockOn destination parsed).session.weight = s.weight :=
  weight_congr ((qpo_locked lockOn destination parsed).trans (beginCommand_locked lockOn))

theorem reset_weight_iff {s' : LockSession} (free : s'.lockedOnHostgroup = -1) :
    s'.weight = s.weight ↔ ¬ s.Locked := by
  have none : s'.weight = 0 := by simp [weight_eq, free]
  rw [none, weight]
  split <;> simp [*]

theorem run_weight_iff (cmd : LockCommand) :
    (s.run cmd).1.weight = s.weight + (s.run cmd).2.toNat ↔ ¬ s.Unbalances cmd := by
  cases cmd with
  | query lockOn destination parsed =>
    simp only [run, Unbalances, beginCommand_type]
    by_cases mysql : s.sessionType = .mysql
    · simp only [mysql, if_true, true_and]
      rw [← weight_handled s lockOn destination parsed, Handled.lockQuery_iff]
    · simp [mysql, weight_congr (beginCommand_locked lockOn)]
  | prepare lockOn destination parsed =>
    simp only [run, Unbalances, beginCommand_type]
    by_cases mysql : s.sessionType = .mysql
    · rw [← weight_handled s lockOn destination parsed]
      simp [Handled.lockStatement_iff, mysql]
    · simp [mysql, weight_congr (beginCommand_locked lockOn)]
  | execute lockOn destination answered =>
    simp only [run, Unbalances, not_false_eq_true, iff_true]
    split
    · rw [Handled.lockStatement, if_neg (qpoExecute_not_locks lockOn destination answered)]
      exact weight_congr ((qpoExecute_locked lockOn destination answered).trans
        (beginCommand_locked lockOn))
    · exact weight_congr (beginCommand_locked lockOn)
  | resetConnection | changeUser _ =>
    simp only [run, Unbalances]
    split
    next resettable =>
      simp only [resettable, true_and]
      exact reset_weight_iff rfl
    next kept =>
      simp [kept]
  | other currentHostgroup defaultHostgroup transactionPersistentHostgroup =>
    simp only [Unbalances, not_false_eq_true, iff_true]
    rfl

end LockSession

namespace LockThread

variable {t t' : LockThread} {op : LockOp}

def Unbalances (t : LockThread) : LockOp → Prop
  | .connect _ => False
  | .command i cmd => ∃ s, t.sessions[i]? = some s ∧ s.Unbalances cmd
  | .disconnect i => ∃ s, t.sessions[i]? = some s ∧ s.Locked

def Bounded (t : LockThread) : Prop := t.sessions.length < 2 ^ 32

theorem countP_cons_weight (s : LockSession) (sessions : List LockSession) :
    ((s :: sessions).countP fun s => s.Locked) = s.weight + sessions.countP fun s => s.Locked := by
  rw [List.countP_cons, Nat.add_comm]
  simp [LockSession.weight]

theorem countP_set_weight {sessions : List LockSession} {i : Nat} {s : LockSession}
    (found : sessions[i]? = some s) (s' : LockSession) :
    ((sessions.set i s').countP fun s => s.Locked) + s.weight =
      (sessions.countP fun s => s.Locked) + s'.weight := by
  obtain ⟨bound, rfl⟩ := List.getElem?_eq_some_iff.mp found
  have replaced := (List.set_perm_cons_eraseIdx bound s').countP_eq fun s => decide s.Locked
  have before := (List.getElem_cons_eraseIdx_perm bound).countP_eq fun s => decide s.Locked
  rw [countP_cons_weight] at replaced before
  omega

theorem step_balanced (bounded : t.Bounded) (balanced : t.Balanced) (stepped : t.step op = .ok t') :
    t'.Bounded ∧ (t'.Balanced ↔ ¬ t.Unbalances op) := by
  have few : (t.sessions.countP fun s => s.Locked) < 2 ^ 32 :=
    Nat.lt_of_le_of_lt List.countP_le_length bounded
  unfold Balanced Bounded at *
  cases op with
  | connect sessionType =>
    obtain ⟨room, ⟨⟩⟩ := ite_eq_ok.mp stepped
    exact ⟨by simpa using room, by simp [Unbalances, List.countP_append, balanced,
      LockSession.Locked]⟩
  | command i cmd =>
    simp only [LockThread.step] at stepped
    split at stepped
    · cases stepped
    next s found =>
      cases stepped
      have moved := countP_set_weight found (s.run cmd).1
      have once := Bool.toNat_le (s.run cmd).2
      have only : t.Unbalances (.command i cmd) ↔ s.Unbalances cmd := by
        simp [Unbalances, found]
      rw [only, ← s.run_weight_iff cmd]
      exact ⟨by simpa using bounded, by dsimp only; omega⟩
  | disconnect i =>
    simp only [LockThread.step] at stepped
    split at stepped
    · cases stepped
    next s found =>
      cases stepped
      have shorter := PtrArray.length_removeIndexFast found
      have gone := (PtrArray.removeIndexFast_perm found).countP_eq fun s => decide s.Locked
      rw [countP_cons_weight] at gone
      -- the lock is gone before the destructor looks at it
      have unseen : ¬ s.reset.Locked := Int.not_le.mpr (by decide : (-1 : Int) < 0)
      have only : t.Unbalances (.disconnect i) ↔ s.Locked := by
        simp [Unbalances, found]
      rw [only, if_neg unseen]
      by_cases locked : s.Locked
      · simp only [LockSession.weight, locked, if_true, not_true_eq_false, iff_false] at gone ⊢
        omega
      · simp only [LockSession.weight, locked, if_false, not_false_eq_true, iff_true] at gone ⊢
        omega

/-- The gauge is the number of locked sessions after an operation if and only if the operation was
not a lock that is not counted, or the end or the reset of a locked session. -/
theorem gauge_exact_iff (reached : Run step (fun t op => ¬ t.Unbalances op) start t)
    (stepped : t.step op = .ok t') : t'.Balanced ↔ ¬ t.Unbalances op := by
  have sound : t.Bounded ∧ t.Balanced := by
    apply reached.invariant (fun t => t.Bounded ∧ t.Balanced)
    · exact ⟨Nat.two_pow_pos 32, rfl⟩
    · rintro t op t' ⟨bounded, balanced⟩ fine stepped
      exact (step_balanced bounded balanced stepped).imp_right fun exact => exact.mpr fine
  exact (step_balanced sound.1 sound.2 stepped).2

def connected : List LockOp := [.connect .mysql, .command 0 (.other (-1) 1 (-1))]

/-- A query locks the session and is counted. -/
theorem gauge_exact_iff_query : ∃ t t', connected.foldlM step start = .ok t ∧
      t.step (.command 0 (.query true (-1) .unparsed)) = .ok t' ∧ t'.hostgroupLocked = 1 ∧
      (t'.Balanced ↔ ¬ t.Unbalances (.command 0 (.query true (-1) .unparsed))) := by
  have balanced : ∀ op ∈ connected, ∀ t : LockThread, ¬ t.Unbalances op := by
    intro op member t
    rcases List.mem_pair.mp member with rfl | rfl
    · exact id
    · rintro ⟨s, -, unbalances⟩
      exact unbalances
  exact ⟨_, _, rfl, rfl, rfl, gauge_exact_iff (run_of_foldlM_of balanced rfl) rfl⟩

/-- A locked session disconnects: there is no session, and the gauge is 1. -/
theorem disconnect_leaves_gauge :
    ∃ t, (connected ++ [LockOp.command 0 (.query true (-1) .unparsed), .disconnect 0]).foldlM step
      start
        = .ok t ∧ t.sessions = [] ∧ t.hostgroupLocked = 1 ∧ ¬ t.Balanced :=
  ⟨⟨[], 1⟩, rfl, rfl, rfl, by decide⟩

end LockThread

end MockProxy.Session
