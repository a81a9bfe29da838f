import MockProxy.Lib.CString
import MockProxy.Session.Dispatch
import MockProxy.Session.Transactions

/-!
# The status flags of the proxy's own replies

The proxy answers some commands itself, and its replies carry the status flags of the server
protocol: whether a transaction is open, and whether autocommit is on. Each handler assembles them
anew. `KILL` assigns the flag for autocommit where the others add it, and the response to
`COM_STMT_PREPARE` compares an unsigned number with `>= 0`. A reply is right exactly if it is not
one of these (`flags_truthful_iff`).
-/

namespace MockProxy.Session

open List
open CString (int32)

/-- `NumActiveTransactions` counts this connection. -/
def BackendConn.counted (falseIsTrx checkSavepoint : Bool) (c : BackendConn) : Bool :=
  c.isActiveTransaction falseIsTrx || (checkSavepoint && c.autocommitFalseAndSavepoint)

/-- `MySQL_Session`; a backend may have no connection. -/
structure FlagSession where
  sessionType : SessionType
  autocommit : Bool
  mybes : List (Option BackendConn)
  deriving DecidableEq

namespace FlagSession

def numActiveTransactions (falseIsTrx checkSavepoint : Bool) (s : FlagSession) : Nat :=
  s.mybes.countP fun backend => backend.any (BackendConn.counted falseIsTrx checkSavepoint)

/-- The hostgroup is cast to `int`. -/
def findOneActiveTransaction (falseIsTrx checkSavepoint : Bool) (s : FlagSession) : Int :=
  findOneActive (int32 ·) falseIsTrx checkSavepoint (-1) s.mybes

end FlagSession

/-! ### The handlers -/

def setStatus (nTrx : Nat) (autocommit : Bool) : Nat :=
  let status := if nTrx ≠ 0 then serverStatusInTrans else 0
  if autocommit then status ||| serverStatusAutocommit else status

/-- A command that the proxy may answer itself. A statement to prepare is known already. -/
inductive FlagCommand where
  | setAutocommit (fd : Bool)
  | commitRollback
  | stmtReset
  | kill
  | stmtPrepare (numParams numColumns : Nat) (deprecateEof : Bool)
  deriving DecidableEq

namespace FlagSession

def handlerSetAutocommit (falseIsTrx fd : Bool) (s : FlagSession) : FlagSession × List Nat :=
  -- the transactions are counted before the session changes
  let nTrx := s.numActiveTransactions falseIsTrx false
  if fd ∧ s.autocommit = false ∧ s.numActiveTransactions falseIsTrx true ≠ 0 then
    -- it is forwarded
    ({ s with autocommit := true }, [])
  else
    let s := { s with autocommit := fd }
    (s, if s.sessionType = .mysql then [setStatus nTrx s.autocommit] else [])

variable (falseIsTrx : Bool) (s : FlagSession)

def handlerCommitRollback : List Nat :=
  if s.findOneActiveTransaction falseIsTrx true ≠ -1 then []
  else [setStatus 0 s.autocommit]

def handleCommandQueryKill : List Nat :=
  let nTrx := s.numActiveTransactions falseIsTrx false
  let status := if nTrx ≠ 0 then serverStatusInTrans else 0
  [if s.autocommit then serverStatusAutocommit else status]

/-- `generate_STMT_PREPARE_RESPONSE`: the flags are in the packets that end the parameters and the
columns. -/
def generateStmtPrepareResponse (numParams numColumns : Nat) (deprecateEof : Bool)
    (s : FlagSession) : List Nat :=
  -- an `unsigned int`
  let trxId := (s.findOneActiveTransaction falseIsTrx false % 2 ^ 32).toNat
  let status := if trxId ≥ 0 then serverStatusInTrans else 0
  let status := if s.autocommit then status + serverStatusAutocommit else status
  let eof (num : Nat) : List Nat := if num ≠ 0 ∧ deprecateEof = false then [status] else []
  eof numParams ++ eof numColumns

/-- The session afterwards, and the flags of the packets that are sent. -/
def reply : FlagCommand → FlagSession × List Nat
  | .setAutocommit fd => s.handlerSetAutocommit falseIsTrx fd
  | .commitRollback => (s, s.handlerCommitRollback falseIsTrx)
  | .stmtReset => (s, [setStatus (s.numActiveTransactions falseIsTrx false) s.autocommit])
  | .kill => (s, s.handleCommandQueryKill falseIsTrx)
  | .stmtPrepare numParams numColumns deprecateEof =>
    (s, s.generateStmtPrepareResponse falseIsTrx numParams numColumns deprecateEof)

/-! ### What the flags should say -/

def InTransaction : Prop :=
  ∃ c, some c ∈ s.mybes ∧ c.isActiveTransaction falseIsTrx = true

/-- The flags are those of the session. -/
def Truthful (status : Nat) : Prop :=
  (hasFlag status serverStatusInTrans = true ↔ s.InTransaction falseIsTrx) ∧
    (hasFlag status serverStatusAutocommit = true ↔ s.autocommit = true)

/-- The replies that are not right -/
def Misreports : FlagCommand → Prop
  | .setAutocommit _ => False
  -- a hostgroup is taken for "none": 4294967295 is -1 as an `int`
  | .commitRollback =>
    s.InTransaction falseIsTrx ∧ ∃ c, some c ∈ s.mybes ∧ int32 c.hid = -1
  | .stmtReset => False
  | .kill => s.autocommit = true ∧ s.InTransaction falseIsTrx
  | .stmtPrepare _ _ _ => ¬ s.InTransaction falseIsTrx

open BackendConn

variable {falseIsTrx : Bool} {s : FlagSession}

/-! ### Transactions -/

theorem numActiveTransactions_pos {checkSavepoint : Bool} :
    0 < s.numActiveTransactions falseIsTrx checkSavepoint ↔
      ∃ c, some c ∈ s.mybes ∧ c.counted falseIsTrx checkSavepoint := by
  unfold numActiveTransactions
  rw [countP_pos_iff]
  constructor
  · rintro ⟨backend, member, active⟩
    obtain ⟨c, rfl, active⟩ := (Option.any_eq_true _ _).mp active
    exact ⟨c, member, active⟩
  · rintro ⟨c, member, active⟩
    exact ⟨some c, member, active⟩

attribute [local simp] counted

theorem numActiveTransactions_ne_zero :
    s.numActiveTransactions falseIsTrx false ≠ 0 ↔ s.InTransaction falseIsTrx := by
  rw [Nat.ne_zero_iff_zero_lt, numActiveTransactions_pos]
  simp [InTransaction]

/-- The search finds a backend, or none of them is counted. -/
theorem findOneActive_cases (falseIsTrx checkSavepoint : Bool) (ret : Int)
    (mybes : List (Option BackendConn)) :
    (findOneActive (int32 ·) falseIsTrx checkSavepoint ret mybes = ret ∧
        ∀ c, some c ∈ mybes → ¬ c.counted falseIsTrx checkSavepoint) ∨ ∃ c, some c ∈ mybes ∧
        (c.isKnownActiveTransaction falseIsTrx ∨
          c.counted falseIsTrx checkSavepoint) ∧
        findOneActive (int32 ·) falseIsTrx checkSavepoint ret mybes = int32 c.hid := by
  induction mybes generalizing ret with
  | nil => exact .inl ⟨rfl, fun c member => by cases member⟩
  | cons backend rest ih =>
    have later : ∀ {P : BackendConn → Prop}, (∃ c, some c ∈ rest ∧ P c) →
        ∃ c, some c ∈ backend :: rest ∧ P c :=
      fun ⟨c, member, holds⟩ => ⟨c, mem_cons_of_mem _ member, holds⟩
    cases backend with
    | none => exact (ih ret).imp (fun ⟨same, idle⟩ => ⟨same, by simpa using idle⟩) later
    | some c =>
      simp only [findOneActive]
      split
      next known => exact .inr ⟨c, mem_cons_self, .inl known, rfl⟩
      · split
        next active =>
          -- it is remembered, and may be the result
          rcases ih (int32 c.hid) with ⟨same, -⟩ | other
          · exact .inr ⟨c, mem_cons_self, .inr (by simp [active]), same⟩
          · exact .inr (later other)
        next inactive =>
          split
          next savepoint =>
            exact .inr ⟨c, mem_cons_self, .inr (by simp [savepoint]), rfl⟩
          next none =>
            refine (ih ret).imp (fun ⟨same, idle⟩ => ⟨same, fun c' member => ?_⟩) later
            rcases mem_cons.mp member with here | inside
            · cases here
              simpa [inactive] using none
            · exact idle c' inside

/-- The search finds a hostgroup exactly if a backend is counted, and it is that of one. -/
def SearchAgrees (falseIsTrx checkSavepoint : Bool) (s : FlagSession) : Prop :=
  (s.findOneActiveTransaction falseIsTrx checkSavepoint ≠ -1 ↔
      0 < s.numActiveTransactions falseIsTrx checkSavepoint) ∧
    (s.findOneActiveTransaction falseIsTrx checkSavepoint ≠ -1 →
      ∃ c, some c ∈ s.mybes ∧ c.counted falseIsTrx checkSavepoint = true ∧
        s.findOneActiveTransaction falseIsTrx checkSavepoint = int32 c.hid)

/-- The search agrees with the count for all sets of backends that have connections of one kind,
exactly if none of these is without a server handle while autocommit off is taken for a transaction,
unless its savepoint is looked at. The hostgroup 4294967295, which is -1 as an `int`, is left
out. -/
theorem search_agrees_iff (falseIsTrx checkSavepoint : Bool) (kind : BackendConn → Prop) :
    (∀ s : FlagSession, (∀ c, some c ∈ s.mybes → kind c ∧ int32 c.hid ≠ -1) →
        s.SearchAgrees falseIsTrx checkSavepoint) ↔
      ∀ c, kind c → int32 c.hid ≠ -1 → c.serverStatus = none → falseIsTrx = true →
        checkSavepoint = true ∧ c.hasSavepoint = true := by
  constructor
  · intro agrees c isKind number noHandle falseTrx
    obtain ⟨alone, -⟩ := agrees ⟨.mysql, true, [some c]⟩ (by simpa using ⟨isKind, number⟩)
    have known : c.isKnownActiveTransaction falseIsTrx = true := by
      simp [isKnownActiveTransaction, isAutoCommit, noHandle, falseTrx]
    rw [findOneActiveTransaction, findOneActive, if_pos known, numActiveTransactions_pos] at alone
    obtain ⟨c', member, isCounted⟩ := alone.mp number
    cases mem_singleton.mp member
    simpa [isActiveTransaction, autocommitFalseAndSavepoint, isAutoCommit, noHandle]
      using isCounted
  · intro connected s kinds
    unfold SearchAgrees
    rw [numActiveTransactions_pos]
    rcases findOneActive_cases falseIsTrx checkSavepoint (-1) s.mybes with
      ⟨same, idle⟩ | ⟨c, member, hit, same⟩
    · refine ⟨iff_of_false (fun other => other same) ?_, fun other => absurd same other⟩
      rintro ⟨c, member, isCounted⟩
      exact idle c member isCounted
    · obtain ⟨isKind, number⟩ := kinds c member
      have isCounted : c.counted falseIsTrx checkSavepoint = true := by
        rcases hit with known | isCounted
        · cases status : c.serverStatus with
          | none =>
            have falseTrx : falseIsTrx = true ∧ c.isAutoCommit = false := by
              simpa [isKnownActiveTransaction, status] using known
            have savepoint := connected c isKind number status falseTrx.1
            simp [autocommitFalseAndSavepoint, falseTrx, savepoint]
          | some value =>
            have active : c.isActiveTransaction falseIsTrx = true := by
              simp only [isKnownActiveTransaction, isActiveTransaction, status] at known ⊢
              grind
            simp [active]
        · exact isCounted
      refine ⟨iff_of_true ?_ ⟨c, member, isCounted⟩, fun _ => ⟨c, member, isCounted, same⟩⟩
      exact fun none => number (same.symm.trans none)

/-- A connection without a server handle is not counted, and the search ends there. -/
theorem unconnected_backend_found :
    findOneActiveTransaction true false ⟨.mysql, true, [some ⟨none, 0, false, -1, false, 5⟩]⟩ = 5 ∧
      numActiveTransactions true false ⟨.mysql, true, [some ⟨none, 0, false, -1, false, 5⟩]⟩ = 0 :=
  ⟨rfl, rfl⟩

/-! ### The replies -/

theorem hasFlag_setStatus (nTrx : Nat) (autocommit : Bool) :
    hasFlag (setStatus nTrx autocommit) serverStatusInTrans = decide (nTrx ≠ 0) ∧
      hasFlag (setStatus nTrx autocommit) serverStatusAutocommit = autocommit := by
  unfold setStatus
  by_cases zero : nTrx = 0 <;> cases autocommit <;>
    simp [zero, hasFlag, serverStatusInTrans, serverStatusAutocommit]

theorem truthful_setStatus {nTrx : Nat} :
    s.Truthful falseIsTrx (setStatus nTrx s.autocommit) ↔
      (nTrx ≠ 0 ↔ s.InTransaction falseIsTrx) := by
  unfold Truthful
  rw [(hasFlag_setStatus _ _).1, (hasFlag_setStatus _ _).2]
  simp

variable {status : Nat}

theorem handlerSetAutocommit_truthful {fd : Bool}
    (sent : status ∈ (s.handlerSetAutocommit falseIsTrx fd).2) :
    (s.handlerSetAutocommit falseIsTrx fd).1.Truthful falseIsTrx status := by
  unfold handlerSetAutocommit at sent ⊢
  dsimp only at sent ⊢
  split at sent
  · cases sent
  next answered =>
    rw [if_neg answered]
    split at sent
    · rw [mem_singleton.mp sent]
      apply truthful_setStatus.mpr
      exact numActiveTransactions_ne_zero
    · cases sent

theorem handlerCommitRollback_truthful_iff (sent : status ∈ s.handlerCommitRollback falseIsTrx) :
    s.Truthful falseIsTrx status ↔ ¬ s.Misreports falseIsTrx .commitRollback := by
  unfold handlerCommitRollback at sent
  split at sent
  · cases sent
  next filtered =>
    have none_found : s.findOneActiveTransaction falseIsTrx true = -1 := by simpa using filtered
    rw [mem_singleton.mp sent, truthful_setStatus]
    simp only [ne_eq, not_true_eq_false, false_iff, Misreports, not_and]
    constructor
    · intro idle active
      exact absurd active idle
    · intro distinct active
      obtain ⟨c', isMember, isActive⟩ := id active
      obtain ⟨c, member, -, found⟩ :=
        (findOneActive_cases falseIsTrx true (-1) s.mybes).resolve_left
        fun ⟨_, idle⟩ => idle c' isMember (by simp [isActive])
      exact distinct active ⟨c, member, found.symm.trans none_found⟩

theorem handleCommandQueryKill_truthful_iff (sent : status ∈ s.handleCommandQueryKill falseIsTrx) :
    s.Truthful falseIsTrx status ↔ ¬ s.Misreports falseIsTrx .kill := by
  have same := mem_singleton.mp sent
  by_cases on : s.autocommit
  · -- the flag for the transaction is overwritten
    have as_idle : status = setStatus 0 s.autocommit := by
      rw [same, on]
      rfl
    rw [as_idle, truthful_setStatus]
    simp [Misreports, on]
  · have assembled : status = setStatus
        (s.numActiveTransactions falseIsTrx false) s.autocommit := by
      rw [same]
      simp [setStatus, on]
    rw [assembled, truthful_setStatus, numActiveTransactions_ne_zero]
    simp [Misreports, on]

theorem generateStmtPrepareResponse_truthful_iff {numParams numColumns : Nat} {deprecateEof : Bool}
    (sent : status ∈ s.generateStmtPrepareResponse falseIsTrx numParams numColumns deprecateEof) :
    s.Truthful falseIsTrx status ↔ s.InTransaction falseIsTrx := by
  have always : status = setStatus 1 s.autocommit := by
    unfold generateStmtPrepareResponse at sent
    simp only [mem_append, mem_ite_nil_right, mem_singleton] at sent
    have assembled : status = if s.autocommit then serverStatusInTrans + serverStatusAutocommit
        else serverStatusInTrans := sent.elim And.right And.right
    rw [assembled]
    rfl
  rw [always, truthful_setStatus]
  simp

/-- The flags of a reply are right for every command, every session and every setting, except in the
response to a statement that is prepared outside of a transaction, in the reply to `KILL` inside of
one with autocommit on, and in a `COMMIT` or `ROLLBACK` that is taken to have no transaction because
of the number of a hostgroup. -/
theorem flags_truthful_iff (cmd : FlagCommand) {status : Nat}
    (sent : status ∈ (s.reply falseIsTrx cmd).2) :
    (s.reply falseIsTrx cmd).1.Truthful falseIsTrx status ↔ ¬ s.Misreports falseIsTrx cmd := by
  cases cmd with
  | setAutocommit fd =>
    simp only [Misreports, not_false_eq_true, iff_true]
    exact handlerSetAutocommit_truthful sent
  | commitRollback => exact handlerCommitRollback_truthful_iff sent
  | stmtReset =>
    rw [mem_singleton.mp sent]
    simp only [Misreports, not_false_eq_true, iff_true]
    exact truthful_setStatus.mpr numActiveTransactions_ne_zero
  | kill => exact handleCommandQueryKill_truthful_iff sent
  | stmtPrepare numParams numColumns deprecateEof =>
    simp only [Misreports, not_not]
    exact generateStmtPrepareResponse_truthful_iff sent

def inTrans : BackendConn := ⟨some 3, 0, false, -1, false, 0⟩

/-- `SET autocommit=0` in a transaction -/
theorem flags_truthful_iff_set :
    (reply false ⟨.mysql, true, [some inTrans]⟩ (.setAutocommit false)).2 = [1] ∧
      (Truthful false ⟨.mysql, false, [some inTrans]⟩ 1 ↔
        ¬ Misreports false ⟨.mysql, true, [some inTrans]⟩ (.setAutocommit false)) :=
  ⟨rfl, flags_truthful_iff (s := ⟨.mysql, true, [some inTrans]⟩) (.setAutocommit false)
    (mem_singleton.mpr rfl)⟩

/-- `KILL` in a transaction, with autocommit on, says that there is no transaction. A statement that
is prepared without one says that there is. -/
theorem kill_and_prepare_misreport : (reply false ⟨.mysql, true, [some inTrans]⟩ .kill).2 = [2] ∧
      (reply false ⟨.mysql, true, []⟩ (.stmtPrepare 1 0 false)).2 = [3] ∧
      ¬ Truthful false ⟨.mysql, true, [some inTrans]⟩ 2 ∧
        ¬ Truthful false ⟨.mysql, true, []⟩ 3 := by
  refine ⟨rfl, rfl, ?_, ?_⟩
  · intro truthful
    have open_trx : InTransaction false ⟨.mysql, true, [some inTrans]⟩ :=
      ⟨inTrans, mem_singleton.mpr rfl, rfl⟩
    exact absurd (truthful.1.mpr open_trx) (by decide)
  · intro truthful
    obtain ⟨c, member, -⟩ := truthful.1.mp (by decide)
    cases member

end FlagSession

end MockProxy.Session
