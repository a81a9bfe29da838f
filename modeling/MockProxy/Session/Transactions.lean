import MockProxy.Session.Basic

/-!
# Transactions and hostgroups

What a session asks of its backend connections, and the two places where the hostgroup of a command
is chosen. A hostgroup is an `int` there; the number -1, which stands for none, is a parameter,
since the models of the handlers do not write it the same way.
-/

namespace MockProxy.Session

def serverStatusInTrans : Nat := 1

def serverStatusAutocommit : Nat := 2

def hasFlag (status flag : Nat) : Bool := status &&& flag ≠ 0

/-- `MySQL_Connection` of a backend -/
structure BackendConn where
  -- `mysql->server_status`, if there is a `mysql`
  serverStatus : Option Nat
  lastErrno : Nat
  unknownTransactionStatus : Bool
  lastSetAutocommit : Int
  hasSavepoint : Bool
  -- `parent->myhgc->hid`, an `unsigned int`
  hid : Nat
  deriving DecidableEq

namespace BackendConn

def isAutoCommit (c : BackendConn) : Bool :=
  match c.serverStatus with
  | none => false
  | some status =>
    if hasFlag status serverStatusAutocommit then c.lastSetAutocommit ≠ 0
    else c.lastSetAutocommit = -1

/-- `IsActiveTransaction`; `falseIsTrx` is `mysql_thread___autocommit_false_is_transaction`. -/
def isActiveTransaction (falseIsTrx : Bool) (c : BackendConn) : Bool :=
  match c.serverStatus with
  | none => false
  | some status =>
    hasFlag status serverStatusInTrans || (c.lastErrno ≠ 0 && c.unknownTransactionStatus) ||
      (falseIsTrx && !c.isAutoCommit)

def isKnownActiveTransaction (falseIsTrx : Bool) (c : BackendConn) : Bool :=
  c.serverStatus.any (hasFlag · serverStatusInTrans) || (falseIsTrx && !c.isAutoCommit)

def autocommitFalseAndSavepoint (c : BackendConn) : Bool := !c.isAutoCommit && c.hasSavepoint

/-- The setting only adds transactions. -/
theorem isActiveTransaction_mono {c : BackendConn} (active : c.isActiveTransaction false = true)
    (falseIsTrx : Bool) : c.isActiveTransaction falseIsTrx = true := by
  unfold isActiveTransaction at active ⊢
  cases status : c.serverStatus with
  | none =>
    rw [status] at active
    cases active
  | some value =>
    rw [status] at active
    have seen : (hasFlag value serverStatusInTrans ||
        (c.lastErrno ≠ 0 && c.unknownTransactionStatus)) = true := by simpa using active
    exact Bool.or_eq_true_iff.mpr (.inl seen)

end BackendConn

/-- The loop of `FindOneActiveTransaction` over the backends, which may have no connection. `cast`
makes the result of a hostgroup. -/
def findOneActive {ι : Type} (cast : Nat → ι) (falseIsTrx checkSavepoint : Bool) :
    (ret : ι) → List (Option BackendConn) → ι
  | ret, [] => ret
  | ret, none :: rest => findOneActive cast falseIsTrx checkSavepoint ret rest
  | ret, some c :: rest =>
    let hid := cast c.hid
    if c.isKnownActiveTransaction falseIsTrx then hid
    else if c.isActiveTransaction falseIsTrx then
      findOneActive cast falseIsTrx checkSavepoint hid rest
    else if checkSavepoint ∧ c.autocommitFalseAndSavepoint then hid
    else findOneActive cast falseIsTrx checkSavepoint ret rest

section Hostgroup

variable {ι : Type} [DecidableEq ι] (unset : ι)

/-- The start of `STATE_SLEEP` in `get_pkts_from_client`; `pin` is
`transaction_persistent_hostgroup`. -/
def startHostgroup (lockOn : Bool) (pin locked default current : ι) : ι :=
  if pin = unset then if lockOn = false ∨ locked = unset then default else locked
  else current

/-- The destination that the rules have found goes before the current hostgroup. -/
def redirectHostgroup (found : Bool) (pin destination current : ι) : ι :=
  if found ∧ pin = unset then destination else current

end Hostgroup

end MockProxy.Session
