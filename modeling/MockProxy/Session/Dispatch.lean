import Mathlib.Data.List.GetD
import MockProxy.Session.Basic
import MockProxy.Session.Binds

/-!
# Command dispatch and prepared statements

A packet that arrives while the session waits for a command is handled by its command byte. The
handlers of `COM_STMT_RESET`, `COM_STMT_CLOSE` and `COM_STMT_SEND_LONG_DATA` take the statement and
the parameter from fixed offsets without comparing them with the size of the packet;
`COM_STMT_EXECUTE` compares the fixed part only.
-/

namespace MockProxy.Session

open Machine DataStream LittleEndian List

/-! ### The session -/

inductive SessionType where
  | mysql
  | admin
  | stats
  | sqlite
  | clickhouse
  deriving DecidableEq, Repr

/-- A prepared statement: what `GloMyStmt` and `sess_STMTs_meta` have under its global id. -/
structure Statement where
  numParams : Nat
  -- The metadata that an execution left in `sess_STMTs_meta`.
  kept : Option (Metadata numParams)

structure StmtSession where
  sessionType : SessionType
  -- `client_stmt_to_global_ids`, 0 where there is no entry.
  globalId : Nat → Nat
  statements : Nat → Option Statement
  longData : LongDataHandler

/-- What the client gets. -/
inductive Answer where
  | err (code : Nat) (sqlstate : String) (message : String)
  | ok
  | silent
  -- -1: the session ends.
  | drop
  -- The statement goes on to the query processor.
  | execute (binds : List Bound)
  -- The packet goes to the handler of another command.
  | handle (c : Command) (pkt : List Byte)

/-- The metadata an execution works with. -/
def Statement.metadata (pkt : List Byte) (stmt : Statement) : Metadata stmt.numParams :=
  stmt.kept.getD (zeroedMetadata pkt stmt.numParams)

/-- The fixed part of `COM_STMT_EXECUTE` after the command: statement, flags and iteration count,
and for a statement with parameters the NULL bitmap and the flag for types. -/
def executeFixed (numParams : Nat) : Nat :=
  if numParams = 0 then 10 else 11 + nullBitmapLength numParams

namespace StmtSession

variable (s : StmtSession) (clientId : Nat)

def statement? : Option Statement :=
  if s.globalId clientId = 0 then none else s.statements (s.globalId clientId)

def setKept (stmt : Statement) : StmtSession :=
  { s with statements := Function.update s.statements (s.globalId clientId) (some stmt) }

/-! ### Rewritten commands -/

def textBytes (text : String) : List Byte := text.toList.map fun c => UInt8.ofNat c.toNat

variable (pkt : List Byte)

/-- `handler___…___MYSQL_COM_INIT_DB_replace_CLICKHOUSE` -/
def initDbReplaceClickhouse : List Byte :=
  pkt.take hdrSize ++ 3 :: textBytes "USE " ++ pkt.drop 5

/-- `generate_COM_QUERY_from_COM_FIELD_LIST`, `none` when the table name has no end. -/
def comQueryFromFieldList : Option (List Byte) :=
  let args := pkt.drop 5
  if 0 ∈ args then
    let q := textBytes "SELECT * FROM `" ++ args.takeWhile (· ≠ 0) ++ textBytes "` WHERE 1=0"
    some (toBytes 3 (q.length + 1) ++ 1 :: 3 :: q)
  else none

def rewritten (c : Byte) (pkt : List Byte) : List Byte :=
  if s.sessionType = .clickhouse ∧ Command.ofByte c = some .initDb then initDbReplaceClickhouse pkt
  else if s.sessionType = .mysql ∧ Command.ofByte c = some .fieldList then
    (comQueryFromFieldList pkt).getD pkt
  else pkt

/-! ### Handlers -/

/-- `memcpy(&id, pkt.ptr + 5, sizeof(uint32_t))` -/
def readStmtId : Except Fault Nat := do
  let id ← readAt pkt 5 4
  return ofBytes id

def unknownStatement : Answer :=
  .err 1243 "HY000"
    ("Unknown prepared statement handler (" ++ toString clientId ++
      ") given to mysql_stmt_precheck")

/-- The call of `get_binds_from_pkt`, and `l_free(pkt.size, pkt.ptr)` if it gives `NULL`. -/
def bindsOrFree (pkt : List Byte) (longData : LongDataHandler) {numParams : Nat}
    (kept : Option (Metadata numParams)) :
    Except Fault (Option (Metadata numParams × List Bound)) := do
  match ← getBindsFromPkt pkt longData numParams kept with
  | .refused => return none
  -- the destructor of the metadata has freed the packet
  | .deleted _ => .error .doubleFree
  | .bound metadata binds => return some (metadata, binds)

def executeStatement (stmt : Statement) (pkt : List Byte) :
    Except Fault (Answer × StmtSession) := do
  match ← bindsOrFree pkt s.longData stmt.kept with
  | none => return (.err 1045 "28000" "Error in prepared statement execution", s)
  | some (metadata, binds) =>
    return (.execute binds, s.setKept clientId ⟨stmt.numParams, some metadata⟩)

/-- `handler___…___MYSQL_COM_STMT_EXECUTE` -/
def stmtExecute : Except Fault (Answer × StmtSession) :=
  if s.sessionType ≠ .mysql then .ok (.err 1045 "28000" "Command not supported", s)
  else do
    let id ← readStmtId pkt
    match s.statement? id with
    | none => return (unknownStatement id, s)
    | some stmt => s.executeStatement id stmt pkt

/-- `handler___…___MYSQL_COM_STMT_RESET` -/
def stmtReset : Except Fault (Answer × StmtSession) := do
  let id ← readStmtId pkt
  return (.ok, { s with longData := s.longData.reset id })

/-- `handler___…___MYSQL_COM_STMT_CLOSE`; erasing deletes the metadata. -/
def stmtClose : Except Fault (Answer × StmtSession) := do
  let id ← readStmtId pkt
  let s' : StmtSession :=
    { s with longData := s.longData.reset id, globalId := Function.update s.globalId id 0 }
  match s.statement? id with
  | none => return (.silent, s')
  | some stmt =>
    return (.silent, { s' with
      statements := Function.update s.statements (s.globalId id) (some ⟨stmt.numParams, none⟩) })

/-- `handler___…___MYSQL_COM_STMT_SEND_LONG_DATA` -/
def stmtSendLongData : Except Fault (Answer × StmtSession) := do
  let id ← readStmtId pkt
  let param ← readAt pkt 9 2
  -- `pkt.size - 11`, which does not wrap once both loads have succeeded
  let data ← readAt pkt 11 (pkt.length - 11)
  return (.silent, { s with longData := s.longData.add id (ofBytes param) data })

/-- The `switch` over the command. -/
def runCommand (c : Command) (pkt : List Byte) : Except Fault (Answer × StmtSession) :=
  match c with
  | .stmtExecute => s.stmtExecute pkt
  | .stmtReset => s.stmtReset pkt
  | .stmtClose => s.stmtClose pkt
  | .stmtSendLongData => s.stmtSendLongData pkt
  | .query | .stmtPrepare | .binlogDump | .binlogDumpGtid | .registerSlave | .changeUser | .ping
  | .setOption | .statistics | .initDb | .fieldList | .processKill | .resetConnection =>
    .ok (.handle c pkt, s)
  | _ => .ok (.drop, s)

/-- The case `STATE_SLEEP` of `get_pkts_from_client`. -/
def dispatch : Except Fault (Answer × StmtSession) := do
  let c ← readAt pkt hdrSize 1
  let pkt := s.rewritten (c.headD 0) pkt
  match Command.ofByte (pkt.getD hdrSize 0) with
  | some c => s.runCommand c pkt
  | none => return (.drop, s)

/-! ### What a packet must have -/

def payload : List Byte := pkt.drop hdrSize

def commandOf : Option Command := pkt[hdrSize]?.bind Command.ofByte

/-- An execution of a known statement that is not refused has the fixed part and the parameters. -/
def ExecuteInside : Prop :=
  ∀ stmt, s.statement? (stmtIdAt pkt) = some stmt → 10 ≤ (payload pkt).length →
    executeFixed stmt.numParams ≤ (payload pkt).length ∧
      (stmt.numParams = 0 ∨ ParamsInside pkt s.longData (stmt.metadata pkt))

/-- The packet is long enough for what its handler loads. -/
def Sufficient : Prop :=
  1 ≤ (payload pkt).length ∧
    match commandOf pkt with
    | some .stmtReset | some .stmtClose => 5 ≤ (payload pkt).length
    | some .stmtSendLongData => 7 ≤ (payload pkt).length
    | some .stmtExecute =>
      s.sessionType = .mysql → 5 ≤ (payload pkt).length ∧ s.ExecuteInside pkt
    | _ => True

/-- The packet ends before the fixed part of its command does. -/
def TooShort : Prop :=
  (payload pkt).length < 1 ∨
    match commandOf pkt with
    | some .stmtReset | some .stmtClose => (payload pkt).length < 5
    | some .stmtSendLongData => (payload pkt).length < 7
    | some .stmtExecute => (payload pkt).length < 10 ∨
        ∃ stmt, s.statement? (stmtIdAt pkt) = some stmt ∧
          (payload pkt).length < executeFixed stmt.numParams
    | _ => False

/-- `COM_STMT_SEND_LONG_DATA` appends the payload behind its first 7 bytes to the parameter, and
changes nothing else. -/
def AddsLongData : Prop :=
  ∃ s' data, s.dispatch pkt = .ok (.silent, s') ∧ data = (payload pkt).drop 7 ∧
    data.length + 7 = (payload pkt).length ∧
    s'.globalId = s.globalId ∧ s'.statements = s.statements ∧
    ∀ i p, if (i, p) = (stmtIdAt pkt, ofBytes ((pkt.drop 9).take 2)) then
        (s'.longData.get i p).getD [] = (s.longData.get i p).getD [] ++ data
      else s'.longData.get i p = s.longData.get i p

structure TakesFromPayload (pkt : List Byte) : Prop where
  inside : StaysInside (s.dispatch pkt)
  rejects : s.TooShort pkt → ∃ code sqlstate message s',
    s.dispatch pkt = .ok (.err code sqlstate message, s')
  adds : commandOf pkt = some .stmtSendLongData → s.AddsLongData pkt

/-! ### The handlers stay inside such packets -/

variable {s}

theorem readStmtId_eq (pkt : List Byte) :
    readStmtId pkt = if 9 ≤ pkt.length then .ok (stmtIdAt pkt) else .error .outOfBounds := by
  by_cases there : 9 ≤ pkt.length
  · simp [readStmtId, readAt, there, stmtIdAt]
  · simp [readStmtId, readAt, there]

variable {pkt : List Byte} {numParams : Nat} {c : Byte}

theorem length_payload (pkt : List Byte) : (payload pkt).length = pkt.length - 4 :=
  length_drop

theorem bindsOrFree_eq {longData : LongDataHandler} {kept : Option (Metadata numParams)} :
    bindsOrFree pkt longData kept =
      if pkt.length < 14 then .ok none
      else if numParams = 0 then .ok (some (kept.getD (zeroedMetadata pkt numParams), []))
      else if pkt.length < 15 + nullBitmapLength numParams then .error .doubleFree
      else do
        match ← bindTypes pkt longData (kept.getD (zeroedMetadata pkt numParams)) with
        | .refused => return none
        | .deleted _ => .error .doubleFree
        | .bound metadata binds => return some (metadata, binds) := by
  unfold bindsOrFree getBindsFromPkt
  split_ifs <;> rfl

theorem staysInside_executeStatement {clientId : Nat} {stmt : Statement} :
    StaysInside (s.executeStatement clientId stmt pkt) ↔ (10 ≤ (payload pkt).length →
      executeFixed stmt.numParams ≤ (payload pkt).length ∧
        (stmt.numParams = 0 ∨ ParamsInside pkt s.longData (stmt.metadata pkt))) := by
  rw [length_payload, executeFixed, executeStatement, bindsOrFree_eq]
  by_cases tiny : pkt.length < 14
  · have few : ¬ 10 ≤ pkt.length - 4 := by omega
    simp [tiny, few]
  · have enough : 10 ≤ pkt.length - 4 := by omega
    rw [if_neg tiny]
    by_cases none : stmt.numParams = 0
    · simp [none, enough]
    · rw [if_neg none, if_neg none]
      by_cases short : pkt.length < 15 + nullBitmapLength stmt.numParams
      · have missing : ¬ 11 + nullBitmapLength stmt.numParams ≤ pkt.length - 4 := by omega
        simp [short, missing, enough]
      · have whole : 11 + nullBitmapLength stmt.numParams ≤ pkt.length - 4 := by omega
        rw [if_neg short]
        simp only [enough, whole, none, true_imp_iff, true_and, false_or, ← staysInside_bindTypes]
        rw [StaysInside, failsOnly_bind, failsOnly_bind, and_assoc]
        refine and_iff_left ⟨fun result ran => ?_, fun taken _ => ?_⟩
        · rw [bindTypes_eq] at ran
          split_ifs at ran
          obtain ⟨binds, -, rfl⟩ := return_eq_ok.mp ran
          exact failsOnly_ok _
        · cases taken <;> exact failsOnly_ok _

theorem staysInside_stmtExecute (mysql : s.sessionType = .mysql) :
    StaysInside (s.stmtExecute pkt) ↔ 9 ≤ pkt.length ∧ s.ExecuteInside pkt := by
  simp only [stmtExecute, mysql, readStmtId_eq]
  by_cases there : 9 ≤ pkt.length
  · simp only [there, if_true, true_and, ok_bind]
    cases known : s.statement? (stmtIdAt pkt) with
    | none => simp [ExecuteInside, known]
    | some stmt =>
      simp only [ExecuteInside, known, Option.some.injEq, forall_eq']
      exact staysInside_executeStatement
  · simp [there]

attribute [local simp] readStmtId_eq

theorem staysInside_stmtReset : StaysInside (s.stmtReset pkt) ↔ 9 ≤ pkt.length := by
  by_cases there : 9 ≤ pkt.length <;>
    simp [stmtReset, there]

theorem staysInside_stmtClose : StaysInside (s.stmtClose pkt) ↔ 9 ≤ pkt.length := by
  by_cases there : 9 ≤ pkt.length
  · simp only [stmtClose, readStmtId_eq, there, if_true, ok_bind]
    split <;> simp
  · simp [stmtClose, there]

theorem stmtSendLongData_eq (there : 11 ≤ pkt.length) :
    s.stmtSendLongData pkt = .ok (.silent, { s with
      longData := s.longData.add (stmtIdAt pkt) (ofBytes ((pkt.drop 9).take 2))
        (pkt.drop 11) }) := by
  have id : 9 ≤ pkt.length := by omega
  have rest : (pkt.drop 11).take (pkt.length - 11) = pkt.drop 11 :=
    take_of_length_le (by simp)
  simp [stmtSendLongData, readAt, id, there, rest]

theorem staysInside_stmtSendLongData : StaysInside (s.stmtSendLongData pkt) ↔ 11 ≤ pkt.length := by
  by_cases there : 11 ≤ pkt.length
  · simp [stmtSendLongData_eq there, there]
  · by_cases id : 9 ≤ pkt.length
    · simp [stmtSendLongData, readAt, id, there]
    · simp [stmtSendLongData, id, there]

/-! ### Dispatch -/

theorem dispatch_empty (none : pkt[hdrSize]? = none) : s.dispatch pkt = .error .outOfBounds := by
  have short : ¬ hdrSize + 1 ≤ pkt.length := by
    have := getElem?_eq_none_iff.mp none
    omega
  simp [dispatch, readAt, short]

theorem dispatch_eq (first : pkt[hdrSize]? = some c) :
    s.dispatch pkt = match Command.ofByte ((s.rewritten c pkt).getD hdrSize 0) with
      | some command => s.runCommand command (s.rewritten c pkt)
      | none => .ok (.drop, s) := by
  obtain ⟨there, here⟩ := List.getElem?_eq_some_iff.mp first
  have read : readAt pkt hdrSize 1 = .ok [c] := by
    rw [readAt, if_pos (Nat.succ_le_of_lt there), drop_eq_getElem_cons there, here]
    rfl
  simp only [dispatch, read]
  rfl

theorem dispatch_command {command : Command} (found : commandOf pkt = some command)
    (initDb : command ≠ .initDb) (fieldList : command ≠ .fieldList) :
    s.dispatch pkt = s.runCommand command pkt := by
  obtain ⟨c, first, named⟩ := Option.bind_eq_some_iff.mp found
  have same : s.rewritten c pkt = pkt := by
    simp [rewritten, named, initDb, fieldList]
  have byte : pkt.getD hdrSize 0 = c := by simp [getD_eq_getElem?_getD, first]
  rw [dispatch_eq first, same, byte, named]

theorem rewritten_command (first : pkt[hdrSize]? = some c) :
    (s.rewritten c pkt).getD hdrSize 0 = c ∨ (s.rewritten c pkt).getD hdrSize 0 = 3 := by
  have there : hdrSize < pkt.length := (List.getElem?_eq_some_iff.mp first).1
  have same : pkt.getD hdrSize 0 = c := by simp [getD_eq_getElem?_getD, first]
  unfold rewritten
  split_ifs
  · right
    have header : (pkt.take hdrSize).length = hdrSize := length_take_of_le (Nat.le_of_lt there)
    rw [initDbReplaceClickhouse, append_assoc, getD_append_right _ _ _ _ (by omega),
      header]
    rfl
  · cases query : comQueryFromFieldList pkt with
    | none => exact .inl same
    | some q =>
      right
      unfold comQueryFromFieldList at query
      simp only at query
      split at query
      · obtain rfl := Option.some.inj query
        rfl
      · cases query
  · exact .inl same

def Command.isStatement : Command → Bool
  | .stmtExecute | .stmtReset | .stmtClose | .stmtSendLongData => true
  | _ => false

theorem runCommand_other {command : Command} (other : ¬ Command.isStatement command)
    (pkt : List Byte) : ∃ answer, s.runCommand command pkt = .ok (answer, s) := by
  cases command <;> first
    | exact ⟨_, rfl⟩
    | exact absurd rfl other

theorem dispatch_other (first : pkt[hdrSize]? = some c)
    (other : ∀ command, Command.ofByte c = some command → ¬ Command.isStatement command) :
    ∃ answer, s.dispatch pkt = .ok (answer, s) := by
  rw [dispatch_eq first]
  rcases rewritten_command first with same | query
  · rw [same]
    split
    next command named => exact runCommand_other (other command named) _
    next => exact ⟨.drop, rfl⟩
  · rw [query]
    exact runCommand_other (by decide) _

theorem commandOf_eq_none (empty : ¬ 1 ≤ (payload pkt).length) : pkt[hdrSize]? = none := by
  rw [length_payload] at empty
  exact getElem?_eq_none_iff.mpr (show pkt.length ≤ 4 by omega)

theorem staysInside_dispatch : StaysInside (s.dispatch pkt) ↔ s.Sufficient pkt := by
  by_cases some : 1 ≤ (payload pkt).length
  · obtain ⟨c, first⟩ : ∃ c, pkt[hdrSize]? = .some c := by
      rw [length_payload] at some
      exact ⟨_, getElem?_eq_getElem (show 4 < pkt.length by omega)⟩
    have named : commandOf pkt = Command.ofByte c := by simp [commandOf, first]
    have bytes (n : Nat) : 4 + n ≤ pkt.length ↔ n ≤ pkt.length - 4 := by
      rw [length_payload] at some
      omega
    simp only [Sufficient, some, true_and]
    split
    next command =>
      rw [dispatch_command command (by decide) (by decide), length_payload]
      exact staysInside_stmtReset.trans (bytes 5)
    next command =>
      rw [dispatch_command command (by decide) (by decide), length_payload]
      exact staysInside_stmtClose.trans (bytes 5)
    next command =>
      rw [dispatch_command command (by decide) (by decide), length_payload]
      exact staysInside_stmtSendLongData.trans (bytes 7)
    next command =>
      rw [dispatch_command command (by decide) (by decide), length_payload]
      by_cases mysql : s.sessionType = .mysql
      · simp only [mysql, true_imp_iff]
        exact (staysInside_stmtExecute mysql).trans (and_congr_left' (bytes 5))
      · simp [mysql, runCommand, stmtExecute]
    next reset close send execute =>
      obtain ⟨answer, done⟩ : ∃ answer, s.dispatch pkt = .ok (answer, s) := by
        refine dispatch_other first fun command found => ?_
        cases command <;> simp_all [Command.isStatement]
      simp [done]
  · simp [dispatch_empty (commandOf_eq_none some), Sufficient, some]

theorem executeFixed_ge (numParams : Nat) : 10 ≤ executeFixed numParams := by
  unfold executeFixed
  split <;> omega

theorem stmtExecute_rejects
    (sufficient : s.sessionType = .mysql → 5 ≤ (payload pkt).length ∧ s.ExecuteInside pkt)
    (short : (payload pkt).length < 10 ∨ ∃ stmt, s.statement? (stmtIdAt pkt) = some stmt ∧
      (payload pkt).length < executeFixed stmt.numParams) :
    ∃ code sqlstate message s', s.stmtExecute pkt = .ok (.err code sqlstate message, s') := by
  by_cases mysql : s.sessionType = .mysql
  · obtain ⟨id, inside⟩ := sufficient mysql
    have there : 9 ≤ pkt.length := by
      rw [length_payload] at id
      omega
    simp only [stmtExecute, mysql, readStmtId_eq, there, if_true, ok_bind]
    cases known : s.statement? (stmtIdAt pkt) with
    | none => exact ⟨_, _, _, _, rfl⟩
    | some stmt =>
      -- a packet behind the first check of the size has its fixed part
      have tiny : pkt.length < 14 := by
        by_contra enough
        have whole := (inside stmt known (by rw [length_payload]; omega)).1
        rw [length_payload] at short whole
        rcases short with tiny | ⟨stmt', known', short⟩
        · omega
        · obtain rfl := Option.some.inj (known.symm.trans known')
          omega
      refine ⟨1045, "28000", "Error in prepared statement execution", s, ?_⟩
      simp only [executeStatement, bindsOrFree_eq, tiny, if_true]
      rfl
  · exact ⟨_, _, _, s, if_pos mysql⟩

theorem addsLongData (command : commandOf pkt = some .stmtSendLongData)
    (enough : 7 ≤ (payload pkt).length) : s.AddsLongData pkt := by
  have there : 11 ≤ pkt.length := by
    rw [length_payload] at enough
    omega
  have same : (payload pkt).drop 7 = pkt.drop 11 := drop_drop
  have handled : s.dispatch pkt = _ :=
    (dispatch_command command (by decide) (by decide)).trans (stmtSendLongData_eq there)
  refine ⟨_, _, handled, same.symm, ?_, rfl, rfl, fun i p => ?_⟩
  · rw [length_payload, length_drop]
    omega
  · dsimp only
    rw [LongDataHandler.get_add]
    split_ifs
    · exact LongDataHandler.getD_appended _ _
    · rfl

/-- The arguments of a command come from its payload exactly when the payload is long enough.
Otherwise a byte behind the packet is taken for the command, an id or a parameter, or the packet is
freed twice. -/
theorem takesFromPayload_iff (s : StmtSession) (pkt : List Byte) :
    s.TakesFromPayload pkt ↔ s.Sufficient pkt := by
  constructor
  · intro takes
    exact staysInside_dispatch.mp takes.inside
  · intro sufficient
    refine ⟨staysInside_dispatch.mpr sufficient, ?_, ?_⟩
    · intro short
      rcases short with empty | short
      · exact absurd sufficient.1 (by omega)
      · have rest := sufficient.2
        split at short
        iterate 3
          next command =>
            simp only [command] at rest
            omega
        next command =>
          simp only [command] at rest
          rw [dispatch_command command (by decide) (by decide)]
          exact stmtExecute_rejects rest short
        next => exact absurd short id
    · intro command
      have enough := sufficient.2
      simp only [command] at enough
      exact addsLongData command enough

def fresh : StmtSession := ⟨.mysql, fun _ => 0, fun _ => none, LongDataHandler.empty⟩

/-- Client id 1 for a statement with one parameter. -/
def prepared : StmtSession :=
  { fresh with globalId := fun _ => 5, statements := fun _ => some ⟨1, none⟩ }

/-- An empty payload, a `COM_STMT_RESET` without a statement, a `COM_STMT_SEND_LONG_DATA` that ends
inside the number of the parameter, and a `COM_STMT_EXECUTE` without the flag for types. -/
theorem short_packets_load_outside : fresh.dispatch [0, 0, 0, 0] = .error .outOfBounds ∧
      fresh.dispatch [1, 0, 0, 0, 26] = .error .outOfBounds ∧
      fresh.dispatch [6, 0, 0, 0, 24, 1, 0, 0, 0, 0] = .error .outOfBounds ∧
      prepared.dispatch [11, 0, 0, 0, 23, 1, 0, 0, 0, 0, 1, 0, 0, 0, 0] = .error .doubleFree ∧
      ¬ fresh.TakesFromPayload [6, 0, 0, 0, 24, 1, 0, 0, 0, 0] := by
  refine ⟨rfl, rfl, rfl, rfl, fun takes => ?_⟩
  cases takes.inside .outOfBounds rfl

end StmtSession

end MockProxy.Session
