import MockProxy.Lib.Machine
import MockProxy.Variables.Connection

/-!
# A backend connection that clients use in turn

Before a client's query is sent on a backend connection, the session compares what the connection
records of its session variables with what the client has set, and sends `SET` commands, or a change
of user, until they agree. The record is changed when a `SET` is about to be sent, not when the
server has answered it.

`World` is one backend connection with all the clients of the proxy. The server's answers are
events, and what the server's own variables are is part of the state, so that the record can be
compared with them.
-/

namespace MockProxy.Variables

open Function Session Var

/-! ### The checks before a query is sent -/

section Checks

variable {hash : String → Nat} (client server : MysqlConnection hash)

/-- `handler_again___verify_backend_user_schema`: the status to go to, `none` to let the query
through. -/
def verifyBackendUserSchema : Option Status :=
  if client.userinfo.hash ≠ server.userinfo.hash ∧
      client.userinfo.username ≠ server.userinfo.username then some .changingUserServer
  else if client.userinfo.hash ≠ server.userinfo.hash ∧
      client.userinfo.schemaname ≠ server.userinfo.schemaname then some .changingSchema
  else if server.requiresChangeUser client then some .changingUserServer
  else none

/-- `verify_set_names`: the two connections once `SET NAMES` is about to be sent. -/
def verifySetNames : Option (MysqlConnection hash × MysqlConnection hash) :=
  let h := client.varHash characterSetClient
  if h = 0 ∨ h ≠ client.varHash characterSetResults ∨ h ≠ client.varHash characterSetConnection ∨
      h ≠ client.varHash collationConnection then none
  else if h = server.varHash characterSetClient ∧ h = server.varHash characterSetResults ∧
      h = server.varHash characterSetConnection ∧ h = server.varHash collationConnection then none
  else
    -- a variable with a hash has a value
    (client.value characterSetClient).map fun v =>
      let server := server.setHashAndValue characterSetClient characterSetClient_low v h
      let server := server.setHashAndValue characterSetResults characterSetResults_low v h
      let server := server.setHashAndValue characterSetConnection characterSetConnection_low v h
      let server := server.setHashAndValue collationConnection collationConnection_low v h
      (client.setHashAndValue characterSet (by decide) v h,
        server.setHashAndValue characterSet (by decide) v h)

/-- `verify_variable` with `verify_server_variable`: the backend's record once a `SET` of `i` is
about to be sent. -/
def verifyVariable (i : Var) : Option (MysqlConnection hash) :=
  if i.verified ∧ client.varHash i ≠ 0 ∧ client.varHash i ≠ server.varHash i then
    some (server.serverSetValue i (client.value i))
  else none

/-- The body of both loops of `handler_again___verify_multiple_variables`. -/
def verifyOne (i : Var) : Option (Var × MysqlConnection hash) :=
  if client.varHash i ≠ server.varHash i ∧ server.varAbsent i = false then
    (verifyVariable client server i).map fun server => (i, server)
  else none

/-- `handler_again___verify_multiple_variables`: the first variable to be set. -/
def verifyMultipleVariables : Option (Var × MysqlConnection hash) :=
  let low := (List.finRange 59).filter fun i => i < lowWm ∧ client.varHash i ≠ 0
  (low ++ client.dynamicVariablesIdx).findSome? (verifyOne client server)

end Checks

/-! ### The connection, its clients and its server -/

/-- The server behind the connection. `coupled i j` says that a `SET` of `i` may change `j` as well,
as `aurora_read_replica_read_committed` does with the isolation level, and `max_join_size` with
`sql_big_selects`. -/
structure Server where
  knows : Var → Bool
  defaults : Var → String
  coupled : Var → Var → Bool

/-- A client's session. -/
structure Client (hash : String → Nat) where
  conn : MysqlConnection hash
  -- `locked_on_hostgroup != -1`
  lockedOnHostgroup : Bool
  -- `locked_on_hostgroup_and_all_variables_set`
  allVariablesSet : Bool

/-- What the connection is doing: `waiting` for the answer to a command of the proxy's own, in the
session status of that command. -/
inductive Phase where
  | pooled
  | verifying
  | waiting (status : Status)
  | querySent
  | destroyed
  deriving DecidableEq

structure World (hash : String → Nat) where
  clients : Nat → Client hash
  -- the client that holds the connection, or held it last
  current : Nat
  server : MysqlConnection hash
  changingVariableIdx : Var
  -- the server's own values
  actual : Var → String
  phase : Phase

inductive Reply where
  -- with the new values of the coupled variables
  | ok (side : Var → String)
  | err (errno : Nat)

inductive Event where
  -- A client takes the connection out of the pool to run a query.
  | attach (id : Nat)
  -- A `SET` of a client, which the proxy only records.
  | clientSet (id : Nat) (i : Var) (v : String)
  -- The client's session is reset.
  | clientReset (id : Nat)
  -- The client's session is locked on a hostgroup.
  | lock (id : Nat)
  -- `init_connect` runs on a connection without recorded variables.
  | initConnect (after : Var → String)
  -- One pass through the checks.
  | verify
  -- The checks find that the connection has to report GTIDs.
  | trackGtids
  | reply (r : Reply)
  -- The query has ended and the connection can be used again.
  | queryDone
  -- The connection is reset while it is in the pool.
  | resetConnection

/-- Why there is no next state. -/
inductive Stop where
  -- an event that cannot happen in the state
  | impossible
  -- `var_absent` is written behind its end
  | varAbsentOverrun
  deriving DecidableEq

namespace World

variable {hash : String → Nat} (w : World hash)

def client : MysqlConnection hash := (w.clients w.current).conn

def setClient (id : Nat) (c : Client hash) : World hash :=
  { w with clients := update w.clients id c }

def setConn (id : Nat) (conn : MysqlConnection hash) : World hash :=
  w.setClient id { w.clients id with conn := conn }

/-- The variable whose `SET` is under way. -/
def setting : Option Var :=
  match w.phase with
  | .waiting .settingVariable => ofStatus .settingVariable w.changingVariableIdx
  | .waiting .settingIsolationLevel => ofStatus .settingIsolationLevel w.changingVariableIdx
  | .waiting .settingTransactionRead => ofStatus .settingTransactionRead w.changingVariableIdx
  | .waiting .settingNextIsolationLevel =>
    ofStatus .settingNextIsolationLevel w.changingVariableIdx
  | .waiting .settingNextTransactionRead =>
    ofStatus .settingNextTransactionRead w.changingVariableIdx
  | _ => none

/-- One pass through the checks of `handler`. -/
def verify : World hash :=
  let c := w.clients w.current
  match verifyBackendUserSchema c.conn w.server with
  | some status => { w with phase := .waiting status }
  | none =>
    if c.lockedOnHostgroup ∧ c.allVariablesSet then { w with phase := .querySent }
    else
      match verifySetNames c.conn w.server with
      | some (conn, server) =>
        { w.setConn w.current conn with server := server, phase := .waiting .settingSetNames }
      | none =>
        match verifyMultipleVariables c.conn w.server with
        | some (i, server) =>
          { w with server := server, changingVariableIdx := i, phase := .waiting i.status }
        | none =>
          let allSet := c.allVariablesSet || c.lockedOnHostgroup
          { w.setClient w.current { c with allVariablesSet := allSet } with phase := .querySent }

/-! ### The answers of the server -/

/-- The record when the `SET` is sent, as `update_server_variable` and the composition of the query
leave it. -/
def aboutToSet (client server : MysqlConnection hash) (i : Var) : MysqlConnection hash :=
  let server := server.serverSetValue i (client.value i)
  if sameText "aurora_read_replica_read_committed" i.setVariableName then
    server.resetValue isolationLevel
  else server

variable (sv : Server) (w : World hash) (i : Var)

/-- The server's values after a `SET` that succeeded. -/
def landed (side : Var → String) (j : Var) : String :=
  if j = i then (w.client.value i).getD (w.actual i)
  else if sv.coupled i j then side j
  else w.actual j

def resetBoth : World hash :=
  { w.setConn w.current (w.client.resetValue i) with server := w.server.resetValue i }

def marksAbsent (name : String) (errno : Nat) : Bool :=
  errno = 1064 ∨ errno = 1193 ∨ errno = 1651 ∨ isPermTrackErr errno name

/-- `handler_again___status_SETTING_GENERIC_VARIABLE` of the variable `name`, for an error. -/
def refused (name : String) (errno : Nat) : Except Stop (World hash) :=
  if 2000 ≤ errno ∨ errno = 0 then .ok { w with phase := .destroyed }
  else if marksAbsent name errno then
    match ofName name with
    | some j =>
      if j ≠ lowWm then .ok { w with server := w.server.markAbsent j, phase := .verifying }
      else .ok { w with phase := .destroyed }
    -- the index is still `SQL_NAME_LAST_HIGH_WM`
    | none => .error .varAbsentOverrun
  else .ok { w with phase := .destroyed }

/-- `handler_again___status_SETTING_GENERIC_VARIABLE` of a tracked variable, once the answer is
there. -/
def settingGenericVariable (r : Reply) : Except Stop (World hash) :=
  let sent := { w with server := aboutToSet w.client w.server i }
  match r with
  | .ok side =>
    let set := { sent with actual := landed sv w i side, phase := .verifying }
    if sameText "transaction isolation level" i.setVariableName then
      .ok (set.resetBoth nextIsolationLevel)
    else if sameText "transaction read" i.setVariableName then
      .ok (set.resetBoth nextTransactionRead)
    else .ok set
  | .err errno => sent.refused i.setVariableName errno

/-- `handler_again___status_SETTING_SESSION_TRACK_GTIDS`, once the answer is there. -/
def settingSessionTrackGtids : Reply → Except Stop (World hash)
  | .ok _ => .ok { w with phase := .verifying }
  | .err errno => w.refused "SESSION_TRACK_GTIDS" errno

/-- `handler_again___status_SETTING_SQL_LOG_BIN`, once the answer is there. -/
def settingSqlLogBin : Reply → World hash
  | .ok side => { w with actual := landed sv w sqlLogBin side, phase := .verifying }
  | .err _ => { w with phase := .destroyed }

def updateVariable (r : Reply) : Except Stop (World hash) :=
  if i = sqlLogBin then .ok (w.settingSqlLogBin sv r) else w.settingGenericVariable sv i r

/-- `handler_again___status_CHANGING_USER_SERVER` -/
def changingUserServer : Reply → World hash
  | .ok _ =>
    let server := { w.server with userinfo := w.client.userinfo }
    { w with server := server.reset, actual := sv.defaults, phase := .verifying }
  | .err _ => { w with phase := .destroyed }

/-- `handler_again___status_CHANGING_SCHEMA` -/
def changingSchema : Reply → World hash
  | .ok _ =>
    { w with server := { w.server with userinfo := w.client.userinfo }, phase := .verifying }
  | .err _ => { w with phase := .destroyed }

/-- `handler_again___status_CHANGING_CHARSET` -/
def changingCharset : Reply → World hash
  | .ok _ =>
    match w.client.value characterSetClient with
    | none => { w with phase := .verifying }
    | some v =>
      { w.setConn w.current (w.client.clientSetValue characterSet v) with phase := .verifying }
  | .err _ => { w with phase := .destroyed }

def reply (r : Reply) : Except Stop (World hash) :=
  if w.phase = .waiting .changingUserServer then .ok (w.changingUserServer sv r)
  else if w.phase = .waiting .changingSchema then .ok (w.changingSchema r)
  else if w.phase = .waiting .settingSetNames then .ok (w.changingCharset r)
  else if w.phase = .waiting .settingSessionTrackGtids then w.settingSessionTrackGtids r
  else
    match w.setting with
    | some i => w.updateVariable sv i r
    | none => .error .impossible

/-! ### Steps -/

def Busy (id : Nat) : Prop :=
  id = w.current ∧ w.phase ≠ .pooled ∧ w.phase ≠ .destroyed

instance (w : World hash) (id : Nat) : Decidable (w.Busy id) :=
  inferInstanceAs (Decidable (_ ∧ _ ∧ _))

/-- An event that cannot happen in the state is an error. -/
def step (sv : Server) (w : World hash) : Event → Except Stop (World hash)
  | .attach id =>
    if w.phase = .pooled then .ok { w with current := id, phase := .verifying }
      else .error .impossible
  | .clientSet id i v =>
    -- the session may replace an unsupported character set while the client waits
    if w.Busy id ∧ lowWm < i then .error .impossible
    else .ok (w.setConn id ((w.clients id).conn.clientSetValue i v))
  | .clientReset id =>
    if w.Busy id then .error .impossible else .ok (w.setConn id (w.clients id).conn.reset)
  | .lock id => .ok (w.setClient id { w.clients id with lockedOnHostgroup := true })
  | .initConnect after =>
    if w.phase = .verifying ∧ w.server.dynamicVariablesIdx = [] then
      .ok { w with actual := after }
    else .error .impossible
  | .verify => if w.phase = .verifying then .ok w.verify else .error .impossible
  | .trackGtids =>
    if w.phase = .verifying then .ok { w with phase := .waiting .settingSessionTrackGtids }
    else .error .impossible
  | .reply r => w.reply sv r
  | .queryDone =>
    if w.phase = .querySent then .ok { w with phase := .pooled } else .error .impossible
  | .resetConnection =>
    if w.phase = .pooled then .ok { w with server := w.server.reset, actual := sv.defaults }
    else .error .impossible

/-! ### No variable of another client -/

theorem verifyBackendUserSchema_eq_none {client server : MysqlConnection hash}
    (passed : verifyBackendUserSchema client server = none) :
    server.requiresChangeUser client = false := by
  unfold verifyBackendUserSchema at passed
  split at passed
  · cases passed
  · split at passed
    · cases passed
    · split at passed
      · cases passed
      next keeps =>
        exact Bool.eq_false_iff.mpr keeps

/-- A change of user is asked for exactly when the users differ or a variable is set on the backend
connection and not on the client's; so a query that is let through runs as the client's user and
with no variable that another client has left behind. That every history keeps the lists of indexes
right, which the comparison relies on, is part of the type of connections. -/
theorem change_user_iff_differs_or_leaks (w : World hash) :
    (w.server.requiresChangeUser w.client = true ↔
      w.server.userinfo.username ≠ w.client.userinfo.username ∨
        ∃ i, i ≠ lowWm ∧ w.server.varHash i ≠ 0 ∧ w.client.varHash i = 0) ∧
    (verifyBackendUserSchema w.client w.server = none →
      w.server.userinfo.username = w.client.userinfo.username ∧
        ∀ i, i ≠ lowWm → w.server.varHash i ≠ 0 → w.client.varHash i ≠ 0) := by
  have asks := w.server.requiresChangeUser_iff w.client
  refine ⟨asks, fun passed => ?_⟩
  have notAsked := verifyBackendUserSchema_eq_none passed
  rw [← Bool.not_eq_true, asks, not_or, not_ne_iff] at notAsked
  obtain ⟨sameUser, noLeak⟩ := notAsked
  refine ⟨sameUser, fun i tracked isSet unset => ?_⟩
  exact noLeak ⟨i, tracked, isSet, unset⟩

/-! ### Marks of absent variables -/

/-- The name in the `SET` that is under way -/
def settingName : Option String :=
  if w.phase = .waiting .settingSessionTrackGtids then some "SESSION_TRACK_GTIDS"
  else w.setting.map setVariableName

/-- Exactly the entries of the table with this name are marked by the answer. -/
def Marks (w w' : World hash) (name : String) : Prop :=
  ∀ i, w'.server.varAbsent i = (w.server.varAbsent i || sameText i.setVariableName name)

/-- The mark is kept in the array under the index of the variable. -/
def Recordable (w : World hash) (name : String) : Prop :=
  ∃ i, sameText i.setVariableName name = true ∧
    (i ≠ lowWm ∧ i ≠ sqlLogBin ∨ w.server.varAbsent i = true)

variable {w w' : World hash} {i : Var} {name : String} {errno : Nat}

theorem eq_of_sameText {j : Var} (same : sameText j.setVariableName i.setVariableName = true) :
    j = i :=
  Option.some.inj ((ofName_of_sameText same).symm.trans (ofName_setVariableName i))

theorem marks_iff : w.Marks w' i.setVariableName ↔
    ∀ j, w'.server.varAbsent j = (w.server.varAbsent j || decide (j = i)) := by
  refine forall_congr' fun j => ?_
  have same : sameText j.setVariableName i.setVariableName = decide (j = i) := by
    by_cases own : j = i
    · rw [own, decide_eq_true rfl]
      exact decide_eq_true rfl
    · rw [decide_eq_false own]
      exact Bool.eq_false_iff.mpr fun both => own (eq_of_sameText both)
  rw [same]

theorem recordable_iff : w.Recordable i.setVariableName ↔
    i ≠ lowWm ∧ i ≠ sqlLogBin ∨ w.server.varAbsent i = true := by
  constructor
  · rintro ⟨j, same, kept⟩
    rwa [eq_of_sameText same] at kept
  · exact fun kept => ⟨i, decide_eq_true rfl, kept⟩

/-- What is not marked anew was marked before. -/
theorem marks_of_same (same : w'.server.varAbsent = w.server.varAbsent) :
    w.Marks w' i.setVariableName ↔ w.server.varAbsent i = true := by
  rw [marks_iff, same]
  constructor
  · intro marks
    rw [marks i, decide_eq_true rfl, Bool.or_true]
  · intro marked j
    by_cases own : j = i
    · simp [own, marked]
    · simp [own]

theorem refused_of_marksAbsent (absent : marksAbsent name errno) : w.refused name errno =
    match ofName name with
    | some j =>
      if j ≠ lowWm then .ok { w with server := w.server.markAbsent j, phase := .verifying }
      else .ok { w with phase := .destroyed }
    | none => .error .varAbsentOverrun := by
  have answered : ¬ (2000 ≤ errno ∨ errno = 0) := by
    simp only [marksAbsent, isPermTrackErr, decide_eq_true_eq] at absent
    omega
  rw [refused, if_neg answered, if_pos absent]

theorem varAbsent_aboutToSet (client server : MysqlConnection hash) (i : Var) :
    (aboutToSet client server i).varAbsent = server.varAbsent := by
  unfold aboutToSet
  split
  · exact (MysqlConnection.resetValue_varAbsent _ _).trans
      (MysqlConnection.serverSetValue_varAbsent _ _ _)
  · exact MysqlConnection.serverSetValue_varAbsent _ _ _

theorem marks_settingGenericVariable (sv : Server) (absent : marksAbsent i.setVariableName errno) :
    (∃ w', w.settingGenericVariable sv i (.err errno) = .ok w' ∧ w.Marks w' i.setVariableName) ↔
      i ≠ lowWm ∨ w.server.varAbsent i = true := by
  have sent := varAbsent_aboutToSet w.client w.server i
  simp only [settingGenericVariable, refused_of_marksAbsent absent, ofName_setVariableName]
  by_cases placeholder : i = lowWm
  · rw [if_neg (not_not.mpr placeholder)]
    simp only [Except.ok.injEq, exists_eq_left']
    rw [marks_of_same sent]
    simp [placeholder]
  · rw [if_pos placeholder]
    simp only [Except.ok.injEq, exists_eq_left', marks_iff]
    refine iff_of_true (fun j => ?_) (.inl placeholder)
    show Function.update (aboutToSet w.client w.server i).varAbsent i true j = _
    rw [sent]
    by_cases own : j = i
    · simp [own]
    · simp [own]

/-- Where a server refuses a `SET` because it does not know the variable, the mark is recorded
exactly for the variables of the table other than the placeholder and `sql_log_bin`, unless it was
there before. -/
theorem absent_recorded_iff (sv : Server) (w : World hash) {name : String} {errno : Nat}
    (under : w.settingName = some name) (absent : marksAbsent name errno) :
    (∃ w', w.step sv (.reply (.err errno)) = .ok w' ∧ w.Marks w' name) ↔ w.Recordable name := by
  unfold settingName at under
  split_ifs at under with gtids
  · -- the name is not in the table
    obtain rfl := Option.some.inj under
    have unknown : ofName "SESSION_TRACK_GTIDS" = none := by decide +kernel
    have stopped : w.step sv (.reply (.err errno)) = .error .varAbsentOverrun := by
      simp only [step, reply, gtids, settingSessionTrackGtids,
        refused_of_marksAbsent absent, unknown]
      rfl
    rw [stopped]
    refine iff_of_false (by simp) ?_
    rintro ⟨i, same, -⟩
    rw [ofName_of_sameText same] at unknown
    cases unknown
  · obtain ⟨i, isSetting, rfl⟩ := Option.map_eq_some_iff.mp under
    have handled : w.step sv (.reply (.err errno)) = w.updateVariable sv i (.err errno) := by
      have own : ∀ status, w.phase = .waiting status → status ≠ .changingUserServer ∧
          status ≠ .changingSchema ∧ status ≠ .settingSetNames := by
        intro status phase
        refine ⟨?_, ?_, ?_⟩ <;> rintro rfl <;> simp [setting, phase] at isSetting
      rw [step, reply, if_neg fun phase => (own _ phase).1 rfl,
        if_neg fun phase => (own _ phase).2.1 rfl, if_neg fun phase => (own _ phase).2.2 rfl,
        if_neg gtids, isSetting]
    rw [handled, recordable_iff, updateVariable]
    split_ifs with logBin
    · simp only [Except.ok.injEq, exists_eq_left']
      have same : (w.settingSqlLogBin sv (.err errno)).server.varAbsent = w.server.varAbsent := rfl
      rw [marks_of_same same]
      simp [logBin]
    · rw [marks_settingGenericVariable sv absent]
      simp [logBin]

/-- A server that knows no variable at all -/
def ancient : Server := ⟨fun _ => false, fun _ => "", fun _ _ => false⟩

def idleWorld : World fun _ => 1 where
  clients _ := ⟨.create ⟨"app", "db", 0⟩, false, false⟩
  current := 0
  server := .create ⟨"app", "db", 0⟩
  changingVariableIdx := lowWm
  actual _ := ""
  phase := .pooled

theorem absent_recorded_sql_mode :
    ∃ w w' : World fun _ => 1, [.clientSet 0 sqlMode "ANSI", .attach 0, .verify].foldlM
        (step ancient) idleWorld = .ok w ∧ w.step ancient (.reply (.err 1193)) = .ok w' ∧
      w'.server.varAbsent sqlMode = true ∧ w'.server.varAbsent sqlLogBin = false := by
  have observed : ([.clientSet 0 sqlMode "ANSI", .attach 0, .verify].foldlM
      (step ancient) idleWorld).map (fun w => (w.settingName, w.server.varAbsent sqlLogBin)) =
        .ok (some sqlMode.setVariableName, false) := by
    decide +kernel
  obtain ⟨w, ran, seen⟩ := Machine.map_eq_ok.mp observed
  obtain ⟨under, present⟩ := Prod.mk.inj seen
  have recordable : w.Recordable sqlMode.setVariableName :=
    recordable_iff.mpr (.inl ⟨by decide, by decide⟩)
  obtain ⟨w', stepped, marks⟩ := (absent_recorded_iff ancient w under
    (show marksAbsent sqlMode.setVariableName 1193 from rfl)).mpr recordable
  rw [marks_iff] at marks
  refine ⟨w, w', ran, stepped, ?_, ?_⟩
  · rw [marks sqlMode, decide_eq_true rfl, Bool.or_true]
  · rw [marks sqlLogBin, present]
    decide

/-- Where the server does not know `session_track_gtids`, the session writes behind the array, and
where it does not know `sql_log_bin`, the connection is destroyed without a mark. -/
theorem session_track_gtids_marked_behind :
    ([.attach 0, .trackGtids, .reply (.err 1193)].foldlM (step ancient) idleWorld).map phase =
        .error .varAbsentOverrun ∧
      ([.clientSet 0 sqlLogBin "0", .attach 0, .verify, .reply (.err 1193)].foldlM (step ancient)
        idleWorld).map (fun w => (w.phase, w.server.varAbsent sqlLogBin)) =
          .ok (.destroyed, false) := by
  constructor <;> decide +kernel

end World

end MockProxy.Variables
