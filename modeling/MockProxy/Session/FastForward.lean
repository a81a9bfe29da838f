import MockProxy.DataStream.Connection
import MockProxy.Session.Basic

/-!
# Switching a session to fast forward

A client that asks for binlog events gets a session that forwards its bytes without looking at them.
`GPFC_Replication_SwitchToFastForward` puts the packet it was called for back into `PSarrayIN`, and
from then on `buffer2array` works in fast mode: it appends what arrives to the last block of the
array whenever the block stays below `RESULTSET_BUFLEN_DS_16K`, without knowing how much was
allocated for it. A packet of the ordinary mode is allocated to its exact size, so appending to the
one put back would overrun it.

It never happens: `get_pkts_from_client` takes the packet out again before it returns, because the
status it just set makes the loop forward it (`getPktsFuel_roomy`). So in every reachable state
of a session in fast forward all blocks of the array were allocated by fast mode (`Roomy`).
-/

namespace MockProxy.Session

open DataStream DataStreamIn

/-! ### The session -/

/-- The part of `MySQL_Session` that decides where packets of the client go. The session's user has
not `fast_forward` set, so that `client.fastForward` (`session_fast_forward`) is only written by the
switch. -/
structure ClientSession where
  -- `client_myds`
  client : DataStreamIn
  dss : Dss
  multiPkt : Option Block
  status : Status
  previousStatus : List Status
  -- `mybe->server_myds->DSS`
  serverDss : Dss
  -- The blocks moved to `mybe->server_myds->PSarrayOUT`.
  serverOut : List Block
  -- `handler` returned -1 and the thread has deleted the session.
  deleted : Bool

/-- What the handling of a packet that is not forwarded does to the session: queries, prepared
statements, logins. It reads the packet only, never `PSarrayIN`. -/
structure Outcome where
  drops : Bool
  status : Status
  dss : Dss
  previousStatus : List Status
  serverDss : Dss

/-- What one turn of `get_pkts_from_client` finds outside the session. -/
structure PktInput where
  -- The byte behind the packet, read as its command when the payload is empty.
  behind : Byte
  -- `DSS` of the backend that `find_or_create_backend` returns.
  backendDss : Dss
  outcome : Outcome

namespace ClientSession

def init : ClientSession where
  client := DataStreamIn.init
  dss := .sleep
  multiPkt := none
  status := .waitingClientData
  previousStatus := []
  serverDss := .notInitialized
  serverOut := []
  deleted := false

def handled (o : Outcome) (s : ClientSession) : Option Int × ClientSession :=
  (if o.drops then some (-1) else none, { s with
    status := o.status
    dss := o.dss
    previousStatus := o.previousStatus
    serverDss := o.serverDss })

def forward (pkt : Block) (s : ClientSession) : ClientSession :=
  { s with serverOut := s.serverOut ++ [pkt] }

variable (i : PktInput) (pkt : Block)

/-- `c = *((unsigned char *)pkt.ptr + sizeof(mysql_hdr))` -/
def commandByte : Byte := pkt.data.getD hdrSize i.behind

variable (s : ClientSession)

/-- `GPFC_WaitingClientData_FastForwardSession` -/
def fastForwardSession : Int × ClientSession :=
  if Command.ofByte (commandByte i pkt) = some .quit then (-1, s)
  else
    (0, { s.forward pkt with
      serverDss := i.backendDss
      previousStatus := .fastForward :: s.previousStatus
      status := .connectingServer })

/-- `GPFC_Replication_SwitchToFastForward` -/
def switchToFastForward : Except Fault ClientSession :=
  if s.client.psArrayIN ≠ [] then .error .assertion
  else
    let s := { s with client := { s.client with fastForward := true, psArrayIN := [pkt] } }
    if i.backendDss = .notInitialized then
      .ok { s with
        serverDss := i.backendDss
        previousStatus := .fastForward :: s.previousStatus
        status := .connectingServer }
    else .ok { s with serverDss := .ready, status := .fastForward }

/-- `GPFC_Statuses2`; with `none` the loop goes on. -/
def statuses2 : Except Fault (Option Int × ClientSession) :=
  match s.status with
  | .waitingClientData => .error .assertion
  | .connectingClient =>
    if s.dss = .serverHandshake ∨ s.dss = .sslInit then .ok (s.handled i.outcome)
    else .ok (some (-1), s)
  | .fastForward => .ok (none, s.forward pkt)
  | .connectingServer =>
    if s.previousStatus.head? = some .fastForward then .ok (none, s.forward pkt)
    else .ok (some (-1), s)
  | _ => .ok (some (-1), s)

def multiPacketSize : Nat := 0xFFFFFF + hdrSize

/-- `GPFC_DetectedMultiPacket_SetDDS` -/
def detectedMultiPacket : Except Fault ClientSession :=
  match s.dss with
  | .sleep => .ok { s with dss := .sleepMultiPacket }
  | .sleepMultiPacket => .ok s
  | _ => .error .assertion

def joinPkt (multiPkt : Option Block) (pkt : Block) : Except Fault Block :=
  match multiPkt with
  | none => .ok pkt
  | some tmp => do
    -- the size is an `unsigned int`
    let size := (pkt.data.length + tmp.data.length - hdrSize) % 2 ^ 32
    let joined ← Block.extend ⟨[], size, Nat.zero_le _⟩ tmp.data
    Block.extend joined (pkt.data.drop hdrSize)

/-- The case `STATE_SLEEP`. -/
def sleepPkt : Except Fault (Option Int × ClientSession) :=
  if s.client.fastForward then
    .ok (some (fastForwardSession i pkt s).1, (fastForwardSession i pkt s).2)
  else
    match Command.ofByte (commandByte i pkt) with
    | some .binlogDump | some .binlogDumpGtid | some .registerSlave => do
      let s ← switchToFastForward i pkt s
      return (none, s)
    | some .quit => .ok (some (-1), s)
    | _ => .ok (s.handled i.outcome)

/-- `handler___status_WAITING_CLIENT_DATA___STATE_SLEEP_MULTI_PACKET`, and `STATE_SLEEP` after it
when the packet is the last one. -/
def multiPacket : Except Fault (Option Int × ClientSession) := do
  let joined ← joinPkt s.multiPkt pkt
  if pkt.data.length = multiPacketSize then
    return (none, { s with multiPkt := some joined })
  else sleepPkt i joined { s with multiPkt := none, dss := .sleep }

/-- The case `WAITING_CLIENT_DATA`, after the check for a multi-packet. -/
def waitingPkt : Except Fault (Option Int × ClientSession) :=
  match s.dss with
  | .sleepMultiPacket => multiPacket i pkt s
  | .sleep => sleepPkt i pkt s
  | _ => .ok (some (-1), s)

/-- One turn of `get_pkts_from_client`, for a packet already removed from `PSarrayIN`. -/
def onPkt : Except Fault (Option Int × ClientSession) :=
  if s.status = .waitingClientData then
    if pkt.data.length = multiPacketSize then do
      let s ← s.detectedMultiPacket
      waitingPkt i pkt s
    else waitingPkt i pkt s
  else statuses2 i pkt s

/-- The loop of `get_pkts_from_client`; `inputs` are numbered by the turns still possible. -/
def getPktsFuel (inputs : Nat → PktInput) : Nat → ClientSession → Except Fault (Int × ClientSession)
  | 0, s => .ok (0, s)
  | fuel + 1, s =>
    match s.client.psArrayIN with
    | [] => .ok (0, s)
    | pkt :: rest => do
      let turn ← onPkt (inputs fuel) pkt { s with client := { s.client with psArrayIN := rest } }
      match turn.1 with
      | some ret => return (ret, turn.2)
      | none => getPktsFuel inputs fuel turn.2

/-- Every turn removes a packet, and only the switch, which needs an empty array, adds one. -/
def getPktsFromClient (inputs : Nat → PktInput) (s : ClientSession) :
    Except Fault (Int × ClientSession) :=
  getPktsFuel inputs (s.client.psArrayIN.length + 1) s

/-! ### Runs -/

/-- How far a connection attempt is, when `handler` looks at it. -/
inductive ConnectResult where
  | pending
  -- A connection came from the pool, or `async_connect` returned 0.
  | idle
  | ready
  -- The attempt failed without retries left, or `max_connect_time` has passed.
  | failed
  deriving DecidableEq

/-- `previous_status.top()` becomes the status. -/
def popStatus : Except Fault ClientSession :=
  match s.previousStatus with
  | [] => .error .outOfBounds
  | st :: rest => .ok { s with status := st, previousStatus := rest }

/-- `handler_again___status_CONNECTING_SERVER` -/
def connectingServer (r : ConnectResult) (s : ClientSession) : Except Fault ClientSession :=
  match r with
  | .pending => .ok s
  | .idle => s.popStatus
  | .ready =>
    if s.client.fastForward then
      popStatus { s with serverDss := .sleep, client := { s.client with compression := false } }
    else popStatus { s with serverDss := .mariadbGeneric }
  | .failed => .ok { s with previousStatus := [], status := .waitingClientData }

inductive Event where
  -- `process_data_on_data_stream` for the client's socket
  | read (io : NetInput)
  -- `get_pkts_from_client`, the beginning of `handler`
  | getPkts (inputs : Nat → PktInput)
  -- `handler` in the status `CONNECTING_SERVER`
  | connect (r : ConnectResult)
  -- `handler` in the status of a command that is not forwarded
  | process (o : Outcome)
  | setEncrypted (on : Bool)
  | setCompression (on : Bool)

def step (z : Zlib) (s : ClientSession) : Event → Except Fault ClientSession
  | .read io =>
    if s.deleted = false ∧ s.client.active ∧ s.client.healthy then do
      let (_, ds) ← (s.client.readFromNet io).result
      let (_, ds) ← ds.readPkts z
      return { s with client := ds }
    else .ok s
  | .getPkts inputs =>
    if s.deleted then .ok s
    else do
      let (ret, s) ← s.getPktsFromClient inputs
      return { s with deleted := ret ≠ 0 }
  | .connect r => if s.status = .connectingServer then s.connectingServer r else .ok s
  | .process o => .ok (s.handled o).2
  | .setEncrypted on => .ok { s with client := { s.client with encrypted := on } }
  | .setCompression on => .ok { s with client := { s.client with compression := on } }

end ClientSession

/-! ### Room in the blocks -/

end MockProxy.Session

namespace MockProxy.DataStream.DataStreamIn

open Machine

variable (ds : DataStreamIn)

/-- Fast mode may fill any block of the array up to `RESULTSET_BUFLEN_DS_16K`. -/
def Roomy : Prop :=
  ds.fastForward = true → ∀ b ∈ ds.psArrayIN, RESULTSET_BUFLEN_DS_16K ≤ b.cap

/-- The block that a call of `buffer2array` appends the bytes of the queue to, if it does. -/
def appendsTo : Option Block :=
  if ds.fastForward ∧ 0 < ds.queueIN.data ∧ ds.queueIN.data < RESULTSET_BUFLEN_DS_16K then
    ds.psArrayIN.getLast?.filter fun last =>
      last.data.length + ds.queueIN.data ≤ RESULTSET_BUFLEN_DS_16K
  else none

variable {ds ds' : DataStreamIn}

theorem Roomy.appendsTo {last : Block} (roomy : ds.Roomy) (appends : ds.appendsTo = some last) :
    last.data.length + ds.queueIN.data ≤ last.cap := by
  unfold DataStreamIn.appendsTo at appends
  split at appends
  next fast =>
    obtain ⟨found, short⟩ := Option.filter_eq_some_iff.mp appends
    have room := roomy fast.1 last (List.mem_of_getLast? found)
    exact Nat.le_trans (of_decide_eq_true short) room
  next => cases appends

/-- Blocks with room for 16000 bytes are filled, and joined by such blocks, without a fault. -/
theorem fastBlocks_roomy {blocks : List Block} (bytes : List Byte)
    (roomy : ∀ b ∈ blocks, RESULTSET_BUFLEN_DS_16K ≤ b.cap) :
    ∃ blocks', fastBlocks blocks bytes = .ok blocks' ∧
      ∀ b ∈ blocks', RESULTSET_BUFLEN_DS_16K ≤ b.cap := by
  have joined (front : List Block) {more : Block} (sub : ∀ b ∈ front, b ∈ blocks)
      (room : RESULTSET_BUFLEN_DS_16K ≤ more.cap) :
      ∀ b ∈ front ++ [more], RESULTSET_BUFLEN_DS_16K ≤ b.cap := by
    rw [List.forall_mem_append, List.forall_mem_singleton]
    exact ⟨fun b old => roomy b (sub b old), room⟩
  unfold fastBlocks
  by_cases large : RESULTSET_BUFLEN_DS_16K ≤ bytes.length
  · rw [if_pos large]
    exact ⟨_, rfl, joined blocks (fun _ => id) large⟩
  · rw [if_neg large]
    have fits : bytes.length ≤ RESULTSET_BUFLEN_DS_16K := by omega
    cases found : blocks.getLast? with
    | none =>
      refine ⟨[⟨bytes, _, fits⟩], by simp [allocBlock, fits],
        ?_⟩
      exact joined [] (by simp) le_rfl
    | some last =>
      by_cases full : last.data.length + bytes.length > RESULTSET_BUFLEN_DS_16K
      · refine ⟨blocks ++ [⟨bytes, _, fits⟩],
          by simp [full, allocBlock, fits], ?_⟩
        exact joined blocks (fun _ => id) le_rfl
      · -- the only store into memory that another call allocated
        have room := roomy last (List.mem_of_getLast? found)
        have inside : (last.data ++ bytes).length ≤ last.cap := by
          rw [List.length_append]
          omega
        refine ⟨blocks.dropLast ++ [⟨last.data ++ bytes, last.cap, inside⟩], ?_, ?_⟩
        · have inside' : last.data.length + bytes.length ≤ last.cap := by simpa using inside
          simp [full, Block.extend, inside']
        · exact joined blocks.dropLast (fun _ => (List.dropLast_sublist blocks).mem) room

theorem compactQueue_blocks :
    ds.compactQueue.fastForward = ds.fastForward ∧ ds.compactQueue.psArrayIN = ds.psArrayIN := by
  unfold compactQueue
  split <;> exact ⟨rfl, rfl⟩

theorem buffer2array_roomy (z : Zlib) (fast : ds.fastForward) (roomy : ds.Roomy) :
    ∃ r ds', ds.buffer2array z = .ok (r, ds') ∧ ds'.Roomy := by
  obtain ⟨fast', blocks'⟩ := ds.compactQueue_blocks
  unfold buffer2array
  split
  · exact ⟨_, _, rfl, roomy⟩
  · obtain ⟨blocks, filled, room⟩ :=
      fastBlocks_roomy ds.compactQueue.queueIN.contents (blocks' ▸ roomy fast)
    obtain ⟨d, ran, array⟩ : ∃ d, ds.compactQueue.fastMode = .ok d ∧ d.2.psArrayIN = blocks := by
      rw [fastMode, filled]
      exact ⟨_, rfl, rfl⟩
    refine ⟨d.1, d.2, ?_, fun _ => array ▸ room⟩
    simp [fast', fast, ran]

/-- `appendsTo` is the block a call of fast mode writes to; all other blocks stay as they are. -/
theorem buffer2array_appendsTo {z : Zlib} {r : Nat} (fast : ds.fastForward)
    (done : ds.buffer2array z = .ok (r, ds')) : match ds.appendsTo with
    | some last => ∃ b, ds'.psArrayIN = ds.psArrayIN.dropLast ++ [b] ∧
        b.data = last.data ++ ds.queueIN.contents ∧ b.cap = last.cap
    | none => ds.psArrayIN <+: ds'.psArrayIN := by
  obtain ⟨fast', blocks'⟩ := ds.compactQueue_blocks
  have contents : ds.compactQueue.queueIN.contents = ds.queueIN.contents := by
    simpa using ds.compactQueue_takes.contents
  unfold buffer2array at done
  split at done
  next nothing =>
    cases done
    simp [appendsTo, nothing]
  next some =>
    simp only [fast', fast] at done
    obtain ⟨blocks, filled, ⟨⟩⟩ := return_eq_ok.mp done
    rw [contents, blocks', fastBlocks, LinearQueue.length_contents] at filled
    have waiting := Nat.pos_of_ne_zero some
    by_cases large : RESULTSET_BUFLEN_DS_16K ≤ ds.queueIN.data
    · rw [if_pos large] at filled
      cases filled
      rw [appendsTo, if_neg (by omega)]
      exact List.prefix_append _ _
    rw [if_neg large] at filled
    rw [appendsTo, if_pos ⟨fast, waiting, by omega⟩]
    cases found : ds.psArrayIN.getLast? with
    | none =>
      rw [List.getLast?_eq_none_iff.mp found]
      exact List.nil_prefix
    | some last =>
      rw [found] at filled
      dsimp only at filled
      rw [Option.filter_some]
      by_cases full : last.data.length + ds.queueIN.data > RESULTSET_BUFLEN_DS_16K
      · rw [if_pos full] at filled
        obtain ⟨b, -, rfl⟩ := return_eq_ok.mp filled
        rw [if_neg (by simpa using full)]
        exact List.prefix_append _ _
      · rw [if_neg full] at filled
        obtain ⟨b, extended, rfl⟩ := return_eq_ok.mp filled
        rw [if_pos (by simpa using full)]
        unfold Block.extend at extended
        split at extended
        · cases extended
          exact ⟨_, rfl, rfl, rfl⟩
        · cases extended

theorem buffer2array_keeps_roomy {z : Zlib} {r : Nat} (roomy : ds.Roomy)
    (done : ds.buffer2array z = .ok (r, ds')) : ds'.Roomy := by
  intro fast
  rw [(buffer2array_takes done).fastForward] at fast
  obtain ⟨r', ds'', done', roomy'⟩ := buffer2array_roomy z fast roomy
  obtain ⟨-, rfl⟩ := Prod.mk.inj (Except.ok.inj (done'.symm.trans done))
  exact roomy' (by rw [(buffer2array_takes done).fastForward, fast])

theorem readFromNet_roomy {io : NetInput} {r : Int} (roomy : ds.Roomy)
    (read : (ds.readFromNet io).result = .ok (r, ds')) : ds'.Roomy := by
  obtain ⟨_, stores⟩ := readFromNet_stores read
  obtain ⟨a, f, n, same⟩ := stores.others
  rw [same]
  exact roomy

end MockProxy.DataStream.DataStreamIn

namespace MockProxy.Session

open Machine DataStream DataStreamIn

namespace ClientSession

variable {i : PktInput} {pkt : Block} {s s' : ClientSession} {next : Option Int}

/-! ### The switch leaves nothing behind -/

def Forwarding (s : ClientSession) : Prop :=
  s.status = .fastForward ∨
    s.status = .connectingServer ∧ s.previousStatus.head? = some .fastForward

/-- The session was switched to fast forward and its array has only the packet put back. -/
structure Switched (s s' : ClientSession) : Prop where
  empty : s.client.psArrayIN = []
  one : ∃ pkt, s'.client = { s.client with fastForward := true, psArrayIN := [pkt] }
  forwarding : s'.Forwarding

theorem switchToFastForward_eq_ok (done : switchToFastForward i pkt s = .ok s') :
    Switched s s' := by
  unfold switchToFastForward at done
  split at done
  · cases done
  next empty =>
    have empty := not_not.mp empty
    split at done
    · cases done
      exact ⟨empty, ⟨pkt, rfl⟩, .inr ⟨rfl, rfl⟩⟩
    · cases done
      exact ⟨empty, ⟨pkt, rfl⟩, .inl rfl⟩

def TurnKeeps (s : ClientSession) (next : Option Int) (s' : ClientSession) : Prop :=
  s'.client = s.client ∨ next = none ∧ Switched s s'

theorem sleepPkt_eq_ok (done : sleepPkt i pkt s = .ok (next, s')) : TurnKeeps s next s' := by
  unfold sleepPkt at done
  split at done
  · cases done
    unfold fastForwardSession
    split <;> exact .inl rfl
  · split at done
    all_goals
      first
        | obtain ⟨mid, switched, ⟨⟩⟩ := return_eq_ok.mp done
          exact .inr ⟨rfl, switchToFastForward_eq_ok switched⟩
        | cases done
          exact .inl rfl

theorem waitingPkt_eq_ok (done : waitingPkt i pkt s = .ok (next, s')) : TurnKeeps s next s' := by
  unfold waitingPkt at done
  split at done
  · obtain ⟨joined, -, done⟩ := bind_eq_ok.mp done
    split at done
    · cases done
      exact .inl rfl
    · rcases sleepPkt_eq_ok done with same | ⟨goesOn, switched⟩
      · exact .inl same
      · exact .inr ⟨goesOn, { __ := switched }⟩
  · exact sleepPkt_eq_ok done
  · cases done
    exact .inl rfl

theorem statuses2_eq_ok (done : statuses2 i pkt s = .ok (next, s')) : s'.client = s.client := by
  unfold statuses2 at done
  split at done
  · cases done
  all_goals
    try split at done
    all_goals
      cases done
      rfl

theorem onPkt_eq_ok (done : onPkt i pkt s = .ok (next, s')) : TurnKeeps s next s' := by
  unfold onPkt at done
  split at done
  · split at done
    · obtain ⟨mid, marked, done⟩ := bind_eq_ok.mp done
      have same : mid.client = s.client := by
        unfold detectedMultiPacket at marked
        split at marked <;> cases marked <;> rfl
      rcases waitingPkt_eq_ok done with kept | ⟨goesOn, switched⟩
      · exact .inl (kept.trans same)
      · exact .inr ⟨goesOn, same ▸ switched.empty, same ▸ switched.one, switched.forwarding⟩
    · exact waitingPkt_eq_ok done
  · exact .inl (statuses2_eq_ok done)

theorem Forwarding.onPkt (forwarding : s.Forwarding) (i : PktInput) (pkt : Block) :
    s.onPkt i pkt = .ok (none, s.forward pkt) := by
  rcases forwarding with fast | ⟨connecting, next⟩
  · simp [ClientSession.onPkt, statuses2, fast]
  · simp [ClientSession.onPkt, statuses2, connecting, next]

theorem getPktsFuel_forwarding (inputs : Nat → PktInput) {fuel : Nat} {s : ClientSession}
    (forwarding : s.Forwarding) (enough : s.client.psArrayIN.length ≤ fuel) :
    getPktsFuel inputs fuel s = .ok (0, { s with
      client := { s.client with psArrayIN := [] }
      serverOut := s.serverOut ++ s.client.psArrayIN }) := by
  induction fuel generalizing s with
  | zero =>
    have empty : s.client.psArrayIN = [] := List.length_eq_zero_iff.mp (Nat.le_zero.mp enough)
    simp only [getPktsFuel, empty, List.append_nil]
    rw [← empty]
  | succ fuel ih =>
    unfold getPktsFuel
    split
    next empty =>
      simp only [empty, List.append_nil]
      rw [← empty]
    next pkt rest found =>
      have still : Forwarding { s with client := { s.client with psArrayIN := rest } } := forwarding
      have passed : Forwarding (forward pkt
        { s with client := { s.client with psArrayIN := rest } }) :=
        forwarding
      rw [found] at enough
      rw [still.onPkt]
      refine (ih passed (Nat.le_of_succ_le_succ enough)).trans ?_
      simp [forward, found]

/-- Each block left in the array when `get_pkts_from_client` returns has room. A turn that
switches the session is followed by one that forwards the packet put back. -/
theorem getPktsFuel_roomy (inputs : Nat → PktInput) {fuel : Nat} {s s' : ClientSession} {ret : Int}
    (enough : s.client.psArrayIN.length < fuel) (roomy : s.client.Roomy)
    (done : getPktsFuel inputs fuel s = .ok (ret, s')) : s'.client.Roomy := by
  induction fuel generalizing s with
  | zero => omega
  | succ fuel ih =>
    unfold getPktsFuel at done
    split at done
    next empty =>
      cases done
      exact roomy
    next pkt rest found =>
      obtain ⟨⟨next, mid⟩, turn, done⟩ := bind_eq_ok.mp done
      rw [found, List.length_cons] at enough
      have fewer : DataStreamIn.Roomy { s.client with psArrayIN := rest } := fun fast b waiting =>
        roomy fast b (found ▸ List.mem_cons_of_mem pkt waiting)
      rcases onPkt_eq_ok turn with same | ⟨goesOn, switched⟩
      · cases next with
        | some r =>
          cases done
          rwa [same]
        | none =>
          refine ih ?_ (same ▸ fewer) done
          rw [same]
          show rest.length < fuel
          omega
      · subst goesOn
        -- the array is [packet put back], which the next turn takes out
        obtain ⟨back, one⟩ := switched.one
        have short : mid.client.psArrayIN.length ≤ fuel := by
          rw [one]
          show 1 ≤ fuel
          omega
        have emptied := getPktsFuel_forwarding inputs switched.forwarding short
        obtain ⟨-, rfl⟩ := Prod.mk.inj (Except.ok.inj (emptied.symm.trans done))
        intro _ b waiting
        cases waiting

/-! ### Runs -/

theorem popStatus_client (done : s.popStatus = .ok s') : s'.client = s.client := by
  unfold popStatus at done
  split at done <;> cases done
  rfl

theorem connectingServer_roomy {r : ConnectResult} (roomy : s.client.Roomy)
    (done : s.connectingServer r = .ok s') : s'.client.Roomy := by
  cases r with
  | pending => cases done; exact roomy
  | idle => rwa [popStatus_client done]
  | ready =>
    simp only [connectingServer] at done
    split at done
    · rw [popStatus_client done]
      exact roomy
    · rw [popStatus_client done]
      exact roomy
  | failed => cases done; exact roomy

theorem step_keeps_roomy {z : Zlib} {e : Event} (roomy : s.client.Roomy)
    (stepped : s.step z e = .ok s') : s'.client.Roomy := by
  cases e with
  | read io =>
    simp only [step] at stepped
    split at stepped
    · obtain ⟨⟨r, ds⟩, called, stepped⟩ := bind_eq_ok.mp stepped
      obtain ⟨⟨rc, ds'⟩, drained, rfl⟩ := return_eq_ok.mp stepped
      exact readPkts_post (fun _ _ _ => buffer2array_keeps_roomy)
        (fun _ _ => buffer2array_keeps_roomy) (readFromNet_roomy roomy called) drained
    · cases stepped
      exact roomy
  | getPkts inputs =>
    simp only [step] at stepped
    split at stepped
    · cases stepped
      exact roomy
    · obtain ⟨⟨ret, mid⟩, got, stepped⟩ := bind_eq_ok.mp stepped
      have kept := getPktsFuel_roomy inputs (lt_add_one _) roomy got
      cases stepped
      exact kept
  | connect r =>
    simp only [step] at stepped
    split at stepped
    · exact connectingServer_roomy roomy stepped
    · cases stepped
      exact roomy
  | process o | setEncrypted on | setCompression on => cases stepped; exact roomy

/-- The states in which `read_pkts` calls `buffer2array`, from the state `read_from_net` leaves. -/
inductive ReadCalls (z : Zlib) (ds : DataStreamIn) : DataStreamIn → Prop where
  | first : ReadCalls z ds ds
  | next {d d' : DataStreamIn} {r : Nat} : ReadCalls z ds d → d.buffer2array z = .ok (r, d') →
      r ≠ 0 → ReadCalls z ds d'

theorem ReadCalls.roomy {z : Zlib} {ds d : DataStreamIn} (calls : ReadCalls z ds d)
    (roomy : ds.Roomy) : d.Roomy := by
  induction calls with
  | first => exact roomy
  | next _ called _ ih => exact buffer2array_keeps_roomy ih called

/-- Fast mode stays inside the blocks. In every run of a session that was not in fast forward at
the start, whatever arrives when, each call of `buffer2array` in fast mode that appends to the last
block of the array finds room for the bytes in what was allocated, and returns. -/
theorem append_has_room (z : Zlib) {start : ClientSession}
    (ordinary : start.client.fastForward = false)
    (run : Run (step z) (fun _ _ => True) start s) {io : NetInput} {r : Int} {ds d : DataStreamIn}
    (read : (s.client.readFromNet io).result = .ok (r, ds)) (calls : ReadCalls z ds d) :
    (∀ last, d.appendsTo = some last → last.data.length + d.queueIN.data ≤ last.cap) ∧
      (d.fastForward = true → ∃ r d', d.buffer2array z = .ok (r, d')) := by
  have roomy : s.client.Roomy := by
    refine run.invariant (fun s => s.client.Roomy) ?_ fun _ _ _ ih _ => step_keeps_roomy ih
    intro fast
    rw [ordinary] at fast
    cases fast
  have reading := calls.roomy (readFromNet_roomy roomy read)
  constructor
  · intro last appends
    exact reading.appendsTo appends
  · intro fast
    obtain ⟨r, d', called, -⟩ := buffer2array_roomy z fast reading
    exact ⟨r, d', called⟩

/-- A replica registers; before the backend is ready two more bytes arrive, and then a third. -/
theorem append_has_room_replica :
    ∃ s r ds last, [.read (.plain (.ready [1, 0, 0, 0]) (.ready [21])),
        .getPkts fun _ => ⟨0, .notInitialized, ⟨true, .none, .other, [], .other⟩⟩,
        .read (.plain (.ready [9, 9]) .wouldBlock), .connect .pending].foldlM
          (step Zlib.storing) init = .ok s ∧ s.serverOut = [Block.exact [1, 0, 0, 0, 21]] ∧
      (s.client.readFromNet (.plain (.ready [7]) .wouldBlock)).result = .ok (r, ds) ∧
      ds.appendsTo = some last ∧ last.data = [9, 9] ∧
      last.data.length + ds.queueIN.data ≤ last.cap := by
  have ran : [.read (.plain (.ready [1, 0, 0, 0]) (.ready [21])),
      .getPkts fun _ => ⟨0, .notInitialized, ⟨true, .none, .other, [], .other⟩⟩,
      .read (.plain (.ready [9, 9]) .wouldBlock), .connect .pending].foldlM
        (step Zlib.storing) init = .ok _ := rfl
  have room := append_has_room Zlib.storing rfl (run_of_foldlM ran)
    (show (DataStreamIn.readFromNet _ (.plain (.ready [7]) .wouldBlock)).result =
      .ok (_, _) from rfl)
    .first
  exact ⟨_, _, _, _, ran, rfl, rfl, rfl, rfl, room.1 _ rfl⟩

end ClientSession

end MockProxy.Session
