import MockProxy.DataStream.GenerateCompressed

/-!
# The sending half of a data stream

Packets wait in `PSarrayOUT`. `array2buffer` copies them through `queueOUT.pkt` into the send queue,
as far as there is room, and `write_to_net` passes the queue on to the socket or to the TLS library,
which accept what they like. Every event of a connection keeps

  bytes passed on ++ send queue ++ rest of the packet ++ packets waiting

equal to the packets queued, in their order (`step_conserves`).
-/

namespace MockProxy.DataStream

open Machine LinearQueue List

/-! ### State and environment -/

/-- The fields of `MySQL_Data_Stream` that sending reads or writes. -/
structure DataStreamOut where
  queueOUT : LinearQueue Byte
  -- `queueOUT.pkt` and `queueOUT.partial`
  pkt : List Byte
  partialLen : Nat
  psArrayOUT : List PtrSize
  pktsSent : Nat
  compressionPktId : Byte
  compression : Bool
  dss : Dss
  -- `myconn->options.server_capabilities & CLIENT_COMPRESS`
  clientCompress : Bool
  compressionMinLength : Nat
  -- `sess->mirror`: the session has no client and drops its packets.
  mirror : Bool
  encrypted : Bool
  -- The number of encrypted bytes waiting in `ssl_write_buf`.
  sslWriteLen : Nat
  active : Bool
  netFailure : Bool
  bytesSent : Nat

/-- The answer to a call that is given bytes: it takes some of them, or fails. -/
inductive Accept where
  | upTo (n : Nat)
  -- -1 with `EINTR` or `EAGAIN`
  | again
  | failed
  deriving DecidableEq

/-- The answers to one call of `write_to_net_poll`. -/
structure SendInput where
  -- The write of what `ssl_write_buf` holds at the start.
  flush : Accept
  handshakeFails : Bool
  -- `sess->session_type == PROXYSQL_SESSION_MYSQL`
  mysqlSession : Bool
  -- `poll_fds_idx > -1`
  polled : Bool
  pollout : Bool
  -- `send`, or the `write` of the bytes just encrypted
  socket : Accept
  sslWrite : Accept
  -- `wbio_ssl->num_write > wbio_ssl->num_read` before and after `SSL_write`
  pendingBefore : Bool
  pendingAfter : Bool
  -- The number of bytes `BIO_read` produces, and whether it then asks to be called again.
  produced : Nat
  bioRetry : Bool
  -- `SSL_ERROR_WANT_READ` or `SSL_ERROR_WANT_WRITE`
  wantsMore : Bool

namespace DataStreamOut

variable (out : DataStreamOut)

def shutSoft : DataStreamOut := { out with active := false, netFailure := true }

/-! ### `array2buffer` -/

/-- Compression starts after the last packet of a successful login. -/
def authDone : DataStreamOut :=
  if out.clientCompress then
    { out with dss := .sleep, compression := out.compression || out.compressionMinLength ≠ 0 }
  else { out with dss := .sleep, compression := false, compressionMinLength := 0 }

/-- Take the next packet from the array; entries below `idx` are taken already. -/
def nextPacket (z : Zlib) (out : DataStreamOut) (idx : Nat) : Except Fault (DataStreamOut × Nat) :=
  if out.compression then do
    let (frames, rest, id) ← generateCompressedPacket z out.psArrayOUT out.compressionPktId
    return ({ out with pkt := sentBytes z frames, psArrayOUT := rest, compressionPktId := id }, idx)
  else
    match out.psArrayOUT[idx]? with
    | none => .error .outOfBounds
    | some p =>
      let out := { out with pkt := p.data }
      if out.dss = .clientAuthOk ∧ idx + 1 = out.psArrayOUT.length then .ok (out.authDone, idx + 1)
      else .ok (out, idx + 1)

/-- Copy what fits of the packet into the send queue. -/
def copyPacket : Nat × DataStreamOut :=
  let b := min out.queueOUT.available (out.pkt.length - out.partialLen)
  let queue := out.queueOUT.write ((out.pkt.drop out.partialLen).take b)
    (Nat.le_trans (length_take_le _ _) (Nat.min_le_left _ _))
  if out.partialLen + b = out.pkt.length then
    (b, { out with queueOUT := queue, partialLen := 0, pktsSent := out.pktsSent + 1 })
  else (b, { out with queueOUT := queue, partialLen := out.partialLen + b })

/-- The loop of `array2buffer`, with `idx` and `ret`. -/
def fill (z : Zlib) : (fuel : Nat) → DataStreamOut → (idx ret : Nat) →
    Except Fault (DataStreamOut × Nat × Nat)
  | 0, out, idx, ret => .ok (out, idx, ret)
  | fuel + 1, out, idx, ret =>
    if out.queueOUT.available = 0 then .ok (out, idx, ret)
    else if out.partialLen = 0 then
      if out.psArrayOUT.length - idx = 0 then .ok (out, idx, ret)
      else do
        let (out, idx) ← out.nextPacket z idx
        fill z fuel out.copyPacket.2 idx out.copyPacket.1
    else fill z fuel out.copyPacket.2 idx out.copyPacket.1

/-- Each turn of the loop uses up an entry of the array or a byte of the queue. -/
def array2buffer (z : Zlib) (out : DataStreamOut) : Except Fault (Nat × DataStreamOut) :=
  if out.mirror then .ok (0, { out with psArrayOUT := [] })
  else do
    let (out, idx, ret) ← fill z (out.psArrayOUT.length + out.queueOUT.available + 1) out 0 0
    return (ret, { out with psArrayOUT := out.psArrayOUT.drop idx })

/-- `while ((r = array2buffer())) rc += r;` -/
def array2bufferFuel (z : Zlib) : (fuel : Nat) → DataStreamOut → Except Fault (Nat × DataStreamOut)
  | 0, out => .ok (0, out)
  | fuel + 1, out => do
    let (r, out) ← out.array2buffer z
    if r = 0 then return (0, out)
    else
      let (rc, out) ← array2bufferFuel z fuel out
      return (r + rc, out)

def array2bufferFull (z : Zlib) (out : DataStreamOut) : Except Fault (Nat × DataStreamOut) :=
  array2bufferFuel z (out.queueOUT.available + 1) out

/-! ### `write_to_net` -/

end DataStreamOut

/-- What a call passed on, what it returns and the state it leaves. -/
structure NetWrite where
  -- The bytes of the send queue that the socket or the TLS library has taken.
  passed : List Byte
  ret : Int
  out : DataStreamOut

namespace DataStreamOut

variable (out : DataStreamOut)

def writeDone (n : Nat) : DataStreamOut :=
  { out with queueOUT := out.queueOUT.read n, bytesSent := out.bytesSent + n }

variable (io : SendInput)

/-- The unencrypted branch. -/
def writePlain : NetWrite :=
  match io.socket with
  | .upTo n =>
    let n := min n out.queueOUT.data
    ⟨out.queueOUT.contents.take n, n, out.writeDone n⟩
  | .again | .failed => ⟨[], -1, if ¬ io.polled ∨ io.pollout then out.shutSoft else out⟩

/-- The encrypted branch behind `SSL_write`, which has taken `taken` bytes (`none`: an error). -/
def writeEncrypted (taken : Option Nat) : NetWrite :=
  let passed := out.queueOUT.contents.take (taken.getD 0)
  let reads : Bool := out.sslWriteLen ≠ 0 || io.pendingAfter
  if reads ∧ ¬ io.bioRetry then ⟨passed, -1, out.shutSoft⟩
  else
    let out := { out with sslWriteLen := out.sslWriteLen + (if reads then io.produced else 0) }
    let finish (out : DataStreamOut) : NetWrite :=
      match taken with
      | some n => ⟨passed, n, out.writeDone n⟩
      | none => ⟨passed, -1, if io.wantsMore then out else out.shutSoft⟩
    if out.sslWriteLen = 0 then finish out
    else
      match io.socket with
      | .upTo n =>
        if min n out.sslWriteLen = 0 then ⟨passed, 0, out.shutSoft⟩
        else finish { out with sslWriteLen := out.sslWriteLen - min n out.sslWriteLen }
      | .failed => ⟨passed, 0, out.shutSoft⟩
      | .again => ⟨passed, -1, out⟩

def writeToNet : NetWrite :=
  let s := out.queueOUT.data
  if s = 0 ∧ (¬ out.encrypted ∨ (out.sslWriteLen = 0 ∧ ¬ io.pendingBefore)) then ⟨[], 0, out⟩
  else if out.encrypted then
    out.writeEncrypted io (match io.sslWrite with
      | .upTo n => some (min n s)
      | .again | .failed => none)
  else out.writePlain io

/-- The end of `write_to_net_poll`: `write_to_net`, if there is something to write. -/
def writePolled : NetWrite :=
  let wanted : Bool := out.queueOUT.data ≠ 0 ||
    (out.encrypted && (out.sslWriteLen ≠ 0 || io.pendingBefore))
  if wanted ∧ (¬ io.mysqlSession ∨ (io.polled ∧ ¬ out.netFailure)) then out.writeToNet io
    else ⟨[], 0, out⟩

def writeToNetPoll : NetWrite :=
  if ¬ out.active then ⟨[], 0, out⟩
  else if out.encrypted then
    if io.handshakeFails then ⟨[], -1, out.shutSoft⟩
    else if out.sslWriteLen = 0 then out.writePolled io
    else
      match io.flush with
      | .upTo n =>
        let n := min n out.sslWriteLen
        if n = 0 then ⟨[], 0, out.shutSoft⟩
        else if n < out.sslWriteLen then
          ⟨[], n, { out with sslWriteLen := out.sslWriteLen - n }⟩
        else { out with sslWriteLen := 0 }.writePolled io
      | .failed => ⟨[], 0, out.shutSoft⟩
      | .again => ⟨[], -1, out⟩
  else out.writePolled io

end DataStreamOut

/-! ### A connection over time -/

inductive SendEvent where
  -- `PSarrayOUT->add`
  | queue (p : PtrSize)
  -- `array2buffer_full`
  | fill
  -- `write_to_net_poll`
  | write (io : SendInput)

structure OutConnection where
  out : DataStreamOut
  -- The packets queued so far.
  queued : List PtrSize
  -- The bytes passed on so far.
  written : List Byte

def OutConnection.step (z : Zlib) (c : OutConnection) : SendEvent → Except Fault OutConnection
  | .queue p =>
    .ok ⟨{ c.out with psArrayOUT := c.out.psArrayOUT ++ [p] }, c.queued ++ [p], c.written⟩
  | .fill => do
    let (_, out) ← c.out.array2bufferFull z
    return { c with out := out }
  | .write io =>
    let call := c.out.writeToNetPoll io
    .ok ⟨call.out, c.queued, c.written ++ call.passed⟩

/-! ### Filling the send queue -/

namespace DataStreamOut

/-- A connection that does not compress and will not start to. -/
structure Uncompressed (out : DataStreamOut) : Prop where
  compression : out.compression = false
  never : out.clientCompress = false ∨ out.compressionMinLength = 0
  mirror : out.mirror = false

variable (out : DataStreamOut)

def pktRest : List Byte :=
  if out.partialLen = 0 then [] else out.pkt.drop out.partialLen

/-- The bytes queued and not yet passed on, when `idx` packets of the array are taken. -/
def waitingFrom (idx : Nat) : List Byte :=
  out.queueOUT.contents ++ out.pktRest ++ blockBytes (out.psArrayOUT.drop idx)

def waiting : List Byte := out.waitingFrom 0

variable {z : Zlib} {out out' d : DataStreamOut} {idx : Nat}

/-- A connection that neither compresses nor encrypts. -/
structure Plain (out : DataStreamOut) : Prop extends Uncompressed out where
  encrypted : out.encrypted = false
  half : out.partialLen = 0 ∨ out.partialLen < out.pkt.length

/-- What filling leaves alone. -/
structure Fills (out : DataStreamOut) (idx : Nat) (out' : DataStreamOut) (idx' : Nat) : Prop where
  plain : Plain out'
  array : out'.psArrayOUT = out.psArrayOUT
  waiting : out'.waitingFrom idx' = out.waitingFrom idx
  bound : idx' ≤ out.psArrayOUT.length

theorem Fills.trans {out'' : DataStreamOut} {idx' idx'' : Nat} (first : Fills out idx out' idx')
    (second : Fills out' idx' out'' idx'') : Fills out idx out'' idx'' where
  plain := second.plain
  array := second.array.trans first.array
  waiting := second.waiting.trans first.waiting
  bound := first.array ▸ second.bound

/-- Copying the packet: what goes into the queue is taken off the rest of the packet. -/
theorem copyPacket_spec (mode : Uncompressed d) (encrypted : d.encrypted = false)
    (room : d.queueOUT.available ≠ 0) (begun : d.partialLen ≤ d.pkt.length) (idx : Nat) :
    Plain d.copyPacket.2 ∧ d.copyPacket.2.psArrayOUT = d.psArrayOUT ∧
    d.copyPacket.2.waitingFrom idx =
      d.queueOUT.contents ++ d.pkt.drop d.partialLen ++ blockBytes (d.psArrayOUT.drop idx) ∧
    d.copyPacket.1 + d.copyPacket.2.queueOUT.available = d.queueOUT.available ∧
    (d.partialLen < d.pkt.length → d.copyPacket.1 ≠ 0) := by
  have amount : ((d.pkt.drop d.partialLen).take
      (min d.queueOUT.available (d.pkt.length - d.partialLen))).length =
      min d.queueOUT.available (d.pkt.length - d.partialLen) := by
    rw [length_take, length_drop]
    omega
  unfold copyPacket
  dsimp only
  split
  next done =>
    have all : (d.pkt.drop d.partialLen).length ≤
        min d.queueOUT.available (d.pkt.length - d.partialLen) := by
      rw [length_drop]
      omega
    refine ⟨⟨{ __ := mode }, encrypted, .inl rfl⟩, rfl, ?_, ?_, by omega⟩
    · simp [waitingFrom, pktRest, take_of_length_le all]
    · rw [available_write]
      omega
  next more =>
    refine ⟨⟨{ __ := mode }, encrypted, .inr (by dsimp only; omega)⟩, rfl,
      ?_, ?_, by omega⟩
    · have begun : d.partialLen + min d.queueOUT.available (d.pkt.length - d.partialLen) ≠ 0 := by
        omega
      simp only [waitingFrom, pktRest, if_neg begun, contents_write, append_assoc,
        ← drop_drop, take_append_drop]
    · rw [available_write]
      omega

theorem nextPacket_uncompressed (uncompressed : Uncompressed out)
    (some : idx < out.psArrayOUT.length) :
    ∃ out', out.nextPacket z idx = .ok (out', idx + 1) ∧ Uncompressed out' ∧
      out'.queueOUT = out.queueOUT ∧ out'.partialLen = out.partialLen ∧
      out'.psArrayOUT = out.psArrayOUT ∧ out'.encrypted = out.encrypted ∧
      blockBytes (out.psArrayOUT.drop idx) = out'.pkt ++
        blockBytes (out.psArrayOUT.drop (idx + 1)) := by
  have found : out.psArrayOUT[idx]? = .some out.psArrayOUT[idx] := getElem?_eq_getElem some
  have split : blockBytes (out.psArrayOUT.drop idx) =
      out.psArrayOUT[idx].data ++ blockBytes (out.psArrayOUT.drop (idx + 1)) := by
    rw [drop_eq_getElem_cons some, blockBytes_cons]
  simp only [nextPacket, uncompressed.compression, Bool.false_eq_true, if_false, found]
  split
  · refine ⟨_, rfl, ?_⟩
    unfold authDone
    split
    next compress =>
      have zero : out.compressionMinLength = 0 :=
        uncompressed.never.resolve_left (by simpa using compress)
      refine ⟨⟨?_, .inr zero, uncompressed.mirror⟩, rfl, rfl, rfl, rfl, split⟩
      simp [zero]
    next => exact ⟨⟨rfl, .inr rfl, uncompressed.mirror⟩, rfl, rfl, rfl, rfl, split⟩
  · exact ⟨_, rfl, ⟨rfl, uncompressed.never, uncompressed.mirror⟩, rfl, rfl, rfl, rfl, split⟩

/-- A turn of the loop takes the next packet or copies a part of the one begun. -/
theorem fill_turn (plain : Plain out) (bound : idx ≤ out.psArrayOUT.length)
    (room : out.queueOUT.available ≠ 0) (left : out.partialLen = 0 → idx ≠ out.psArrayOUT.length)
    (fuel ret : Nat) :
    ∃ d idx₁ r, fill z (fuel + 1) out idx ret = fill z fuel d idx₁ r ∧ Fills out idx d idx₁ ∧
      r + d.queueOUT.available = out.queueOUT.available ∧ (idx < idx₁ ∨ idx = idx₁ ∧ r ≠ 0) := by
  simp only [fill, if_neg room]
  by_cases new : out.partialLen = 0
  · have some : idx < out.psArrayOUT.length := Nat.lt_of_le_of_ne bound (left new)
    obtain ⟨d, taken, mode, queue, begun, array, encrypted, bytes⟩ :=
      nextPacket_uncompressed plain.toUncompressed some
    obtain ⟨plain', array', waits, sum, -⟩ := copyPacket_spec mode (encrypted.trans plain.encrypted)
      (queue ▸ room) (by omega) (idx + 1)
    refine ⟨d.copyPacket.2, idx + 1, d.copyPacket.1, ?_, ⟨plain', array'.trans array, ?_, some⟩,
      queue ▸ sum, .inl (lt_add_one _)⟩
    · rw [if_pos new, if_neg (by omega), taken, ok_bind]
    · rw [waits, queue, array, begun, new, drop_zero, waitingFrom, pktRest, if_pos new, bytes,
        append_nil, append_assoc]
  · have some := plain.half.resolve_left new
    obtain ⟨plain', array, waits, sum, copies⟩ :=
      copyPacket_spec plain.toUncompressed plain.encrypted
      room (Nat.le_of_lt some) idx
    refine ⟨out.copyPacket.2, idx, out.copyPacket.1, if_neg new, ⟨plain', array, ?_, bound⟩, sum,
      .inr ⟨rfl, copies some⟩⟩
    rw [waits, waitingFrom, pktRest, if_neg new]

/-- The loop returns when the queue is full or nothing is left. -/
theorem fill_spec (fuel : Nat) (plain : Plain out) (bound : idx ≤ out.psArrayOUT.length)
    (enough : out.psArrayOUT.length - idx + out.queueOUT.available < fuel) (ret : Nat) :
    ∃ out' idx' ret', fill z fuel out idx ret = .ok (out', idx', ret') ∧ Fills out idx out' idx' ∧
      (out'.queueOUT.available = 0 ∨ (out'.partialLen = 0 ∧ idx' = out.psArrayOUT.length)) ∧
      out'.queueOUT.available ≤ out.queueOUT.available ∧
      (ret' ≠ 0 → ret ≠ 0 ∨ out'.queueOUT.available < out.queueOUT.available) := by
  induction fuel generalizing out idx ret with
  | zero => omega
  | succ fuel ih =>
    have stay : Fills out idx out idx := ⟨plain, rfl, rfl, bound⟩
    by_cases full : out.queueOUT.available = 0
    · exact ⟨out, idx, ret, by rw [fill, if_pos full], stay, .inl full, le_rfl, .inl⟩
    by_cases done : out.partialLen = 0 ∧ idx = out.psArrayOUT.length
    · refine ⟨out, idx, ret, ?_, stay, .inr done, le_rfl, .inl⟩
      rw [fill, if_neg full, if_pos done.1, if_pos (by omega)]
    · obtain ⟨d, idx₁, r, turned, fills, sum, progress⟩ := fill_turn plain bound full
        (fun new last => done ⟨new, last⟩) fuel ret
      have array := fills.array
      have bound' := fills.bound
      obtain ⟨out', idx', ret', ran, rest, exits, less, returns⟩ :=
        ih fills.plain (array ▸ bound' : idx₁ ≤ _) (by rw [array]; omega) r
      rw [array] at exits
      exact ⟨out', idx', ret', turned.trans ran, fills.trans rest, exits, by omega, by omega⟩

/-- A call has kept the bytes waiting, and the queue is full or there are no others. -/
structure Filled (out out' : DataStreamOut) : Prop where
  plain : Plain out'
  waiting : out'.waiting = out.waiting
  stops : out'.queueOUT.available = 0 ∨ (out'.partialLen = 0 ∧ out'.psArrayOUT = [])

/-- If `array2buffer` does not return 0, the queue has grown. -/
theorem array2buffer_spec (plain : Plain out) :
    ∃ r out', out.array2buffer z = .ok (r, out') ∧ Filled out out' ∧
      (r ≠ 0 → out'.queueOUT.available < out.queueOUT.available) := by
  obtain ⟨d, idx, ret, ran, ⟨⟨mode, encrypted, half⟩, array, same, -⟩, exits, -, returns⟩ :=
    fill_spec (z := z) (out.psArrayOUT.length + out.queueOUT.available + 1) plain (Nat.zero_le _)
      (by omega) 0
  refine ⟨ret, { d with psArrayOUT := d.psArrayOUT.drop idx }, ?_,
    ⟨⟨{ __ := mode }, encrypted, half⟩, ?_, ?_⟩, ?_⟩
  · simp [array2buffer, plain.mirror, ran]
  · simpa [waiting, waitingFrom, pktRest] using same
  · refine exits.imp_right fun ⟨new, all⟩ => ⟨new, drop_eq_nil_of_le (Nat.le_of_eq ?_)⟩
    rw [array, all]
  · intro nonzero
    exact (returns nonzero).resolve_left (by simp)

theorem array2bufferFuel_spec (fuel : Nat) (plain : Plain out)
    (enough : out.queueOUT.available < fuel) :
    ∃ rc out', array2bufferFuel z fuel out = .ok (rc, out') ∧ Filled out out' := by
  induction fuel generalizing out with
  | zero => omega
  | succ fuel ih =>
    obtain ⟨r, d, called, filled, grows⟩ := array2buffer_spec (z := z) plain
    by_cases last : r = 0
    · refine ⟨0, d, ?_, filled⟩
      simp [array2bufferFuel, called, last]
    · obtain ⟨rc, out', ran, rest⟩ := ih filled.plain (by omega)
      refine ⟨r + rc, out', ?_, rest.plain, rest.waiting.trans filled.waiting, rest.stops⟩
      simp [array2bufferFuel, called, last, ran]

/-- `array2buffer_full` returns, keeps the bytes waiting, and leaves the queue full or the array
empty. -/
theorem array2bufferFull_spec (plain : Plain out) :
    ∃ rc out', out.array2bufferFull z = .ok (rc, out') ∧ Filled out out' :=
  array2bufferFuel_spec _ plain (lt_add_one _)

/-! ### Passing the queue on -/

/-- On a connection without TLS a call takes what it passed on off the queue, and changes nothing
else that sending depends on. -/
theorem writeToNetPoll_plain (plain : out.encrypted = false) (io : SendInput) :
    (out.writeToNetPoll io).passed ++ (out.writeToNetPoll io).out.queueOUT.contents =
      out.queueOUT.contents ∧ ∃ q a f n, (out.writeToNetPoll io).out =
      { out with queueOUT := q, active := a, netFailure := f, bytesSent := n } := by
  have nothing : ([] : List Byte) ++ out.queueOUT.contents = out.queueOUT.contents ∧
      ∃ q a f n, out = { out with queueOUT := q, active := a, netFailure := f, bytesSent := n } :=
    ⟨rfl, _, _, _, _, rfl⟩
  unfold writeToNetPoll
  split
  · exact nothing
  rw [if_neg (by simp [plain]), writePolled]
  split
  · simp only [writeToNet]
    split
    · exact nothing
    · rw [if_neg (by simp [plain]), writePlain]
      split
      · exact ⟨by simp [writeDone], _, _, _, _, rfl⟩
      all_goals
        constructor
        · split <;> rfl
        · split <;> exact ⟨_, _, _, _, rfl⟩
  · exact nothing

end DataStreamOut

/-! ### Every run -/

namespace OutConnection

open DataStreamOut

/-- A connection to a client, before anything was queued. -/
structure SendStart (c : OutConnection) : Prop where
  uncompressed : Uncompressed c.out
  encrypted : c.out.encrypted = false
  idle : c.out.partialLen = 0
  empty : c.out.queueOUT.data = 0 ∧ c.out.psArrayOUT = []
  nothing : c.queued = [] ∧ c.written = []

/-- The invariant of a connection: no byte is lost, repeated or out of order. -/
structure Conserves (c : OutConnection) : Prop where
  plain : Plain c.out
  bytes : c.written ++ c.out.waiting = blockBytes c.queued

variable {z : Zlib} {c c' c₀ : OutConnection}

theorem SendStart.conserves (start : SendStart c) : Conserves c where
  plain := ⟨start.uncompressed, start.encrypted, .inl start.idle⟩
  bytes := by
    simp [waiting, waitingFrom, pktRest, start.idle, start.empty.2, start.nothing.1,
      start.nothing.2, contents_eq_nil.mpr start.empty.1]

/-- Every event happens without a fault and keeps the invariant. -/
theorem step_conserves (inv : Conserves c) (e : SendEvent) :
    ∃ c', c.step z e = .ok c' ∧ Conserves c' := by
  obtain ⟨plain, bytes⟩ := inv
  have ⟨mode, encrypted, half⟩ := plain
  cases e with
  | queue p =>
    refine ⟨_, rfl, ⟨{ __ := mode }, encrypted, half⟩, ?_⟩
    simp only [waiting, waitingFrom, pktRest, blockBytes_append] at bytes ⊢
    rw [← bytes]
    simp
  | fill =>
    obtain ⟨rc, out, ran, filled⟩ := array2bufferFull_spec (z := z) plain
    refine ⟨⟨out, c.queued, c.written⟩, ?_, filled.plain, ?_⟩
    · simp [step, ran]
    · rw [filled.waiting]
      exact bytes
  | write io =>
    obtain ⟨passed, q, a, f, n, same⟩ := writeToNetPoll_plain encrypted io
    refine ⟨_, rfl, ?_, ?_⟩
    · rw [same]
      exact ⟨{ __ := mode }, encrypted, half⟩
    · rw [← bytes, waiting, waiting, waitingFrom, waitingFrom, ← passed]
      rw [same] at passed ⊢
      simp [pktRest]

/-- What was passed on is always the beginning of the packets queued, and all of them once nothing
is left to send. -/
theorem written_prefix_queued (start : SendStart c₀) (run : Run (step z) (fun _ _ => True) c₀ c) :
    c.written <+: blockBytes c.queued ∧
      (c.out.psArrayOUT = [] → c.out.partialLen = 0 → c.out.queueOUT.data = 0 →
        c.written = blockBytes c.queued) ∧ ∀ e, ∃ c', c.step z e = .ok c' := by
  obtain ⟨inv, goesOn⟩ := run.goes_on Conserves start.conserves
    fun {_ e} inv _ => step_conserves inv e
  refine ⟨⟨_, inv.bytes⟩, ?_, fun e => goesOn e trivial⟩
  intro array idle queue
  have bytes := inv.bytes
  rw [waiting, waitingFrom, pktRest, if_pos idle, array, contents_eq_nil.mpr queue]
    at bytes
  simpa using bytes

def init : OutConnection where
  out := ⟨empty QUEUE_T_DEFAULT_SIZE, [], 0, [], 0, 0, false, .sleep, false, 0, false,
    false, 0, true, false, 0⟩
  queued := []
  written := []

/-- The socket takes `n` bytes. -/
def accepts (n : Nat) : SendInput :=
  ⟨.again, false, true, true, true, .upTo n, .again, false, false, 0, true, false⟩

/-- A packet of five bytes, of which the socket has taken three. -/
theorem written_prefix_queued_three :
    ∃ c, [.queue ⟨[1, 0, 0, 0, 14], by decide⟩, .fill, .write (accepts 3)].foldlM
        (step Zlib.storing) init = .ok c ∧
      c.written = [1, 0, 0] ∧ c.written <+: blockBytes c.queued := by
  have start : SendStart init :=
    ⟨⟨rfl, .inl rfl, rfl⟩, rfl, rfl, ⟨rfl, rfl⟩, rfl, rfl⟩
  have ran : ∃ c, [.queue ⟨[1, 0, 0, 0, 14], by decide⟩, .fill, .write (accepts 3)].foldlM
      (step Zlib.storing) init = .ok c ∧ c.written = [1, 0, 0] := ⟨_, rfl, rfl⟩
  obtain ⟨c, ran, three⟩ := ran
  exact ⟨c, ran, three, (written_prefix_queued start (run_of_foldlM ran)).1⟩

end OutConnection

end MockProxy.DataStream
