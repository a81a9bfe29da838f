import MockProxy.DataStream.ReadFromNet

/-!
# `buffer2array` and `read_pkts`

`buffer2array` moves bytes from `queueIN` to packets in `PSarrayIN`, in one of three modes: plain
packets, compressed frames whose payloads are a stream of packets, and fast forward, which hands
over bytes without looking at them. It is called until it returns 0.
-/

namespace MockProxy.DataStream

/-- zlib's `compress` and `uncompress`; `uncompress` has the size of the output buffer and answers
`none` when it does not return `Z_OK`. -/
structure Zlib where
  compress : List Byte → List Byte
  uncompress : Nat → List Byte → Option (List Byte)

/-- What zlib promises: `uncompress` never writes more than there is room for, and undoes
`compress` when there is room for the result. -/
structure Zlib.Lawful (z : Zlib) : Prop where
  uncompress_le : ∀ n src out, z.uncompress n src = some out → out.length ≤ n
  uncompress_compress : ∀ n src, src.length ≤ n → z.uncompress n (z.compress src) = some src

def Zlib.storing : Zlib where
  compress src := src
  uncompress n src := if src.length ≤ n then some src else none

theorem Zlib.storing_lawful : Zlib.storing.Lawful := by
  constructor
  · intro n src out some
    simp only [storing] at some
    split at some
    · obtain rfl := Option.some.inj some
      assumption
    · cases some
  · intro n src room
    simp [storing, room]

/-- `memcpy(ptr + offset, …)` into memory written up to `offset`. -/
def memcpyAt (mem : List Byte) (offset : Nat) (bytes : List Byte) : List Byte :=
  mem.take offset ++ bytes

namespace DataStreamIn

/-! ### Fast forward -/

def RESULTSET_BUFLEN_DS_16K : Nat := 16000

variable (ds : DataStreamIn)

def addBlock (b : Block) : DataStreamIn :=
  { ds with psArrayIN := ds.psArrayIN ++ [b] }

/-- A block of `cap` allocated bytes holding `bytes`. -/
def allocBlock (cap : Nat) (bytes : List Byte) : Except Fault Block :=
  if fits : bytes.length ≤ cap then .ok ⟨bytes, cap, fits⟩ else .error .blockOverflow

/-- `memcpy(last->ptr + last->size, …)`, which does not know how much was allocated. -/
def Block.extend (b : Block) (bytes : List Byte) : Except Fault Block :=
  if fits : (b.data ++ bytes).length ≤ b.cap then .ok ⟨b.data ++ bytes, b.cap, fits⟩
  else .error .blockOverflow

/-- Where the bytes in the queue go in fast forward mode. -/
def fastBlocks (blocks : List Block) (bytes : List Byte) : Except Fault (List Block) :=
  if RESULTSET_BUFLEN_DS_16K ≤ bytes.length then .ok (blocks ++ [Block.exact bytes])
  else
    match blocks.getLast? with
    | none => do
      let b ← allocBlock RESULTSET_BUFLEN_DS_16K bytes
      return [b]
    | some last =>
      if last.data.length + bytes.length > RESULTSET_BUFLEN_DS_16K then do
        let b ← allocBlock RESULTSET_BUFLEN_DS_16K bytes
        return blocks ++ [b]
      else do
        let b ← Block.extend last bytes
        return blocks.dropLast ++ [b]

def fastMode : Except Fault (Nat × DataStreamIn) := do
  let bytes := ds.queueIN.contents
  let blocks ← fastBlocks ds.psArrayIN bytes
  return (bytes.length, { ds with
    pktsRecv := if ds.pktsRecv = 0 then 1 else ds.pktsRecv
    queueIN := ds.queueIN.read bytes.length
    psArrayIN := blocks
    pkt := Pkt.none })

/-! ### Headers -/

/-- Start a frame of the compressed protocol once its 7-byte header is there. -/
def startFrame : Nat × DataStreamIn :=
  if ds.pkt.size = 0 ∧ 7 ≤ ds.queueIN.data then
    let hdr := ds.queueIN.contents.take 7
    (7, { ds with
      queueIN := ds.queueIN.read 7
      pktSid := pktId hdr
      pkt := ⟨pktLength hdr + hdrSize + 3, hdr⟩
      partialLen := 7
      compressionPktId := pktId hdr })
  else (0, ds)

/-- The text `PROXY` and a blank. -/
def proxySignature : List Byte := [0x50, 0x52, 0x4F, 0x58, 0x59, 0x20]

def isProxyHeader : Bool :=
  ds.pktsRecv = 0 ∧ ds.queueIN.tail = 0 ∧ ds.queueIN.head > 7 ∧
    ds.queueIN.stored.take 6 = proxySignature

/-- The index after the first `\r\n`, where `i` is the index of the first byte given. -/
def findDelimiter (i : Nat) : List Byte → Option Nat
  | c :: d :: rest => if c = 13 ∧ d = 10 then some (i + 2) else findDelimiter (i + 1) (d :: rest)
  | _ => none

/-- A PROXY header is skipped; without its delimiter the session is given up. -/
def skipProxyHeader : Nat × DataStreamIn :=
  match findDelimiter 7 (ds.queueIN.stored.drop 7) with
  | some b => (b, { ds with
      queueIN := ds.queueIN.read b
      pktsRecv := ds.pktsRecv + 1
      pkt := Pkt.none })
  | none => (0, { ds with healthy := false })

/-- Start a packet once its header is there. -/
def startPacket : Nat × DataStreamIn :=
  if ds.pkt.size = 0 ∧ hdrSize ≤ ds.queueIN.data then
    let hdr := ds.queueIN.contents.take hdrSize
    (hdrSize, { ds with
      queueIN := ds.queueIN.read hdrSize
      pktSid := pktId hdr
      pkt := ⟨pktLength hdr + hdrSize, hdr⟩
      partialLen := hdrSize })
  else (0, ds)

/-- Copy into the packet what the queue has of it. -/
def collect : Nat × DataStreamIn :=
  if 0 < ds.pkt.size ∧ 0 < ds.queueIN.data then
    let b := min ds.queueIN.data (ds.pkt.size - ds.partialLen)
    (b, { ds with
      queueIN := ds.queueIN.read b
      pkt := ⟨ds.pkt.size, memcpyAt ds.pkt.bytes ds.partialLen (ds.queueIN.contents.take b)⟩
      partialLen := ds.partialLen + b })
  else (0, ds)

/-! ### Compressed payloads -/

variable (z : Zlib)

/-- The payload of a whole frame, `none` where the code gives the stream up. -/
def framePayload (frame : List Byte) : Except Fault (Option (List Byte)) :=
  let payloadLength := LittleEndian.ofBytes ((frame.drop 4).take 3)
  let src := frame.drop 7
  if payloadLength = 0 then .ok (some src)
  else
    match z.uncompress payloadLength src with
    | some out =>
      -- `datalength` is the announced length, not the length `uncompress` reports
      if out.length = payloadLength then .ok (some out) else .error .uninitialised
    | none =>
      -- some clients announce a compressed length for a payload they did not compress
      if payloadLength < src.length then .error .blockOverflow
      else if src.length < 3 then .error .outOfBounds
      else if src.getD 2 0 = 0 ∧ src.getD 1 0 = 0 ∧ src.length = (src.getD 0 0).toNat then
        if src.length = payloadLength then .ok (some src) else .error .uninitialised
      else .ok none

/-- The loop over the payload of one frame; `rest` is what lies behind `progress`. -/
def unpack : (fuel : Nat) → DataStreamIn → (rest : List Byte) → Except Fault DataStreamIn
  | 0, ds, _ => .ok ds
  | fuel + 1, ds, rest =>
    if rest = [] then .ok ds
    else if ds.compPartialLen = 0 then
      if rest.length < hdrSize then .error .assertion
      else
        let size := pktLength rest + hdrSize
        if size ≤ rest.length then
          unpack fuel ({ ds with compPkt := ⟨size, []⟩ }.addBlock (Block.exact (rest.take size)))
            (rest.drop size)
        else .ok { ds with compPkt := ⟨size, rest⟩, compPartialLen := rest.length }
    else
      let missing := ds.compPkt.size - ds.compPartialLen
      if missing ≤ rest.length then
        let bytes := memcpyAt ds.compPkt.bytes ds.compPartialLen (rest.take missing)
        unpack fuel
          ({ ds with compPkt := ⟨ds.compPkt.size, []⟩, compPartialLen := 0 }.addBlock
            (Block.exact bytes))
          (rest.drop missing)
      else
        .ok { ds with
          compPkt := ⟨ds.compPkt.size, memcpyAt ds.compPkt.bytes ds.compPartialLen rest⟩
          compPartialLen := ds.compPartialLen + rest.length }

def unpackFrame (payload : List Byte) : Except Fault DataStreamIn :=
  unpack (payload.length + 1) ds payload

/-! ### One call -/

variable (ds : DataStreamIn)

/-- Hand over the packet, or the packets of the frame, once it is whole. -/
def deliver : Except Fault DataStreamIn :=
  if 0 < ds.pkt.size ∧ ds.pkt.size = ds.partialLen then
    if ds.compression then do
      match ← framePayload z ds.pkt.bytes with
      | none => return ds.shutSoft
      | some payload =>
        let ds ← ds.unpackFrame payload
        return { ds with pktsRecv := ds.pktsRecv + 1, pkt := Pkt.none }
    else
      .ok { ds.addBlock (Block.exact ds.pkt.bytes) with
        pktsRecv := ds.pktsRecv + 1
        pkt := Pkt.none }
  else .ok ds

/-- Collect and deliver, after the header step took `ret` bytes. -/
def collectAndDeliver (step : Nat × DataStreamIn) : Except Fault (Nat × DataStreamIn) := do
  let ds ← step.2.collect.2.deliver z
  return (step.1 + step.2.collect.1, ds)

def compactQueue : DataStreamIn :=
  if ds.pkt.size = 0 ∧ ds.queueIN.data < hdrSize then { ds with queueIN := ds.queueIN.zero } else ds

def buffer2array : Except Fault (Nat × DataStreamIn) :=
  if ds.queueIN.data = 0 then .ok (0, ds)
  else
    let ds := ds.compactQueue
    if ds.fastForward then ds.fastMode
    else if ds.compression then collectAndDeliver z ds.startFrame
    else if ds.pkt.size = 0 ∧ hdrSize ≤ ds.queueIN.data ∧ ds.isProxyHeader then
      .ok ds.skipProxyHeader
    else collectAndDeliver z ds.startPacket

/-- `while ((r = buffer2array())) rc += r;` -/
def readPktsFuel (z : Zlib) : (fuel : Nat) → DataStreamIn → Except Fault (Nat × DataStreamIn)
  | 0, ds => .ok (0, ds)
  | fuel + 1, ds => do
    let (r, ds) ← ds.buffer2array z
    if r = 0 then return (0, ds)
    else
      let (rc, ds) ← readPktsFuel z fuel ds
      return (r + rc, ds)

def readPkts : Except Fault (Nat × DataStreamIn) :=
  readPktsFuel z (ds.queueIN.data + 1) ds

end DataStreamIn

end MockProxy.DataStream
