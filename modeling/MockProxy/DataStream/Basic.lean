import MockProxy.Lib.Framing
import MockProxy.Lib.LinearQueue
import MockProxy.Lib.LittleEndian

/-!
# The receiving half of a data stream

`MySQL_Data_Stream` receives bytes in `queueIN`, collects them into `queueIN.pkt` and hands whole
packets over in `PSarrayIN`. This file has its state; `ReadFromNet` and `Buffer2Array` have the two
functions that move it.

Memory is modelled by what was written to it. A store or a load outside an allocation, and a failed
`assert`, end the call with a `Fault`.
-/

namespace MockProxy.DataStream

abbrev Byte := UInt8

/-- What the process does instead of returning from the call. -/
inductive Fault where
  -- `recv` stores past the end of `queueIN.buffer`.
  | queueOverflow
  -- A copy stores outside of the allocation it goes to.
  | blockOverflow
  -- A load past the end of the allocation it comes from.
  | outOfBounds
  -- A load of memory nothing was written to.
  | uninitialised
  -- An access to memory that was freed.
  | useAfterFree
  -- `free` of memory that was freed.
  | doubleFree
  -- `assert` fails.
  | assertion
  deriving DecidableEq, Repr

/-! ### Packets -/

/-- `sizeof(mysql_hdr)` -/
def hdrSize : Nat := 4

/-- `mysql_hdr::pkt_length`, the 24 lowest bits. -/
def pktLength (hdr : List Byte) : Nat := LittleEndian.ofBytes (hdr.take 3)

def pktId (hdr : List Byte) : Byte := hdr.getD 3 0

theorem pktLength_take {n : Nat} (three : 3 ≤ n) (bytes : List Byte) :
    pktLength (bytes.take n) = pktLength bytes := by
  rw [pktLength, pktLength, List.take_take, Nat.min_eq_left three]

def packetFormat : Framing.Format Byte where
  header := hdrSize
  total hdr := pktLength hdr + hdrSize
  header_pos := by decide
  header_le_total _ := Nat.le_add_left _ _

theorem announced_packet (bytes : List Byte) :
    packetFormat.announced bytes = pktLength bytes + hdrSize := by
  simp [Framing.Format.announced, packetFormat, hdrSize, pktLength_take]

/-- An entry of `PSarrayIN`: `cap` bytes were allocated, `data` was written to them. -/
structure Block where
  data : List Byte
  cap : Nat
  fits : data.length ≤ cap
  deriving DecidableEq

def Block.exact (data : List Byte) : Block := ⟨data, data.length, Nat.le_refl _⟩

@[simp] theorem Block.data_exact (data : List Byte) : (Block.exact data).data = data := rfl

/-- `mysql_data_stream_status`, as far as the model tells the states apart. -/
inductive Dss where
  | notInitialized
  | serverHandshake
  | clientAuthOk
  | sslInit
  | sleep
  | sleepMultiPacket
  | ready
  | querySentNet
  | mariadbGeneric
  | other
  deriving DecidableEq, Repr

/-- A packet being collected: `size` bytes are allocated (0 when there is none). -/
structure Pkt where
  size : Nat
  bytes : List Byte
  deriving DecidableEq

def Pkt.none : Pkt := ⟨0, []⟩

/-! ### The state -/

def QUEUE_T_DEFAULT_SIZE : Nat := 32768

/-- The fields of `MySQL_Data_Stream` that receiving reads or writes. -/
structure DataStreamIn where
  queueIN : LinearQueue Byte
  -- `queueIN.pkt`
  pkt : Pkt
  -- `queueIN.partial`, which keeps its value when a packet is complete.
  partialLen : Nat
  -- `CompPktIN.pkt` and `CompPktIN.partial`: a packet begun by an earlier compressed frame.
  compPkt : Pkt
  compPartialLen : Nat
  psArrayIN : List Block
  pktsRecv : Nat
  pktSid : Byte
  -- `myconn->compression_pkt_id`
  compressionPktId : Byte
  bytesRecv : Nat
  encrypted : Bool
  -- `STATUS_MYSQL_CONNECTION_COMPRESSION` of `myconn`.
  compression : Bool
  -- `sess->session_fast_forward`
  fastForward : Bool
  active : Bool
  netFailure : Bool
  -- `sess->healthy`
  healthy : Bool
  deriving DecidableEq

namespace DataStreamIn

/-- A stream on a freshly accepted socket. -/
def init : DataStreamIn where
  queueIN := LinearQueue.empty QUEUE_T_DEFAULT_SIZE
  pkt := Pkt.none
  partialLen := 0
  compPkt := Pkt.none
  compPartialLen := 0
  psArrayIN := []
  pktsRecv := 0
  pktSid := 0
  compressionPktId := 0
  bytesRecv := 0
  encrypted := false
  compression := false
  fastForward := false
  active := true
  netFailure := false
  healthy := true

def shutSoft (ds : DataStreamIn) : DataStreamIn := { ds with active := false, netFailure := true }

def packets (ds : DataStreamIn) : List (List Byte) := ds.psArrayIN.map Block.data

end DataStreamIn

end MockProxy.DataStream
