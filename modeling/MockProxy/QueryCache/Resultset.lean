import MockProxy.DataStream.PacketStream
import MockProxy.Session.Binds

/-!
# Resultsets in the query cache

The cache stores a text resultset as the backend sent it: with an EOF packet after the column
definitions and another one after the rows, or, under `CLIENT_DEPRECATE_EOF`, with a final OK packet
only. `Query_Cache::set` stores where these packets are; `Query_Cache::get` converts the resultset
if the client wants the other form, with `eof_to_ok_packet` or `ok_to_eof_packet`. Both insert or
delete the packet after the column definitions and renumber what follows.

A pointer into a resultset is modelled by the bytes from there on, and its distance from the start
by the difference of the lengths.
-/

namespace MockProxy.QueryCache

open DataStream Session

/-- `QC_entry_t`; `length` is the length of the value. -/
structure QcEntry where
  key : Nat
  value : List Byte
  createMs : Nat
  expireMs : Nat
  accessMs : Nat
  refreshing : Bool
  columnEofPktOffset : Nat
  rowEofPktOffset : Nat
  okPktOffset : Nat
  refCount : Nat
  deriving DecidableEq

/-- `mysql_hdr` -/
structure Hdr where
  pktLength : Nat
  pktId : Byte
  deriving DecidableEq

def readHdr (rest : List Byte) : Except Fault Hdr := do
  let bytes ← readAt rest 0 hdrSize
  return ⟨DataStream.pktLength bytes, DataStream.pktId bytes⟩

def Hdr.skip (hdr : Hdr) (rest : List Byte) : List Byte := rest.drop (hdrSize + hdr.pktLength)

/-- `hdr.pkt_length < 9 && *payload == 0xfe` -/
def Hdr.isLast (hdr : Hdr) (rest : List Byte) : Except Fault Bool :=
  if hdr.pktLength < 9 then do
    let first ← readAt rest hdrSize 1
    return first == [0xfe]
  else return false

/-! ### Finding the packets -/

def skipPkts : Nat → Option Hdr → List Byte → Except Fault (Option Hdr × List Byte)
  | 0, last, rest => .ok (last, rest)
  | n + 1, _, rest => do
    let hdr ← readHdr rest
    skipPkts n (some hdr) (hdr.skip rest)

/-- `mysql_decode_length` on a count that is 0 before; an invalid first byte leaves it so. -/
def decodeCount (rest : List Byte) : Except Fault (Nat × Nat) :=
  if rest.head? = some 0xff then .ok (0, 0) else decodeLength rest

variable (value : List Byte)

def skipColumns : Except Fault (Option Hdr × List Byte) := do
  let count ← decodeCount (value.drop hdrSize)
  skipPkts count.2 none (value.drop (hdrSize + count.1))

/-- Find the second EOF packet or the OK packet; a header is read for each packet, so the fuel is
never used up by a resultset of that length. -/
def findLast : Nat → List Byte → Except Fault (List Byte)
  | 0, _ => .error .outOfBounds
  | fuel + 1, rest => do
    let hdr ← readHdr rest
    let last ← hdr.isLast rest
    if last then .ok rest else findLast fuel (hdr.skip rest)

structure Offsets where
  columnEof : Nat
  rowEof : Nat
  ok : Nat
  deriving DecidableEq

/-- The first half of `Query_Cache::set`. -/
def locate (deprecateEof : Bool) : Except Fault Offsets := do
  let columns ← skipColumns value
  if deprecateEof then
    let last ← findLast (value.length + 1) columns.2
    return ⟨0, 0, value.length - last.length⟩
  else
    let hdr ← readHdr columns.2
    let last ← findLast (value.length + 1) (hdr.skip columns.2)
    return ⟨value.length - columns.2.length, value.length - last.length, 0⟩

/-- The size `mysql_decode_length` returns. -/
def lengthSize (first : Byte) : Nat :=
  if first ≤ 0xfb then 1 else if first = 0xfc then 3 else if first = 0xfd then 4
  else if first = 0xfe then 9 else 0

/-- `memcpy(bytes + offset, part, …)` -/
def overwrite (bytes : List Byte) (offset : Nat) (part : List Byte) : Except Fault (List Byte) :=
  if offset + part.length ≤ bytes.length then
    .ok (bytes.take offset ++ part ++ bytes.drop (offset + part.length))
  else .error .blockOverflow

/-- The warnings are set to 0 before a resultset is stored. -/
def resetWarnings (offsets : Offsets) (deprecateEof : Bool) : Except Fault (List Byte) :=
  if deprecateEof then do
    let affectedRows ← readAt value (offsets.ok + hdrSize + 1) 1
    let skipped := offsets.ok + hdrSize + 1 + lengthSize (affectedRows.headD 0)
    let lastInsertId ← readAt value skipped 1
    overwrite value (skipped + lengthSize (lastInsertId.headD 0) + 2) [0, 0]
  else overwrite value (offsets.rowEof + hdrSize + 1) [0, 0]

/-- An entry that holds `value` as it is. -/
def QcEntry.holding (offsets : Offsets) (key createMs accessMs expireMs : Nat) : QcEntry where
  key := key
  value := value
  createMs := createMs
  expireMs := expireMs
  accessMs := accessMs
  refreshing := false
  columnEofPktOffset := offsets.columnEof
  rowEofPktOffset := offsets.rowEof
  okPktOffset := offsets.ok
  refCount := 0

/-- The entry `Query_Cache::set` makes. -/
def newEntry (key : Nat) (value : List Byte) (createMs curtimeMs expireMs : Nat)
    (deprecateEof : Bool) : Except Fault QcEntry := do
  let offsets ← locate value deprecateEof
  let stored ← resetWarnings value offsets deprecateEof
  return .holding stored offsets key createMs curtimeMs expireMs

/-! ### The conversions -/

/-- The bytes written to an allocation of `size` bytes. -/
def fill (size : Nat) (written : List Byte) : Except Fault Block :=
  if fits : written.length ≤ size then .ok ⟨written, size, fits⟩ else .error .blockOverflow

theorem fill_exact {size : Nat} {written : List Byte} (length : written.length = size) :
    fill size written = .ok (.exact written) := by
  subst length
  exact dif_pos le_rfl

/-- Less seven, in 32 bits; `eof_to_ok_dif` is -7. -/
def minusSeven (length : Nat) : Nat := (length + 2 ^ 32 - 7) % 2 ^ 32

theorem minusSeven_add {n : Nat} (fits : n + 7 < 2 ^ 32) : minusSeven (n + 7) = n := by
  unfold minusSeven
  omega

variable (e : QcEntry)

/-- `entry->length + eof_to_ok_dif` -/
def QcEntry.okLength : Nat := minusSeven e.value.length

/-- `entry->length + ok_to_eof_dif`, in 32 bits -/
def QcEntry.eofLength : Nat := (e.value.length + 7) % 2 ^ 32

/-- The last loop of `eof_to_ok_packet`. It starts at the first row and ends less than three bytes
before the end of what was written. -/
def decrementIds : Nat → List Byte → Except Fault (List Byte)
  | 0, _ => .error .outOfBounds
  | fuel + 1, rest => do
    let hdr ← readHdr rest
    let pkt := hdrBytes hdr.pktLength (hdr.pktId - 1) ++ (rest.drop hdrSize).take hdr.pktLength
    if rest.length ≤ hdrSize + hdr.pktLength + 2 then .ok (pkt ++ hdr.skip rest)
    else do
      let tail ← decrementIds fuel (hdr.skip rest)
      .ok (pkt ++ tail)

def addressDiff (p q : Nat) : Nat := (p + 2 ^ 64 - q) % 2 ^ 64

theorem addressDiff_add {d : Nat} (small : d < 2 ^ 64) (q : Nat) : addressDiff (q + d) q = d := by
  unfold addressDiff
  omega

def eofToOkPacket : Except Fault Block := do
  let front ← readAt e.value 0 e.columnEofPktOffset
  let columnEof := e.value.drop e.columnEofPktOffset
  let hdr ← readHdr columnEof
  let it := e.columnEofPktOffset + hdrSize + hdr.pktLength
  let rowsLength := addressDiff e.rowEofPktOffset it
  let rows ← readAt (hdr.skip columnEof) 0 rowsLength
  let eofHdr ← readHdr ((hdr.skip columnEof).drop rowsLength)
  let warnings ← readAt e.value (e.rowEofPktOffset + hdrSize + 1) 2
  let statusFlags ← readAt e.value (e.rowEofPktOffset + hdrSize + 3) 2
  let written := rows ++ hdrBytes 7 eofHdr.pktId ++ [0xfe, 0, 0] ++ statusFlags ++ warnings
  let numbered ← decrementIds (written.length + 1) written
  fill e.okLength (front ++ numbered)

def eofPayload (warnings statusFlags : List Byte) : List Byte := [0xfe] ++ warnings ++ statusFlags

/-- The last loop of `ok_to_eof_packet`. -/
def incrementIds (warnings statusFlags : List Byte) : Nat → List Byte → Except Fault (List Byte)
  | 0, _ => .error .outOfBounds
  | fuel + 1, rest => do
    let hdr ← readHdr rest
    let last ← hdr.isLast rest
    if last then .ok (hdrBytes 5 (hdr.pktId + 1) ++ eofPayload warnings statusFlags)
    else do
      let body ← readAt rest hdrSize hdr.pktLength
      let tail ← incrementIds warnings statusFlags fuel (hdr.skip rest)
      .ok (hdrBytes hdr.pktLength (hdr.pktId + 1) ++ body ++ tail)

/-- `ok_to_eof_packet`; without columns its `column_hdr` is never written. -/
def okToEofPacket : Except Fault Block := do
  let _ ← readAt e.value e.okPktOffset hdrSize
  let statusFlags ← readAt e.value (e.okPktOffset + hdrSize + 3) 2
  let warnings ← readAt e.value (e.okPktOffset + hdrSize + 5) 2
  let columns ← skipColumns e.value
  match columns.1 with
  | none => .error .uninitialised
  | some columnHdr =>
    let front := e.value.take (e.value.length - columns.2.length)
    let rows ← incrementIds warnings statusFlags (e.value.length + 1) columns.2
    fill e.eofLength
      (front ++ hdrBytes 5 (columnHdr.pktId + 1) ++ eofPayload warnings statusFlags ++ rows)

/-- What `Query_Cache::get` hands out: the result and `*lv`. -/
def QcEntry.answer (deprecateEof : Bool) : Except Fault (Block × Nat) :=
  if deprecateEof ∧ e.columnEofPktOffset ≠ 0 then do
    let result ← eofToOkPacket e
    return (result, e.okLength)
  else if ¬ deprecateEof ∧ e.okPktOffset ≠ 0 then do
    let result ← okToEofPacket e
    return (result, e.eofLength)
  else return (.exact e.value, e.value.length)

end MockProxy.QueryCache
