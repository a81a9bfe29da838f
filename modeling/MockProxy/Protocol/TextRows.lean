import MockProxy.Lib.CString
import MockProxy.Protocol.LengthEncoded
import MockProxy.QueryCache.Resultset

/-!
# Rows of the text protocol

`generate_pkt_row3` writes a row into the buffer of the resultset, into a fresh buffer behind the
one that is full, or into blocks of its own, and splits a row that is too long for a packet. The
bytes are the same in all three cases: the row, cut into full payloads and a shorter one. The offset
of a column is an `int` that starts behind the header, so this fails for rows whose last column
begins at 2 GiB or behind (`bytes_addRows_iff`).

The length that is reported is computed from the difference of two ids of eight bits. It is too
small by 1024 for a row during which the id wraps around (`reportedLength_add`).
-/

namespace MockProxy.Protocol

open DataStream Session Machine List
open CString (int32 int32_of_range)

/-! ### Encoding a row -/

/-- An entry of `fieldstxt` with its length; a null pointer is `none`. -/
abbrev Field := Option (List Byte)

def Field.size : Field → Nat
  | some text => text.length + (mysqlEncodeLength text.length).1
  | none => 1

def Field.bytes : Field → List Byte
  | some text => encodedString text
  | none => [0xfb]

variable (fields : List Field)

/-- The first loop over the columns. -/
def rowlen : Nat := (fields.map Field.size).sum

/-- What the second loop over the columns is meant to write. -/
def rowBytes : List Byte := fields.flatMap Field.bytes

theorem Field.length_bytes (field : Field) : field.bytes.length = field.size := by
  cases field with
  | none => rfl
  | some text =>
    rw [Field.bytes, encodedString, length_append, length_encoded, Field.size, Nat.add_comm]

theorem length_rowBytes : (rowBytes fields).length = rowlen fields := by
  rw [rowBytes, length_flatMap, rowlen]
  simp [Field.length_bytes]

/-- `generate_pkt_row`; the size of the block is computed from the length in the header. -/
def generatePktRow (sequenceId : Byte) (fields : List Field) : Except Fault Block :=
  let hdr := hdrBytes (rowlen fields) sequenceId
  QueryCache.fill (pktLength hdr + hdrSize) (hdr ++ rowBytes fields)

/-! ### Reading it back -/

/-- A column: a byte 0xfb is NULL, otherwise there are a length and that many bytes. -/
def readField (rest : List Byte) : Except Fault (Field × List Byte) :=
  if rest.head? = some 0xfb then .ok (none, rest.drop 1)
  else do
    let header ← decodeLength rest
    let text ← readAt rest header.1 header.2
    return (some text, rest.drop (header.1 + header.2))

def readFields : Nat → List Byte → Except Fault (List Field × List Byte)
  | 0, rest => .ok ([], rest)
  | n + 1, rest => do
    let (field, rest) ← readField rest
    let (fields, rest) ← readFields n rest
    return (field :: fields, rest)

theorem readField_bytes {field : Field} (fits : field.size < 2 ^ 64) (rest : List Byte) :
    readField (field.bytes ++ rest) = .ok (field, rest) := by
  cases field with
  | none => rfl
  | some text =>
    have small : text.length < 2 ^ 64 := by
      rw [Field.size] at fits
      omega
    obtain ⟨first, isFirst, notNull, -⟩ := head?_encoded text.length
    have decoded : decodeLength (encoded text.length ++ (text ++ rest)) = _ :=
      (lengthField_encoded small fun long _ => ne_nil_of_length_pos
        (by rw [length_append]; omega)).decodeLength
    have read : readAt (encoded text.length ++ (text ++ rest)) (encoded text.length).length
        text.length = .ok text := by
      rw [readAt_eq_ok, drop_left, take_left]
      refine ⟨?_, rfl⟩
      simp only [length_append]
      omega
    rw [Field.bytes, encodedString, append_assoc, readField, head?_append, isFirst,
      if_neg (by simpa using notNull), decoded]
    simp only [ok_bind, read]
    rw [← append_assoc, drop_left' (by simp)]
    rfl

variable {fields : List Field}

theorem readFields_rowBytes (fits : rowlen fields < 2 ^ 64)
    (rest : List Byte) :
    readFields fields.length (rowBytes fields ++ rest) = .ok (fields, rest) := by
  induction fields with
  | nil => rfl
  | cons field fields ih =>
    rw [rowlen, map_cons, sum_cons] at fits
    rw [rowBytes, flatMap_cons, append_assoc, length_cons, readFields,
      readField_bytes (by omega)]
    simp only [ok_bind]
    rw [← rowBytes, ih (by rw [rowlen]; omega)]
    rfl

/-! ### Splitting a row -/

def maxPayload : Nat := 0xFFFFFF

/-- A payload cut into full ones and a shorter one, which may be empty. -/
def pieces (payload : List Byte) : List (List Byte) :=
  if maxPayload ≤ payload.length then payload.take maxPayload :: pieces (payload.drop maxPayload)
  else [payload]
termination_by payload.length
decreasing_by
  rw [length_drop, maxPayload] at *
  omega

theorem pieces_short {payload : List Byte} (short : payload.length < maxPayload) :
    pieces payload = [payload] := by
  rw [pieces, if_neg (by omega)]

theorem length_pieces (payload : List Byte) :
    (pieces payload).length = payload.length / maxPayload + 1 := by
  fun_induction pieces payload with
  | case1 payload long ih =>
    rw [length_cons, ih, length_drop, Nat.div_eq payload.length, if_pos ⟨by decide, long⟩]
  | case2 payload short => rw [Nat.div_eq_of_lt (by omega)]; rfl

theorem length_stream_pieces (id : Byte) (payload : List Byte) :
    (stream id (pieces payload)).length =
      payload.length + 4 * (payload.length / maxPayload + 1) := by
  fun_induction pieces payload generalizing id with
  | case1 payload long ih =>
    rw [stream_cons, length_append, length_packet, ih, length_take_of_le long,
      length_drop, Nat.div_eq payload.length, if_pos ⟨by decide, long⟩]
    omega
  | case2 payload short =>
    rw [stream_cons, stream_nil, append_nil, length_packet, Nat.div_eq_of_lt (by omega)]
    omega

/-- The loop that makes a block of each full payload, and of what is left. -/
def splitRow (pktSid : Byte) (rest : List Byte) : List (List Byte) × Byte :=
  if maxPayload ≤ rest.length then
    let (blocks, last) := splitRow (pktSid + 1) (rest.drop maxPayload)
    ((hdrBytes maxPayload pktSid ++ rest.take maxPayload) :: blocks, last)
  else ([hdrBytes rest.length pktSid ++ rest], pktSid)
termination_by rest.length
decreasing_by
  rw [length_drop, maxPayload] at *
  omega

theorem splitRow_eq (id : Byte) (rest : List Byte) : splitRow id rest =
      (packets id (pieces rest), id + UInt8.ofNat (rest.length / maxPayload)) := by
  fun_induction splitRow id rest with
  | case1 id rest long blocks last eq ih =>
    have next : id + 1 + UInt8.ofNat ((rest.length - maxPayload) / maxPayload) =
        id + UInt8.ofNat (rest.length / maxPayload) := by
      rw [Nat.div_eq rest.length, if_pos ⟨by decide, long⟩, UInt8.ofNat_add, UInt8.add_assoc,
        UInt8.add_comm 1]
      rfl
    rw [eq, length_drop, next, Prod.mk.injEq] at ih
    rw [pieces, if_pos long, packets, packet, length_take_of_le long, ih.1, ih.2]
  | case2 id rest short =>
    rw [pieces, if_neg short, packets, packet, packets, Nat.div_eq_of_lt (by omega)]
    simp

/-! ### The resultset -/

def RESULTSET_BUFLEN : Nat := 16300

/-- The output of a `MySQL_ResultSet`; `buffer` has the bytes that are used of its buffer. -/
structure Output where
  psArrayOUT : List (List Byte)
  buffer : List Byte

namespace Output

variable (out : Output)

/-- The blocks followed by the buffer. -/
def bytes : List Byte := out.psArrayOUT.flatten ++ out.buffer

def bufferToPSarrayOut : Output :=
  if out.buffer.length = 0 then out else ⟨out.psArrayOUT ++ [out.buffer], []⟩

def add (block : List Byte) : Output := ⟨out.psArrayOUT ++ [block], out.buffer⟩

/-- There is space in the buffer for a packet of that size. -/
def hasSpace (size : Nat) : Bool := size ≤ RESULTSET_BUFLEN - out.buffer.length

/-- A packet goes to the buffer, behind a flush if it is too full, or to a block of its own. -/
def place (pkt : List Byte) : Output :=
  if out.hasSpace pkt.length then ⟨out.psArrayOUT, out.buffer ++ pkt⟩
  else if out.bufferToPSarrayOut.hasSpace pkt.length then
    ⟨out.bufferToPSarrayOut.psArrayOUT, out.bufferToPSarrayOut.buffer ++ pkt⟩
  else out.bufferToPSarrayOut.add pkt

variable {out}

theorem buffer_bufferToPSarrayOut : out.bufferToPSarrayOut.buffer = [] := by
  unfold bufferToPSarrayOut
  split_ifs with empty
  · exact eq_nil_of_length_eq_zero empty
  · rfl

theorem bytes_bufferToPSarrayOut : out.bufferToPSarrayOut.bytes = out.bytes := by
  unfold bufferToPSarrayOut
  split_ifs <;> simp [bytes]

theorem bytes_add (empty : out.buffer = []) (block : List Byte) :
    (out.add block).bytes = out.bytes ++ block := by
  simp [bytes, add, empty]

theorem bytes_place (pkt : List Byte) : (out.place pkt).bytes = out.bytes ++ pkt := by
  unfold place
  split_ifs
  · exact (append_assoc ..).symm
  · rw [← @bytes_bufferToPSarrayOut out]
    exact (append_assoc ..).symm
  · rw [bytes_add buffer_bufferToPSarrayOut, bytes_bufferToPSarrayOut]

theorem bytes_foldl_add (empty : out.buffer = []) (blocks : List (List Byte)) :
    (blocks.foldl add out).bytes = out.bytes ++ blocks.flatten := by
  induction blocks generalizing out with
  | nil => simp
  | cons block blocks ih =>
    rw [foldl_cons, @ih (out.add block) empty, bytes_add empty, append_assoc,
      flatten_cons]

end Output

/-- `*len=pkt.size+(pkt_sid-sequence_id)*sizeof(mysql_hdr)`, in 32 bits. -/
def reportedLength (size : Nat) (pktSid sequenceId : Byte) : Nat :=
  ((size + ((pktSid.toNat : Int) - sequenceId.toNat) * hdrSize) % 2 ^ 32).toNat

theorem reportedLength_add {size n : Nat} (id : Byte) (few : n < 256) (fits : size + 4 * n < 2 ^ 32)
    (large : n ≠ 0 → 1024 ≤ size) :
    reportedLength size (id + UInt8.ofNat n) id + 1024 * (if 256 ≤ id.toNat + n then 1 else 0) =
      size + 4 * n := by
  have byte := id.toNat_lt
  have last : (id + UInt8.ofNat n).toNat = (id.toNat + n) % 256 := by
    rw [UInt8.toNat_add, UInt8.toNat_ofNat']
    omega
  have four : ((hdrSize : Nat) : Int) = 4 := rfl
  rw [reportedLength, last, four]
  split_ifs with wraps
  · have low : (id.toNat + n) % 256 = id.toNat + n - 256 := by omega
    rw [low]
    omega
  · omega

/-! ### Writing a row -/

/-- The second loop over the columns: each is written at `pkt.ptr+l`, behind the ones before it. An
`int l` that has overflowed is an offset before the block. -/
def writeFields (l : Int) : List Field → Except Fault (List Byte)
  | [] => .ok []
  | field :: fields =>
    if l < 0 then .error .blockOverflow
    else do
      let rest ← writeFields (int32 (l + field.size)) fields
      return field.bytes ++ rest

/-- The last column begins at an offset that an `int` holds. -/
def OffsetsFit (l : Nat) (fields : List Field) : Prop := l + rowlen fields.dropLast < 2 ^ 31

instance (l : Nat) (fields : List Field) : Decidable (OffsetsFit l fields) :=
  inferInstanceAs (Decidable (_ < _))

theorem rowlen_dropLast_le (fields : List Field) : rowlen fields.dropLast ≤ rowlen fields := by
  rcases eq_nil_or_concat' fields with rfl | ⟨front, last, rfl⟩
  · exact le_rfl
  · simp [rowlen]

theorem writeFields_negative {l : Int} (negative : l < 0) (field : Field) (fields : List Field) :
    writeFields l (field :: fields) = .error .blockOverflow := by
  rw [writeFields, if_pos negative]

theorem int32_negative {n : Nat} (low : 2 ^ 31 ≤ n) (high : n < 2 ^ 32) : int32 n < 0 := by
  rw [int32, Int.bmod_def]
  split <;> omega

theorem writeFields_step {l : Nat} (fits : l < 2 ^ 31) (field : Field) (fields : List Field) :
    writeFields l (field :: fields) =
      (writeFields (int32 (l + field.size : Nat)) fields).map (field.bytes ++ ·) := by
  rw [writeFields, if_neg (by omega), Nat.cast_add]
  exact (map_eq_pure_bind _ _).symm

/-- The columns are written one behind another, or one of them is written before the block. -/
theorem writeFields_eq {l : Nat} (start : l < 2 ^ 31)
    (small : rowlen fields < 2 ^ 31) : writeFields l fields =
      if OffsetsFit l fields then .ok (rowBytes fields) else .error .blockOverflow := by
  induction fields generalizing l with
  | nil => exact (if_pos start).symm
  | cons field fields ih =>
    rw [rowlen, map_cons, sum_cons, ← rowlen] at small
    rw [writeFields_step start, rowBytes, flatMap_cons, ← rowBytes]
    cases fields with
    | nil => exact (if_pos start).symm
    | cons next fields =>
      have shifted : OffsetsFit l (field :: next :: fields) ↔
          OffsetsFit (l + field.size) (next :: fields) := by
        have before : rowlen (field :: next :: fields).dropLast =
            field.size + rowlen (next :: fields).dropLast := rfl
        rw [OffsetsFit, OffsetsFit, before, Nat.add_assoc]
      by_cases here : l + field.size < 2 ^ 31
      · rw [int32_of_range (by omega) (by omega), ih here (by omega), if_congr shifted rfl rfl]
        split_ifs <;> rfl
      · have outside : ¬ OffsetsFit (l + field.size) (next :: fields) := fun fits =>
          here (Nat.lt_of_le_of_lt (Nat.le_add_right _ _) fits)
        rw [writeFields_negative (int32_negative (by omega) (by omega)),
          if_neg (fun fits => outside (shifted.mp fits))]
        rfl

/-- `generate_pkt_row3` for a row of the text protocol: the output, the id it returns, and `*len`,
which is 0 before. -/
def generatePktRow3 (mirror : Bool) (out : Output) (sequenceId : Byte) (fields : List Field) :
    Except Fault (Output × Byte × Nat) :=
  if mirror then .ok (out, 1, 0)
  else do
    let size := rowlen fields + hdrSize
    let row ← writeFields hdrSize fields
    if size < maxPayload + hdrSize then
      return (out.place (hdrBytes (rowlen fields) sequenceId ++ row), sequenceId,
        reportedLength size sequenceId sequenceId)
    else
      -- there is no space in a buffer for such a row
      let (blocks, pktSid) := splitRow sequenceId row
      return (blocks.foldl Output.add out.bufferToPSarrayOut, pktSid,
        reportedLength size pktSid sequenceId)

/-- What is written if no offset overflows -/
def writtenRow (out : Output) (id : Byte) (fields : List Field) : Output :=
  if rowlen fields < maxPayload then out.place (hdrBytes (rowlen fields) id ++ rowBytes fields)
  else (splitRow id (rowBytes fields)).1.foldl Output.add out.bufferToPSarrayOut

theorem bytes_writtenRow (out : Output) (id : Byte) (fields : List Field) :
    (writtenRow out id fields).bytes = out.bytes ++ stream id (pieces (rowBytes fields)) := by
  have length := length_rowBytes fields
  unfold writtenRow
  split_ifs with short
  · rw [pieces_short (length ▸ short), Output.bytes_place, stream_cons, packet, length, stream_nil,
      append_nil]
  · rw [splitRow_eq, Output.bytes_foldl_add Output.buffer_bufferToPSarrayOut,
      Output.bytes_bufferToPSarrayOut]
    rfl

theorem generatePktRow3_eq (out : Output) (id : Byte)
    (small : rowlen fields < 2 ^ 31) : generatePktRow3 false out id fields =
      if OffsetsFit hdrSize fields then
        .ok (writtenRow out id fields, id + UInt8.ofNat (rowlen fields / maxPayload),
          reportedLength (rowlen fields + hdrSize)
            (id + UInt8.ofNat (rowlen fields / maxPayload)) id)
      else .error .blockOverflow := by
  rw [generatePktRow3, if_neg Bool.false_ne_true, writeFields_eq (by decide) small]
  split_ifs with fits
  · simp only [ok_bind, writtenRow, Nat.add_lt_add_iff_right]
    split_ifs with short
    · rw [Nat.div_eq_of_lt short]
      simp
    · rw [splitRow_eq, length_rowBytes]
      rfl
  · rfl

/-- A row of less than 2 GB. -/
def TextRow : Type := { fields : List Field // rowlen fields < 2 ^ 31 }

/-- `MySQL_ResultSet`, as far as rows change it. -/
structure ResultSet where
  -- `(*myds)->sess->mirror`
  mirror : Bool
  out : Output
  sid : Byte
  resultsetSize : Nat
  numRows : Nat

namespace ResultSet

/-- `add_row` -/
def addRow (rs : ResultSet) (row : TextRow) : Except Fault ResultSet := do
  let (out, pktSid, pktLength) ← generatePktRow3 rs.mirror rs.out rs.sid row.val
  return { rs with
    out := out
    sid := pktSid + 1
    resultsetSize := rs.resultsetSize + pktLength
    numRows := rs.numRows + 1 }

/-- Nothing is written in a mirror session, and the offsets of the columns of the row fit
otherwise. -/
def RowFits (rs : ResultSet) (row : TextRow) : Prop :=
  rs.mirror = true ∨ OffsetsFit hdrSize row.val

variable {rs rs' : ResultSet} {row : TextRow} {rows : List TextRow}

/-- The id wraps around while a row is being split. -/
def wrapsIn (mirror : Bool) (sid : Byte) (row : TextRow) : Bool :=
  !mirror && 256 ≤ sid.toNat + rowlen row.val / maxPayload

def wraps (mirror : Bool) (sid : Byte) : List TextRow → Nat
  | [] => 0
  | row :: rows => (if wrapsIn mirror sid row then 1 else 0) +
      wraps mirror (sid + UInt8.ofNat (pieces (rowBytes row.val)).length) rows

theorem wraps_mirror (sid : Byte) (rows : List TextRow) : wraps true sid rows = 0 := by
  induction rows generalizing sid with
  | nil => rfl
  | cons row rows ih => simp [wraps, wrapsIn, ih]

/-- What a row adds: its packets, and their length up to 1024 bytes if the id wraps around -/
structure Added (rs rs' : ResultSet) (row : TextRow) : Prop where
  mirror : rs'.mirror = rs.mirror
  bytes : rs'.out.bytes = rs.out.bytes ++
    if rs.mirror then [] else stream rs.sid (pieces (rowBytes row.val))
  sid : rs.mirror = false → rs'.sid = rs.sid + UInt8.ofNat (pieces (rowBytes row.val)).length
  size : rs'.out.bytes.length + rs.resultsetSize = rs'.resultsetSize + rs.out.bytes.length +
    1024 * if wrapsIn rs.mirror rs.sid row then 1 else 0

theorem reportedLength_row (sid : Byte) (row : TextRow) :
    reportedLength (rowlen row.val + hdrSize)
      (sid + UInt8.ofNat (rowlen row.val / maxPayload)) sid +
        1024 * (if wrapsIn false sid row then 1 else 0) =
      (stream sid (pieces (rowBytes row.val))).length := by
  have small := row.property
  have few : rowlen row.val / maxPayload ≤ 128 := by
    rw [maxPayload]
    omega
  have large : rowlen row.val / maxPayload ≠ 0 → 1024 ≤ rowlen row.val + hdrSize := by
    rw [maxPayload]
    omega
  have reported := reportedLength_add sid (Nat.lt_of_le_of_lt few (by decide))
    (by rw [hdrSize]; omega) large
  simp only [wrapsIn, Bool.not_false, Bool.true_and, decide_eq_true_eq, length_stream_pieces,
    length_rowBytes]
  rw [hdrSize] at reported ⊢
  omega

/-- The resultset behind a row that was written -/
def behind (rs : ResultSet) (row : TextRow) : ResultSet :=
  let last := rs.sid + UInt8.ofNat (rowlen row.val / maxPayload)
  { rs with
    out := writtenRow rs.out rs.sid row.val
    sid := last + 1
    resultsetSize := rs.resultsetSize + reportedLength (rowlen row.val + hdrSize) last rs.sid
    numRows := rs.numRows + 1 }

theorem addRow_ok (fits : rs.RowFits row) : ∃ rs', rs.addRow row = .ok rs' ∧ Added rs rs' row := by
  cases mirror : rs.mirror with
  | true =>
    refine ⟨{ rs with sid := 2, numRows := rs.numRows + 1 }, ?_, ⟨rfl, ?_, ?_, ?_⟩⟩
    · simp only [addRow, generatePktRow3, mirror, if_pos, ok_bind]
      rfl
    · simp [mirror]
    · simp [mirror]
    · simp [mirror, wrapsIn, Nat.add_comm]
  | false =>
    have offsets : OffsetsFit hdrSize row.val := by simpa [RowFits, mirror] using fits
    have generated := generatePktRow3_eq rs.out rs.sid row.property
    rw [if_pos offsets, ← mirror] at generated
    refine ⟨rs.behind row, ?_, ⟨rfl, ?_, ?_, ?_⟩⟩
    · rw [addRow, generated]
      rfl
    · simp [behind, bytes_writtenRow, mirror]
    · intro _
      simp only [behind, length_pieces, length_rowBytes, UInt8.ofNat_add, UInt8.add_assoc]
      rfl
    · have reported := reportedLength_row rs.sid row
      simp only [behind, bytes_writtenRow, length_append, mirror]
      omega

theorem rowFits_of_addRow (added : rs.addRow row = .ok rs') : rs.RowFits row := by
  cases mirror : rs.mirror with
  | true => exact .inl mirror
  | false =>
    by_contra outside
    have offsets : ¬ OffsetsFit hdrSize row.val := fun fits => outside (.inr fits)
    rw [addRow, mirror, generatePktRow3_eq rs.out rs.sid row.property, if_neg offsets] at added
    cases added

/-- The rows leave, in order, each encoded row cut into full payloads and a shorter one, as packets
with consecutive ids. The size of the resultset is too small by 1024 for each row during which the
id wraps around. -/
theorem addRows_ok (fits : ∀ row ∈ rows, rs.RowFits row) : ∃ rs', rows.foldlM addRow rs = .ok rs' ∧
    (rs'.out.bytes = rs.out.bytes ++
      if rs.mirror then [] else stream rs.sid (rows.flatMap fun row => pieces (rowBytes row.val))) ∧
    rs'.out.bytes.length + rs.resultsetSize =
      rs'.resultsetSize + rs.out.bytes.length + 1024 * wraps rs.mirror rs.sid rows := by
  induction rows generalizing rs with
  | nil => exact ⟨rs, rfl, by simp, by simp [wraps, Nat.add_comm]⟩
  | cons row rows ih =>
    obtain ⟨here, others⟩ := forall_mem_cons.mp fits
    obtain ⟨middle, added, step⟩ := addRow_ok here
    have later : ∀ row ∈ rows, middle.RowFits row := by
      unfold RowFits
      rw [step.mirror]
      exact others
    obtain ⟨rs', ran, bytes, size⟩ := ih later
    refine ⟨rs', ?_, ?_, ?_⟩
    · rw [foldlM_cons, added]
      exact ran
    · rw [bytes, step.bytes, step.mirror, flatMap_cons, append_assoc]
      cases mirror : rs.mirror with
      | true => simp
      | false => simp [stream_append, step.sid mirror]
    · have first := step.size
      rw [step.mirror] at size
      cases mirror : rs.mirror with
      | true =>
        rw [mirror, wraps_mirror] at size
        rw [wraps_mirror]
        simp only [mirror, wrapsIn] at first
        simp at first
        omega
      | false =>
        rw [mirror, step.sid mirror] at size
        rw [mirror] at first
        rw [wraps]
        omega

theorem rowsFit_of_addRows (ran : rows.foldlM addRow rs = .ok rs') :
    ∀ row ∈ rows, rs.RowFits row := by
  induction rows generalizing rs with
  | nil => simp
  | cons row rows ih =>
    rw [foldlM_cons] at ran
    obtain ⟨middle, added, later⟩ := bind_eq_ok.mp ran
    have here := rowFits_of_addRow added
    obtain ⟨same, again, step⟩ := addRow_ok here
    obtain rfl : middle = same := Except.ok.inj (added.symm.trans again)
    refine forall_mem_cons.mpr ⟨here, fun other member => ?_⟩
    have fits := ih later other member
    rwa [RowFits, step.mirror] at fits

variable (rs : ResultSet) (rows : List TextRow)

/-- The bytes of the rows are written, in order, exactly if the offsets of the columns of every row
fit. -/
theorem bytes_addRows_iff :
    (∃ rs', rows.foldlM addRow rs = .ok rs' ∧ rs'.out.bytes = rs.out.bytes ++
      if rs.mirror then [] else stream rs.sid (rows.flatMap fun row => pieces (rowBytes row.val))) ↔
    ∀ row ∈ rows, rs.RowFits row := by
  constructor
  · rintro ⟨rs', ran, -⟩
    exact rowsFit_of_addRows ran
  · intro fits
    obtain ⟨rs', ran, bytes, -⟩ := addRows_ok fits
    exact ⟨rs', ran, bytes⟩

/-- The size of the resultset grows by the number of bytes that were written exactly if they are
written and the id wraps around during none of the rows. -/
theorem resultsetSize_exact_iff : (∃ rs', rows.foldlM addRow rs = .ok rs' ∧
      rs'.resultsetSize + rs.out.bytes.length = rs'.out.bytes.length + rs.resultsetSize) ↔
    (∀ row ∈ rows, rs.RowFits row) ∧ wraps rs.mirror rs.sid rows = 0 := by
  constructor
  · rintro ⟨rs', ran, exact⟩
    have fits := rowsFit_of_addRows ran
    obtain ⟨same, again, -, size⟩ := addRows_ok fits
    obtain rfl : rs' = same := Except.ok.inj (ran.symm.trans again)
    exact ⟨fits, by omega⟩
  · rintro ⟨fits, none⟩
    obtain ⟨rs', ran, -, size⟩ := addRows_ok fits
    exact ⟨rs', ran, by omega⟩

end ResultSet

def emptyResultSet (sid : Byte) : ResultSet := ⟨false, ⟨[], []⟩, sid, 0, 0⟩

/-- A row with a column of so many bytes and a null behind it -/
def wideRow (n : Nat) : List Field := [some (replicate n 0), none]

theorem rowlen_wideRow {n : Nat} (long : 16777216 ≤ n) : rowlen (wideRow n) = n + 10 := by
  have nine : (mysqlEncodeLength n).1 = 9 := by
    unfold mysqlEncodeLength
    rw [if_neg (by omega), if_neg (by omega), if_neg (by omega)]
  simp [rowlen, wideRow, Field.size, nine]

theorem rowlen_wideRow_dropLast (n : Nat) : rowlen (wideRow n) = rowlen (wideRow n).dropLast + 1 :=
    rfl

theorem wideRow_small : rowlen (wideRow (2 ^ 31 - 13)) < 2 ^ 31 := by
  rw [rowlen_wideRow (by decide)]
  decide

/-- The null of a row of 2^31-3 bytes is written before the block. -/
theorem wide_row_outside :
    (emptyResultSet 1).addRow ⟨wideRow (2 ^ 31 - 13), wideRow_small⟩ = .error .blockOverflow := by
  have outside : ¬ OffsetsFit hdrSize (wideRow (2 ^ 31 - 13)) := by
    have length := rowlen_wideRow (n := 2 ^ 31 - 13) (by decide)
    have split := rowlen_wideRow_dropLast (2 ^ 31 - 13)
    have header : hdrSize = 4 := rfl
    unfold OffsetsFit
    omega
  unfold ResultSet.addRow
  simp only [emptyResultSet, generatePktRow3_eq _ _ wideRow_small, if_neg outside]
  rfl

theorem exists_wide : ∃ row : TextRow, rowlen row.val = maxPayload + 4 ∧
    OffsetsFit hdrSize row.val := by
  have length : rowlen [some (replicate maxPayload 0)] = maxPayload + 4 := by
    rw [rowlen, map_singleton, Field.size, length_replicate]
    rfl
  exact ⟨⟨_, by rw [length]; decide⟩, length, show hdrSize + rowlen [] < 2 ^ 31 by decide⟩

/-- A row that is split, in a resultset with the last id. -/
theorem wide_row_too_short :
    ∃ (rs rs' : ResultSet) (row : TextRow), rs.resultsetSize = rs.out.bytes.length ∧
      rs.addRow row = .ok rs' ∧ rs'.resultsetSize + 1024 = rs'.out.bytes.length := by
  obtain ⟨row, length, offsets⟩ := exists_wide
  have fits : (emptyResultSet 255).RowFits row := .inr offsets
  obtain ⟨rs', added, step⟩ := ResultSet.addRow_ok fits
  have wraps : ResultSet.wrapsIn false 255 row = true := by
    simp only [ResultSet.wrapsIn, length]
    decide
  have size := step.size
  rw [emptyResultSet, if_pos wraps] at size
  exact ⟨emptyResultSet 255, rs', row, rfl, added, size.symm⟩

/-- What is written for a row that fits into a packet reads back as the row, up to the end of the
packet. A length reads back whatever stands behind it, but for one of three bytes, which is read
with a load of four, something has to stand there. -/
theorem row_round_trip (mirror : Bool) (out : Output) (id : Byte) (fields : List Field)
    (short : (rowBytes fields).length < maxPayload) :
    generatePktRow id fields = .ok (.exact (packet id (rowBytes fields))) ∧
      (generatePktRow3 mirror out id fields).map (fun written => written.1.bytes) =
        .ok (out.bytes ++ if mirror then [] else packet id (rowBytes fields)) ∧
      readFields fields.length (rowBytes fields) = .ok (fields, []) ∧ ∀ n < 2 ^ 64, ∀ rest,
        (65536 ≤ n → n < 16777216 → rest ≠ []) →
          decodeLength (encoded n ++ rest) = .ok ((encoded n).length, n) := by
  have length := length_rowBytes fields
  refine ⟨?_, ?_, ?_, fun n small rest more => ?_⟩
  · have declared : pktLength (hdrBytes (rowlen fields) id) = rowlen fields := by
      have small : rowlen fields < 2 ^ 24 := length ▸ Nat.lt_succ_of_lt short
      simpa using pktLength_hdrBytes small id []
    have size : pktLength (hdrBytes (rowlen fields) id) + hdrSize =
        (packet id (rowBytes fields)).length := by
      rw [declared, length_packet, length, Nat.add_comm]
      rfl
    have written : hdrBytes (rowlen fields) id ++ rowBytes fields =
        packet id (rowBytes fields) := by
      rw [packet, length]
    rw [generatePktRow, written]
    exact QueryCache.fill_exact size.symm
  · cases mirror with
    | true => simp [generatePktRow3, Except.map]
    | false =>
      have small : rowlen fields < maxPayload := length ▸ short
      have before := rowlen_dropLast_le fields
      have offsets : OffsetsFit hdrSize fields := by
        unfold OffsetsFit
        rw [maxPayload] at small
        rw [hdrSize]
        omega
      rw [generatePktRow3_eq out id (Nat.lt_trans small (by decide)), if_pos offsets]
      simp [Except.map, bytes_writtenRow, pieces_short short]
  · have small : rowlen fields < 2 ^ 64 := by
      rw [← length]
      exact Nat.lt_trans short (by decide)
    simpa using readFields_rowBytes small []
  · exact (lengthField_encoded small more).decodeLength

theorem row_round_trip_two :
    readFields 2 (rowBytes [some [104, 105], none]) = .ok ([some [104, 105], none], []) :=
  (row_round_trip false ⟨[], []⟩ 1 [some [104, 105], none] (by decide)).2.2.1

end MockProxy.Protocol
