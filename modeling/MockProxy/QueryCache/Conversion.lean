import MockProxy.Protocol.LengthEncoded
import MockProxy.QueryCache.Resultset

/-!
# Converting a resultset back and forth

The two forms of a resultset, as streams of packets, and what the conversions of the query cache
make of them. The warnings and the status of the final packet are kept; the number of affected rows
and the last insert id of an OK packet are not, since an EOF packet has no place for them.

## Main results

* `convert_okForm`, `convert_eofForm`: each conversion gives the other form of the same resultset.
* `conversions_round_trip`: so there and back is the identity, if the OK packet has no affected rows
  and no insert id.
-/

namespace MockProxy.QueryCache

open DataStream Session Machine LittleEndian List QcEntry

/-! ### Text resultsets -/

/-- A column of a row, `none` for NULL. -/
def encodeField : Option (List Byte) → List Byte
  | none => [0xfb]
  | some text => Protocol.encodedString text

def encodeRow (row : List (Option (List Byte))) : List Byte := row.flatMap encodeField

/-- A text resultset, up to its final packet. -/
structure Resultset where
  firstId : Byte
  -- the payloads of the column definitions
  columns : List (List Byte)
  rows : List (List (Option (List Byte)))
  columns_ne : columns ≠ []
  width : ∀ row ∈ rows, row.length = columns.length
  columns_short : ∀ c ∈ columns, c.length < 2 ^ 24 - 1
  rows_short : ∀ row ∈ rows, (encodeRow row).length < 2 ^ 24 - 1

/-- The warnings and the status of a final packet. -/
structure Flags where
  warnings : Byte × Byte
  statusFlags : Byte × Byte
  deriving DecidableEq

def pair (bytes : Byte × Byte) : List Byte := [bytes.1, bytes.2]

variable (f : Flags)

def Flags.eof : List Byte := eofPayload (pair f.warnings) (pair f.statusFlags)

def Flags.ok (affectedRows lastInsertId : Byte) : List Byte :=
  [0xfe, affectedRows, lastInsertId] ++ pair f.statusFlags ++ pair f.warnings

namespace Resultset

variable (r : Resultset)

def head : List (List Byte) := Protocol.encoded r.columns.length :: r.columns

def body : List (List Byte) := r.rows.map encodeRow

def okForm (affectedRows lastInsertId : Byte) (f : Flags) : List Byte :=
  stream r.firstId (r.head ++ (r.body ++ [f.ok affectedRows lastInsertId]))

def eofForm (columnFlags f : Flags) : List Byte :=
  stream r.firstId (r.head ++ (columnFlags.eof :: (r.body ++ [f.eof])))

end Resultset

def convert (value : List Byte) (deprecateEof : Bool) : Except Fault (Block × Nat) := do
  let offsets ← locate value deprecateEof
  (holding value offsets 0 0 0 0).answer !deprecateEof

/-! ### Payloads -/

/-- A payload that is not taken for the final packet. -/
structure Plain (p : List Byte) : Prop where
  short : Short p
  first : ∃ b, p.head? = some b ∧ b ≠ 0xfe

/-- A payload that is. -/
structure Final (p : List Byte) : Prop where
  small : p.length < 9
  first : p.head? = some 0xfe

variable {p q : List Byte} {ps : List (List Byte)} {fuel : Nat}

theorem Final.short (final : Final p) : Short p :=
  Nat.lt_trans final.small (by decide)

/-- The first column of a row below 16 MB does not start with the byte of an EOF packet. -/
theorem plain_encodeRow {row : List (Option (List Byte))} (nonempty : row ≠ [])
    (short : (encodeRow row).length < 2 ^ 24 - 1) : Plain (encodeRow row) := by
  obtain ⟨field, fields, rfl⟩ := exists_cons_of_ne_nil nonempty
  refine ⟨by unfold Short; omega, ?_⟩
  cases field with
  | none => exact ⟨0xfb, rfl, by decide⟩
  | some text =>
    obtain ⟨first, isFirst, -, -, notEof⟩ := Protocol.head?_encoded text.length
    have bound : text.length < 2 ^ 24 := by
      simp [encodeRow, encodeField, Protocol.encodedString] at short
      omega
    refine ⟨first, ?_, notEof bound⟩
    simp [encodeRow, encodeField, Protocol.encodedString, head?_append, isFirst]

theorem Resultset.plain_body (r : Resultset) : ∀ p ∈ r.body, Plain p := by
  intro p member
  obtain ⟨row, inRows, rfl⟩ := mem_map.mp member
  apply plain_encodeRow
  · intro empty
    have width := r.width row inRows
    rw [empty] at width
    exact r.columns_ne (length_eq_zero_iff.mp width.symm)
  · exact r.rows_short row inRows

theorem Flags.final_ok (a l : Byte) : Final (f.ok a l) :=
  ⟨Nat.lt_of_sub_eq_succ rfl, rfl⟩

theorem Flags.final_eof : Final f.eof :=
  ⟨Nat.lt_of_sub_eq_succ rfl, rfl⟩

/-! ### Reading packets off a stream -/

section Reading

variable (id : Byte) {p : List Byte} (rest : List Byte)

theorem readHdr_packet (short : Short p) : readHdr (packet id p ++ rest) = .ok ⟨p.length, id⟩ := by
  have read : readAt (packet id p ++ rest) 0 hdrSize = .ok (hdrBytes p.length id) := by
    exact readAt_append (length_hdrBytes ..)
  have length := pktLength_hdrBytes short id []
  have number := pktId_hdrBytes p.length id []
  rw [append_nil] at length number
  simp [readHdr, read, length, number]

theorem skip_packet (p : List Byte) : Hdr.skip ⟨p.length, id⟩ (packet id p ++ rest) = rest := by
  exact drop_left' (by simp [hdrSize])

theorem readAt_append_add (front : List Byte) (k n : Nat) :
    readAt (front ++ rest) (front.length + k) n = readAt rest k n := by
  have bound : front.length + k + n ≤ (front ++ rest).length ↔ k + n ≤ rest.length := by
    rw [length_append]
    omega
  simp only [readAt, bound, drop_append, drop_of_length_le (Nat.le_add_right _ k),
    Nat.add_sub_cancel_left, nil_append]

theorem readAt_payload (p : List Byte) : readAt (packet id p ++ rest) hdrSize p.length = .ok p := by
  have header : hdrSize = (hdrBytes p.length id).length + 0 := by simp [hdrSize]
  rw [packet, append_assoc, header, readAt_append_add]
  exact readAt_append rfl

theorem isLast_packet {b : Byte} (first : p.head? = some b) (small : b = 0xfe → p.length < 9) :
    Hdr.isLast ⟨p.length, id⟩ (packet id p ++ rest) = .ok (b == 0xfe) := by
  obtain ⟨tail, rfl⟩ : ∃ tail, p = b :: tail := head?_eq_some_iff.mp first
  have read : readAt (packet id (b :: tail) ++ rest) hdrSize 1 = .ok [b] := by
    have value : ([b] : List Byte).length = 1 := rfl
    exact readAt_append value
  unfold Hdr.isLast
  split
  · simp [read]
  next long =>
    have other : (b == 0xfe) = false := by
      simpa using fun same => long (small same)
    rw [other]
    rfl

end Reading

theorem Plain.isLast (plain : Plain p) (id : Byte) (rest : List Byte) :
    Hdr.isLast ⟨p.length, id⟩ (packet id p ++ rest) = .ok false := by
  obtain ⟨b, first, other⟩ := plain.first
  rw [isLast_packet id rest first fun same => absurd same other]
  simp [other]

theorem Final.isLast (final : Final p) (id : Byte) (rest : List Byte) :
    Hdr.isLast ⟨p.length, id⟩ (packet id p ++ rest) = .ok true := by
  rw [isLast_packet id rest final.first fun _ => final.small]
  rfl

/-! ### The loops -/

/-- Skipping at least one packet leaves the header of the last one, whose id is one less than the
next. -/
theorem skipPkts_stream (short : ∀ p ∈ ps, Short p) (nonempty : ps ≠ []) (id : Byte)
    (last : Option Hdr) (rest : List Byte) :
    ∃ hdr : Hdr, skipPkts ps.length last (stream id ps ++ rest) = .ok (some hdr, rest) ∧
      hdr.pktId + 1 = id + UInt8.ofNat ps.length := by
  induction ps generalizing id last with
  | nil => exact absurd rfl nonempty
  | cons p ps ih =>
    rw [forall_mem_cons] at short
    have step : skipPkts (p :: ps).length last (stream id (p :: ps) ++ rest) =
        skipPkts ps.length (some ⟨p.length, id⟩) (stream (id + 1) ps ++ rest) := by
      rw [stream_cons, append_assoc, length_cons, skipPkts, readHdr_packet _ _ short.1]
      simp [skip_packet]
    rw [step]
    cases ps with
    | nil => exact ⟨_, rfl, rfl⟩
    | cons q ps =>
      obtain ⟨hdr, skipped, number⟩ := ih short.2 (cons_ne_nil q ps) (id + 1) (some ⟨p.length, id⟩)
      refine ⟨hdr, skipped, number.trans ?_⟩
      rw [length_cons (a := p), UInt8.ofNat_add, UInt8.add_comm (UInt8.ofNat _), ← UInt8.add_assoc]
      rfl

theorem exists_fuel {n fuel : Nat} (enough : n < fuel) : ∃ k, fuel = k + n + 1 :=
  ⟨fuel - (n + 1), by omega⟩

theorem findLast_stream (plain : ∀ p ∈ ps, Plain p) (final : Final q) (id id' : Byte)
    (rest : List Byte) (enough : ps.length < fuel) :
    findLast fuel (stream id ps ++ (packet id' q ++ rest)) = .ok (packet id' q ++ rest) := by
  obtain ⟨k, rfl⟩ := exists_fuel enough
  induction ps generalizing id with
  | nil =>
    rw [stream_nil, nil_append, findLast, readHdr_packet _ _ final.short]
    simp [final.isLast]
  | cons p ps ih =>
    rw [forall_mem_cons] at plain
    rw [stream_cons, append_assoc, findLast, readHdr_packet _ _ plain.1.short]
    simp only [plain.1.isLast, skip_packet, ok_bind]
    exact ih plain.2 (id + 1) (by omega)

theorem incrementIds_stream (plain : ∀ p ∈ ps, Plain p) (final : Final q) (f : Flags)
    (id id' : Byte) (enough : ps.length < fuel) :
    incrementIds (pair f.warnings) (pair f.statusFlags) fuel (stream id ps ++ packet id' q) =
      .ok (stream (id + 1) ps ++ packet (id' + 1) f.eof) := by
  obtain ⟨k, rfl⟩ := exists_fuel enough
  induction ps generalizing id with
  | nil =>
    have hdr := readHdr_packet id' [] final.short
    have last := final.isLast id' []
    rw [append_nil] at hdr last
    rw [stream_nil, nil_append, incrementIds, hdr]
    simp only [last, ok_bind]
    rfl
  | cons p ps ih =>
    rw [forall_mem_cons] at plain
    rw [stream_cons, append_assoc, incrementIds, readHdr_packet _ _ plain.1.short]
    simp only [plain.1.isLast, skip_packet, Bool.false_eq_true, if_false, readAt_payload,
      length_cons, ← Nat.add_assoc, ih plain.2 (id + 1) (by omega), ok_bind]
    simp [packet]

theorem decrementIds_stream (short : ∀ p ∈ ps, Short p) (shortLast : Short q) (three : 3 ≤ q.length)
    (id id' : Byte) (enough : ps.length < fuel) : decrementIds fuel (stream id ps ++ packet id' q) =
      .ok (stream (id - 1) ps ++ packet (id' - 1) q) := by
  have body (id : Byte) (p rest : List Byte) :
      ((packet id p ++ rest).drop hdrSize).take p.length = p := by
    exact take_left' rfl
  obtain ⟨k, rfl⟩ := exists_fuel enough
  induction ps generalizing id with
  | nil =>
    have hdr := readHdr_packet id' [] shortLast
    have payload := body id' q []
    have skipped := skip_packet id' [] q
    rw [append_nil] at hdr payload skipped
    have atEnd : (packet id' q).length ≤ hdrSize + q.length + 2 := by
      rw [length_packet, hdrSize]
      omega
    rw [stream_nil, nil_append, decrementIds, hdr]
    simp only [payload, skipped, if_pos atEnd, append_nil, ok_bind]
    rfl
  | cons p ps ih =>
    rw [forall_mem_cons] at short
    have more : ¬ (packet id p ++ (stream (id + 1) ps ++ packet id' q)).length ≤
        hdrSize + p.length + 2 := by
      simp only [length_append, length_packet, hdrSize]
      omega
    have number : id + 1 - 1 = id - 1 + 1 := by
      rw [UInt8.add_sub_cancel, UInt8.sub_add_cancel]
    rw [stream_cons, append_assoc, decrementIds, readHdr_packet _ _ short.1]
    simp only [body, skip_packet, if_neg more, length_cons (a := p), ← Nat.add_assoc,
      ih short.2 (id + 1) (by omega), ok_bind]
    simp [packet]

/-! ### The two forms -/

namespace Resultset

variable (r : Resultset)

def front : List Byte := stream r.firstId r.head

def nextId : Byte := r.firstId + UInt8.ofNat r.head.length

/-- The rows, numbered from `id` on, with a final packet. -/
def tail (id : Byte) (final : List Byte) : List Byte :=
  stream id r.body ++ packet (id + UInt8.ofNat r.body.length) final

variable (id : Byte) (final : List Byte)

theorem stream_tail : stream id (r.body ++ [final]) = r.tail id final := by
  rw [stream_append, stream_cons, stream_nil, append_nil, tail]

theorem okForm_eq (a l : Byte) (f : Flags) :
    r.okForm a l f = r.front ++ r.tail r.nextId (f.ok a l) := by
  rw [okForm, stream_append, stream_tail]
  rfl

variable (c f : Flags)

theorem eofForm_eq :
    r.eofForm c f = r.front ++ (packet r.nextId c.eof ++ r.tail (r.nextId + 1) f.eof) := by
  rw [eofForm, stream_append, stream_cons, stream_tail]
  rfl

theorem length_tail : (r.tail id final).length = (stream 0 r.body).length + 4 + final.length := by
  rw [tail, length_append, length_stream id, length_stream 0, length_packet]
  omega

theorem length_eofForm (a l : Byte) : (r.eofForm c f).length = (r.okForm a l f).length + 7 := by
  rw [eofForm_eq, okForm_eq]
  simp only [length_append, length_tail]
  simp [Flags.eof, Flags.ok, eofPayload, pair]
  omega

theorem short_head : ∀ p ∈ r.head, Short p := by
  rw [head, forall_mem_cons]
  constructor
  · unfold Short
    rw [Protocol.length_encoded, Protocol.mysqlEncodeLength]
    split_ifs <;> simp
  · intro c member
    exact Nat.lt_of_lt_of_le (r.columns_short c member) (by omega)

theorem skipColumns_front (few : r.columns.length < 2 ^ 64) (rest : List Byte) :
    ∃ hdr : Hdr, skipColumns (r.front ++ rest) = .ok (some hdr, rest) ∧
      hdr.pktId + 1 = r.nextId := by
  have short := r.short_head
  rw [head, forall_mem_cons] at short
  obtain ⟨hdr, skipped, number⟩ :=
    skipPkts_stream short.2 r.columns_ne (r.firstId + 1) none rest
  have behind : stream (r.firstId + 1) r.columns ++ rest ≠ [] := by
    obtain ⟨c, cs, isCons⟩ := exists_cons_of_ne_nil r.columns_ne
    rw [isCons, stream_cons, packet, hdrBytes]
    simp [toBytes]
  have count : decodeCount ((r.front ++ rest).drop hdrSize) =
      .ok ((Protocol.encoded r.columns.length).length, r.columns.length) := by
    obtain ⟨first, isFirst, -, valid, -⟩ := Protocol.head?_encoded r.columns.length
    have dropped : (r.front ++ rest).drop hdrSize =
        Protocol.encoded r.columns.length ++ (stream (r.firstId + 1) r.columns ++ rest) := by
      rw [front, head, stream_cons, packet, append_assoc, append_assoc]
      exact drop_left' (by simp [hdrSize])
    rw [decodeCount, dropped, head?_append, isFirst, if_neg (by simpa using valid)]
    exact (Protocol.lengthField_encoded few fun _ _ => behind).decodeLength
  have columns : (r.front ++ rest).drop (hdrSize + (Protocol.encoded r.columns.length).length) =
      stream (r.firstId + 1) r.columns ++ rest := by
    rw [front, head, stream_cons, append_assoc]
    exact drop_left' (by simp [hdrSize])
  refine ⟨hdr, ?_, number.trans ?_⟩
  · rw [skipColumns, count]
    exact congrArg (skipPkts _ none) columns |>.trans skipped
  · rw [nextId, head, length_cons, UInt8.ofNat_add, UInt8.add_comm (UInt8.ofNat _),
      ← UInt8.add_assoc]
    rfl

theorem findLast_tail {final : List Byte} (isFinal : Final final) {fuel : Nat}
    (enough : r.body.length < fuel) :
    findLast fuel (r.tail id final) = .ok (packet (id + UInt8.ofNat r.body.length) final) := by
  have found := findLast_stream r.plain_body isFinal id (id + UInt8.ofNat r.body.length) [] enough
  rwa [append_nil] at found

theorem body_le_tail : r.body.length ≤ (r.tail id final).length := by
  rw [tail, length_append]
  exact Nat.le_trans (length_le_stream id r.body) (Nat.le_add_right _ _)

theorem body_lt_okForm (a l : Byte) (f : Flags) : r.body.length < (r.okForm a l f).length + 1 := by
  have := r.body_le_tail r.nextId (f.ok a l)
  rw [okForm_eq, length_append]
  omega

theorem front_pos : 0 < r.front.length := by
  rw [front, head, stream_cons, length_append, length_packet]
  omega

theorem columns_lt {value rest : List Byte} (isValue : value = r.front ++ rest)
    (fits : value.length < 2 ^ 32) : r.columns.length < 2 ^ 64 := by
  have bound := length_le_stream r.firstId r.head
  rw [head, length_cons, ← head, ← front] at bound
  rw [isValue, length_append] at fits
  omega

/-! ### Converting -/

theorem locate_okForm {a l : Byte} {f : Flags} (few : r.columns.length < 2 ^ 64) :
    locate (r.okForm a l f) true =
      .ok ⟨0, 0, r.front.length + (stream r.nextId r.body).length⟩ := by
  obtain ⟨hdr, skipped, -⟩ := r.skipColumns_front few (r.tail r.nextId (f.ok a l))
  have found := r.findLast_tail r.nextId (f.final_ok a l) (r.body_lt_okForm a l f)
  have offset : (r.okForm a l f).length -
      (packet (r.nextId + UInt8.ofNat r.body.length) (f.ok a l)).length =
      r.front.length + (stream r.nextId r.body).length := by
    rw [okForm_eq, tail, length_append, length_append]
    omega
  rw [← okForm_eq] at skipped
  simp only [locate, skipped, if_true, found, offset, ok_bind, pure_eq_ok]

theorem readAt_ok (before : List Byte) (id a l : Byte) (f : Flags) :
    let value := before ++ packet id (f.ok a l)
    readAt value before.length hdrSize = .ok (hdrBytes 7 id) ∧
      readAt value (before.length + hdrSize + 3) 2 = .ok (pair f.statusFlags) ∧
      readAt value (before.length + hdrSize + 5) 2 = .ok (pair f.warnings) := by
  refine ⟨?_, ?_, ?_⟩
  · exact readAt_append_add _ before 0 hdrSize
  · rw [Nat.add_assoc, readAt_append_add]
    rfl
  · rw [Nat.add_assoc, readAt_append_add]
    rfl

theorem tail_succ :
    r.tail (id + 1) final = stream (id + 1) r.body ++
      packet (id + UInt8.ofNat r.body.length + 1) final := by
  rw [tail, UInt8.add_assoc, UInt8.add_comm 1, ← UInt8.add_assoc]

theorem convert_okForm (a l : Byte) (f : Flags) (fits : (r.okForm a l f).length + 7 < 2 ^ 32) :
    convert (r.okForm a l f) true = .ok (.exact (r.eofForm f f), (r.eofForm f f).length) := by
  have few := r.columns_lt (r.okForm_eq a l f) (by omega)
  have located := r.locate_okForm (a := a) (l := l) (f := f) few
  obtain ⟨hdr, skipped, number⟩ := r.skipColumns_front few (r.tail r.nextId (f.ok a l))
  have form : r.okForm a l f = (r.front ++ stream r.nextId r.body) ++
      packet (r.nextId + UInt8.ofNat r.body.length) (f.ok a l) := by
    rw [okForm_eq, tail, append_assoc]
  have reads := readAt_ok (r.front ++ stream r.nextId r.body)
    (r.nextId + UInt8.ofNat r.body.length) a l f
  simp only [← form, length_append] at reads
  rw [← okForm_eq] at skipped
  have rows := incrementIds_stream r.plain_body (f.final_ok a l) f r.nextId
    (r.nextId + UInt8.ofNat r.body.length) (r.body_lt_okForm a l f)
  rw [← tail_succ, ← tail] at rows
  have columns : (r.okForm a l f).take
    ((r.okForm a l f).length - (r.tail r.nextId (f.ok a l)).length) =
      r.front := by
    rw [okForm_eq, length_append, Nat.add_sub_cancel]
    exact take_left' rfl
  have size : (r.okForm a l f).length + 7 = (r.eofForm f f).length :=
    (r.length_eofForm f f a l).symm
  have result : okToEofPacket (.holding (r.okForm a l f)
      ⟨0, 0, r.front.length + (stream r.nextId r.body).length⟩ 0 0 0 0) =
      .ok (.exact (r.eofForm f f)) := by
    simp only [okToEofPacket, holding, reads.1, reads.2.1, reads.2.2, skipped, rows,
      columns, eofLength, Nat.mod_eq_of_lt fits, number, ok_bind]
    have written : r.front ++ hdrBytes 5 r.nextId ++
      eofPayload (pair f.warnings) (pair f.statusFlags) ++
        r.tail (r.nextId + 1) f.eof = r.eofForm f f := by
      rw [eofForm_eq, append_assoc, append_assoc]
      rfl
    rw [written]
    exact fill_exact size.symm
  have positive : r.front.length + (stream r.nextId r.body).length ≠ 0 := by
    have := r.front_pos
    omega
  simp only [convert, located, answer, ok_bind]
  rw [if_neg (by simp), if_pos (by simpa [holding] using positive), result, ← size]
  simp only [eofLength, holding, Nat.mod_eq_of_lt fits]
  rfl

theorem locate_eofForm {c f : Flags} (few : r.columns.length < 2 ^ 64) :
    locate (r.eofForm c f) false = .ok ⟨r.front.length,
      r.front.length + (packet r.nextId c.eof).length +
      (stream (r.nextId + 1) r.body).length, 0⟩ := by
  obtain ⟨hdr, skipped, -⟩ :=
    r.skipColumns_front few (packet r.nextId c.eof ++ r.tail (r.nextId + 1) f.eof)
  rw [← eofForm_eq] at skipped
  have length := congrArg length (r.eofForm_eq c f)
  simp only [length_append] at length
  have enough : r.body.length < (r.eofForm c f).length + 1 := by
    have := r.body_le_tail (r.nextId + 1) f.eof
    omega
  have found := r.findLast_tail (r.nextId + 1) f.final_eof enough
  have columnOffset : (r.eofForm c f).length -
      (packet r.nextId c.eof ++ r.tail (r.nextId + 1) f.eof).length = r.front.length := by
    rw [length_append]
    omega
  have rowOffset : (r.eofForm c f).length -
      (packet (r.nextId + 1 + UInt8.ofNat r.body.length) f.eof).length =
      r.front.length + (packet r.nextId c.eof).length + (stream (r.nextId + 1) r.body).length := by
    rw [tail, length_append] at length
    omega
  simp only [locate, skipped, Bool.false_eq_true, if_false, readHdr_packet _ _ c.final_eof.short,
    skip_packet, found, columnOffset, rowOffset, ok_bind, pure_eq_ok]

theorem readAt_eof (before : List Byte) (id : Byte) (f : Flags) :
    let value := before ++ packet id f.eof
    readAt value (before.length + hdrSize + 1) 2 = .ok (pair f.warnings) ∧
      readAt value (before.length + hdrSize + 3) 2 = .ok (pair f.statusFlags) := by
  constructor
  · rw [Nat.add_assoc, readAt_append_add]
    rfl
  · rw [Nat.add_assoc, readAt_append_add]
    rfl

theorem decrementIds_tail (f : Flags) {fuel : Nat} (enough : r.body.length < fuel) :
    decrementIds fuel (r.tail (id + 1) (f.ok 0 0)) = .ok (r.tail id (f.ok 0 0)) := by
  have short : ∀ p ∈ r.body, Short p := fun p member => (r.plain_body p member).short
  have three : 3 ≤ (f.ok 0 0).length := by simp [Flags.ok, pair]
  have renumbered := decrementIds_stream short (f.final_ok 0 0).short three (id + 1)
    (id + UInt8.ofNat r.body.length + 1) enough
  rwa [UInt8.add_sub_cancel, UInt8.add_sub_cancel, ← tail_succ] at renumbered

theorem eofToOkPacket_eofForm (fits : (r.eofForm c f).length < 2 ^ 32) :
    eofToOkPacket (.holding (r.eofForm c f) ⟨r.front.length,
      r.front.length + (packet r.nextId c.eof).length + (stream (r.nextId + 1) r.body).length, 0⟩
      0 0 0 0) = .ok (.exact (r.okForm 0 0 f)) := by
  have form : r.eofForm c f = (r.front ++ packet r.nextId c.eof ++ stream (r.nextId + 1) r.body) ++
      packet (r.nextId + 1 + UInt8.ofNat r.body.length) f.eof := by
    simp [eofForm_eq, tail]
  have flags := readAt_eof (r.front ++ packet r.nextId c.eof ++ stream (r.nextId + 1) r.body)
    (r.nextId + 1 + UInt8.ofNat r.body.length) f
  simp only [← form, length_append] at flags
  have columns : readAt (r.eofForm c f) 0 r.front.length = .ok r.front := by
    rw [eofForm_eq]
    exact readAt_append rfl
  have dropped : (r.eofForm c f).drop r.front.length =
      packet r.nextId c.eof ++ r.tail (r.nextId + 1) f.eof := by
    rw [eofForm_eq]
    exact drop_left' rfl
  have rowsLength : addressDiff (r.front.length + (packet r.nextId c.eof).length +
      (stream (r.nextId + 1) r.body).length) (r.front.length + hdrSize + c.eof.length) =
      (stream (r.nextId + 1) r.body).length := by
    have length := congrArg length form
    simp only [length_append] at length
    exact addressDiff_add (by omega) _
  have readRows : readAt (r.tail (r.nextId + 1) f.eof) 0 (stream (r.nextId + 1) r.body).length =
      .ok (stream (r.nextId + 1) r.body) := readAt_append rfl
  have behind : (r.tail (r.nextId + 1) f.eof).drop (stream (r.nextId + 1) r.body).length =
      packet (r.nextId + 1 + UInt8.ofNat r.body.length) f.eof := drop_left' rfl
  have eofHdr := readHdr_packet (r.nextId + 1 + UInt8.ofNat r.body.length) [] f.final_eof.short
  have written : stream (r.nextId + 1) r.body ++
      hdrBytes 7 (r.nextId + 1 + UInt8.ofNat r.body.length) ++ [0xfe, 0, 0] ++ pair f.statusFlags ++
      pair f.warnings = r.tail (r.nextId + 1) (f.ok 0 0) := by
    simp only [append_assoc]
    rfl
  have enough : r.body.length < (r.tail (r.nextId + 1) (f.ok 0 0)).length + 1 :=
    Nat.lt_succ_of_le (r.body_le_tail _ _)
  have size : (r.okForm 0 0 f).length = minusSeven (r.eofForm c f).length := by
    rw [r.length_eofForm c f 0 0] at fits ⊢
    exact (minusSeven_add fits).symm
  have columnHdr : readHdr ((r.eofForm c f).drop r.front.length) =
      .ok ⟨c.eof.length, r.nextId⟩ := by
    rw [dropped]
    exact readHdr_packet _ _ c.final_eof.short
  have skipped : Hdr.skip ⟨c.eof.length, r.nextId⟩ ((r.eofForm c f).drop r.front.length) =
      r.tail (r.nextId + 1) f.eof := by
    rw [dropped]
    exact skip_packet ..
  refine bind_eq_ok.mpr ⟨_, columns, bind_eq_ok.mpr ⟨_, columnHdr, ?_⟩⟩
  simp only [holding, rowsLength, skipped, behind]
  refine bind_eq_ok.mpr ⟨_, readRows, bind_eq_ok.mpr ⟨_, eofHdr, ?_⟩⟩
  refine bind_eq_ok.mpr ⟨_, flags.1, bind_eq_ok.mpr ⟨_, flags.2, ?_⟩⟩
  simp only [written]
  refine bind_eq_ok.mpr ⟨_, r.decrementIds_tail r.nextId f enough, ?_⟩
  rw [← okForm_eq]
  exact fill_exact size

theorem convert_eofForm (fits : (r.eofForm c f).length < 2 ^ 32) :
    convert (r.eofForm c f) false = .ok (.exact (r.okForm 0 0 f), (r.okForm 0 0 f).length) := by
  have few := r.columns_lt (r.eofForm_eq c f) fits
  have size : minusSeven (r.eofForm c f).length = (r.okForm 0 0 f).length := by
    rw [r.length_eofForm c f 0 0] at fits ⊢
    exact minusSeven_add fits
  simp only [convert, r.locate_eofForm few, answer, ok_bind]
  rw [r.eofToOkPacket_eofForm c f fits]
  simp only [okLength, holding, size]
  rfl

/-! ### Round trips -/

/-- A conversion fills its allocation, and gives numbered packets of the size returned. -/
def Converts (value : List Byte) (deprecateEof : Bool) (result : List Byte) : Prop :=
  convert value deprecateEof = .ok (.exact result, result.length) ∧ Numbered result result.length

theorem short_body : ∀ p ∈ r.body, Short p := fun p member => (r.plain_body p member).short

theorem converts_okForm (a l : Byte) (f : Flags) (fits : (r.okForm a l f).length + 7 < 2 ^ 32) :
    Converts (r.okForm a l f) true (r.eofForm f f) := by
  refine ⟨r.convert_okForm a l f fits, numbered_stream r.firstId ?_⟩
  simpa [or_imp, forall_and, f.final_eof.short] using And.intro r.short_head r.short_body

theorem converts_eofForm (fits : (r.eofForm c f).length < 2 ^ 32) :
    Converts (r.eofForm c f) false (r.okForm 0 0 f) := by
  refine ⟨r.convert_eofForm c f fits, numbered_stream r.firstId ?_⟩
  simpa [or_imp, forall_and, (f.final_ok 0 0).short] using And.intro r.short_head r.short_body

/-- There and back is the identity, if the OK packet has neither affected rows nor an insert id, and
every converted resultset is numbered. -/
theorem conversions_round_trip (f : Flags) (fits : (r.okForm 0 0 f).length + 7 < 2 ^ 32) :
    (∃ eof, Converts (r.okForm 0 0 f) true eof ∧ Converts eof false (r.okForm 0 0 f)) ∧
      (∃ ok, Converts (r.eofForm f f) false ok ∧ Converts ok true (r.eofForm f f)) ∧
      (∀ a l, ∃ eof, Converts (r.okForm a l f) true eof) ∧
      ∀ c, ∃ ok, Converts (r.eofForm c f) false ok := by
  have length (c : Flags) := r.length_eofForm c f 0 0
  have there := r.converts_okForm 0 0 f fits
  have back (c : Flags) := r.converts_eofForm c f (by rw [length]; exact fits)
  refine ⟨⟨_, there, back f⟩, ⟨_, back f, there⟩, ?_, fun c => ⟨_, back c⟩⟩
  intro a l
  have same : (r.okForm a l f).length + 7 = (r.okForm 0 0 f).length + 7 := by
    rw [← r.length_eofForm f f a l, length]
  exact ⟨_, r.converts_okForm a l f (by rw [same]; exact fits)⟩

def oneNull : Resultset where
  firstId := 1
  columns := [[3, 100, 101, 102]]
  rows := [[none]]
  columns_ne := by decide
  width := by decide
  columns_short := by decide
  rows_short := by decide

theorem conversions_round_trip_oneNull :
    ∃ eof, Converts (oneNull.okForm 0 0 ⟨(0, 0), (2, 0)⟩) true eof ∧
      Converts eof false (oneNull.okForm 0 0 ⟨(0, 0), (2, 0)⟩) :=
  (oneNull.conversions_round_trip ⟨(0, 0), (2, 0)⟩ (by decide)).1

/-- An OK packet that says that one row was affected comes back without it. -/
theorem affected_rows_lost : ∃ (r : Resultset) (f : Flags) (eof ok : List Byte),
      convert (r.okForm 1 0 f) true = .ok (.exact eof, eof.length) ∧
        convert eof false = .ok (.exact ok, ok.length) ∧ ok ≠ r.okForm 1 0 f := by
  refine ⟨oneNull, ⟨(0, 0), (2, 0)⟩, _, _, oneNull.convert_okForm 1 0 _ (by decide),
    oneNull.convert_eofForm _ _ (by decide), by decide⟩

end Resultset

end MockProxy.QueryCache
