import MockProxy.Lib.Machine
import MockProxy.Session.LongData

/-!
# Parameters of `COM_STMT_EXECUTE`

`get_binds_from_pkt` walks over the packet with a pointer that is never compared with the packet's
end, except for the fixed part and the NULL bitmap. In the model a load from behind the end is the
fault `outOfBounds`; `rest` is the packet from the pointer on, which is empty once the pointer has
passed the end. The buffer of a bind points into the packet and is read when the statement is
executed, so a bind is modelled with the bytes of its buffer.

`staysInside_bindParams` says exactly when the walk stays inside: when the packet has the values
that the types and lengths in it declare (`Declared`).
-/

namespace MockProxy.Session

open Machine DataStream LittleEndian List

/-! ### Types -/

/-- `enum_field_types`; the other codes are the ones the walk does not support. -/
inductive FieldType where
  | decimal
  | tiny
  | short
  | long
  | float
  | double
  | null
  | timestamp
  | longlong
  | int24
  | date
  | time
  | datetime
  | year
  | varchar
  | bit
  | json
  | newdecimal
  | enum
  | set
  | tinyBlob
  | mediumBlob
  | longBlob
  | blob
  | varString
  | string
  | geometry
  | unsupported (code : Nat)
  deriving DecidableEq, Repr

def FieldType.ofCode : Nat → FieldType
  | 0 => .decimal
  | 1 => .tiny
  | 2 => .short
  | 3 => .long
  | 4 => .float
  | 5 => .double
  | 6 => .null
  | 7 => .timestamp
  | 8 => .longlong
  | 9 => .int24
  | 10 => .date
  | 11 => .time
  | 12 => .datetime
  | 13 => .year
  | 15 => .varchar
  | 16 => .bit
  | 245 => .json
  | 246 => .newdecimal
  | 247 => .enum
  | 248 => .set
  | 249 => .tinyBlob
  | 250 => .mediumBlob
  | 251 => .longBlob
  | 252 => .blob
  | 253 => .varString
  | 254 => .string
  | 255 => .geometry
  | code => .unsupported code

/-- How the value of a parameter is laid out in the packet. -/
inductive Layout where
  | fixed (width : Nat)
  | time
  | date
  | string
  | unsupported
  deriving DecidableEq, Repr

/-- The cases of the `switch` over the type of a parameter that is not NULL. -/
def FieldType.layout : FieldType → Layout
  | .tiny => .fixed 1
  | .short | .year => .fixed 2
  | .float | .long | .int24 => .fixed 4
  | .double | .longlong => .fixed 8
  | .time => .time
  | .date | .timestamp | .datetime => .date
  | .decimal | .varchar | .bit | .json | .newdecimal | .enum | .set | .tinyBlob | .mediumBlob
  | .longBlob | .blob | .varString | .string | .geometry => .string
  | .null | .unsupported _ => .unsupported

/-! ### Values -/

variable (rest : List Byte)

/-- `memcpy(…, p + offset, n)` -/
def readAt (offset n : Nat) : Except Fault (List Byte) :=
  if offset + n ≤ rest.length then .ok ((rest.drop offset).take n) else .error .outOfBounds

def readWhen (wanted : Bool) (rest : List Byte) (offset n : Nat) : Except Fault (List Byte) :=
  if wanted then readAt rest offset n else .ok []

/-- `mysql_decode_length`: the size of the length field, and the length. -/
def decodeLength : List Byte → Except Fault (Nat × Nat)
  | [] => .error .outOfBounds
  | first :: body =>
    if first ≤ 0xfb then .ok (1, first.toNat)
    else if first = 0xfc then do
      let value ← readAt body 0 2
      return (3, ofBytes value)
    else if first = 0xfd then do
      -- `CPY3` loads four bytes and masks the last one
      let value ← readAt body 0 4
      return (4, ofBytes (value.take 3))
    else if first = 0xfe then do
      let value ← readAt body 0 8
      return (9, ofBytes value)
    -- 0xff: `len` is not written
    else .error .uninitialised

inductive Bound where
  | longData (data : List Byte)
  | null
  | bytes (data : List Byte)
  -- The bytes copied to the fields of a `MYSQL_TIME`.
  | time (fields : List Byte)
  deriving DecidableEq, Repr

/-- What is known of a parameter before its value is read. -/
structure Param where
  type : FieldType
  isNull : Bool
  -- `SLDH->get(ret->stmt_id, i, …)`
  longData : Option (List Byte)
  deriving DecidableEq

/-- The value of a parameter at the pointer, and the packet from the moved pointer on. -/
def bindValue (layout : Layout) (rest : List Byte) : Except Fault (Bound × List Byte) :=
  match layout with
  | .fixed width => do
    let value ← readAt rest 0 width
    return (.bytes value, rest.drop width)
  | .time => do
    let l ← readAt rest 0 1
    let l := (l.headD 0).toNat
    let day ← readWhen (l > 0) rest 1 8
    let fraction ← readWhen (l > 8) rest 9 4
    return (.time (day ++ fraction), rest.drop (1 + l))
  | .date => do
    let l ← readAt rest 0 1
    let l := (l.headD 0).toNat
    let day ← readWhen (l > 0) rest 1 4
    let time ← readWhen (l > 4) rest 5 3
    let fraction ← readWhen (l > 7) rest 8 4
    return (.time (day ++ time ++ fraction), rest.drop (1 + l))
  | .string => do
    let header ← decodeLength rest
    let value ← readAt rest header.1 header.2
    return (.bytes value, rest.drop (header.1 + header.2))
  | .unsupported => .error .assertion

def bindParam (q : Param) (rest : List Byte) : Except Fault (Bound × List Byte) :=
  match q.longData with
  | some data => .ok (.longData data, rest)
  | none => if q.isNull then .ok (.null, rest) else bindValue q.type.layout rest

/-- The last loop of `get_binds_from_pkt`. -/
def bindParams : List Param → List Byte → Except Fault (List Bound)
  | [], _ => .ok []
  | q :: qs, rest => do
    let bound ← bindParam q rest
    let bounds ← bindParams qs bound.2
    return bound.1 :: bounds

/-! ### The packet -/

/-- The type of a parameter, and whether its values are unsigned: `buffer_type` and `is_unsigned` of
its bind. -/
abbrev ParamType := FieldType × Bool

/-- `stmt_execute_metadata_t`, as far as later executions use it. -/
structure Metadata (numParams : Nat) where
  stmtId : Nat
  types : List ParamType
  length_types : types.length = numParams
  deriving DecidableEq

/-- The loop over the NULL bitmap sets `is_unsigned` of every bind to 0. -/
def signed (types : List ParamType) : List ParamType := types.map fun type => (type.1, false)

/-- The types of the parameters where the client sends them, two bytes each. -/
def readTypes : (numParams : Nat) → List Byte → Except Fault (List ParamType)
  | 0, _ => .ok []
  | n + 1, rest => do
    let code ← readAt rest 0 2
    let bufferType := ofBytes code
    -- the highest bit says that the value is unsigned
    let type := (FieldType.ofCode (bufferType % 32768), decide (32768 ≤ bufferType))
    let types ← readTypes n (rest.drop 2)
    return type :: types

variable {rest : List Byte} {n numParams : Nat} {layout : Layout} {types : List ParamType}

theorem length_readTypes
    (read : readTypes numParams rest = .ok types) : types.length = numParams := by
  induction numParams generalizing rest types with
  | zero =>
    cases read
    rfl
  | succ n ih =>
    obtain ⟨code, -, read⟩ := bind_eq_ok.mp read
    obtain ⟨more, later, rfl⟩ := return_eq_ok.mp read
    rw [length_cons, ih later]

theorem length_signed
    (length : types.length = numParams) :
    (signed types).length = numParams := by
  rw [signed, length_map, length]

def nullBitmapLength (numParams : Nat) : Nat := (numParams + 7) / 8

/-- Bit `i` of the NULL bitmap. -/
def isNullAt (bitmap : List Byte) (i : Nat) : Bool := (bitmap.getD (i / 8) 0).toNat.testBit (i % 8)

/-- The parameters once NULL bitmap and types are read. -/
def paramsOf (longData : LongDataHandler) (stmtId : Nat) (bitmap : List Byte)
    (types : List ParamType) : List Param :=
  types.mapIdx fun i type =>
    ⟨type.1, isNullAt bitmap i || decide (type.1 = .null), longData.get stmtId i⟩

inductive BindResult (numParams : Nat) where
  -- `NULL`, with nothing changed.
  | refused
  -- `NULL` after `delete ret`, which frees the packet too; `kept` where `ret` is the metadata of an
  -- earlier execution.
  | deleted (kept : Bool)
  | bound (metadata : Metadata numParams) (binds : List Bound)

variable (pkt : List Byte)

/-- The part of a packet with parameters behind the NULL bitmap. -/
def bindTypes (longData : LongDataHandler) {numParams : Nat} (old : Metadata numParams) :
    Except Fault (BindResult numParams) :=
  let bitmap := (pkt.drop 14).take (nullBitmapLength numParams)
  let rest := pkt.drop (15 + nullBitmapLength numParams)
  let newParamsBoundFlag := pkt.getD (14 + nullBitmapLength numParams) 0
  if newParamsBoundFlag = 0 then do
    let types := signed old.types
    let binds ← bindParams (paramsOf longData old.stmtId bitmap types) rest
    return .bound ⟨old.stmtId, types, length_signed old.length_types⟩ binds
  else
    match read : readTypes numParams rest with
    | .error f => .error f
    | .ok types => do
      let binds ← bindParams (paramsOf longData old.stmtId bitmap types) (rest.drop (2 * numParams))
      return .bound ⟨old.stmtId, types, length_readTypes read⟩ binds

def stmtIdAt : Nat := ofBytes ((pkt.drop 5).take 4)

def zeroedMetadata (numParams : Nat) : Metadata numParams :=
  ⟨stmtIdAt pkt, replicate numParams (.decimal, false), length_replicate⟩

def getBindsFromPkt (longData : LongDataHandler) (numParams : Nat)
    (metadata : Option (Metadata numParams)) : Except Fault (BindResult numParams) :=
  if pkt.length < 14 then .ok .refused
  else if numParams = 0 then .ok (.bound (metadata.getD (zeroedMetadata pkt numParams)) [])
  else if pkt.length < 15 + nullBitmapLength numParams then .ok (.deleted metadata.isSome)
  else bindTypes pkt longData (metadata.getD (zeroedMetadata pkt numParams))

/-! ### What the packet declares -/

/-- A length field at the head of the bytes: its size and the length it denotes. -/
inductive LengthField : List Byte → Nat → Nat → Prop where
  | one {first : Byte} {rest : List Byte} : first ≤ 0xfb → LengthField (first :: rest) 1 first.toNat
  | two {value rest : List Byte} : value.length = 2 →
      LengthField (0xfc :: (value ++ rest)) 3 (ofBytes value)
  | three {value rest : List Byte} : value.length = 3 → rest ≠ [] →
      LengthField (0xfd :: (value ++ rest)) 4 (ofBytes value)
  | eight {value rest : List Byte} : value.length = 8 →
      LengthField (0xfe :: (value ++ rest)) 9 (ofBytes value)

/-- A value of the layout at the head of the bytes, and how far the pointer moves over it. -/
inductive Value : Layout → List Byte → Nat → Prop where
  | fixed {width : Nat} {rest : List Byte} : width ≤ rest.length → Value (.fixed width) rest width
  | time {l : Byte} {rest : List Byte} : (0 < l.toNat → 8 ≤ rest.length) →
      (8 < l.toNat → 12 ≤ rest.length) → Value .time (l :: rest) (1 + l.toNat)
  | date {l : Byte} {rest : List Byte} : (0 < l.toNat → 4 ≤ rest.length) →
      (4 < l.toNat → 7 ≤ rest.length) → (7 < l.toNat → 11 ≤ rest.length) →
      Value .date (l :: rest) (1 + l.toNat)
  | string {rest : List Byte} {size length : Nat} : LengthField rest size length →
      size + length ≤ rest.length → Value .string rest (size + length)

def Param.Skipped (q : Param) : Prop := q.longData.isSome ∨ q.isNull

/-- The packet has the values its parameters declare, as far as the first unsupported type. -/
inductive Declared : List Param → List Byte → Prop where
  | nil {rest : List Byte} : Declared [] rest
  | skipped {q : Param} {qs : List Param} {rest : List Byte} : q.Skipped → Declared qs rest →
      Declared (q :: qs) rest
  | value {q : Param} {qs : List Param} {rest : List Byte} {n : Nat} : ¬ q.Skipped →
      Value q.type.layout rest n → Declared qs (rest.drop n) → Declared (q :: qs) rest
  | unsupported {q : Param} {qs : List Param} {rest : List Byte} : ¬ q.Skipped →
      q.type.layout = .unsupported → Declared (q :: qs) rest

/-- Nothing is loaded from outside the packet, and nothing is freed twice; `assert` may still stop
the process. -/
abbrev StaysInside {α : Type} (e : Except Fault α) : Prop := FailsOnly (· = .assertion) e

abbrev NeverAsserts {α : Type} (e : Except Fault α) : Prop :=
    FailsOnly (fun f => ¬ f = .assertion) e

@[simp] theorem readAt_neverAsserts (offset n : Nat) : NeverAsserts (readAt rest offset n) := by
  unfold readAt
  split <;> simp

@[simp] theorem readWhen_neverAsserts (wanted : Bool) (rest : List Byte) (offset n : Nat) :
    NeverAsserts (readWhen wanted rest offset n) := by
  cases wanted <;> simp [readWhen]

theorem readAt_eq_ok {offset : Nat} {value : List Byte} : readAt rest offset n = .ok value ↔
      offset + n ≤ rest.length ∧ value = (rest.drop offset).take n := by
  unfold readAt
  split <;> simp [*, eq_comm]

@[simp] theorem readAt_cons_one (first : Byte) (rest : List Byte) :
    readAt (first :: rest) 0 1 = .ok [first] := by
  simp [readAt]

theorem lengthField_of_decodeLength {header : Nat × Nat} (done : decodeLength rest = .ok header) :
    LengthField rest header.1 header.2 := by
  cases rest with
  | nil => cases done
  | cons first body =>
    -- the bytes behind the first one, split where the length ends
    have parts (n : Nat) : first :: body = first :: (body.take n ++ body.drop n) := by
      rw [take_append_drop]
    simp only [decodeLength] at done
    split_ifs at done with short two three eight
    · cases done
      exact .one short
    all_goals
      obtain ⟨value, read, rfl⟩ := return_eq_ok.mp done
      obtain ⟨bound, rfl⟩ := readAt_eq_ok.mp read
    · rw [parts 2, two]
      exact .two (length_take_of_le (by omega))
    · rw [parts 3, three, take_take]
      refine .three (length_take_of_le (by omega)) ?_
      exact ne_nil_of_length_pos (by rw [length_drop]; omega)
    · rw [parts 8, eight]
      exact .eight (length_take_of_le (by omega))

theorem readAt_append {value : List Byte} (length : value.length = n) :
    readAt (value ++ rest) 0 n = .ok value := by
  simp [readAt, ← length]

theorem LengthField.decodeLength {size length : Nat} (field : LengthField rest size length) :
    decodeLength rest = .ok (size, length) := by
  cases field with
  | one short => simp [Session.decodeLength, short]
  | two two => simp [Session.decodeLength, readAt_append two]
  | @three value _ three more =>
    obtain ⟨masked, rest, rfl⟩ := exists_cons_of_ne_nil more
    have read : readAt (value ++ masked :: rest) 0 4 = .ok (value ++ [masked]) := by
      rw [append_cons]
      exact readAt_append (by simp [three])
    simp [Session.decodeLength, read, ← three]
  | eight eight =>
    simp [Session.decodeLength, readAt_append eight]

theorem decodeLength_neverAsserts : NeverAsserts (decodeLength rest) := by
  cases rest with
  | nil => simp [decodeLength]
  | cons first body =>
    simp only [decodeLength]
    split_ifs <;> simp [failsOnly_bind]

theorem bindValue_neverAsserts (supported : layout ≠ .unsupported) (rest : List Byte) :
    NeverAsserts (bindValue layout rest) := by
  cases layout with
  | unsupported => exact absurd rfl supported
  | fixed width | time | date => simp [bindValue, failsOnly_bind]
  | string =>
    simp [bindValue, failsOnly_bind, decodeLength_neverAsserts]

theorem readWhen_returns {wanted : Prop} [Decidable wanted] {first : Byte} {offset : Nat} :
    (∃ value, readWhen wanted (first :: rest) (offset + 1) n = .ok value) ↔
      (wanted → offset + n ≤ rest.length) := by
  by_cases wanted <;> simp [readWhen, readAt_eq_ok, *, Nat.add_right_comm offset 1]

section

variable {l : Byte} {next : List Byte}

theorem bindValue_time : (bindValue .time (l :: rest)).map Prod.snd = .ok next ↔
      (0 < l.toNat → 8 ≤ rest.length) ∧ (8 < l.toNat → 12 ≤ rest.length) ∧
        (l :: rest).drop (1 + l.toNat) = next := by
  have day := @readWhen_returns rest 8 (l.toNat > 0) _ l 0
  have fraction := @readWhen_returns rest 4 (l.toNat > 8) _ l 8
  simp only [bindValue, readAt_cons_one, map_bind, pure_eq_ok, bind_eq_ok, map_eq_ok,
    Except.ok.injEq, exists_eq_left', exists_and_right]
  exact and_congr day (and_congr_left' fraction)

theorem bindValue_date : (bindValue .date (l :: rest)).map Prod.snd = .ok next ↔
      (0 < l.toNat → 4 ≤ rest.length) ∧ (4 < l.toNat → 7 ≤ rest.length) ∧
        (7 < l.toNat → 11 ≤ rest.length) ∧ (l :: rest).drop (1 + l.toNat) = next := by
  have day := @readWhen_returns rest 4 (l.toNat > 0) _ l 0
  have time := @readWhen_returns rest 3 (l.toNat > 4) _ l 4
  have fraction := @readWhen_returns rest 4 (l.toNat > 7) _ l 7
  simp only [bindValue, readAt_cons_one, map_bind, pure_eq_ok, bind_eq_ok, map_eq_ok,
    Except.ok.injEq, exists_eq_left', exists_and_right]
  exact and_congr day (and_congr time (and_congr_left' fraction))

end

theorem value_of_bindValue {bound : Bound × List Byte} (done : bindValue layout rest = .ok bound) :
    ∃ n, Value layout rest n ∧ bound.2 = rest.drop n := by
  cases layout with
  | unsupported => cases done
  | fixed width =>
    obtain ⟨value, read, rfl⟩ := return_eq_ok.mp done
    exact ⟨width, .fixed (by simpa using (readAt_eq_ok.mp read).1), rfl⟩
  | time =>
    cases rest with
    | nil => cases done
    | cons l rest =>
      obtain ⟨day, fraction, moved⟩ := bindValue_time.mp (map_eq_ok.mpr ⟨_, done, rfl⟩)
      exact ⟨1 + l.toNat, .time day fraction, moved.symm⟩
  | date =>
    cases rest with
    | nil => cases done
    | cons l rest =>
      obtain ⟨day, time, fraction, moved⟩ := bindValue_date.mp (map_eq_ok.mpr ⟨_, done, rfl⟩)
      exact ⟨1 + l.toNat, .date day time fraction, moved.symm⟩
  | string =>
    obtain ⟨header, decoded, done⟩ := bind_eq_ok.mp done
    obtain ⟨value, read, rfl⟩ := return_eq_ok.mp done
    exact ⟨_, .string (lengthField_of_decodeLength decoded) (readAt_eq_ok.mp read).1, rfl⟩

theorem Value.bindValue (value : Value layout rest n) :
    ∃ bound, bindValue layout rest = .ok (bound, rest.drop n) := by
  cases value with
  | fixed inside =>
    have read := readAt_eq_ok.mpr ⟨Nat.le_trans (Nat.le_of_eq (Nat.zero_add _)) inside, rfl⟩
    exact ⟨_, bind_eq_ok.mpr ⟨_, read, rfl⟩⟩
  | time day fraction =>
    obtain ⟨⟨bound, _⟩, done, rfl⟩ := map_eq_ok.mp (bindValue_time.mpr ⟨day, fraction, rfl⟩)
    exact ⟨bound, done⟩
  | date day time fraction =>
    obtain ⟨⟨bound, _⟩, done, rfl⟩ := map_eq_ok.mp (bindValue_date.mpr ⟨day, time, fraction, rfl⟩)
    exact ⟨bound, done⟩
  | string field inside =>
    have read := readAt_eq_ok.mpr ⟨inside, rfl⟩
    exact ⟨_, bind_eq_ok.mpr ⟨_, field.decodeLength, bind_eq_ok.mpr ⟨_, read, rfl⟩⟩⟩

theorem bindParam_skipped {q : Param} (skipped : q.Skipped) (rest : List Byte) :
    ∃ bound, bindParam q rest = .ok (bound, rest) := by
  unfold bindParam
  split
  · exact ⟨_, rfl⟩
  next none =>
    have isNull : q.isNull := by simpa [Param.Skipped, none] using skipped
    exact ⟨.null, by simp [isNull]⟩

theorem bindParam_present {q : Param} (present : ¬ q.Skipped) (rest : List Byte) :
    bindParam q rest = bindValue q.type.layout rest := by
  simp only [Param.Skipped, not_or, Option.not_isSome_iff_eq_none] at present
  simp [bindParam, present.1, present.2]

/-- The walk over the parameters stays inside the packet exactly when the packet has what its
parameters declare. -/
theorem staysInside_bindParams {qs : List Param} :
    StaysInside (bindParams qs rest) ↔ Declared qs rest := by
  induction qs generalizing rest with
  | nil =>
    simp only [bindParams, failsOnly_ok, true_iff]
    exact .nil
  | cons q qs ih =>
    rw [bindParams, StaysInside, failsOnly_bind]
    by_cases skipped : q.Skipped
    · obtain ⟨bound, done⟩ := bindParam_skipped skipped rest
      constructor
      · rintro ⟨-, next⟩
        exact .skipped skipped (ih.mp (failsOnly_bind.mp (next _ done)).1)
      · intro declared
        have more : Declared qs rest := by
          cases declared with
          | skipped _ more => exact more
          | value present | unsupported present => exact absurd skipped present
        rw [done]
        refine ⟨failsOnly_ok _, ?_⟩
        rintro _ ⟨⟩
        exact failsOnly_bind.mpr ⟨ih.mpr more, fun _ _ => failsOnly_ok _⟩
    · rw [bindParam_present skipped]
      constructor
      · rintro ⟨inside, next⟩
        by_cases unsupported : q.type.layout = .unsupported
        · exact .unsupported skipped unsupported
        · obtain ⟨bound, done⟩ := inside.returns (bindValue_neverAsserts unsupported rest)
          obtain ⟨n, value, moved⟩ := value_of_bindValue done
          have more := ih.mp (failsOnly_bind.mp (next _ done)).1
          exact .value skipped value (moved ▸ more)
      · intro declared
        cases declared with
        | skipped is => exact absurd is skipped
        | unsupported _ layout => simp [layout, bindValue]
        | value _ value more =>
          obtain ⟨bound, done⟩ := value.bindValue
          rw [done]
          refine ⟨failsOnly_ok _, ?_⟩
          rintro _ ⟨⟩
          exact failsOnly_bind.mpr ⟨ih.mpr more, fun _ _ => failsOnly_ok _⟩

def typesIn : (numParams : Nat) → List Byte → List ParamType
  | 0, _ => []
  | n + 1, rest =>
    let bufferType := ofBytes (rest.take 2)
    (FieldType.ofCode (bufferType % 32768), decide (32768 ≤ bufferType)) :: typesIn n (rest.drop 2)

theorem readTypes_eq (numParams : Nat) (rest : List Byte) : readTypes numParams rest =
      if 2 * numParams ≤ rest.length then .ok (typesIn numParams rest)
      else .error .outOfBounds := by
  induction numParams generalizing rest with
  | zero => simp [readTypes, typesIn]
  | succ n ih =>
    by_cases two : 2 ≤ rest.length
    · have read : readAt rest 0 2 = .ok (rest.take 2) := by simp [readAt, two]
      simp only [readTypes, read, ih, length_drop, bind, Except.bind]
      by_cases enough : 2 * n ≤ rest.length - 2
      · rw [if_pos enough, if_pos (by omega)]
        rfl
      · rw [if_neg enough, if_neg (by omega)]
    · have read : readAt rest 0 2 = .error .outOfBounds := by simp [readAt, two]
      simp only [readTypes, read, bind, Except.bind]
      rw [if_neg (by omega)]

theorem length_typesIn (numParams : Nat) (rest : List Byte) :
    (typesIn numParams rest).length = numParams := by
  induction numParams generalizing rest with
  | zero => rfl
  | succ n ih => rw [typesIn, length_cons, ih]

/-- Behind the NULL bitmap the packet has the types, if it announces them, and the values. -/
def ParamsInside (pkt : List Byte) (longData : LongDataHandler) {numParams : Nat}
    (old : Metadata numParams) : Prop :=
  let bitmap := (pkt.drop 14).take (nullBitmapLength numParams)
  let rest := pkt.drop (15 + nullBitmapLength numParams)
  if pkt.getD (14 + nullBitmapLength numParams) 0 = 0 then
    Declared (paramsOf longData old.stmtId bitmap old.types) rest
  else
    2 * numParams ≤ rest.length ∧
      Declared (paramsOf longData old.stmtId bitmap (typesIn numParams rest))
        (rest.drop (2 * numParams))

/-- The types a packet is read with, which are then kept. -/
def Metadata.used {numParams : Nat} (old : Metadata numParams) (pkt : List Byte) :
    Metadata numParams where
  stmtId := old.stmtId
  types :=
    if pkt.getD (14 + nullBitmapLength numParams) 0 = 0 then signed old.types
    else typesIn numParams (pkt.drop (15 + nullBitmapLength numParams))
  length_types := by
    split_ifs
    · exact length_signed old.length_types
    · exact length_typesIn _ _

def valuesOf (pkt : List Byte) (numParams : Nat) : List Byte :=
  (pkt.drop (15 + nullBitmapLength numParams)).drop
    (if pkt.getD (14 + nullBitmapLength numParams) 0 = 0 then 0 else 2 * numParams)

section

variable {pkt : List Byte} {longData : LongDataHandler} {numParams : Nat} {old : Metadata numParams}

theorem bindTypes_eq :
    bindTypes pkt longData old =
      if pkt.getD (14 + nullBitmapLength numParams) 0 ≠ 0 ∧
          (pkt.drop (15 + nullBitmapLength numParams)).length < 2 * numParams then
        .error .outOfBounds
      else do
        let binds ← bindParams (paramsOf longData old.stmtId
          ((pkt.drop 14).take (nullBitmapLength numParams)) (old.used pkt).types)
          (valuesOf pkt numParams)
        return .bound (old.used pkt) binds := by
  have eq := readTypes_eq numParams (pkt.drop (15 + nullBitmapLength numParams))
  unfold bindTypes Metadata.used valuesOf
  by_cases same : pkt.getD (14 + nullBitmapLength numParams) 0 = 0
  · simp only [same, if_true, ne_eq, not_true_eq_false, false_and, if_false, drop_zero]
  · simp only [same, if_false, ne_eq, not_false_eq_true, true_and]
    split
    next f failed =>
      -- the types are not all there
      rw [failed] at eq
      split_ifs at eq with there
      cases eq
      rw [if_pos (by omega)]
    next types read =>
      rw [read] at eq
      split_ifs at eq with there
      cases eq
      rw [if_neg (by omega)]

theorem paramsOf_signed (longData : LongDataHandler) (stmtId : Nat) (bitmap : List Byte)
    (types : List ParamType) :
    paramsOf longData stmtId bitmap (signed types) = paramsOf longData stmtId bitmap types := by
  refine ext_getElem? fun i => ?_
  rw [paramsOf, paramsOf, signed, getElem?_mapIdx, getElem?_mapIdx, getElem?_map, Option.map_map]
  rfl

theorem staysInside_bindTypes :
    StaysInside (bindTypes pkt longData old) ↔ ParamsInside pkt longData old := by
  rw [bindTypes_eq]
  unfold ParamsInside Metadata.used valuesOf
  by_cases same : pkt.getD (14 + nullBitmapLength numParams) 0 = 0
  · simp only [same, ne_eq, not_true_eq_false, false_and, if_false, if_true, failsOnly_bind,
      staysInside_bindParams, paramsOf_signed, drop_zero]
    exact and_iff_left fun _ _ => failsOnly_ok _
  · simp only [same, if_false, ne_eq, not_false_eq_true, true_and]
    split_ifs with missing
    · exact iff_of_false (fun inside => by cases (failsOnly_error _).mp inside) (by omega)
    · simp only [failsOnly_bind, staysInside_bindParams, Nat.not_lt.mp missing, true_and]
      exact and_iff_left fun _ _ => failsOnly_ok _

end

end MockProxy.Session
