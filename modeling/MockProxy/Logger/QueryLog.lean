import MockProxy.Protocol.TextRows

/-!
# The binary log of queries

`write_query_format_1` sums up the sizes of the fields of an event, writes the sum in front and then
writes the fields. The id of the statement is part of every sum but is written for two types of
events only, so the length of any other event is too large, and whoever goes by it loses the events
behind (`query_log_read_back_iff`).
-/

namespace MockProxy.Logger

open DataStream Framing Machine Protocol Session LittleEndian List

/-- `log_event_type` -/
inductive EventType where
  | comQuery
  | mysqlAuthOk
  | mysqlAuthErr
  | mysqlAuthClose
  | mysqlAuthQuit
  | mysqlChangeUserOk
  | mysqlChangeUserErr
  | mysqlInitdb
  | adminAuthOk
  | adminAuthErr
  | adminAuthClose
  | adminAuthQuit
  | sqliteAuthOk
  | sqliteAuthErr
  | sqliteAuthClose
  | sqliteAuthQuit
  | comStmtExecute
  | comStmtPrepare
  deriving DecidableEq

def EventType.code (et : EventType) : Byte := UInt8.ofNat et.ctorIdx

def hasStmtId (et : Byte) : Bool :=
  et = EventType.comStmtPrepare.code ∨ et = EventType.comStmtExecute.code

/-- `MySQL_Event`, as far as this format has it -/
structure Event where
  et : EventType
  threadId : UInt32
  username : List Byte
  schemaname : List Byte
  client : List Byte
  hid : UInt64
  server : List Byte
  startTime : UInt64
  endTime : UInt64
  clientStmtId : UInt32
  affectedRows : UInt64
  lastInsertId : UInt64
  rowsSent : UInt64
  queryDigest : UInt64
  query : List Byte

/-- A field as it is written: a number, or a text behind its length. -/
inductive Item where
  | number (n : UInt64)
  | text (t : List Byte)
  deriving DecidableEq

inductive Kind where
  | number
  | text

namespace Item

def kind : Item → Kind
  | .number _ => .number
  | .text _ => .text

def size : Item → Nat
  | .number n => (mysqlEncodeLength n.toNat).1
  | .text t => Field.size (some t)

def bytes : Item → List Byte
  | .number n => encoded n.toNat
  | .text t => Field.bytes (some t)

end Item

namespace Event

variable (e : Event)

def front : List Item :=
  [.number e.threadId.toUInt64, .text e.username, .text e.schemaname, .text e.client, .number e.hid]

def stmtId : List Item := [.number e.clientStmtId.toUInt64]

/-- The fields behind the hostgroup, which is `UINT64_MAX` if there is none -/
def others (id : List Item) : List Item :=
  (if e.hid = -1 then [] else [.text e.server]) ++ [.number e.startTime, .number e.endTime] ++ id ++
    [.number e.affectedRows, .number e.lastInsertId, .number e.rowsSent, .number e.queryDigest,
      .text e.query]

/-- `total_bytes` -/
def totalBytes : Nat := 1 + ((e.front ++ e.others e.stmtId).map Item.size).sum

def writtenId : List Item := if hasStmtId e.et.code then e.stmtId else []

def written : List Item := e.front ++ e.others e.writtenId

def body : List Byte := e.et.code :: e.written.flatMap Item.bytes

def writeQueryFormat1 : List Byte := toBytes 8 e.totalBytes ++ e.body

end Event

/-- An event that is in memory: `total_bytes` does not wrap around. -/
abbrev LogEvent := { e : Event // e.totalBytes < 2 ^ 64 }

def writeLog (events : List LogEvent) : List Byte := events.flatMap fun e => e.val.writeQueryFormat1

/-! ### Reading the log -/

def format : Format Byte where
  header := 8
  total items := 8 + ofBytes items
  header_pos := by decide
  header_le_total items := Nat.le_add_right 8 _

/-- A number is decoded in a buffer that is longer than the number. -/
def readItem : Kind → List Byte → Except Fault (Item × List Byte)
  | .number, rest => do
    let header ← decodeLength (rest ++ [0])
    let _ ← readAt rest 0 header.1
    return (.number (.ofNat header.2), rest.drop header.1)
  | .text, rest => do
    let (field, rest) ← readField rest
    return (.text (field.getD []), rest)

def readItems : List Kind → List Byte → Except Fault (List Item × List Byte)
  | [], rest => .ok ([], rest)
  | kind :: kinds, rest => do
    let (item, rest) ← readItem kind rest
    let (items, rest) ← readItems kinds rest
    return (item :: items, rest)

/-- The type and the fields of an event; there must be nothing behind them. -/
def readEvent : List Byte → Except Fault (Byte × List Item)
  | [] => .error .outOfBounds
  | et :: rest => do
    let (front, rest) ← readItems [.number, .text, .text, .text, .number] rest
    let (others, rest) ← readItems
      ((if front.getLast? = some (.number (-1)) then [] else [.text]) ++
      [.number, .number] ++ (if hasStmtId et then [.number] else []) ++
      [.number, .number, .number, .number, .text]) rest
    if rest = [] then return (et, front ++ others) else .error .outOfBounds

def readLog (log : List Byte) : Except Fault (List (Byte × List Item)) :=
  if (format.cut log).2 = [] then (format.cut log).1.mapM fun record => readEvent (record.drop 8)
  else .error .outOfBounds

theorem readItem_bytes {item : Item} (fits : item.size < 2 ^ 64) (rest : List Byte) :
    readItem item.kind (item.bytes ++ rest) = .ok (item, rest) := by
  cases item with
  | number n =>
    have field : LengthField (encoded n.toNat ++ (rest ++ [0])) _ _ :=
      lengthField_encoded n.toNat_lt (by simp)
    have there : readAt (encoded n.toNat ++ rest) 0 (encoded n.toNat).length = .ok _ :=
      readAt_eq_ok.mpr ⟨by simp, rfl⟩
    simp only [Item.kind, Item.bytes, readItem, append_assoc, field.decodeLength, ok_bind, there,
      drop_left, UInt64.ofNat_toNat]
    rfl
  | text t =>
    have read := @readField_bytes (some t) fits rest
    simp only [Item.kind, Item.bytes, readItem, read, ok_bind]
    rfl

theorem readItems_bytes {items : List Item} (fits : (items.map Item.size).sum < 2 ^ 64)
    (rest : List Byte) :
    readItems (items.map Item.kind) (items.flatMap Item.bytes ++ rest) = .ok (items, rest) := by
  induction items with
  | nil => rfl
  | cons item items ih =>
    rw [map_cons, sum_cons] at fits
    rw [flatMap_cons, append_assoc, map_cons, readItems, readItem_bytes (by omega)]
    simp only [ok_bind]
    rw [ih (by omega)]
    rfl

theorem Item.length_bytes (item : Item) : item.bytes.length = item.size := by
  cases item with
  | number n => exact length_encoded _
  | text t => exact Field.length_bytes (some t)

namespace Event

variable (e : Event)

theorem length_body : e.body.length = (e.written.map Item.size).sum + 1 := by
  simp [body, length_flatMap, Item.length_bytes]

theorem totalBytes_eq : e.totalBytes = e.body.length +
    if hasStmtId e.et.code then 0 else (mysqlEncodeLength e.clientStmtId.toNat).1 := by
  rw [length_body, totalBytes, written, writtenId]
  split
  · omega
  · simp only [others, append_nil, map_append, sum_append, stmtId, map_singleton,
      sum_singleton, Item.size, UInt32.toNat_toUInt64]
    omega

theorem totalBytes_eq_iff : e.totalBytes = e.body.length ↔ hasStmtId e.et.code := by
  have some : 0 < (mysqlEncodeLength e.clientStmtId.toNat).1 := by
    unfold mysqlEncodeLength
    split_ifs <;> decide
  rw [totalBytes_eq]
  cases hasStmtId e.et.code with
  | true => simp
  | false => simp [Nat.ne_of_gt some]

theorem readEvent_body (fits : e.totalBytes < 2 ^ 64) :
    readEvent e.body = .ok (e.et.code, e.written) := by
  have larger := e.totalBytes_eq
  rw [length_body, written, map_append, sum_append] at larger
  have front : readItems [.number, .text, .text, .text, .number] _ = .ok (e.front, _) :=
    @readItems_bytes e.front (by omega) ((e.others e.writtenId).flatMap Item.bytes)
  have rest := @readItems_bytes (e.others e.writtenId) (by omega) []
  have kinds : (e.others e.writtenId).map Item.kind =
      (if e.front.getLast? = some (.number (-1)) then [] else [.text]) ++ [.number, .number] ++
        (if hasStmtId e.et.code then [.number] else []) ++
        [.number, .number, .number, .number, .text] := by
    have hostgroup : e.front.getLast? = some (.number (-1)) ↔ e.hid = -1 := by
      simp [Event.front]
    simp only [hostgroup, others, writtenId]
    split <;> split <;> rfl
  rw [body, written, flatMap_append, readEvent, front]
  simp only [ok_bind]
  rw [← kinds, ← append_nil (flatMap _ _), rest]
  rfl

end Event

theorem hasStmtId_iff (et : EventType) :
    hasStmtId et.code ↔ et = .comStmtPrepare ∨ et = .comStmtExecute := by
  cases et <;> decide

/-- The length in front of every event is that of the event, and the log reads back, exactly if
all events are of the two types with the id of a statement. -/
theorem query_log_read_back_iff (events : List LogEvent) :
    ((∀ e ∈ events, ofBytes (e.val.writeQueryFormat1.take 8) = e.val.body.length) ∧
        readLog (writeLog events) = .ok (events.map fun e => (e.val.et.code, e.val.written))) ↔
      ∀ e ∈ events, e.val.et = .comStmtPrepare ∨ e.val.et = .comStmtExecute := by
  have header (e : LogEvent) : (toBytes 8 e.val.totalBytes).length = 8 :=
    length_toBytes 8 _
  have right (e : LogEvent) :
      ofBytes (e.val.writeQueryFormat1.take 8) = e.val.body.length ↔
        e.val.et = .comStmtPrepare ∨ e.val.et = .comStmtExecute := by
    rw [← hasStmtId_iff, ← e.val.totalBytes_eq_iff, Event.writeQueryFormat1,
      take_left' (header e), ofBytes_toBytes, Nat.mod_eq_of_lt (show _ < 256 ^ 8 from e.property)]
  have read : (fun e : LogEvent => readEvent (e.val.writeQueryFormat1.drop 8)) =
      fun e => pure (e.val.et.code, e.val.written) := by
    funext e
    rw [Event.writeQueryFormat1, drop_left' (header e), e.val.readEvent_body e.property]
    rfl
  simp only [← right]
  refine and_iff_left_of_imp fun all => ?_
  have cuts : Cuts format (writeLog events) (events.map fun e => e.val.writeQueryFormat1) [] := by
    refine ⟨by simp [writeLog, flatMap_def], ?_⟩
    intro record member
    obtain ⟨e, listed, rfl⟩ := mem_map.mp member
    have length : e.val.writeQueryFormat1.length = 8 + e.val.body.length := by
      rw [Event.writeQueryFormat1, length_append, header e]
    exact ⟨by rw [length]; exact Nat.le_add_right 8 _,
      length.trans (congrArg (8 + ·) (all e listed).symm)⟩
  rw [readLog, cut_eq_of_cuts cuts unfinished_nil, if_pos rfl, mapM_map]
  exact (congrArg events.mapM read).trans mapM_pure

def selectOne : LogEvent := ⟨
  { et := .comQuery
    threadId := 1
    username := [117]
    schemaname := []
    client := []
    hid := -1
    server := []
    startTime := 1
    endTime := 2
    clientStmtId := 0
    affectedRows := 0
    lastInsertId := 0
    rowsSent := 1
    queryDigest := 0
    query := [49] }, by decide⟩

/-- A plain query is declared one byte longer than it is, and two of them are not read back. -/
theorem plain_query_too_long :
    ofBytes (selectOne.val.writeQueryFormat1.take 8) = selectOne.val.body.length + 1 ∧
      readLog (writeLog [selectOne, selectOne]) = .error .outOfBounds := by
  decide +kernel

end MockProxy.Logger
