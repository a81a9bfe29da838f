import MockProxy.Gtid.Executed
import MockProxy.Lib.CString
import MockProxy.Lib.Machine

/-!
# One line of a binlog reader

A binlog reader first sends the transactions of its server (`ST=`) and then each new one, with the
uuid of the source (`I1=`) or with the one sent last (`I2=`). `read_next_gtid` looks for the end of
a line and takes it apart.

A line other than `ST=` is copied to an array of 80 bytes on the stack. The bytes behind the copy
and the numbers that `sscanf` did not find are whatever the stack held, which is a parameter here. A
line that makes no use of them is `Determined`.
-/

namespace MockProxy.Gtid

open CString Machine

/-! ### The state -/

def UuidServer : Type := { bytes : List Char // bytes.length = 64 }

namespace UuidServer

def zero : UuidServer := ⟨List.replicate 64 '\x00', List.length_replicate⟩

/-- The characters are written to the front. -/
def write (u : UuidServer) (text : List Char) : Except MemFault UuidServer :=
  if fits : text.length ≤ 64 then
    .ok ⟨text ++ u.val.drop text.length, by
      rw [List.length_append, List.length_drop, u.property]
      omega⟩
  else .error .outOfBounds

/-- `std::string s = uuid_server` -/
def string (u : UuidServer) : Except MemFault String := do
  let text ← cString u.val
  return String.ofList text

end UuidServer

/-- What `read_next_gtid` changes apart from the position -/
structure Gtids where
  uuidServer : UuidServer
  eventsRead : Nat
  gtidExecuted : GtidSet

def Gtids.start : Gtids := ⟨.zero, 0, fun _ => none⟩

/-- What the stack holds when `read_next_gtid` is called: `rec_msg`, and `trx_from` and `trx_to` for
each interval of a line -/
structure Frame where
  recMsg : List Char
  size : recMsg.length = 80
  trxFrom : Nat → Nat
  trxTo : Nat → Nat

/-! ### The transactions of a server -/

def scanTrxTo : List Char → Option Nat
  | '-' :: rest => (scanUlong rest).map Prod.fst
  | _ => none

variable (frame : Frame)

/-- `sscanf(subtoken,"%lu-%lu",&trx_from,&trx_to)` -/
def scanInterval (k : Nat) (subtoken : List Char) : Int × Int :=
  match scanUlong subtoken with
  -- without a first number nothing is assigned
  | none => (int64 (frame.trxFrom k), int64 (frame.trxTo k))
  | some (trxFrom, rest) => (int64 trxFrom, int64 ((scanTrxTo rest).getD (frame.trxTo k)))

/-- `gtid_executed[s].emplace_back(trx_from, trx_to)` -/
def emplaceBack (uuid : String) (interval : Int × Int) (gtidExecuted : GtidSet) : GtidSet :=
  Function.update gtidExecuted uuid (some ((gtidExecuted uuid).getD [] ++ [interval]))

/-- A part of an entry: uuids and intervals take turns. The uuid is not terminated. The number
counts the intervals of the line. -/
def readSubtoken (st : Gtids × Nat) (subtoken : List Char × Nat) :
    Except MemFault (Gtids × Nat) := do
  -- the source counts from 1, so its odd parts are the even ones here
  if subtoken.2 % 2 = 0 then
    let uuid ← st.1.uuidServer.write (subtoken.1.filter (· ≠ '-'))
    return ({ st.1 with uuidServer := uuid }, st.2)
  else
    let uuid ← st.1.uuidServer.string
    let interval := scanInterval frame st.2 subtoken.1
    return ({ st.1 with gtidExecuted := emplaceBack uuid interval st.1.gtidExecuted }, st.2 + 1)

def subtokens (token : List Char) : List (List Char × Nat) := (tokens ':' token).zipIdx

def readToken (st : Gtids × Nat) (token : List Char) : Except MemFault (Gtids × Nat) :=
  (subtokens token).foldlM (readSubtoken frame) st

/-- The entries of a bootstrap; `bs` is a string of C. -/
def entries (bs : List Char) : List (List Char) := tokens ',' (bs.takeWhile (· ≠ '\x00'))

variable (s : Gtids)

def readBootstrap (bs : List Char) : Except MemFault Gtids := do
  let st ← (entries bs).foldlM (readToken frame) (s, 0)
  return st.1

/-! ### A new transaction -/

variable (line : List Char)

/-- `strncpy(rec_msg,data+pos,l); rec_msg[l] = 0;` -/
def storeMessage : Except MemFault (List Char) :=
  if line.length < 80 then .ok (strncpyText line ++ '\x00' :: frame.recMsg.drop (line.length + 1))
  else .error .outOfBounds

/-- `addGtid` with the current uuid -/
def Gtids.add (trxid : Int) : Except MemFault Gtids := do
  let uuid ← s.uuidServer.string
  return { s with
    gtidExecuted := addGtid (uuid, trxid) s.gtidExecuted
    eventsRead := (s.eventsRead + 1) % 2 ^ 64 }

/-- `I1`: the uuid is what is before the colon. The result of `strchr` is used without a test. -/
def readFirst (body : List Char) : Except MemFault Gtids := do
  match ← strchr body ':' with
  -- the length becomes a difference to `NULL`, and `atoll` reads at address 1
  | none => .error .nullPointer
  | some ul =>
    let uuid ← s.uuidServer.write (body.take ul ++ ['\x00'])
    let trxid ← atollAt (body.drop (ul + 1))
    { s with uuidServer := uuid }.add trxid

/-- `I2` -/
def readNext (body : List Char) : Except MemFault Gtids := do
  let trxid ← atollAt body
  s.add trxid

/-- A line that is not a bootstrap. With any other letter behind `I` the transaction is 0. -/
def readMessage : Except MemFault Gtids := do
  let recMsg ← storeMessage frame line
  if recMsg[0]? = some 'I' then
    if recMsg[1]? = some '1' then readFirst s (recMsg.drop 3)
    else if recMsg[1]? = some '2' then readNext s (recMsg.drop 3)
    -- the `default` of the `switch` only leaves it
    else s.add 0
  else return s

/-- `l`, an `int` -/
def lineLength : Int := int32 line.length

/-- What `read_next_gtid` does with a line. A negative length is a very large one for `malloc`,
`memcpy` and `strncpy`. -/
def readLine : Except MemFault Gtids :=
  let text := line.take (lineLength line).toNat
  if lineLength line < 0 then .error .outOfBounds
  else if line.take 3 = ['S', 'T', '='] then
    -- only with a length that was cut down to 32 bits
    if text.length < 3 then .error .outOfBounds else readBootstrap frame s (text.drop 3)
  else readMessage frame s text

/-! ### Lines that do not use the stack -/

def Scans (subtoken : List Char) : Prop :=
  ((scanUlong subtoken).bind fun number => scanTrxTo number.2).isSome

instance : DecidablePred Scans := fun _ => inferInstanceAs (Decidable (_ = true))

def DeterminedBootstrap (bs : List Char) : Prop :=
  ∀ token ∈ entries bs, ∀ subtoken ∈ subtokens token, subtoken.2 % 2 = 1 → Scans subtoken.1

instance : DecidablePred DeterminedBootstrap := fun bs =>
  inferInstanceAs (Decidable (∀ token ∈ entries bs, ∀ subtoken ∈ subtokens token, _ → _))

def Determined (line : List Char) : Prop :=
  let text := line.take (lineLength line).toNat
  if line.take 3 = ['S', 'T', '='] then DeterminedBootstrap (text.drop 3)
  else text ≠ ['I', '1'] ∧ text ≠ ['I', '2']

instance : DecidablePred Determined := fun line =>
  inferInstanceAs (Decidable (if line.take 3 = ['S', 'T', '='] then _ else _))

theorem scanInterval_of_scans {subtoken : List Char} (scans : Scans subtoken) (frame frame' : Frame)
    (k k' : Nat) : scanInterval frame k subtoken = scanInterval frame' k' subtoken := by
  obtain ⟨trxTo, both⟩ := Option.isSome_iff_exists.mp scans
  obtain ⟨⟨trxFrom, rest⟩, first, second⟩ := Option.bind_eq_some_iff.mp both
  unfold scanInterval
  rw [first]
  dsimp only at second ⊢
  rw [second]
  rfl

theorem readBootstrap_of_determined {bs : List Char} (determined : DeterminedBootstrap bs)
    (frame frame' : Frame) (s : Gtids) : readBootstrap frame s bs = readBootstrap frame' s bs := by
  have token_same : ∀ st, ∀ token ∈ entries bs,
      readToken frame st token = readToken frame' st token := by
    intro st token member
    apply foldlM_congr
    intro st' subtoken inside
    unfold readSubtoken
    split
    · rfl
    next odd =>
      have interval : subtoken.2 % 2 = 1 := by omega
      rw [scanInterval_of_scans (determined token member subtoken inside interval) frame frame']
  unfold readBootstrap
  rw [foldlM_congr token_same]

theorem readFirst_nul (s : Gtids) (text behind behind' : List Char) :
    readFirst s (text ++ '\x00' :: behind) = readFirst s (text ++ '\x00' :: behind') := by
  unfold readFirst
  -- the colon is searched for before the null byte only
  rw [strchr_nul text behind ':' behind']
  cases search : strchr (text ++ '\x00' :: behind') ':' with
  | error f => rfl
  | ok found =>
    cases found with
    | none => rfl
    | some ul =>
      have inside := lt_of_strchr_nul text behind' (by decide) search
      dsimp only [ok_bind]
      rw [List.take_append_of_le_length (Nat.le_of_lt inside),
        List.take_append_of_le_length (Nat.le_of_lt inside),
        List.drop_append_of_le_length inside, List.drop_append_of_le_length inside,
        atollAt_nul, atollAt_nul]

theorem readNext_nul (s : Gtids) (text behind : List Char) :
    readNext s (text ++ '\x00' :: behind) = s.add (atoll text) := by
  unfold readNext
  rw [atollAt_nul]
  rfl

/-- A message of two characters other than `I1` and `I2`, or one of any other length, uses only what
was stored. -/
theorem readMessage_of_determined {text : List Char} (notFirst : text ≠ ['I', '1'])
    (notNext : text ≠ ['I', '2']) (frame frame' : Frame) (s : Gtids) :
    readMessage frame s text = readMessage frame' s text := by
  unfold readMessage storeMessage
  by_cases fits : text.length < 80
  · rw [if_pos fits, if_pos fits]
    dsimp only [ok_bind]
    generalize frame.recMsg.drop (text.length + 1) = behind
    generalize frame'.recMsg.drop (text.length + 1) = behind'
    match stored : strncpyText text with
    | [] => rfl
    | [_] => rfl
    | [x, y] =>
      -- the body would begin behind the null byte
      have other : ∀ kind, kind ≠ '\x00' → text ≠ ['I', kind] → x = 'I' → y ≠ kind := by
        rintro kind nonzero different rfl rfl
        have clean : '\x00' ∉ strncpyText text := by
          rw [stored]
          simpa using nonzero.symm
        exact different ((strncpyText_of_clean clean).symm.trans stored)
      by_cases message : x = 'I'
      · have one := other '1' (by decide) notFirst message
        have two := other '2' (by decide) notNext message
        simp [message, one, two]
      · simp [message]
    | x :: y :: z :: rest =>
      have body : ∀ tail : List Char, (x :: y :: z :: (rest ++ '\x00' :: tail)).drop 3 =
          rest ++ '\x00' :: tail := fun _ => rfl
      simp only [body, List.cons_append, List.getElem?_cons_zero, List.getElem?_cons_succ]
      rw [readFirst_nul s rest behind behind', readNext_nul, readNext_nul]
  · rw [if_neg fits, if_neg fits]

theorem readLine_of_determined {line : List Char} (determined : Determined line)
    (frame frame' : Frame) (s : Gtids) : readLine frame s line = readLine frame' s line := by
  unfold Determined at determined
  unfold readLine
  split
  · rfl
  · by_cases bootstrap : line.take 3 = ['S', 'T', '=']
    · rw [if_pos bootstrap] at determined
      rw [if_pos bootstrap, if_pos bootstrap, readBootstrap_of_determined determined frame frame']
    · rw [if_neg bootstrap] at determined
      rw [if_neg bootstrap, if_neg bootstrap,
        readMessage_of_determined determined.1 determined.2 frame frame']

end MockProxy.Gtid
