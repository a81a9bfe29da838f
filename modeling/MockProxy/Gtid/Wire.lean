import MockProxy.Gtid.Messages

/-!
# Messages and lines

What a binlog reader means to send is one of three kinds of messages. A line that is one of them is
applied as such, and any other line should leave the set as it is.

`read_next_gtid` does so for messages that fit its two arrays, if the bytes behind a uuid of a
bootstrap are null already, and for other lines that are short and do not look like a message
(`line_handled`). Lengths, separators and the second letter of a message are not tested.
-/

namespace MockProxy.Gtid

open CString Machine List

/-! ### Messages -/

/-- A transaction number, as it is written -/
structure Number where
  text : List Char
  nonempty : text ≠ []
  isDigits : ∀ c ∈ text, isDigit c = true
  small : digits 0 text < 2 ^ 63

def Number.value (n : Number) : Int := digits 0 n.text

/-- A uuid, as it is written: there are no separators in it. -/
structure Uuid where
  text : List Char
  nonempty : text ≠ []
  plain : ∀ c ∈ text, c ∉ [',', ':', '\n', '\x00']

/-- An interval of transactions of one source -/
structure Entry where
  uuid : Uuid
  trxFrom : Number
  trxTo : Number

/-- A message of a binlog reader -/
inductive Message where
  | bootstrap (entries : List Entry)
  | first (uuid : Uuid) (trxid : Number)
  | next (trxid : Number)

def Entry.interval (e : Entry) : List Char := e.trxFrom.text ++ '-' :: e.trxTo.text

def Entry.encode (e : Entry) : List Char := e.uuid.text ++ ':' :: e.interval

/-- The line of a message -/
def Message.encode : Message → List Char
  | bootstrap entries => 'S' :: 'T' :: '=' :: [','].intercalate (entries.map Entry.encode)
  | first uuid trxid => 'I' :: '1' :: '=' :: (uuid.text ++ ':' :: trxid.text)
  | next trxid => 'I' :: '2' :: '=' :: trxid.text

def Entry.stripped (e : Entry) : List Char := e.uuid.text.filter (· ≠ '-')

def Entry.apply (gtidExecuted : GtidSet) (e : Entry) : GtidSet :=
  emplaceBack (String.ofList e.stripped) (e.trxFrom.value, e.trxTo.value) gtidExecuted

/-- What a message does to the set. `last` is the uuid sent last. -/
def Message.apply (last : String) (gtidExecuted : GtidSet) : Message → GtidSet
  | bootstrap entries => entries.foldl Entry.apply gtidExecuted
  | first uuid trxid => addGtid (String.ofList uuid.text, trxid.value) gtidExecuted
  | next trxid => addGtid (last, trxid.value) gtidExecuted

open Entry

/-- `uuid_server`, as a string -/
def Gtids.last (s : Gtids) : String := String.ofList (s.uuidServer.val.takeWhile (· ≠ '\x00'))

/-! ### Lines that are handled -/

def EntriesFit : (bytes : List Char) → List Entry → Prop
  | _, [] => True
  | bytes, e :: rest => bytes[e.stripped.length]? = some '\x00' ∧
      EntriesFit (e.stripped ++ bytes.drop e.stripped.length) rest

/-- The message fits in the arrays it is copied to. -/
def Message.Fits (s : Gtids) : Message → Prop
  | bootstrap entries =>
    (bootstrap entries).encode.length < 2 ^ 31 ∧ EntriesFit s.uuidServer.val entries
  | first uuid trxid => (first uuid trxid).encode.length < 80 ∧ uuid.text.length < 64
  | next trxid => (next trxid).encode.length < 80

def Safe (s : Gtids) (line : List Char) : Prop :=
  (line.length < 80 ∧ line.take 3 ≠ ['S', 'T', '='] ∧ line.head? ≠ some 'I') ∨
    ∃ m : Message, line = m.encode ∧ m.Fits s

def Handled (s s' : Gtids) (line : List Char) : Prop :=
  (∃ m : Message, line = m.encode ∧ s'.gtidExecuted = m.apply s.last s.gtidExecuted) ∨
    (∀ m : Message, line ≠ m.encode) ∧ s'.gtidExecuted = s.gtidExecuted

/-- The last byte of `uuid_server` is null, so that it is a string. -/
def Terminated (s : Gtids) : Prop := s.uuidServer.val[63]? = some '\x00'

/-! ### Texts -/

theorem Uuid.nul_notMem (uuid : Uuid) : '\x00' ∉ uuid.text :=
  fun member => uuid.plain _ member (by simp)

theorem Uuid.comma_notMem (uuid : Uuid) : ',' ∉ uuid.text :=
  fun member => uuid.plain _ member (by simp)

theorem Uuid.colon_notMem (uuid : Uuid) : ':' ∉ uuid.text :=
  fun member => uuid.plain _ member (by simp)

variable {c : Char} {text line : List Char} {u : UuidServer} {s : Gtids} (n : Number)

theorem Number.notMem (other : isDigit c = false) : c ∉ n.text := by
  intro member
  rw [n.isDigits c member] at other
  cases other

theorem Number.atoll_text : atoll n.text = n.value :=
  atoll_number n.nonempty n.isDigits n.small

theorem Number.int64_digits : int64 (digits 0 n.text : Nat) = n.value := by
  have small := n.small
  exact int64_eq (by omega) (by omega)

theorem Number.scanUlong_append {rest : List Char} (ends : rest.head?.any isDigit = false) :
    scanUlong (n.text ++ rest) = some (digits 0 n.text, rest) := by
  have small := n.small
  exact scanUlong_number n.nonempty n.isDigits (by omega) ends

theorem Number.scanUlong_text : scanUlong n.text = some (digits 0 n.text, []) := by
  have alone : scanUlong (n.text ++ []) = _ := n.scanUlong_append rfl
  rwa [append_nil] at alone

variable (e : Entry)

theorem Entry.notMem_interval (other : isDigit c = false) (dash : c ≠ '-') : c ∉ e.interval := by
  simp only [interval, mem_append, mem_cons, not_or]
  exact ⟨e.trxFrom.notMem other, dash, e.trxTo.notMem other⟩

theorem Entry.notMem_encode (other : isDigit c = false) (dash : c ≠ '-')
    (colon : c ≠ ':') (absent : c ∉ e.uuid.text) : c ∉ e.encode := by
  simp only [encode, mem_append, mem_cons, not_or]
  exact ⟨absent, colon, e.notMem_interval other dash⟩

theorem Entry.subtokens_encode : subtokens e.encode = [(e.uuid.text, 0), (e.interval, 1)] := by
  have joined : [':'].intercalate [e.uuid.text, e.interval] = e.encode := by
    simp [intercalate, encode]
  unfold subtokens
  rw [← joined, tokens_intercalate]
  · rfl
  · rw [forall_mem_cons, forall_mem_singleton]
    exact ⟨e.uuid.colon_notMem, e.notMem_interval (by decide) (by decide)⟩
  · rw [forall_mem_cons, forall_mem_singleton]
    exact ⟨e.uuid.nonempty, by simp [interval]⟩

theorem notMem_intercalate {sent : List Entry} (other : isDigit c = false)
    (apart : c ∉ ['-', ':', ','])
    (absent : ∀ e : Entry, c ∉ e.uuid.text) : c ∉ [','].intercalate (sent.map encode) := by
  simp only [mem_cons, not_mem_nil, or_false, not_or] at apart
  intro inside
  rcases mem_of_mem_intercalate inside with same | ⟨part, member, found⟩
  · exact apart.2.2 same
  · obtain ⟨e, -, rfl⟩ := mem_map.mp member
    exact e.notMem_encode other apart.1 apart.2.1 (absent e) found

theorem entries_intercalate (sent : List Entry) :
    entries ([','].intercalate (sent.map encode)) = sent.map encode := by
  have clean : '\x00' ∉ [','].intercalate (sent.map encode) :=
    notMem_intercalate (by decide) (by decide) fun e => e.uuid.nul_notMem
  unfold entries
  rw [takeWhile_clean clean, tokens_intercalate]
  · intro part member
    obtain ⟨e, -, rfl⟩ := mem_map.mp member
    exact e.notMem_encode (by decide) (by decide) (by decide) e.uuid.comma_notMem
  · intro part member
    obtain ⟨e, -, rfl⟩ := mem_map.mp member
    simp [encode]

/-! ### Uuids -/

theorem UuidServer.write_ok (u : UuidServer) (fits : text.length ≤ 64) :
    ∃ u', u.write text = .ok u' ∧ u'.val = text ++ u.val.drop text.length := by
  unfold UuidServer.write
  rw [dif_pos fits]
  exact ⟨_, rfl, rfl⟩

theorem UuidServer.string_of_nulTerminated (terminated : NulTerminated u.val text)
    (clean : '\x00' ∉ text) : u.string = .ok (String.ofList text) := by
  unfold UuidServer.string
  rw [cString_of_nulTerminated terminated clean]
  rfl

theorem getElem?_write {u' : UuidServer} (written : u'.val = text ++ u.val.drop text.length)
    (short : text.length ≤ 63) : u'.val[63]? = u.val[63]? := by
  rw [written, getElem?_append_right short, getElem?_drop]
  congr 1
  omega

theorem Terminated.string (terminated : Terminated s) : s.uuidServer.string = .ok s.last := by
  have inside : '\x00' ∈ s.uuidServer.val := mem_of_getElem? terminated
  unfold UuidServer.string cString
  rw [if_pos inside]
  rfl

theorem Gtids.add_ok {uuid : String} (string : s.uuidServer.string = .ok uuid) (trxid : Int) :
    ∃ s', s.add trxid = .ok s' ∧ s'.uuidServer = s.uuidServer ∧
      s'.gtidExecuted = addGtid (uuid, trxid) s.gtidExecuted := by
  refine ⟨{ s with
    gtidExecuted := addGtid (uuid, trxid) s.gtidExecuted
    eventsRead := (s.eventsRead + 1) % 2 ^ 64 }, ?_, rfl, rfl⟩
  unfold Gtids.add
  rw [string]
  rfl

/-! ### Bootstraps -/

theorem Entry.scanInterval_interval (frame : Frame) (k : Nat) :
    scanInterval frame k e.interval = (e.trxFrom.value, e.trxTo.value) := by
  unfold scanInterval interval
  rw [e.trxFrom.scanUlong_append (by rfl)]
  dsimp only
  rw [scanTrxTo, e.trxTo.scanUlong_text, Option.map_some, Option.getD_some, e.trxFrom.int64_digits,
    e.trxTo.int64_digits]

theorem Entry.nul_notMem_stripped : '\x00' ∉ e.stripped :=
  fun member => e.uuid.nul_notMem (mem_of_mem_filter member)

theorem length_lt_of_behind {n : Nat} (behind : u.val[n]? = some '\x00') : n < 64 := by
  have bound := (List.getElem?_eq_some_iff.mp behind).1
  rwa [u.property] at bound

variable (frame : Frame)

theorem readToken_encode (s : Gtids) (k : Nat) (e : Entry)
    (behind : s.uuidServer.val[e.stripped.length]? = some '\x00') :
    ∃ s', readToken frame (s, k) e.encode = .ok (s', k + 1) ∧
      s'.uuidServer.val = e.stripped ++ s.uuidServer.val.drop e.stripped.length ∧
      s'.gtidExecuted = apply s.gtidExecuted e := by
  have inside := length_lt_of_behind behind
  obtain ⟨u, written, bytes⟩ := s.uuidServer.write_ok (Nat.le_of_lt inside)
  have terminated : NulTerminated u.val e.stripped := by
    -- the byte behind the uuid is the one that was there before
    obtain ⟨bound, same⟩ := List.getElem?_eq_some_iff.mp behind
    unfold NulTerminated
    rw [bytes, prefix_append_right_inj, drop_eq_getElem_cons bound, same]
    exact cons_prefix_cons.mpr ⟨rfl, nil_prefix⟩
  have string := UuidServer.string_of_nulTerminated terminated e.nul_notMem_stripped
  refine ⟨{ s with uuidServer := u, gtidExecuted := apply s.gtidExecuted e }, ?_, bytes, rfl⟩
  have first : readSubtoken frame (s, k) (e.uuid.text, 0) =
      .ok ({ s with uuidServer := u }, k) := by
    change (s.uuidServer.write e.stripped >>= _) = _
    rw [written]
    rfl
  have second : readSubtoken frame ({ s with uuidServer := u }, k) (e.interval, 1) =
      .ok ({ s with uuidServer := u, gtidExecuted := apply s.gtidExecuted e }, k + 1) := by
    unfold readSubtoken
    rw [string, e.scanInterval_interval]
    rfl
  unfold readToken
  rw [e.subtokens_encode, foldlM_cons, first]
  change (readSubtoken frame _ _ >>= _) = _
  rw [second]
  rfl

theorem foldlM_readToken (sent : List Entry) (s : Gtids) (k : Nat)
    (terminated : Terminated s) (fits : EntriesFit s.uuidServer.val sent) :
    ∃ s' k', (sent.map encode).foldlM (readToken frame) (s, k) = .ok (s', k') ∧ Terminated s' ∧
      s'.gtidExecuted = sent.foldl apply s.gtidExecuted := by
  -- the array is the one the entries before have left
  induction sent generalizing s k with
  | nil => exact ⟨s, k, rfl, terminated, rfl⟩
  | cons e rest ih =>
    obtain ⟨behind, later⟩ := fits
    have inside := length_lt_of_behind behind
    obtain ⟨s', read, bytes, applied⟩ := readToken_encode frame s k e behind
    have still : Terminated s' := (getElem?_write bytes (by omega)).trans terminated
    obtain ⟨s'', k', done, ends, all⟩ := ih s' (k + 1) still (bytes ▸ later)
    refine ⟨s'', k', ?_, ends, ?_⟩
    · rw [map_cons, foldlM_cons, read]
      exact done
    · rw [all, applied]
      rfl

/-! ### Lines -/

theorem lineLength_of_lt (short : line.length < 2 ^ 31) : lineLength line = line.length := by
  unfold lineLength
  exact Int.bmod_eq_of_le (by omega) (by omega)

theorem readLine_of_lt (short : line.length < 2 ^ 31) (frame : Frame) (s : Gtids) :
    readLine frame s line = if line.take 3 = ['S', 'T', '='] then
      readBootstrap frame s (line.drop 3)
      else readMessage frame s line := by
  have length := lineLength_of_lt short
  unfold readLine
  rw [length, Int.toNat_natCast, take_length, if_neg (by omega)]
  by_cases bootstrap : line.take 3 = ['S', 'T', '=']
  · have long : min 3 line.length = 3 := by
      rw [← length_take, bootstrap]
      rfl
    rw [if_pos bootstrap, if_pos bootstrap, if_neg (by omega)]
  · rw [if_neg bootstrap, if_neg bootstrap]

theorem storeMessage_ok (short : line.length < 80) :
    ∃ behind, storeMessage frame line = .ok (strncpyText line ++ '\x00' :: behind) := by
  unfold storeMessage
  rw [if_pos short]
  exact ⟨_, rfl⟩

theorem readMessage_clean (s : Gtids) {kind : Char} {body : List Char}
    (short : body.length + 3 < 80) (nonzero : kind ≠ '\x00') (clean : '\x00' ∉ body) :
    ∃ behind, readMessage frame s ('I' :: kind :: '=' :: body) =
      if kind = '1' then readFirst s (body ++ '\x00' :: behind)
      else if kind = '2' then readNext s (body ++ '\x00' :: behind) else s.add 0 := by
  -- without null bytes `strncpy` copies all of it
  have absent : '\x00' ∉ 'I' :: kind :: '=' :: body := by
    simp only [mem_cons, not_or]
    exact ⟨by decide, nonzero.symm, by decide, clean⟩
  obtain ⟨behind, stored⟩ :=
    storeMessage_ok frame (show ('I' :: kind :: '=' :: body).length < 80 from short)
  refine ⟨behind, ?_⟩
  unfold readMessage
  rw [stored, strncpyText_eq absent]
  simp

theorem readFirst_ok (s : Gtids) (uuid : Uuid) (trxid : Number) (behind : List Char)
    (fits : uuid.text.length < 64) (terminated : Terminated s) :
    ∃ s', readFirst s (uuid.text ++ ':' :: trxid.text ++ '\x00' :: behind) = .ok s' ∧
      Terminated s' ∧
      s'.gtidExecuted = addGtid (String.ofList uuid.text, trxid.value) s.gtidExecuted := by
  have size : (uuid.text ++ ['\x00']).length = uuid.text.length + 1 := length_append
  obtain ⟨u, written, bytes⟩ :=
    s.uuidServer.write_ok (show (uuid.text ++ ['\x00']).length ≤ 64 by omega)
  have string : u.string = .ok (String.ofList uuid.text) :=
    UuidServer.string_of_nulTerminated (bytes ▸ prefix_append _ _) uuid.nul_notMem
  obtain ⟨s', added, kept, applied⟩ :=
    Gtids.add_ok (s := { s with uuidServer := u }) string trxid.value
  refine ⟨s', ?_, ?_, applied⟩
  · rw [append_assoc, cons_append, readFirst,
      strchr_found uuid.colon_notMem uuid.nul_notMem]
    dsimp only [ok_bind]
    rw [take_left, written, ← drop_drop, drop_left, drop_succ_cons,
      drop_zero, atollAt_nul, trxid.atoll_text]
    exact added
  · unfold Terminated
    rw [kept]
    by_cases last : uuid.text.length = 63
    · -- the null byte is the last one that was written
      rw [bytes, getElem?_append_left (by omega), getElem?_append_right (by omega), last]
      rfl
    · exact (getElem?_write bytes (by omega)).trans terminated

/-! ### What becomes of a line -/

theorem Message.take_encode (m : Message) :
    m.encode.take 3 ∈ [['S', 'T', '='], ['I', '1', '='], ['I', '2', '=']] := by
  cases m with
  | bootstrap entries => simp [encode]
  | first uuid trxid => simp [encode]
  | next trxid => simp [encode]

theorem ne_encode (notBootstrap : line.take 3 ≠ ['S', 'T', '=']) (other : line.head? ≠ some 'I')
    (m : Message) : line ≠ m.encode := by
  rintro rfl
  cases m with
  | bootstrap entries => exact notBootstrap rfl
  | first uuid trxid => exact other rfl
  | next trxid => exact other rfl

theorem readMessage_other (s : Gtids) (short : line.length < 80)
    (other : line.head? ≠ some 'I') : readMessage frame s line = .ok s := by
  obtain ⟨behind, stored⟩ := storeMessage_ok frame short
  have head : (strncpyText line ++ '\x00' :: behind)[0]? ≠ some 'I' := by
    cases line with
    | nil => simp [strncpyText]
    | cons c rest =>
      by_cases nul : c = '\x00'
      · simp [strncpyText, nul, replicate_succ]
      · simpa [strncpyText, nul] using other
  unfold readMessage
  rw [stored]
  dsimp only [ok_bind]
  rw [if_neg head]
  rfl

theorem readLine_encode (terminated : Terminated s) (frame : Frame) {m : Message}
    (fits : m.Fits s) : ∃ s', readLine frame s m.encode = .ok s' ∧ Terminated s' ∧
      s'.gtidExecuted = m.apply s.last s.gtidExecuted := by
  cases m with
  | bootstrap sent =>
    obtain ⟨s', k, done, ends, applied⟩ := foldlM_readToken frame sent s 0 terminated fits.2
    refine ⟨s', ?_, ends, applied⟩
    rw [readLine_of_lt fits.1]
    change readBootstrap frame s ([','].intercalate (sent.map encode)) = _
    unfold readBootstrap
    rw [entries_intercalate, done]
    rfl
  | first uuid trxid =>
    have clean : '\x00' ∉ uuid.text ++ ':' :: trxid.text := by
      simp only [mem_append, mem_cons, not_or]
      exact ⟨uuid.nul_notMem, by decide, trxid.notMem (by decide)⟩
    obtain ⟨behind, read⟩ := readMessage_clean frame s fits.1 (show '1' ≠ '\x00' by decide) clean
    obtain ⟨s', done, ends, applied⟩ := readFirst_ok s uuid trxid behind fits.2 terminated
    refine ⟨s', ?_, ends, applied⟩
    have short := fits.1
    rw [readLine_of_lt (by omega)]
    exact read.trans done
  | next trxid =>
    have short : (Message.next trxid).encode.length < 80 := fits
    obtain ⟨behind, read⟩ := readMessage_clean frame s short (show '2' ≠ '\x00' by decide)
      (trxid.notMem (by decide))
    obtain ⟨s', added, kept, applied⟩ := Gtids.add_ok terminated.string trxid.value
    refine ⟨s', ?_, ?_, applied⟩
    · rw [readLine_of_lt (by omega)]
      rw [readNext_nul, trxid.atoll_text] at read
      exact read.trans added
    · unfold Terminated
      rw [kept]
      exact terminated

theorem Safe.handled (safe : Safe s line) (terminated : Terminated s) (frame : Frame) :
    ∃ s', readLine frame s line = .ok s' ∧ Terminated s' ∧ Handled s s' line := by
  rcases safe with ⟨short, notBootstrap, other⟩ | ⟨m, rfl, fits⟩
  · refine ⟨s, ?_, terminated, .inr ⟨ne_encode notBootstrap other, rfl⟩⟩
    rw [readLine_of_lt (by omega), if_neg notBootstrap]
    exact readMessage_other frame s short other
  · obtain ⟨s', read, ends, applied⟩ := readLine_encode terminated frame fits
    exact ⟨s', read, ends, .inl ⟨m, rfl, applied⟩⟩

def lineStep (s : Gtids) (input : Frame × List Char) : Except MemFault Gtids :=
  readLine input.1 s input.2

theorem terminated_of_run (run : Run lineStep (fun s input => Safe s input.2) .start s) :
    Terminated s := by
  apply run.invariant Terminated
  · unfold Terminated
    decide +kernel
  · intro before input after terminated safe stepped
    obtain ⟨s', read, ends, -⟩ := safe.handled terminated input.1
    cases read.symm.trans stepped
    exact ends

/-- As long as all lines were safe, the next safe line is handled without a fault: it is applied as
a message, or it is none and the set stays as it is. -/
theorem line_handled {s : Gtids} (run : Run lineStep (fun s input => Safe s input.2) .start s)
    {line : List Char} (safe : Safe s line) (frame : Frame) :
    ∃ s', readLine frame s line = .ok s' ∧ Handled s s' line := by
  obtain ⟨s', read, -, handled⟩ := safe.handled (terminated_of_run run) frame
  exact ⟨s', read, handled⟩

def nines : Frame := ⟨replicate 80 '9', rfl, fun _ => 9, fun _ => 9⟩

def abUuid : Uuid := ⟨['a', 'b'], by simp, by simp⟩
def four : Number := ⟨['4'], by simp, by simp [isDigit], by decide⟩
def five : Number := ⟨['5'], by simp, by simp [isDigit], by decide⟩

theorem line_handled_next :
    ∃ s s', readLine nines .start "I1=ab:4".toList = .ok s ∧
      readLine nines s "I2=5".toList = .ok s' ∧
      Handled .start s "I1=ab:4".toList ∧ Handled s s' "I2=5".toList := by
  have first : Safe .start "I1=ab:4".toList := .inr ⟨.first abUuid four, rfl, by decide, by decide⟩
  obtain ⟨s, read, handled⟩ := line_handled .start first nines
  have next : Safe s "I2=5".toList :=
    .inr ⟨.next five, rfl, show (Message.next five).encode.length < 80 by decide⟩
  have run : Run lineStep (fun s input => Safe s input.2) .start s :=
    .step (i := (nines, "I1=ab:4".toList)) .start first read
  obtain ⟨s', read', handled'⟩ := line_handled run next nines
  exact ⟨s, s', read, read', handled, handled'⟩

def heldAfter (line : List Char) (uuid : String) : Except MemFault (Option (List (Int × Int))) :=
  (readLine nines .start line).map fun s => s.gtidExecuted uuid

/-- A long line and a long uuid are written behind their arrays, and a missing colon is used. A line
that is no message adds a transaction, a missing number is taken from the stack, and a short uuid is
continued by the one before it. -/
theorem lines_not_handled : heldAfter (replicate 80 'x') "" = .error .outOfBounds ∧
    heldAfter ("I1=".toList ++ replicate 64 'a' ++ ":1".toList) "" = .error .outOfBounds ∧
    heldAfter "I1=abc".toList "" = .error .nullPointer ∧
    (∀ m : Message, "Ix".toList ≠ m.encode) ∧ heldAfter "Ix".toList "" = .ok (some [(0, 0)]) ∧
    heldAfter "ST=ab:5".toList "ab" = .ok (some [(5, 9)]) ∧
    heldAfter "ST=abcd:1-2,ef:3-4".toList "efcd" = .ok (some [(3, 4)]) := by
  refine ⟨by decide +kernel, by decide +kernel, by decide +kernel, ?_, by decide +kernel,
    by decide +kernel, by decide +kernel⟩
  intro m same
  have starts := m.take_encode
  rw [← same] at starts
  exact absurd starts (by decide)

end MockProxy.Gtid
