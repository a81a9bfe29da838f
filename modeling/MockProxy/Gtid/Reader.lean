import MockProxy.Gtid.Messages
import MockProxy.Lib.Records

/-!
# Reading from a binlog reader

`GTID_Server_Data` keeps what it has received in a buffer that grows, with the position of the first
byte that was not handled yet. After every read all complete lines are handled, and the buffer is
moved to its front once half of it is used up.

The lines that are found do not depend on how the stream was cut into reads, and what has been read
changes with the lines alone, unless a line makes use of what was on the stack (`consumes_agree`).
-/

namespace MockProxy.Gtid

open CString Machine Records List Splitter

/-! ### Lines -/

/-- `memchr(data+pos,'\n',len-pos)`, and the line before it -/
def nextLine (u : List Char) : Option (List Char) :=
  if '\n' ∈ u then some (u.takeWhile (· ≠ '\n')) else none

/-- `pos += l+1` -/
def lineConsumed (line : List Char) : Nat := (lineLength line).toNat + 1

variable {line chunk rest : List Char} {stack : Nat → Frame} {d : ServerData}

theorem takeWhile_line (absent : '\n' ∉ line) :
    (line ++ '\n' :: rest).takeWhile (· ≠ '\n') = line := by
  have inside : ∀ c ∈ line, decide (c ≠ '\n') := by
    intro c member
    exact decide_eq_true fun newline => absent (newline ▸ member)
  rw [takeWhile_append_of_pos inside, takeWhile_cons_of_neg (by decide), append_nil]

theorem nextLine_line (rest : List Char) (absent : '\n' ∉ line) :
    nextLine (line ++ '\n' :: rest) = some line := by
  unfold nextLine
  rw [if_pos (by simp), takeWhile_line absent]

theorem exists_of_nextLine {u : List Char} (found : nextLine u = some line) :
    ∃ rest, u = line ++ '\n' :: rest ∧ '\n' ∉ line := by
  unfold nextLine at found
  split at found
  next inside =>
    obtain ⟨before, rest, rfl, absent⟩ := eq_append_cons_of_mem inside
    rw [takeWhile_line absent] at found
    cases found
    exact ⟨rest, rfl, absent⟩
  · cases found

theorem toNat_lineLength_le (line : List Char) : (lineLength line).toNat ≤ line.length := by
  -- the length of a line that is too long for an `int` is taken modulo 2 ^ 32
  unfold lineLength int32
  rw [Int.bmod_def]
  split <;> omega

/-- How lines are found in the buffer -/
def lines : Splitter Char where
  next := nextLine
  consumed := lineConsumed
  next_append := by
    intro u line v found
    obtain ⟨rest, rfl, absent⟩ := exists_of_nextLine found
    rw [append_assoc, cons_append]
    exact nextLine_line _ absent
  consumed_pos _ := Nat.succ_pos _
  consumed_le := by
    intro u line found
    obtain ⟨rest, rfl, -⟩ := exists_of_nextLine found
    have length := toNat_lineLength_le line
    unfold lineConsumed
    rw [length_append, length_cons]
    omega

/-! ### The buffer -/

/-- `data`, `len`, `pos` and `size`: `data` is what is before `len`. -/
structure Buffer where
  data : List Char
  pos : Nat
  size : Nat
  pos_le : pos ≤ data.length
  len_le : data.length ≤ size

namespace Buffer

theorem pos_le_create : 0 ≤ ([] : List Char).length := le_rfl

def create : Buffer := ⟨[], 0, 1024, pos_le_create, Nat.zero_le _⟩

variable (b : Buffer)

def unread : List Char := b.data.drop b.pos

/-- `if (size == len) resize(len*2)` -/
def expand : Buffer :=
  if b.size = b.data.length then
    { b with size := b.data.length * 2, len_le := Nat.le_mul_of_pos_right _ (by decide) }
  else b

/-- `size-len` when `read` is called -/
def room : Nat := b.expand.size - b.data.length

theorem data_expand : b.expand.data = b.data := by
  unfold expand
  split <;> rfl

/-- What `read` returned is put behind what there is. A read that was interrupted returned
nothing. -/
def readall (chunk : List Char) (fits : chunk.length ≤ b.room) : Buffer where
  data := b.data ++ chunk
  pos := b.pos
  size := b.expand.size
  pos_le := by
    have := b.pos_le
    rw [length_append]
    omega
  len_le := by
    have inside := b.expand.len_le
    rw [data_expand] at inside
    unfold room at fits
    rw [length_append]
    omega

/-- Bytes are handled. -/
def advance (n : Nat) (fits : n ≤ b.unread.length) : Buffer :=
  { b with
    pos := b.pos + n
    pos_le := by
      have := b.pos_le
      unfold unread at fits
      rw [length_drop] at fits
      omega }

/-- `memmove(data,data+pos,len-pos)` once half of the buffer was handled -/
def compact : Buffer :=
  if b.pos ≥ b.data.length / 2 then
    { b with
      data := b.data.drop b.pos
      pos := 0
      pos_le := Nat.zero_le _
      len_le := by
        have := b.len_le
        rw [length_drop]
        omega }
  else b

theorem unread_readall (chunk : List Char) (fits : chunk.length ≤ b.room) :
    (b.readall chunk fits).unread = b.unread ++ chunk :=
  drop_append_of_le_length b.pos_le

theorem unread_advance (n : Nat) (fits : n ≤ b.unread.length) :
    (b.advance n fits).unread = b.unread.drop n :=
  (drop_drop).symm

theorem unread_compact : b.compact.unread = b.unread := by
  unfold compact
  split
  · rfl
  · rfl

end Buffer

/-! ### Handling what was received -/

/-- `GTID_Server_Data`; `calls` counts the calls of `read_next_gtid`. -/
structure ServerData where
  buffer : Buffer
  gtids : Gtids
  calls : Nat

open ServerData

def ServerData.create : ServerData := ⟨.create, .start, 0⟩

/-- `read_next_gtid`; `stack` is what each call finds there. -/
def readNextGtid (stack : Nat → Frame) (d : ServerData) : Except MemFault (Bool × ServerData) :=
  match found : lines.next d.buffer.unread with
  | none => .ok (false, { d with calls := d.calls + 1 })
  | some line => do
    let gtids ← readLine (stack d.calls) d.gtids line
    return (true, ⟨d.buffer.advance (lines.consumed line) (lines.consumed_le found), gtids,
      d.calls + 1⟩)

/-- `while (read_next_gtid()) {}` with a bound on the number of calls -/
def readLoop (stack : Nat → Frame) : Nat → ServerData → Except MemFault ServerData
  | 0, d => .ok d
  | fuel + 1, d => do
    let (more, d) ← readNextGtid stack d
    if more then readLoop stack fuel d else return d

/-- `read_all_gtids`: every line has at least one byte. -/
def readAllGtids (stack : Nat → Frame) (d : ServerData) : Except MemFault ServerData :=
  readLoop stack (d.buffer.unread.length + 1) d

def dump (stack : Nat → Frame) (d : ServerData) : Except MemFault ServerData :=
  if d.buffer.data.length = 0 then .ok d
  else do
    let d ← readAllGtids stack d
    return { d with buffer := d.buffer.compact }

/-- `reader_cb` for a read that did not fail -/
def readerCb (stack : Nat → Frame) (d : ServerData) (chunk : List Char)
    (fits : chunk.length ≤ d.buffer.room) : Except MemFault ServerData :=
  dump stack { d with buffer := d.buffer.readall chunk fits }

/-- A stream is consumed by reads that fit in the buffer, with a result. -/
inductive Consumes (stack : Nat → Frame) :
    ServerData → List Char → Except MemFault ServerData → Prop
  | done (d : ServerData) : Consumes stack d [] (.ok d)
  | read {d d' : ServerData} {chunk rest : List Char} {result : Except MemFault ServerData}
      (fits : chunk.length ≤ d.buffer.room) (read : readerCb stack d chunk fits = .ok d')
      (later : Consumes stack d' rest result) : Consumes stack d (chunk ++ rest) result
  | fault {d : ServerData} {chunk rest : List Char} {f : MemFault}
      (fits : chunk.length ≤ d.buffer.room) (read : readerCb stack d chunk fits = .error f) :
      Consumes stack d (chunk ++ rest) (.error f)

/-- The reads one after another, as long as each of them fits. -/
def consume (stack : Nat → Frame) :
    ServerData → List (List Char) → Option (Except MemFault ServerData)
  | d, [] => some (.ok d)
  | d, chunk :: rest =>
    if fits : chunk.length ≤ d.buffer.room then
      match readerCb stack d chunk fits with
      | .error f => some (.error f)
      | .ok d => consume stack d rest
    else none

variable {result : Except MemFault ServerData}

theorem consumes_of_consume {chunks : List (List Char)}
    (ran : consume stack d chunks = some result) : Consumes stack d chunks.flatten result := by
  induction chunks generalizing d with
  | nil =>
    cases ran
    exact .done d
  | cons chunk rest ih =>
    rw [consume] at ran
    split at ran
    next fits =>
      -- a fault ends the reads
      cases read : readerCb stack d chunk fits with
      | error f =>
        rw [read] at ran
        cases ran
        exact .fault fits read
      | ok d' =>
        rw [read] at ran
        exact .read fits read (ih ran)
    · cases ran

theorem consumes_of_check (stack : Nat → Frame) (d : ServerData) (chunks : List (List Char))
    (p : ServerData → Bool)
    (check : (consume stack d chunks).any (fun result => result.toOption.any p)) :
    ∃ d', Consumes stack d chunks.flatten (.ok d') ∧ p d' := by
  cases ran : consume stack d chunks with
  | none =>
    rw [ran] at check
    cases check
  | some result =>
    rw [ran] at check
    cases result with
    | error f => cases check
    | ok d' => exact ⟨d', consumes_of_consume ran, check⟩

/-! ### The lines decide -/

def ServerData.view (d : ServerData) : Gtids × List Char := (d.gtids, d.buffer.unread)

/-- All lines of `u` are handled, each with the same stack. -/
def handled (frame : Frame) (s : Gtids) (u : List Char) : Except MemFault (Gtids × List Char) :=
  ((lines.records u).foldlM (readLine frame) s).map fun s => (s, lines.leftover u)

def AllDetermined (u : List Char) : Prop := ∀ line ∈ lines.records u, Determined line

section Handled

variable {frame : Frame} {s : Gtids} {u : List Char}

theorem handled_none (none : lines.next u = none) : handled frame s u = .ok (s, u) := by
  unfold handled
  rw [records_none none, leftover_none none]
  rfl

theorem handled_some (found : lines.next u = some line) : handled frame s u =
      readLine frame s line >>= fun s => handled frame s (u.drop (lines.consumed line)) := by
  unfold handled
  rw [records_some found, leftover_some found, foldlM_cons, map_bind]

theorem handled_append (v : List Char) :
    handled frame s (u ++ v) = handled frame s u >>= fun r => handled frame r.1 (r.2 ++ v) := by
  unfold handled
  rw [records_append, leftover_append, foldlM_append]
  cases (lines.records u).foldlM (readLine frame) s with
  | error f => rfl
  | ok s' => rfl

theorem AllDetermined.tail (all : AllDetermined u) (found : lines.next u = some line) :
    Determined line ∧ AllDetermined (u.drop (lines.consumed line)) := by
  unfold AllDetermined at all
  rw [records_some found, forall_mem_cons] at all
  exact all

theorem allDetermined_append (v : List Char) :
    AllDetermined (u ++ v) ↔ AllDetermined u ∧ AllDetermined (lines.leftover u ++ v) := by
  unfold AllDetermined
  rw [records_append, forall_mem_append]

end Handled

/-- The state after a line was handled -/
def ServerData.behind (d : ServerData) {line : List Char}
    (found : lines.next d.buffer.unread = some line)
    (s : Gtids) : ServerData :=
  ⟨d.buffer.advance (lines.consumed line) (lines.consumed_le found), s, d.calls + 1⟩

section Loop

variable {fuel : Nat}

theorem readLoop_none (none : lines.next d.buffer.unread = none) :
    readLoop stack (fuel + 1) d = .ok { d with calls := d.calls + 1 } := by
  rw [readLoop, readNextGtid]
  split
  · rfl
  next found =>
    rw [none] at found
    cases found

theorem readLoop_some {line : List Char} (found : lines.next d.buffer.unread = some line) :
    readLoop stack (fuel + 1) d =
      readLine (stack d.calls) d.gtids line >>= fun s =>
        readLoop stack fuel (d.behind found s) := by
  rw [readLoop, readNextGtid]
  split
  next none =>
    rw [none] at found
    cases found
  next line' found' =>
    obtain rfl : line = line' := Option.some.inj (found.symm.trans found')
    rw [bind_assoc]
    rfl

/-- The loop handles all lines and ends because there is no other one: the bound is not reached. -/
theorem readLoop_view (frame : Frame) (enough : d.buffer.unread.length < fuel)
    (all : AllDetermined d.buffer.unread) :
    (readLoop stack fuel d).map view = handled frame d.gtids d.buffer.unread := by
  induction fuel generalizing d with
  | zero => omega
  | succ fuel ih =>
    cases found : lines.next d.buffer.unread with
    | none =>
      rw [readLoop_none found, handled_none found]
      rfl
    | some line =>
      obtain ⟨here, later⟩ := all.tail found
      rw [readLoop_some found, handled_some found,
        readLine_of_determined here (stack d.calls) frame, map_bind]
      congr 1
      funext s
      have unread : (d.behind found s).buffer.unread = d.buffer.unread.drop (lines.consumed line) :=
        d.buffer.unread_advance _ (lines.consumed_le found)
      -- the rest is shorter, so the bound suffices for it
      have shorter := length_drop_lt found
      rw [← unread] at later shorter ⊢
      exact ih (by omega) later

end Loop

theorem dump_view (frame : Frame) (all : AllDetermined d.buffer.unread) :
    (dump stack d).map view = handled frame d.gtids d.buffer.unread := by
  unfold dump
  split
  next empty =>
    have nothing : d.buffer.unread = [] := by
      unfold Buffer.unread
      rw [length_eq_zero_iff.mp empty, drop_nil]
    rw [nothing, handled_none (by decide)]
    rw [← nothing]
    rfl
  · have loop : (readLoop stack (d.buffer.unread.length + 1) d).map view =
        handled frame d.gtids d.buffer.unread := readLoop_view frame (lt_add_one _) all
    unfold readAllGtids
    rw [← loop]
    cases readLoop stack (d.buffer.unread.length + 1) d with
    | error f => rfl
    | ok d' =>
      -- moving the buffer to its front does not change what is unread
      have same : { d' with buffer := d'.buffer.compact }.view = d'.view := by
        unfold view
        rw [Buffer.unread_compact]
      exact congrArg Except.ok same

theorem readerCb_view (frame : Frame) (stack : Nat → Frame) (fits : chunk.length ≤ d.buffer.room)
    (all : AllDetermined (d.buffer.unread ++ chunk)) :
    (readerCb stack d chunk fits).map view =
      handled frame d.gtids (d.buffer.unread ++ chunk) := by
  have unread := d.buffer.unread_readall chunk fits
  rw [← unread] at all ⊢
  exact dump_view frame all

/-! ### All reads -/

theorem handled_readerCb (frame : Frame) (stack : Nat → Frame) (fits : chunk.length ≤ d.buffer.room)
    (all : AllDetermined (d.buffer.unread ++ (chunk ++ rest))) :
    handled frame d.gtids (d.buffer.unread ++ (chunk ++ rest)) =
      (readerCb stack d chunk fits).map view >>= fun r => handled frame r.1 (r.2 ++ rest) := by
  rw [← append_assoc] at all ⊢
  rw [handled_append, readerCb_view frame stack fits ((allDetermined_append rest).mp all).1]

theorem unread_of_readerCb (frame : Frame) {d' : ServerData} {fits : chunk.length ≤ d.buffer.room}
    (read : readerCb stack d chunk fits = .ok d') (all : AllDetermined (d.buffer.unread ++ chunk)) :
    d'.buffer.unread = lines.leftover (d.buffer.unread ++ chunk) := by
  have view := readerCb_view frame stack fits all
  rw [read] at view
  obtain ⟨s, -, same⟩ := map_eq_ok.mp view.symm
  exact (congrArg Prod.snd same).symm

theorem Consumes.view (frame : Frame) {stream : List Char}
    (consumes : Consumes stack d stream result) (waiting : lines.next d.buffer.unread = none)
    (all : AllDetermined (d.buffer.unread ++ stream)) :
    result.map view = handled frame d.gtids (d.buffer.unread ++ stream) := by
  induction consumes with
  | done d =>
    rw [append_nil, handled_none waiting]
    rfl
  | @read d d' chunk rest result fits read later ih =>
    rw [handled_readerCb frame stack fits all, read]
    rw [← append_assoc, allDetermined_append] at all
    have unread := unread_of_readerCb frame read all.1
    -- no complete line is left, so the rest of the reads starts like the first one
    exact ih (unread ▸ next_leftover _) (unread ▸ all.2)
  | @fault d chunk rest f fits read =>
    rw [handled_readerCb frame stack fits all, read]
    rfl

/-- The transactions, the counter and the uuid do not depend on how a stream is cut into reads, nor
on what the stack holds. A fault does not either. -/
theorem consumes_agree {stack stack' : Nat → Frame} {stream : List Char}
    {result result' : Except MemFault ServerData} (all : AllDetermined stream)
    (left : Consumes stack .create stream result) (right : Consumes stack' .create stream result') :
    result.map gtids = result'.map gtids := by
  have views : result.map view = result'.map view := by
    rw [left.view (stack 0) rfl all, right.view (stack 0) rfl all]
  have gtids : ∀ r : Except MemFault ServerData,
      r.map gtids = (r.map view).map Prod.fst := by
    intro r
    cases r with
    | error f => rfl
    | ok d => rfl
  rw [gtids result, gtids result', views]

/-- Each call finds its own number on the stack, as a digit where the body of a message begins. -/
def numbered (call : Nat) : Frame where
  recMsg := 'x' :: 'x' :: 'x' :: Char.ofNat (49 + call) :: replicate 76 '\x00'
  size := rfl
  trxFrom _ := call
  trxTo _ := call

def bootstrapStream : List Char := "ST=ab:1-2\nI2=3\n".toList

theorem consumes_agree_bootstrap :
    ∃ d d', Consumes numbered .create ([bootstrapStream].flatten) (.ok d) ∧
      Consumes numbered .create (["ST=ab:1".toList, "-2\nI2=3\n".toList].flatten) (.ok d') ∧
      d.calls = 3 ∧ d'.calls = 4 ∧ d.gtids.gtidExecuted = d'.gtids.gtidExecuted := by
  have all : AllDetermined bootstrapStream := by
    unfold AllDetermined
    decide +kernel
  obtain ⟨d, whole, calls⟩ := consumes_of_check numbered .create [bootstrapStream]
    (fun d => d.calls = 3) (by decide +kernel)
  obtain ⟨d', halves, calls'⟩ := consumes_of_check numbered .create
    ["ST=ab:1".toList, "-2\nI2=3\n".toList] (fun d => d.calls = 4) (by decide +kernel)
  have agree := consumes_agree all whole halves
  refine ⟨d, d', whole, halves, of_decide_eq_true calls, of_decide_eq_true calls', ?_⟩
  exact congrArg Gtids.gtidExecuted (Except.ok.inj agree)

/-- The line has no number, and the one that is used is on the stack of the call that handles the
line: that is another one when the line arrives in two parts. -/
theorem consumes_differ : ∃ d d', Consumes numbered .create (["I2\n".toList].flatten) (.ok d) ∧
      Consumes numbered .create (["I2".toList, "\n".toList].flatten) (.ok d') ∧
      d.gtids.gtidExecuted "" = some [(1, 1)] ∧ d'.gtids.gtidExecuted "" = some [(2, 2)] := by
  obtain ⟨d, whole, first⟩ := consumes_of_check numbered .create ["I2\n".toList]
    (fun d => d.gtids.gtidExecuted "" = some [(1, 1)]) (by decide +kernel)
  obtain ⟨d', parts, second⟩ := consumes_of_check numbered .create ["I2".toList, "\n".toList]
    (fun d => d.gtids.gtidExecuted "" = some [(2, 2)]) (by decide +kernel)
  exact ⟨d, d', whole, parts, of_decide_eq_true first, of_decide_eq_true second⟩

end MockProxy.Gtid
