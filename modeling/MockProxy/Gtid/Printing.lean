import MockProxy.Gtid.Reader
import MockProxy.Gtid.Wire

/-!
# Printing the executed GTIDs

`gtid_executed_to_string` writes the uuids with dashes and one entry for each interval, in the order
in which the map is iterated. A binlog reader sends its transactions in the same form.

What was printed is read again as the same set exactly if the line is shorter than 2 GiB
(`bootstrap_round_trip_iff`): `read_next_gtid` keeps the length of a line in an `int`.
-/

namespace MockProxy.Gtid

open CString Machine Records Function List

/-! ### Printing -/

/-- What a `gtid_set_t` holds, in the order in which it is iterated -/
abbrev Listing := List (String × List (Int × Int))

/-- `std::to_string` -/
def toText (x : Int) : List Char := (toString x).toList

/-- `s.insert(pos,"-")`, which throws `std::out_of_range` behind the end -/
def insertDash (s : List Char) (pos : Nat) : Option (List Char) :=
  if pos ≤ s.length then some (s.take pos ++ '-' :: s.drop pos) else none

def dashed (uuid : List Char) : Option (List Char) := [8, 13, 18, 23].foldlM insertDash uuid

/-- `s2` for an interval; `s` ends with the colon. -/
def printInterval (s : List Char) (interval : Int × Int) : List Char :=
  s ++ toText interval.1 ++ ['-'] ++ toText interval.2 ++ [',']

/-- The entries of one uuid are appended. -/
def printSource (gtidSet : List Char) (source : String × List (Int × Int)) :
    Option (List Char) := do
  let s ← dashed source.1.toList
  return source.2.foldl (fun gtidSet interval => gtidSet ++
    printInterval (s ++ [':']) interval) gtidSet

def gtidExecutedToString (listing : Listing) : Option (List Char) := do
  let gtidSet ← listing.foldlM printSource []
  -- `pop_back` of the last comma, if there is one
  return gtidSet.dropLast

def bootstrapLine (text : List Char) : List Char := 'S' :: 'T' :: '=' :: text

/-! ### Sets that are printed -/

/-- Every uuid of the set is met once, with its intervals. -/
structure Lists (gtidExecuted : GtidSet) (listing : Listing) : Prop where
  nodup : (listing.map Prod.fst).Nodup
  holds : ∀ uuid, gtidExecuted uuid = listing.lookup uuid

def isHexDigit (c : Char) : Bool := isDigit c || ('a' ≤ c && c ≤ 'f') || ('A' ≤ c && c ≤ 'F')

def IsUuid (uuid : List Char) : Prop := uuid.length = 32 ∧ ∀ c ∈ uuid, isHexDigit c = true

/-- A number of type `int64_t` that is not negative -/
def IsTrxid (x : Int) : Prop := 0 ≤ x ∧ x < 2 ^ 63

structure Printable (source : String × List (Int × Int)) : Prop where
  uuid : IsUuid source.1.toList
  nonempty : source.2 ≠ []
  trxids : ∀ interval ∈ source.2, IsTrxid interval.1 ∧ IsTrxid interval.2

/-! ### Numbers and uuids -/

theorem toText_natCast (n : Nat) : toText n = Nat.toDigits 10 n := by
  unfold toText
  rw [show toString (n : Int) = Nat.repr n from rfl, Nat.repr, String.toList_ofList]

theorem IsTrxid.exists_number {x : Int} (trxid : IsTrxid x) :
    ∃ number : Number, number.text = toText x ∧ number.value = x := by
  obtain ⟨n, rfl⟩ := Int.eq_ofNat_of_zero_le trxid.1
  have small := trxid.2
  refine ⟨⟨Nat.toDigits 10 n, Nat.toDigits_ne_nil, fun c => isDigit_of_mem_toDigits, ?_⟩,
    (toText_natCast n).symm, ?_⟩
  · rw [digits_toDigits]
    omega
  · unfold Number.value
    rw [digits_toDigits]

theorem plain_of_isHexDigit {c : Char} (hex : isHexDigit c) :
    c ≠ '-' ∧ c ∉ [',', ':', '\n', '\x00'] := by
  constructor
  · rintro rfl
    exact absurd hex (by decide)
  · intro member
    simp only [mem_cons, not_mem_nil, or_false] at member
    rcases member with rfl | rfl | rfl | rfl <;> exact absurd hex (by decide)

/-- A text with some dashes put in -/
structure Dashes (s t : List Char) (n : Nat) : Prop where
  length : t.length = s.length + n
  stripped : t.filter (· ≠ '-') = s.filter (· ≠ '-')
  mem : ∀ c ∈ t, c = '-' ∨ c ∈ s

theorem insertDash_ok {s t : List Char} {n pos : Nat} (dashes : Dashes s t n)
    (inside : pos ≤ s.length + n) : ∃ u, insertDash t pos = some u ∧ Dashes s u (n + 1) := by
  have bound : pos ≤ t.length := dashes.length ▸ inside
  refine ⟨t.take pos ++ '-' :: t.drop pos, if_pos bound, ?_, ?_, ?_⟩
  · rw [length_append, length_cons, length_take, length_drop, dashes.length]
    omega
  · rw [← dashes.stripped, filter_append, filter_cons_of_neg (by decide),
      ← filter_append, take_append_drop]
  · intro c member
    rw [mem_append, mem_cons] at member
    rcases member with before | rfl | behind
    · exact dashes.mem c (mem_of_mem_take before)
    · exact .inl rfl
    · exact dashes.mem c (mem_of_mem_drop behind)

theorem dashed_ok {uuid : List Char} (length : uuid.length = 32) :
    ∃ t, dashed uuid = some t ∧ Dashes uuid t 4 := by
  have plain : Dashes uuid uuid 0 := ⟨rfl, rfl, fun _ => .inr⟩
  obtain ⟨t₁, first, d₁⟩ := insertDash_ok plain (show 8 ≤ _ by omega)
  obtain ⟨t₂, second, d₂⟩ := insertDash_ok d₁ (show 13 ≤ _ by omega)
  obtain ⟨t₃, third, d₃⟩ := insertDash_ok d₂ (show 18 ≤ _ by omega)
  obtain ⟨t₄, fourth, d₄⟩ := insertDash_ok d₃ (show 23 ≤ _ by omega)
  refine ⟨t₄, ?_, d₄⟩
  simp [dashed, first, second, third, fourth]

theorem IsUuid.exists_uuid {uuid : List Char} (isUuid : IsUuid uuid) :
    ∃ u : Uuid, dashed uuid = some u.text ∧ u.text.filter (· ≠ '-') = uuid ∧
      u.text.length = 36 := by
  obtain ⟨length, hex⟩ := isUuid
  obtain ⟨t, printed, dashes⟩ := dashed_ok length
  have size : t.length = 36 := by rw [dashes.length, length]
  refine ⟨⟨t, ne_nil_of_length_pos (by omega), ?_⟩, printed, ?_, size⟩
  · intro c member
    rcases dashes.mem c member with rfl | inside
    · decide
    · exact (plain_of_isHexDigit (hex c inside)).2
  · rw [dashes.stripped, filter_eq_self]
    intro c member
    exact decide_eq_true (plain_of_isHexDigit (hex c member)).1

/-! ### The entries of a printed set -/

def addSource (gtidExecuted : GtidSet) (source : String × List (Int × Int)) : GtidSet :=
  source.2.foldl (fun g interval => emplaceBack source.1 interval g) gtidExecuted

def printed (sent : List Entry) : List Char := (sent.map Entry.encode).flatMap (· ++ [','])

theorem printed_append (sent more : List Entry) :
    printed (sent ++ more) = printed sent ++ printed more := by
  unfold printed
  rw [map_append, flatMap_append]

theorem exists_entries (uuid : String) (u : Uuid) (stripped : u.text.filter (· ≠ '-') = uuid.toList)
    (intervals : List (Int × Int))
    (trxids : ∀ interval ∈ intervals, IsTrxid interval.1 ∧ IsTrxid interval.2) :
    ∃ sent : List Entry, (∀ e ∈ sent, e.stripped = uuid.toList) ∧
      (∀ text, intervals.foldl (fun text i => text ++ printInterval (u.text ++ [':']) i) text =
        text ++ printed sent) ∧ ∀ g, sent.foldl Entry.apply g = addSource g (uuid, intervals) := by
  induction intervals with
  | nil => exact ⟨[], by simp, fun text => (append_nil text).symm, fun g => rfl⟩
  | cons interval rest ih =>
    obtain ⟨sent, same, text, applied⟩ := ih fun i member => trxids i (mem_cons_of_mem _ member)
    obtain ⟨first, second⟩ := trxids interval mem_cons_self
    obtain ⟨trxFrom, writtenFrom, valueFrom⟩ := first.exists_number
    obtain ⟨trxTo, writtenTo, valueTo⟩ := second.exists_number
    refine ⟨⟨u, trxFrom, trxTo⟩ :: sent, ?_, ?_, ?_⟩
    · rw [forall_mem_cons]
      exact ⟨stripped, same⟩
    · intro before
      rw [foldl_cons, text]
      simp [printed, printInterval, Entry.encode, Entry.interval, writtenFrom, writtenTo]
    · intro g
      have added : Entry.apply g ⟨u, trxFrom, trxTo⟩ = emplaceBack uuid interval g := by
        unfold Entry.apply Entry.stripped
        rw [stripped, String.ofList_toList, valueFrom, valueTo]
      rw [foldl_cons, added, applied]
      rfl

theorem exists_entries_listing (listing : Listing)
    (printable : ∀ source ∈ listing, Printable source) :
    ∃ sent : List Entry, (∀ e ∈ sent, e.stripped.length = 32) ∧
      (∀ text, listing.foldlM printSource text = some (text ++ printed sent)) ∧
      ∀ g, sent.foldl Entry.apply g = listing.foldl addSource g := by
  induction listing with
  | nil => exact ⟨[], by simp, fun text => congrArg some (append_nil text).symm, fun g => rfl⟩
  | cons source rest ih =>
    obtain ⟨later, lengths, text, applied⟩ :=
      ih fun s member => printable s (mem_cons_of_mem _ member)
    have here := printable source mem_cons_self
    obtain ⟨u, dashes, stripped, -⟩ := here.uuid.exists_uuid
    obtain ⟨sent, same, printed_here, applied_here⟩ :=
      exists_entries source.1 u stripped source.2 here.trxids
    refine ⟨sent ++ later, ?_, ?_, ?_⟩
    · rw [forall_mem_append]
      exact ⟨fun e member => by rw [same e member]; exact here.uuid.1, lengths⟩
    · intro before
      have printed_source : printSource before source = some (before ++ printed sent) := by
        unfold printSource
        rw [dashes, ← printed_here]
        rfl
      rw [foldlM_cons, printed_source, Option.bind_eq_bind, Option.bind_some, text,
        printed_append, append_assoc]
    · intro g
      rw [foldl_append, applied_here, applied]
      rfl

/-! ### Reading them again -/

variable {g : GtidSet} {stack : Nat → Frame} {d : ServerData} {chunk line : List Char}
  {listing : Listing} {sent : List Entry}

theorem foldl_emplaceBack (uuid : String) (interval : Int × Int) (rest : List (Int × Int))
    (g : GtidSet) : (interval :: rest).foldl (fun g interval => emplaceBack uuid interval g) g =
      update g uuid (some ((g uuid).getD [] ++ interval :: rest)) := by
  induction rest generalizing interval g with
  | nil => rfl
  | cons next rest ih =>
    rw [foldl_cons, ih, emplaceBack, update_self, update_idem,
      Option.getD_some, append_assoc]
    rfl

theorem addSource_of_none {source : String × List (Int × Int)} (nonempty : source.2 ≠ [])
    (absent : g source.1 = none) :
    addSource g source = update g source.1 (some source.2) := by
  obtain ⟨interval, rest, intervals⟩ := exists_cons_of_ne_nil nonempty
  rw [addSource, intervals, foldl_emplaceBack, absent]
  rfl

theorem foldl_addSource (listing : Listing) (nonempty : ∀ source ∈ listing, source.2 ≠ [])
    (nodup : (listing.map Prod.fst).Nodup) (g : GtidSet)
    (fresh : ∀ source ∈ listing, g source.1 = none) (uuid : String) :
    listing.foldl addSource g uuid = (listing.lookup uuid).or (g uuid) := by
  induction listing generalizing g with
  | nil => rfl
  | cons source rest ih =>
    rw [map_cons, nodup_cons] at nodup
    have added := addSource_of_none (nonempty source mem_cons_self)
      (fresh source mem_cons_self)
    have others : ∀ other ∈ rest, other.1 ≠ source.1 := by
      intro other member same
      exact nodup.1 (same ▸ mem_map_of_mem member)
    have later := ih (fun s member => nonempty s (mem_cons_of_mem _ member)) nodup.2
      (addSource g source) (by
        intro other member
        rw [added, update_of_ne (others other member)]
        exact fresh other (mem_cons_of_mem _ member))
    rw [foldl_cons, later, added, lookup_cons]
    by_cases same : uuid = source.1
    · -- it is not listed again
      have absent : rest.lookup uuid = none := by
        rw [lookup_eq_none_iff]
        intro other member
        rw [bne_iff_ne, same]
        exact (others other member).symm
      rw [absent, same, beq_self_eq_true, update_self]
      rfl
    · rw [beq_eq_false_iff_ne.mpr same, update_of_ne same]

theorem Lists.foldl_addSource_eq (lists : Lists g listing)
    (printable : ∀ source ∈ listing, Printable source) :
    listing.foldl addSource (fun _ => none) = g := by
  funext uuid
  rw [foldl_addSource listing (fun s member => (printable s member).nonempty) lists.nodup _
    (fun _ _ => rfl), lists.holds, Option.or_none]

/-- Uuids of one length are written over each other, and the null byte behind them stays. -/
theorem entriesFit_of_length {n : Nat} (lengths : ∀ e ∈ sent, e.stripped.length = n)
    {bytes : List Char} (behind : bytes[n]? = some '\x00') : EntriesFit bytes sent := by
  induction sent generalizing bytes with
  | nil => exact trivial
  | cons e rest ih =>
    obtain ⟨here, later⟩ := forall_mem_cons.mp lengths
    refine ⟨here ▸ behind, ih later ?_⟩
    rw [getElem?_append_right (by omega), getElem?_drop, here, Nat.sub_self]
    exact behind

theorem Entry.scans_interval (e : Entry) : Scans e.interval := by
  unfold Scans Entry.interval
  rw [e.trxFrom.scanUlong_append (by rfl), Option.bind_some, scanTrxTo, e.trxTo.scanUlong_text]
  rfl

theorem determined_encode (short : (Message.bootstrap sent).encode.length < 2 ^ 31) :
    Determined (Message.bootstrap sent).encode := by
  unfold Determined
  rw [lineLength_of_lt short, Int.toNat_natCast, take_length]
  change DeterminedBootstrap ([','].intercalate (sent.map Entry.encode))
  unfold DeterminedBootstrap
  rw [entries_intercalate]
  intro token member subtoken inside odd
  obtain ⟨e, -, rfl⟩ := mem_map.mp member
  rw [e.subtokens_encode, mem_cons, mem_singleton] at inside
  rcases inside with rfl | rfl
  · cases odd
  · exact e.scans_interval

theorem newline_notMem_encode (sent : List Entry) : '\n' ∉ (Message.bootstrap sent).encode := by
  simp only [Message.encode, mem_cons, Char.reduceEq, false_or]
  exact notMem_intercalate (by decide) (by decide) fun e member => e.uuid.plain _ member (by simp)

/-! ### One line in the stream -/

section OneLine

variable {line : List Char}

theorem drop_consumed (short : line.length < 2 ^ 31) :
    (line ++ ['\n']).drop (lines.consumed line) = [] := by
  have consumed : lines.consumed line = line.length + 1 := by
    change (lineLength line).toNat + 1 = _
    rw [lineLength_of_lt short, Int.toNat_natCast]
  rw [consumed]
  exact drop_eq_nil_of_le (by rw [length_append, length_singleton])

variable (absent : '\n' ∉ line) (short : line.length < 2 ^ 31)

include absent short

theorem handled_line (frame : Frame) (s : Gtids) :
    handled frame s (line ++ ['\n']) = (readLine frame s line).map fun s => (s, []) := by
  have found : lines.next (line ++ ['\n']) = some line := nextLine_line [] absent
  have nothing : lines.next [] = none := rfl
  rw [handled_some found, drop_consumed short]
  cases readLine frame s line with
  | error f => rfl
  | ok s' => exact handled_none nothing

theorem allDetermined_line (determined : Determined line) : AllDetermined (line ++ ['\n']) := by
  have found : lines.next (line ++ ['\n']) = some line := nextLine_line [] absent
  have nothing : lines.next [] = none := rfl
  unfold AllDetermined
  rw [Splitter.records_some found, drop_consumed short, Splitter.records_none nothing]
  intro other member
  rw [mem_singleton.mp member]
  exact determined

end OneLine

/-! ### Some cut of the stream -/

theorem Buffer.room_pos {b : Buffer} (positive : 0 < b.size) : 0 < b.room := by
  have inside := b.len_le
  unfold room expand
  split
  · -- twice as much room as there are bytes
    dsimp only
    omega
  · omega

theorem Buffer.size_advance (b : Buffer) (n : Nat) (fits : n ≤ b.unread.length) :
    (b.advance n fits).size = b.size := rfl

variable {d' : ServerData} {fits : chunk.length ≤ d.buffer.room} {fuel : Nat}

theorem size_readLoop (read : readLoop stack fuel d = .ok d') :
    d'.buffer.size = d.buffer.size := by
  induction fuel generalizing d with
  | zero =>
    cases read
    rfl
  | succ fuel ih =>
    cases found : lines.next d.buffer.unread with
    | none =>
      rw [readLoop_none found] at read
      cases read
      rfl
    | some line =>
      rw [readLoop_some found] at read
      obtain ⟨s, -, later⟩ := bind_eq_ok.mp read
      rw [ih later]
      exact Buffer.size_advance _ _ (lines.consumed_le found)

theorem Buffer.size_compact (b : Buffer) : b.compact.size = b.size := by
  unfold compact
  split <;> rfl

theorem size_readerCb
    (read : readerCb stack d chunk fits = .ok d') : d'.buffer.size = d.buffer.expand.size := by
  unfold readerCb dump at read
  split at read
  · cases read
    rfl
  · obtain ⟨e, looped, rfl⟩ := return_eq_ok.mp read
    exact (Buffer.size_compact _).trans (size_readLoop looped)

theorem Buffer.size_le_expand (b : Buffer) : b.size ≤ b.expand.size := by
  unfold expand
  split
  · dsimp only
    omega
  · exact le_rfl

theorem exists_consumes (stack : Nat → Frame) (positive : 0 < d.buffer.size) (stream : List Char) :
    ∃ result, Consumes stack d stream result := by
  induction stream generalizing d with
  | nil => exact ⟨.ok d, .done d⟩
  | cons c rest ih =>
    have fits : [c].length ≤ d.buffer.room := Buffer.room_pos positive
    cases read : readerCb stack d [c] fits with
    | error f => exact ⟨.error f, .fault fits read⟩
    | ok d' =>
      have grown := d.buffer.size_le_expand
      rw [← size_readerCb read] at grown
      obtain ⟨result, later⟩ := ih (d := d') (by omega)
      exact ⟨result, .read fits read later⟩

/-! ### The round trip -/

theorem exists_bootstrap (lists : Lists g listing)
    (printable : ∀ source ∈ listing, Printable source) :
    ∃ text sent, gtidExecutedToString listing = some text ∧
      bootstrapLine text = (Message.bootstrap sent).encode ∧
      EntriesFit UuidServer.zero.val sent ∧ sent.foldl Entry.apply (fun _ => none) = g := by
  obtain ⟨sent, lengths, text, applied⟩ := exists_entries_listing listing printable
  refine ⟨(printed sent).dropLast, sent, ?_, ?_,
    entriesFit_of_length lengths (by decide +kernel), ?_⟩
  · unfold gtidExecutedToString
    rw [text]
    rfl
  · have joined := intercalate_eq_dropLast ',' (sent.map Entry.encode)
    unfold bootstrapLine
    change _ = 'S' :: 'T' :: '=' :: [','].intercalate (sent.map Entry.encode)
    rw [joined, printed]
  · rw [applied, lists.foldl_addSource_eq printable]

variable {result : Except MemFault ServerData}

theorem reads_bootstrap {sent : List Entry}
    (short : (Message.bootstrap sent).encode.length < 2 ^ 31)
    (fits : EntriesFit UuidServer.zero.val sent) {stack : Nat → Frame}
    (consumes : Consumes stack .create ((Message.bootstrap sent).encode ++ ['\n']) result) :
    ∃ d, result = .ok d ∧ d.gtids.gtidExecuted = sent.foldl Entry.apply (fun _ => none) := by
  have absent := newline_notMem_encode sent
  have all := allDetermined_line absent short (determined_encode short)
  -- whatever the stack holds, the line is handled as with its first frame
  have view : result.map ServerData.view = handled (stack 0) .start _ :=
    consumes.view (stack 0) rfl all
  have terminated : Terminated .start := by
    unfold Terminated
    decide +kernel
  obtain ⟨s, read, -, executed⟩ := readLine_encode terminated (stack 0)
    (m := .bootstrap sent) ⟨short, fits⟩
  rw [show ServerData.create.buffer.unread = [] from rfl, nil_append, handled_line absent short,
    read] at view
  obtain ⟨d, rfl, same⟩ := map_eq_ok.mp view
  have gtids : d.gtids = s := congrArg Prod.fst same
  exact ⟨d, rfl, gtids ▸ executed⟩

/-! ### Lines that are too long -/

theorem lineLength_nonneg {frame : Frame} {s s' : Gtids} (read : readLine frame s line = .ok s') :
    0 ≤ lineLength line := by
  unfold readLine at read
  by_contra negative
  rw [if_pos (not_le.mp negative)] at read
  cases read

theorem lengths_of_readLoop (enough : d.buffer.unread.length < fuel)
    (read : readLoop stack fuel d = .ok d') :
    (∀ line ∈ lines.records d.buffer.unread, 0 ≤ lineLength line) ∧
      d'.buffer.unread = lines.leftover d.buffer.unread := by
  induction fuel generalizing d with
  | zero => omega
  | succ fuel ih =>
    cases found : lines.next d.buffer.unread with
    | none =>
      rw [readLoop_none found] at read
      cases read
      rw [Splitter.records_none found, Splitter.leftover_none found]
      exact ⟨by simp, rfl⟩
    | some line =>
      rw [readLoop_some found] at read
      obtain ⟨s, here, later⟩ := bind_eq_ok.mp read
      have unread : (d.behind found s).buffer.unread = d.buffer.unread.drop (lines.consumed line) :=
        d.buffer.unread_advance _ (lines.consumed_le found)
      have shorter := Splitter.length_drop_lt found
      rw [← unread] at shorter
      rw [Splitter.records_some found, Splitter.leftover_some found, forall_mem_cons, ← unread]
      obtain ⟨lengths, left⟩ := ih (by omega) later
      exact ⟨⟨lineLength_nonneg here, lengths⟩, left⟩

theorem lengths_of_readerCb
    (read : readerCb stack d chunk fits = .ok d') :
    (∀ line ∈ lines.records (d.buffer.unread ++ chunk), 0 ≤ lineLength line) ∧
      d'.buffer.unread = lines.leftover (d.buffer.unread ++ chunk) := by
  have unread := d.buffer.unread_readall chunk fits
  unfold readerCb dump at read
  split at read
  next empty =>
    cases read
    have nothing : d.buffer.unread ++ chunk = [] := by
      rw [← unread]
      unfold Buffer.unread
      rw [length_eq_zero_iff.mp empty, drop_nil]
    have none : lines.next (d.buffer.unread ++ chunk) = none := by
      rw [nothing]
      decide
    rw [Splitter.records_none none, Splitter.leftover_none none]
    exact ⟨by simp, unread⟩
  · obtain ⟨e, looped, rfl⟩ := return_eq_ok.mp read
    have lengths := lengths_of_readLoop (lt_add_one _) looped
    rw [unread] at lengths
    exact ⟨lengths.1, e.buffer.unread_compact.trans lengths.2⟩

/-- However a stream is cut and whatever the stack holds, no line that was handled had a negative
length. -/
theorem Consumes.lengths {stream : List Char}
    (consumes : Consumes stack d stream result) (waiting : lines.next d.buffer.unread = none)
      (returned : result = .ok d') :
    ∀ line ∈ lines.records (d.buffer.unread ++ stream), 0 ≤ lineLength line := by
  induction consumes with
  | done d =>
    rw [append_nil, Splitter.records_none waiting]
    simp
  | @read d e chunk rest result fits read later ih =>
    obtain ⟨lengths, unread⟩ := lengths_of_readerCb read
    rw [← append_assoc, Splitter.records_append, forall_mem_append, ← unread]
    exact ⟨lengths, ih (unread ▸ Splitter.next_leftover _) returned⟩
  | fault => cases returned

/-- A line of 2 GiB and more is not handled: its length is negative as an `int`, or so much of it is
taken off that what is left has the length -1. -/
theorem not_ok_of_long (long : 2 ^ 31 ≤ line.length) (absent : '\n' ∉ line) :
    ¬ Consumes stack .create (line ++ ['\n']) (.ok d') := by
  intro consumes
  have lengths := consumes.lengths rfl rfl
  rw [show ServerData.create.buffer.unread = [] from rfl, nil_append,
    Splitter.records_some (nextLine_line [] absent), forall_mem_cons] at lengths
  obtain ⟨first, later⟩ := lengths
  have consumed : lines.consumed line = (lineLength line).toNat + 1 := rfl
  obtain ⟨k, whole⟩ : ∃ k : Int, (line.length : Int) = lineLength line + k * 2 ^ 32 :=
    ⟨(line.length - lineLength line) / 2 ^ 32, by
      unfold lineLength int32
      rw [Int.bmod_def]
      split <;> omega⟩
  have inside : lineLength line < 2 ^ 31 := by
    unfold lineLength int32
    rw [Int.bmod_def]
    split <;> omega
  have rest : (line ++ ['\n']).drop (lines.consumed line) =
      line.drop (lines.consumed line) ++ ['\n'] := drop_append_of_le_length (by omega)
  have without : '\n' ∉ line.drop (lines.consumed line) :=
    fun member => absent (mem_of_mem_drop member)
  rw [rest, Splitter.records_some (nextLine_line [] without), forall_mem_cons] at later
  have second := later.1
  unfold lineLength int32 at second
  rw [length_drop, Int.bmod_def] at second
  split at second <;> omega

/-- What was printed is sent as a bootstrap, in any parts: the same set is there again exactly if
the line is shorter than 2 GiB. -/
theorem bootstrap_round_trip_iff {g : GtidSet} {listing : Listing} (lists : Lists g listing)
    (printable : ∀ source ∈ listing, Printable source) :
    ∃ text, gtidExecutedToString listing = some text ∧ ∀ stack : Nat → Frame,
      (∃ result, Consumes stack .create (bootstrapLine text ++ ['\n']) result) ∧
      ∀ result, Consumes stack .create (bootstrapLine text ++ ['\n']) result →
        ((∃ d, result = .ok d ∧ d.gtids.gtidExecuted = g) ↔
          (bootstrapLine text).length < 2 ^ 31) := by
  obtain ⟨text, sent, printed, line, fits, applied⟩ := exists_bootstrap lists printable
  refine ⟨text, printed, ?_⟩
  rw [line]
  intro stack
  refine ⟨exists_consumes stack (show 0 < 1024 by decide) _, ?_⟩
  intro result consumes
  constructor
  · rintro ⟨d, rfl, -⟩
    by_contra long
    exact not_ok_of_long (not_lt.mp long) (newline_notMem_encode sent) consumes
  · intro short
    rw [← applied]
    exact reads_bootstrap short fits consumes

def allOnes : String := String.ofList (replicate 32 '1')

def twoSources : Listing :=
  [("0123456789abcdefABCDEF9876543210", [(1, 5), (7, 9223372036854775807)]), (allOnes, [(0, 0)])]

theorem bootstrap_round_trip_twoSources :
    ∃ text, gtidExecutedToString twoSources = some text ∧ ∀ stack : Nat → Frame,
      ∃ d, Consumes stack .create (bootstrapLine text ++ ['\n']) (.ok d) ∧
        d.gtids.gtidExecuted = fun uuid => twoSources.lookup uuid := by
  have lists : Lists (fun uuid => twoSources.lookup uuid) twoSources :=
    ⟨by decide +kernel, fun _ => rfl⟩
  have printable : ∀ source ∈ twoSources, Printable source := by
    intro source member
    simp only [twoSources, mem_cons, not_mem_nil, or_false] at member
    rcases member with rfl | rfl <;>
      exact ⟨⟨by decide +kernel, all_eq_true.mp (by decide +kernel)⟩, by simp, by simp [IsTrxid]⟩
  have length : (gtidExecutedToString twoSources).map length = some 140 := by decide +kernel
  obtain ⟨text, printed, reads⟩ := bootstrap_round_trip_iff lists printable
  refine ⟨text, printed, ?_⟩
  rw [printed, Option.map_some, Option.some_inj] at length
  intro stack
  obtain ⟨⟨result, consumes⟩, all⟩ := reads stack
  obtain ⟨d, rfl, same⟩ := (all result consumes).mpr (show text.length + 3 < 2 ^ 31 by omega)
  exact ⟨d, consumes, same⟩

def manyIntervals (n : Nat) : Listing := [(allOnes, replicate n (0, 0))]

theorem exists_text_manyIntervals (n : Nat) :
    ∃ text, gtidExecutedToString (manyIntervals n) = some text ∧ text.length = 41 * n - 1 ∧
      ∀ c ∈ text, c ∈ ['1', '-', ':', '0', ','] := by
  have dashes : dashed allOnes.toList = some "11111111-1111-1111-1111-111111111111".toList := by
    decide +kernel
  have entry : printInterval ("11111111-1111-1111-1111-111111111111".toList ++ [':']) (0, 0) =
      "11111111-1111-1111-1111-111111111111:0-0,".toList := by
    decide +kernel
  refine ⟨(replicate n "11111111-1111-1111-1111-111111111111:0-0,".toList).flatten.dropLast, ?_, ?_,
    ?_⟩
  · unfold gtidExecutedToString manyIntervals
    rw [foldlM_cons, printSource, dashes, ← entry]
    refine congrArg (fun text => some (dropLast text)) ?_
    rw [foldl_append_eq_append, map_replicate, nil_append]
  · simp [Nat.mul_comm]
  · intro c member
    obtain ⟨part, among, inside⟩ := mem_flatten.mp (mem_of_mem_dropLast member)
    have all : "11111111-1111-1111-1111-111111111111:0-0,".toList.all
        (· ∈ ['1', '-', ':', '0', ',']) := by decide +kernel
    exact of_decide_eq_true (all_eq_true.mp all c (eq_of_mem_replicate among ▸ inside))

theorem bootstrap_too_long :
    ∃ g listing text, Lists g listing ∧ (∀ source ∈ listing, Printable source) ∧
      gtidExecutedToString listing = some text ∧ ∀ stack : Nat → Frame,
        (∃ result, Consumes stack .create (bootstrapLine text ++ ['\n']) result) ∧
        ∀ result, Consumes stack .create (bootstrapLine text ++ ['\n']) result →
          ∃ fault, result = .error fault := by
  have lists : Lists (fun uuid => (manyIntervals (2 ^ 26)).lookup uuid) (manyIntervals (2 ^ 26)) :=
    ⟨nodup_singleton _, fun _ => rfl⟩
  have printable : ∀ source ∈ manyIntervals (2 ^ 26), Printable source := by
    intro source member
    rw [mem_singleton.mp member]
    refine ⟨⟨by decide +kernel, all_eq_true.mp (by decide +kernel)⟩, ?_, ?_⟩
    · exact ne_nil_of_length_pos (by rw [length_replicate]; decide)
    · intro interval inside
      rw [eq_of_mem_replicate inside]
      simp [IsTrxid]
  obtain ⟨text, printed, length, plain⟩ := exists_text_manyIntervals (2 ^ 26)
  have size : (bootstrapLine text).length = text.length + 3 := rfl
  have outside : ∀ {c}, c ∉ ['1', '-', ':', '0', ','] → c ∉ text :=
    fun other member => other (plain _ member)
  have absent : '\n' ∉ bootstrapLine text := by
    simp [bootstrapLine, outside (show '\n' ∉ _ by decide)]
  refine ⟨_, _, text, lists, printable, printed, fun stack => ⟨?_, ?_⟩⟩
  · exact exists_consumes stack (show 0 < 1024 by decide) _
  · intro result consumes
    cases result with
    | ok d => exact absurd consumes (not_ok_of_long (by omega) absent)
    | error f => exact ⟨f, rfl⟩

end MockProxy.Gtid
