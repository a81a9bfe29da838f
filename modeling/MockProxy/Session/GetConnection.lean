import MockProxy.QueryProcessor.FirstComment

/-!
# Looking for a backend connection

A session that needs a backend connection asks its thread and then the pool, again and again until
it gets one. Two settings of the comment of the query restrict the servers.

The greatest lag is a number of milliseconds. So that it grows while the session waits, it is turned
into a point in time after an attempt and back at the next one; a number above 360000 counts as a
point in time. This is right as long as all lags stay up to that number (`max_lag_passed`), but
comments may ask for up to 600000, and waiting makes it greater.

A GTID is cut at its first colon, and what is before it is copied without dashes to an array of 64
bytes. The parser of comments does not look at its length (`minGtid_kept_iff`).
-/

namespace MockProxy.Session

open CString List
open Machine
open QueryProcessor.FirstComment

/-! ### The lag -/

def relativeLag (nowMs maxLagMs : Int) : Int :=
  if maxLagMs > 360000 then
    let lag := nowMs - maxLagMs
    if lag < 0 then -1 else lag
  else maxLagMs

def absoluteLag (nowMs maxLagMs : Int) : Int :=
  if 0 ≤ maxLagMs ∧ maxLagMs ≤ 360000 then nowMs - maxLagMs else maxLagMs

/-! ### The GTID -/

/-- The size of `uuid` -/
def uuidSize : Nat := 64

/-- One character of the loop that fills `uuid` -/
def putUuid (uuid : List Char) (c : Char) : Except MemFault (List Char) :=
  if c = '-' then .ok uuid
  else if uuid.length < uuidSize then .ok (uuid ++ [c])
  else .error .outOfBounds

/-- The characters before the separator, without dashes; a null byte is written behind them. -/
def copyUuid (text : List Char) : Except MemFault (List Char) := do
  let uuid ← text.foldlM putUuid []
  if uuid.length < uuidSize then .ok uuid else .error .outOfBounds

/-- The server and the transaction of a GTID, if there is a separator -/
def splitGtid (buf : List Char) : Except MemFault (Option (List Char × Nat)) := do
  let gtid ← cString buf
  if ':' ∈ gtid then
    let uuid ← copyUuid (gtid.take (gtid.idxOf ':'))
    return some (uuid, strtoull (gtid.drop (gtid.idxOf ':' + 1)))
  else return none

/-! ### An attempt -/

/-- What an attempt finds: the clock, the GTID of the backend of `gtid_from_hostgroup` if there is
one, and whether the thread has a connection. -/
structure Attempt where
  nowMs : Nat
  fastForward : Bool
  backendGtid : Option (List Char)
  threadHas : Bool

/-- The arguments that restrict the servers -/
structure PoolCall where
  gtid : Option (List Char × Nat)
  maxLagMs : Int
  deriving DecidableEq

/-- The calls of `get_MyConn_local` and `get_MyConn_from_pool` -/
def poolCalls (a : Attempt) (createNewConn : Bool) (gtid : Option (List Char × Nat)) (lag : Int) :
    List PoolCall :=
  let unrestricted : PoolCall := ⟨none, int32 lag⟩
  let asksThread := !(a.fastForward || createNewConn)
  -- the connections of the thread: a GTID counts even with transaction 0
  let fromThread := if asksThread then
    [match gtid with
      | some gtid => ⟨some gtid, -1⟩
      | none => unrestricted] else []
  -- the pool, if the thread has none: there transaction 0 counts as no GTID
  let fromPool := if asksThread && a.threadHas then [] else
    [match gtid with
      | some gtid => if gtid.2 ≠ 0 then ⟨some gtid, -1⟩ else unrestricted
      | none => unrestricted]
  fromThread ++ fromPool

/-- The memory of the GTID that is looked for: `min_gtid` comes first. -/
def gtidUuid (a : Attempt) (qpo : Settings) : Option (List Char) :=
  if a.fastForward || qpo.createNewConn then none else qpo.minGtid <|> a.backendGtid

/-- `handler___client_DSS_QUERY_SENT___server_DSS_NOT_INITIALIZED__get_connection` -/
def getConnection (a : Attempt) (qpo : Settings) : Except MemFault (Settings × List PoolCall) := do
  let lag := relativeLag a.nowMs qpo.maxLagMs
  -- a GTID without a separator is not looked for
  let gtid ← match gtidUuid a qpo with
    | none => pure none
    | some buf => splitGtid buf
  return ({ qpo with maxLagMs := absoluteLag a.nowMs lag }, poolCalls a qpo.createNewConn gtid lag)

/-- The calls of all attempts -/
def attempts : Settings → List Attempt → Except MemFault (List (List PoolCall))
  | _, [] => .ok []
  | qpo, a :: rest => do
    let (qpo, calls) ← getConnection a qpo
    let later ← attempts qpo rest
    return calls :: later

/-! ### The lag over the attempts -/

variable {nowMs lag : Int} {a : Attempt} {qpo : Settings}

theorem relativeLag_of_le (small : lag ≤ 360000) : relativeLag nowMs lag = lag := by
  unfold relativeLag
  rw [if_neg (by omega)]

theorem maxLagMs_of_mem_poolCalls {createNewConn : Bool} {call : PoolCall}
    (member : call ∈ poolCalls a createNewConn none lag) : call.maxLagMs = int32 lag := by
  rcases mem_append.mp member with asked | asked
  · split at asked
    · rw [mem_singleton.mp asked]
    · cases asked
  · split at asked
    · cases asked
    · rw [mem_singleton.mp asked]

def NoGtid (qpo : Settings) (tries : List Attempt) : Prop := ∀ a ∈ tries, gtidUuid a qpo = none

theorem attempts_cons {rest : List Attempt} (noGtid : gtidUuid a qpo = none) :
    attempts qpo (a :: rest) =
      attempts { qpo with maxLagMs := absoluteLag a.nowMs (relativeLag a.nowMs qpo.maxLagMs) } rest
        >>=
        fun later =>
          pure (poolCalls a qpo.createNewConn none
            (relativeLag a.nowMs qpo.maxLagMs) :: later) := by
  rw [attempts, getConnection, noGtid]
  rfl

theorem attempts_ok {tries : List Attempt} (noGtid : NoGtid qpo tries) :
    ∃ calls, attempts qpo tries = .ok calls ∧ calls.length = tries.length := by
  induction tries generalizing qpo with
  | nil => exact ⟨[], rfl, rfl⟩
  | cons a rest ih =>
    rw [attempts_cons (noGtid a mem_cons_self)]
    -- the next attempts see the same settings but for the lag, and that is not looked at
    have next : NoGtid { qpo with
        maxLagMs := absoluteLag a.nowMs (relativeLag a.nowMs qpo.maxLagMs) } rest :=
      fun b member => noGtid b (mem_cons_of_mem _ member)
    obtain ⟨later, ran, length⟩ := ih next
    refine ⟨_, bind_eq_ok.mpr ⟨later, ran, rfl⟩, ?_⟩
    rw [length_cons, length_cons, length]

section Waiting

variable {tries : List Attempt} {qpo : Settings} {lag start : Int}

/-- The lag that was asked for at `start`, grown by the time since then -/
def grown (lag start : Int) (a : Attempt) : Int := lag + (a.nowMs - start)

variable {a : Attempt}

/-- After an attempt with a lag up to 360000 it is known when the data must have been current. -/
theorem absoluteLag_grown (nonneg : 0 ≤ lag) (since : start ≤ a.nowMs)
    (small : grown lag start a ≤ 360000) :
    absoluteLag a.nowMs (grown lag start a) = start - lag := by
  unfold grown at *
  rw [absoluteLag, if_pos ⟨by omega, small⟩]
  omega

theorem relativeLag_grown (nonneg : 0 ≤ lag) (since : start ≤ a.nowMs)
    (clock : 360000 < start - lag) : relativeLag a.nowMs (start - lag) = grown lag start a := by
  rw [relativeLag, if_pos clock, if_neg (by omega), grown]
  omega

/-- If the first attempt finds the right lag, an attempt does as long as the lags before it were up
to 360000. -/
theorem attempts_grown {calls : List (List PoolCall)} (noGtid : NoGtid qpo tries) (nonneg : 0 ≤ lag)
    (clock : 360000 < start - lag) (since : ∀ a ∈ tries, start ≤ a.nowMs)
    (meant : ∀ a ∈ tries.head?, relativeLag a.nowMs qpo.maxLagMs = grown lag start a)
    (ran : attempts qpo tries = .ok calls) {i : Nat} {asked : List PoolCall}
    (found : tries[i]? = some a) (made : calls[i]? = some asked)
    (earlier : ∀ j < i, ∀ b, tries[j]? = some b → grown lag start b ≤ 360000)
    (fits : grown lag start a < 2 ^ 31) : ∀ call ∈ asked, call.maxLagMs = grown lag start a := by
  -- each attempt leaves the point in time for the next one
  induction tries generalizing qpo calls i with
  | nil => cases found
  | cons first rest ih =>
    have first_meant := meant first rfl
    have first_since := since first mem_cons_self
    rw [attempts_cons (noGtid first mem_cons_self), first_meant] at ran
    obtain ⟨later, next_ran, rfl⟩ := return_eq_ok.mp ran
    cases i with
    | zero =>
      cases found
      cases made
      intro call member
      have positive : 0 ≤ grown lag start a := by
        unfold grown
        omega
      rw [maxLagMs_of_mem_poolCalls member, int32_of_range (by omega) fits]
    | succ i =>
      have small := earlier 0 (Nat.succ_pos i) first rfl
      rw [absoluteLag_grown nonneg first_since small] at next_ran
      have rest_since : ∀ b ∈ rest, start ≤ b.nowMs :=
        fun b member => since b (mem_cons_of_mem _ member)
      apply ih _ rest_since _ next_ran found made
      · intro j before b there
        exact earlier (j + 1) (Nat.succ_lt_succ before) b there
      · exact fun b member => noGtid b (mem_cons_of_mem _ member)
      · intro b member
        exact relativeLag_grown nonneg (rest_since b (mem_of_mem_head? member)) clock

end Waiting

/-- A lag of a comment grows by the time the session waits. This holds for lags up to 360000, and
until waiting has made it greater. -/
theorem max_lag_passed {env : Env} {qpo₀ qpo : Settings} {fc : Comment} {first : Attempt}
    {rest : List Attempt} (parsed : queryParserFirstComment env qpo₀ fc = .ok qpo)
    (unset : qpo₀.maxLagMs = -1) (set : qpo.maxLagMs ≠ -1)
    (ordered : (first :: rest).Pairwise fun a b => a.nowMs ≤ b.nowMs)
    (noGtid : NoGtid qpo (first :: rest)) (relative : qpo.maxLagMs ≤ 360000)
    (clock : 360000 < first.nowMs - qpo.maxLagMs) :
    ∃ calls, attempts qpo (first :: rest) = .ok calls ∧ calls.length = (first :: rest).length ∧
      ∀ (i : Nat) (a : Attempt) (asked : List PoolCall),
        (first :: rest)[i]? = some a → calls[i]? = some asked →
        (∀ j < i, ∀ b : Attempt, (first :: rest)[j]? = some b →
          qpo.maxLagMs + (b.nowMs - first.nowMs) ≤ 360000) →
        qpo.maxLagMs + (a.nowMs - first.nowMs) < 2 ^ 31 →
        ∀ call ∈ asked, call.maxLagMs = qpo.maxLagMs + (a.nowMs - first.nowMs) := by
  obtain ⟨calls, ran, length⟩ := attempts_ok noGtid
  have nonneg : 0 ≤ qpo.maxLagMs := by
    rcases maxLagMs_queryParserFirstComment parsed with same | accepted
    · exact absurd (same.trans unset) set
    · exact accepted.1
  refine ⟨calls, ran, length, ?_⟩
  intro i a asked found made earlier fits
  apply attempts_grown noGtid nonneg clock _ _ ran found made earlier fits
  · intro b member
    rcases mem_cons.mp member with rfl | later
    · exact Int.le_refl _
    · exact_mod_cast (pairwise_cons.mp ordered).1 b later
  · -- the first attempt is made with the lag itself
    intro b member
    cases member
    rw [relativeLag_of_le relative]
    unfold grown
    omega

def zeroed (size : Nat) : Block size := ⟨replicate (size + 8) '\x00', by simp⟩

def calm : Env := ⟨fun _ => 1700000000000, fun _ => zeroed⟩

def tryAt (nowMs : Nat) : Attempt := ⟨nowMs, false, none, false⟩

def lagComment : Comment := ⟨"max_lag_ms=1000".toList, by decide⟩

theorem max_lag_passed_waiting :
    ∃ qpo, queryParserFirstComment calm {} lagComment = .ok qpo ∧ qpo.maxLagMs = 1000 ∧
      ∃ calls, attempts qpo [tryAt 1700000000000, tryAt 1700000002500] = .ok calls ∧
        ∀ asked, calls[1]? = some asked → ∀ call ∈ asked, call.maxLagMs = 3500 := by
  have parsed : queryParserFirstComment calm {} lagComment = .ok { maxLagMs := 1000 } := by
    decide +kernel
  have noGtid : NoGtid { maxLagMs := 1000 } [tryAt 1700000000000, tryAt 1700000002500] := by
    unfold NoGtid
    decide
  refine ⟨_, parsed, rfl, ?_⟩
  obtain ⟨calls, ran, -, passed⟩ := max_lag_passed parsed rfl (by decide) (by decide) noGtid
    (by decide) (by decide)
  refine ⟨calls, ran, ?_⟩
  intro asked made
  exact passed 1 _ asked rfl made (by decide) (by decide)

def slackComment : Comment := ⟨"max_lag_ms=400000".toList, by decide⟩
def patientComment : Comment := ⟨"max_lag_ms=350000".toList, by decide⟩

/-- A lag of 400000 is taken for a point in time, and the first call gets a negative number, which
allows any lag. A lag of 350000 has grown to 370000 after 20 seconds and is then taken for one as
well. -/
theorem max_lag_taken_for_time :
    (∃ qpo, queryParserFirstComment calm {} slackComment = .ok qpo ∧ qpo.maxLagMs = 400000 ∧
      attempts qpo [tryAt 1700000000000] = .ok [[⟨none, -807449216⟩, ⟨none, -807449216⟩]]) ∧
    ∃ qpo, queryParserFirstComment calm {} patientComment = .ok qpo ∧ qpo.maxLagMs = 350000 ∧
      attempts qpo [tryAt 1700000000000, tryAt 1700000020000, tryAt 1700000020100] =
        .ok [[⟨none, 350000⟩, ⟨none, 350000⟩], [⟨none, 370000⟩, ⟨none, 370000⟩],
          [⟨none, -807399116⟩, ⟨none, -807399116⟩]] := by
  have slack : queryParserFirstComment calm {} slackComment = .ok { maxLagMs := 400000 } := by
    decide +kernel
  have patient : queryParserFirstComment calm {} patientComment = .ok { maxLagMs := 350000 } := by
    decide +kernel
  exact ⟨⟨_, slack, rfl, by decide +kernel⟩, ⟨_, patient, rfl, by decide +kernel⟩⟩

/-! ### The uuid -/

def uuidOf (gtid : List Char) : List Char := (gtid.takeWhile (· ≠ ':')).filter (· ≠ '-')

theorem foldlM_putUuid_eq_ok {text written uuid : List Char} (start : written.length ≤ uuidSize) :
    text.foldlM putUuid written = .ok uuid ↔
      uuid = written ++ text.filter (· ≠ '-') ∧ uuid.length ≤ uuidSize := by
  -- what is written already is a part of the uuid, and it fits
  induction text generalizing written with
  | nil =>
    rw [filter_nil, append_nil]
    constructor
    · intro done
      cases done
      exact ⟨rfl, start⟩
    · rintro ⟨rfl, -⟩
      rfl
  | cons c rest ih =>
    rw [foldlM_cons]
    unfold putUuid
    by_cases dash : c = '-'
    · rw [if_pos dash, filter_cons_of_neg (by simpa using dash)]
      exact ih start
    · rw [if_neg dash, filter_cons_of_pos (by simpa using dash)]
      by_cases room : written.length < uuidSize
      · rw [if_pos room]
        have next : (written ++ [c]).length ≤ uuidSize := by
          rw [length_append]
          exact room
        have step := ih next
        rw [append_assoc] at step
        exact step
      · -- the array is full, and the text is longer than it
        rw [if_neg room]
        constructor
        · rintro ⟨⟩
        · rintro ⟨rfl, fits⟩
          rw [length_append, length_cons] at fits
          omega

theorem copyUuid_eq_ok {text uuid : List Char} :
    copyUuid text = .ok uuid ↔ uuid = text.filter (· ≠ '-') ∧ uuid.length < uuidSize := by
  unfold copyUuid
  rw [bind_eq_ok]
  constructor
  · rintro ⟨copied, loop, last⟩
    obtain ⟨rfl, -⟩ := (foldlM_putUuid_eq_ok (Nat.zero_le _)).mp loop
    split at last
    next room =>
      cases last
      exact ⟨rfl, room⟩
    · cases last
  · rintro ⟨rfl, room⟩
    refine ⟨_, (foldlM_putUuid_eq_ok (Nat.zero_le _)).mpr ⟨rfl, ?_⟩, if_pos room⟩
    exact Nat.le_of_lt room

theorem colon_mem_of_isValidGtid {gtid : List Char} (valid : isValidGtid gtid) : ':' ∈ gtid := by
  unfold isValidGtid at valid
  simp only [Bool.and_eq_true, decide_eq_true_eq] at valid
  exact valid.1.1.2

theorem take_idxOf_colon (gtid : List Char) :
    gtid.take (gtid.idxOf ':') = gtid.takeWhile (· ≠ ':') := by
  induction gtid with
  | nil => rfl
  | cons c rest ih =>
    by_cases colon : c = ':'
    · subst colon
      simp
    · rw [idxOf_cons_ne _ colon, take_succ_cons, ih, takeWhile_cons_of_pos]
      exact decide_eq_true colon

theorem splitGtid_ok {buf gtid : List Char} (terminated : NulTerminated buf gtid)
    (clean : '\x00' ∉ gtid) (valid : isValidGtid gtid)
    (room : (uuidOf gtid).length < uuidSize) :
    ∃ trxid, splitGtid buf = .ok (some (uuidOf gtid, trxid)) := by
  have copied : copyUuid (gtid.take (gtid.idxOf ':')) = .ok (uuidOf gtid) := by
    rw [take_idxOf_colon]
    exact copyUuid_eq_ok.mpr ⟨rfl, room⟩
  refine ⟨strtoull (gtid.drop (gtid.idxOf ':' + 1)), ?_⟩
  unfold splitGtid
  rw [cString_of_nulTerminated terminated clean]
  dsimp only [ok_bind]
  rw [if_pos (colon_mem_of_isValidGtid valid), copied]
  rfl

/-- The allocator has reserved two bytes behind the text, the first of which is null already, and
there is room for the uuid. -/
structure Fits (gtid : List Char) (block : Block (gtid.length + 1)) : Prop where
  reserved : gtid.length + 1 < block.bytes.length
  behind : block.bytes[gtid.length]? = some '\x00'
  uuid : (uuidOf gtid).length < uuidSize

/-- The GTIDs of a comment are stored as strings, and their uuids are found, exactly if they fit:
neither the parser nor the session looks at any of this. -/
theorem minGtid_kept_iff (env : Env) (qpo : Settings) (fc : Comment) :
    (∀ i gtid, AcceptedAt fc i gtid → Fits gtid (env.malloc i (gtid.length + 1))) ↔
      ∀ i gtid, AcceptedAt fc i gtid →
        ∃ qpo' buf trxid, parsed env qpo fc (i + 1) = .ok qpo' ∧ qpo'.minGtid = some buf ∧
          NulTerminated buf gtid ∧ splitGtid buf = .ok (some (uuidOf gtid, trxid)) ∧
          (uuidOf gtid).length < uuidSize := by
  constructor
  · intro fits i gtid accepted
    have fit := fits i gtid accepted
    have clean := accepted.clean
    obtain ⟨before, ran⟩ := parsed_ok qpo i fun j _ value earlier => (fits j value earlier).reserved
    obtain ⟨token, found, same, isGtid, valid⟩ := accepted
    have copied := copyGtid_ok_iff.mpr ⟨fit.reserved, rfl⟩
    obtain ⟨qpo', stepped, stored⟩ :=
      (setToken_accepted_iff env before isGtid same valid).mpr copied
    have terminated := (copyGtid_nulTerminated_iff copied).mpr fit.behind
    obtain ⟨trxid, split⟩ := splitGtid_ok terminated clean valid fit.uuid
    refine ⟨qpo', _, trxid, ?_, stored, terminated, split, fit.uuid⟩
    rw [parsed_succ found, ran]
    exact stepped
  · intro kept i gtid accepted
    obtain ⟨qpo', buf, trxid, ran, stored, terminated, -, room⟩ := kept i gtid accepted
    obtain ⟨token, found, same, isGtid, valid⟩ := accepted
    rw [parsed_succ found] at ran
    obtain ⟨before, -, stepped⟩ := bind_eq_ok.mp ran
    have copied := (setToken_accepted_iff env before isGtid same valid).mp ⟨qpo', stepped, stored⟩
    exact ⟨(copyGtid_ok_iff.mp copied).1, (copyGtid_nulTerminated_iff copied).mp terminated, room⟩

def tight (size : Nat) : Block size := ⟨replicate size '\x00', by simp⟩

def reused (size : Nat) : Block size := ⟨replicate (size + 8) '7', by simp⟩

def gtidComment : Comment := ⟨"min_gtid=ab-cd:23".toList, by decide⟩
def longGtidComment : Comment := ⟨"min_gtid=".toList ++ replicate 64 'a' ++ ":23".toList, by decide⟩

/-- A valid GTID is written behind its block, or stored with a character that is not in the comment.
A long one is accepted and does not fit when a connection is looked for. -/
theorem minGtid_not_kept : (∃ gtid, AcceptedAt gtidComment 0 gtid ∧
      parsed ⟨calm.nowMs, fun _ => tight⟩ {} gtidComment 1 = .error .outOfBounds ∧
      ∃ qpo buf, parsed ⟨calm.nowMs, fun _ => reused⟩ {} gtidComment 1 = .ok qpo ∧
        qpo.minGtid = some buf ∧ ¬ NulTerminated buf gtid ∧
        splitGtid buf = .ok (some ("abcd".toList, 237))) ∧
    ∃ gtid, AcceptedAt longGtidComment 0 gtid ∧
      ∃ qpo buf, parsed calm {} longGtidComment 1 = .ok qpo ∧ qpo.minGtid = some buf ∧
        splitGtid buf = .error .outOfBounds ∧
        getConnection (tryAt 1700000000000) qpo = .error .outOfBounds := by
  have accepted : AcceptedAt gtidComment 0 "ab-cd:23".toList :=
    ⟨"min_gtid=ab-cd:23".toList, by decide +kernel, by decide +kernel, by decide +kernel, by decide⟩
  have long : AcceptedAt longGtidComment 0 (replicate 64 'a' ++ ":23".toList) :=
    ⟨longGtidComment.val, by decide +kernel, by decide +kernel, by decide +kernel,
      by decide +kernel⟩
  have stored : parsed ⟨calm.nowMs, fun _ => reused⟩ {} gtidComment 1 =
      .ok { minGtid := some "ab-cd:237\x007777777".toList } := by
    decide +kernel
  have long_stored : parsed calm {} longGtidComment 1 =
      .ok { minGtid := some (replicate 64 'a' ++ ":23".toList ++ replicate 9 '\x00') } := by
    decide +kernel
  refine ⟨⟨_, accepted, by decide +kernel, _, _, stored, rfl, ?_, by decide +kernel⟩,
    ⟨_, long, _, _, long_stored, rfl, by decide +kernel, by decide +kernel⟩⟩
  unfold NulTerminated
  decide

end MockProxy.Session
