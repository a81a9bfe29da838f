import MockProxy.Lib.MapMerge
import MockProxy.Lib.Machine

/-!
# Statistics of query digests

`update_query_digest` adds the time of a query to the statistics of its digest.
`get_query_digests_v2` reads all statistics while other threads go on: it takes the map away, and
later merges what was collected in the meantime back into it. The merge uses `add_time`, as if the
second entry of a digest were one more query.

A run below has any number of updates and of reads; the sections of a read that hold `digest_rwlock`
are its steps. Next to the maps it keeps those of the same updates without any read. They agree when
no read is in progress (`statistics_unread`), as long as each merged entry has spent its whole time
in one query and reads do not overlap.
-/

namespace MockProxy.QueryProcessor

open MapMerge

/-! ### The statistics of one digest -/

@[ext] structure Stats where
  firstSeen : Nat
  lastSeen : Nat
  countStar : Nat
  sumTime : Nat
  minTime : Nat
  maxTime : Nat
  rowsAffected : Nat
  rowsSent : Nat
  deriving DecidableEq

namespace Stats

/-- As the constructor of `QP_query_digest_stats` leaves them. -/
def zero : Stats := ⟨0, 0, 0, 0, 0, 0, 0, 0⟩

/-- `QP_query_digest_stats::add_time`; `count_star` has 32 bits. -/
def addTime (s : Stats) (t n ra rs cnt : Nat) : Stats where
  countStar := (s.countStar + cnt) % 2 ^ 32
  sumTime := s.sumTime + t
  rowsAffected := s.rowsAffected + ra
  rowsSent := s.rowsSent + rs
  minTime := if (t < s.minTime ∨ s.minTime = 0) ∧ t ≠ 0 then t else s.minTime
  maxTime := if t > s.maxTime then t else s.maxTime
  firstSeen := if s.firstSeen = 0 then n else s.firstSeen
  lastSeen := n

def least (a b : Nat) : Nat := if a = 0 then b else if b = 0 then a else min a b

theorem least_assoc (a b c : Nat) : least a (least b c) = least (least a b) c := by
  unfold least
  split_ifs <;> omega

@[simp] theorem least_zero (a : Nat) : least 0 a = a := rfl

/-- The statistics of two batches of queries, the earlier batch first. -/
def combine (a b : Stats) : Stats where
  countStar := (a.countStar + b.countStar) % 2 ^ 32
  sumTime := a.sumTime + b.sumTime
  rowsAffected := a.rowsAffected + b.rowsAffected
  rowsSent := a.rowsSent + b.rowsSent
  minTime := least a.minTime b.minTime
  maxTime := max a.maxTime b.maxTime
  firstSeen := if a.firstSeen = 0 then b.firstSeen else a.firstSeen
  lastSeen := b.lastSeen

theorem addTime_minTime (s : Stats) (t n ra rs cnt : Nat) :
    (s.addTime t n ra rs cnt).minTime = least s.minTime t := by
  simp only [addTime, least]
  split_ifs <;> omega

theorem addTime_maxTime (s : Stats) (t n ra rs cnt : Nat) :
    (s.addTime t n ra rs cnt).maxTime = max s.maxTime t := by
  simp only [addTime]
  split_ifs <;> omega

theorem combine_addTime (a b : Stats) (t n ra rs : Nat) :
    a.combine (b.addTime t n ra rs 1) = (a.combine b).addTime t n ra rs 1 := by
  ext
  · simp only [combine, addTime]
    split_ifs <;> rfl
  · rfl
  · simp only [combine, addTime]
    omega
  · exact (Nat.add_assoc ..).symm
  · simp [combine, addTime_minTime, least_assoc]
  · simp [combine, addTime_maxTime]
  · exact (Nat.add_assoc ..).symm
  · exact (Nat.add_assoc ..).symm

attribute [local simp] combine

theorem combine_zero_addTime (a : Stats) (t n ra rs : Nat) :
    a.combine (zero.addTime t n ra rs 1) = a.addTime t n ra rs 1 := by
  ext
  · rfl
  · rfl
  · rfl
  · simp [addTime, zero]
  · simp [addTime_minTime, zero]
  · simp [addTime_maxTime, zero]
  · simp [addTime, zero]
  · simp [addTime, zero]

/-- What queries at times other than 0 leave behind. -/
structure Good (s : Stats) : Prop where
  seen : s.firstSeen ≠ 0
  min_le_max : s.minTime ≤ s.maxTime
  max_le_sum : s.maxTime ≤ s.sumTime

theorem least_le_max (a b : Nat) : least a b ≤ max a b := by
  unfold least
  split_ifs <;> omega

theorem good_zero_addTime (t ra rs : Nat) {n : Nat} (clock : n ≠ 0) :
    (zero.addTime t n ra rs 1).Good := by
  constructor
  · exact clock
  · rw [addTime_minTime, addTime_maxTime]
    exact least_le_max ..
  · rw [addTime_maxTime]
    simp [addTime, zero]

theorem good_combine {a b : Stats} (goodA : a.Good) (goodB : b.Good) : (a.combine b).Good := by
  constructor
  · simp [goodA.seen]
  · have below := least_le_max a.minTime b.minTime
    have minA := goodA.min_le_max
    have minB := goodB.min_le_max
    simp only [combine]
    omega
  · have sumA := goodA.max_le_sum
    have sumB := goodB.max_le_sum
    simp only [combine]
    omega

theorem good_addTime {s : Stats} (t ra rs : Nat) {n : Nat} (good : s.Good) (clock : n ≠ 0) :
    (s.addTime t n ra rs 1).Good := by
  rw [← combine_zero_addTime]
  exact good_combine good (good_zero_addTime t ra rs clock)

/-- The merge of `get_query_digests_v2`, which adds the second entry's least time. -/
def merge (a b : Stats) : Stats :=
  a.addTime b.minTime b.lastSeen b.rowsAffected b.rowsSent b.countStar

theorem merge_eq_combine {a b : Stats} (goodA : a.Good) (goodB : b.Good)
    (single : b.sumTime = b.minTime) : a.merge b = a.combine b := by
  have longest : b.maxTime = b.minTime := by
    have minB := goodB.min_le_max
    have sumB := goodB.max_le_sum
    omega
  ext
  · simp [merge, addTime, goodA.seen]
  · rfl
  · rfl
  · simp [merge, addTime, single]
  · exact addTime_minTime ..
  · rw [merge, addTime_maxTime, combine, longest]
  · rfl
  · rfl

end Stats

/-! ### The maps -/

/-- What identifies a digest in the resultset. -/
structure DigestInfo where
  digest : Nat
  digestText : Option String
  username : String
  schemaname : String
  hid : Int
  clientAddress : String
  deriving DecidableEq

/-- `QP_query_digest_stats` -/
@[ext] structure DigestStats where
  info : DigestInfo
  stats : Stats
  deriving DecidableEq

/-- `digest_umap` and `digest_text_umap` -/
structure Maps where
  umap : Map Nat DigestStats
  textUmap : Map Nat String

def Maps.empty : Maps := ⟨∅, ∅⟩

/-- A call of `update_query_digest`. -/
structure Update where
  -- `qp->digest_total`
  key : Nat
  -- of the query, or of the prepared statement
  digest : Nat
  digestText : String
  username : String
  schemaname : String
  hid : Int
  clientAddress : String
  t : Nat
  n : Nat
  rowsAffected : Nat
  rowsSent : Nat
  -- `mysql_thread___query_digests_normalize_digest_text`
  normalize : Bool
  -- `mysql_thread___query_digests_max_digest_length`
  maxDigestLength : Nat

/-- The constructor of `QP_query_digest_stats`. -/
def Update.newInfo (u : Update) : DigestInfo where
  digest := u.digest
  digestText :=
    if u.normalize then none else some (String.ofList (u.digestText.toList.take u.maxDigestLength))
  username := u.username
  schemaname := u.schemaname
  hid := u.hid
  clientAddress := u.clientAddress

def DigestStats.addTime (d : DigestStats) (u : Update) : DigestStats :=
  { d with stats := d.stats.addTime u.t u.n u.rowsAffected u.rowsSent 1 }

open DigestStats

def DigestStats.updated (d : Option DigestStats) (u : Update) : DigestStats :=
  match d with
  | some d => d.addTime u
  | none => addTime ⟨u.newInfo, .zero⟩ u

def updateQueryDigest (m : Maps) (u : Update) : Maps where
  umap := m.umap.insert u.key (updated (m.umap.lookup u.key) u)
  textUmap :=
    if (m.umap.lookup u.key).isNone ∧ u.normalize ∧ (m.textUmap.lookup u.digest).isNone then
      m.textUmap.insert u.digest u.digestText
    else m.textUmap

/-! ### Reads and updates -/

/-- A call of `get_query_digests_v2` between its first and its last section: `digest_umap_aux` and
`digest_text_umap_aux`, and whether the second section is done. -/
structure Reader where
  aux : Maps
  collected : Bool

structure Processor where
  maps : Maps
  readers : List Reader

variable (later earlier : Map Nat DigestStats)

/-- The loops of `get_query_digests_v2` that merge the later entries into the earlier ones. -/
def mergeUmap : Map Nat DigestStats :=
  mergeInto (fun a b => { a with stats := a.stats.merge b.stats }) later earlier

inductive DigestEvent where
  | update (u : Update)
  -- the first section of a read
  | swapOut
  -- the second section of the `i`-th read in progress, with the merge that follows it
  | collect (i : Nat)
  -- its last section
  | mergeBack (i : Nat)

def Processor.step (s : Processor) : DigestEvent → Except Unit Processor
  | .update u => .ok { s with maps := updateQueryDigest s.maps u }
  | .swapOut => .ok { maps := .empty, readers := s.readers ++ [⟨s.maps, false⟩] }
  | .collect i =>
    match s.readers[i]? with
    | some ⟨aux, false⟩ =>
      let merged : Maps := ⟨mergeUmap s.maps.umap aux.umap, aux.textUmap ∪ s.maps.textUmap⟩
      .ok { maps := .empty, readers := s.readers.set i ⟨merged, true⟩ }
    | _ => .error ()
  | .mergeBack i =>
    match s.readers[i]? with
    | some ⟨aux, true⟩ =>
      .ok
        { maps := ⟨mergeUmap s.maps.umap aux.umap, s.maps.textUmap ∪ aux.textUmap⟩
          readers := s.readers.eraseIdx i }
    | _ => .error ()

/-- A query processor, and the maps of the same updates without any read. -/
structure Observed where
  seen : Processor
  unread : Maps

def Observed.start : Observed := ⟨⟨.empty, []⟩, .empty⟩

def Observed.step (s : Observed) (e : DigestEvent) : Except Unit Observed := do
  let seen ← s.seen.step e
  match e with
  | .update u => .ok ⟨seen, updateQueryDigest s.unread u⟩
  | _ => .ok ⟨seen, s.unread⟩

/-! ### When a read is not observable -/

/-- Every entry of `later` that is merged into one of `earlier` spent its whole time in one
query. -/
def SingleTimes : Prop :=
  ∀ k a b, earlier.lookup k = some a → later.lookup k = some b →
    b.stats.sumTime = b.stats.minTime

/-- The clock is not 0, reads do not overlap, and merged entries have a single time. -/
def Observed.Meets (s : Observed) : DigestEvent → Prop
  | .update u => u.n ≠ 0
  | .swapOut => s.seen.readers = []
  | .collect i => ∀ r ∈ s.seen.readers[i]?, SingleTimes s.seen.maps.umap r.aux.umap
  | .mergeBack i => ∀ r ∈ s.seen.readers[i]?, SingleTimes s.seen.maps.umap r.aux.umap

def DigestStats.combine (a b : DigestStats) : DigestStats := ⟨a.info, a.stats.combine b.stats⟩

def GoodMap (m : Map Nat DigestStats) : Prop := ∀ k d, m.lookup k = some d → d.stats.Good

/-- `whole` holds what `earlier` and `later` hold together. -/
structure Splits (whole earlier later : Map Nat DigestStats) : Prop where
  parts : ∀ k, whole.lookup k = both combine (earlier.lookup k) (later.lookup k)
  goodEarlier : GoodMap earlier
  goodLater : GoodMap later

def Processor.away (s : Processor) : Map Nat DigestStats :=
  match s.readers with
  | [] => ∅
  | r :: _ => r.aux.umap

structure Observed.Inv (s : Observed) : Prop where
  alone : s.seen.readers.length ≤ 1
  splits : Splits s.unread.umap s.seen.away s.seen.maps.umap

theorem goodMap_empty : GoodMap ∅ := by
  intro k d found
  cases found

theorem both_updated (a b : Option DigestStats) (u : Update) :
    both combine a (some (updated b u)) =
      some (updated (both combine a b) u) := by
  cases a with
  | none => rfl
  | some a =>
    cases b with
    | none =>
      have stats := Stats.combine_zero_addTime a.stats u.t u.n u.rowsAffected u.rowsSent
      exact congrArg (fun s => some (mk a.info s)) stats
    | some b =>
      have stats := Stats.combine_addTime a.stats b.stats u.t u.n u.rowsAffected u.rowsSent
      exact congrArg (fun s => some (mk a.info s)) stats

theorem lookup_updateQueryDigest (m : Maps) (u : Update) (k : Nat) :
    (updateQueryDigest m u).umap.lookup k =
      if k = u.key then some (updated (m.umap.lookup u.key) u) else m.umap.lookup k := by
  split
  next same =>
    rw [same]
    exact AList.lookup_insert ..
  next differ =>
    exact AList.lookup_insert_ne differ

theorem GoodMap.update {m : Maps} (good : GoodMap m.umap) {u : Update} (clock : u.n ≠ 0) :
    GoodMap (updateQueryDigest m u).umap := by
  intro k d found
  rw [lookup_updateQueryDigest] at found
  split at found
  · cases before : m.umap.lookup u.key with
    | none =>
      obtain rfl : addTime ⟨u.newInfo, .zero⟩ u = d := by
        simpa [before, updated] using found
      exact Stats.good_zero_addTime u.t u.rowsAffected u.rowsSent clock
    | some e =>
      obtain rfl : e.addTime u = d := by simpa [before, updated] using found
      exact Stats.good_addTime u.t u.rowsAffected u.rowsSent (good u.key e before) clock
  · exact good k d found

variable {earlier later : Map Nat DigestStats}

theorem Splits.update {whole later : Maps} (splits : Splits whole.umap earlier later.umap)
    {u : Update} (clock : u.n ≠ 0) :
    Splits (updateQueryDigest whole u).umap earlier (updateQueryDigest later u).umap where
  parts k := by
    rw [lookup_updateQueryDigest, lookup_updateQueryDigest]
    split
    next same =>
      rw [same, both_updated, splits.parts]
    · exact splits.parts k
  goodEarlier := splits.goodEarlier
  goodLater := splits.goodLater.update clock

section

variable (goodEarlier : GoodMap earlier) (goodLater : GoodMap later)
    (single : SingleTimes later earlier)

include goodEarlier goodLater single

theorem lookup_mergeUmap (k : Nat) : (mergeUmap later earlier).lookup k =
      both combine (earlier.lookup k) (later.lookup k) := by
  rw [mergeUmap, lookup_mergeInto]
  cases first : earlier.lookup k with
  | none => rfl
  | some a =>
    cases second : later.lookup k with
    | none => rfl
    | some b =>
      have stats := Stats.merge_eq_combine (goodEarlier k a first) (goodLater k b second)
        (single k a b first second)
      exact congrArg (fun s => some (mk a.info s)) stats

theorem GoodMap.merge : GoodMap (mergeUmap later earlier) := by
  intro k d found
  rw [lookup_mergeUmap goodEarlier goodLater single] at found
  rcases both_eq_some.mp found with ⟨a, b, first, second, rfl⟩ | ⟨first, -⟩ | ⟨-, second⟩
  · exact Stats.good_combine (goodEarlier k a first) (goodLater k b second)
  · exact goodEarlier k d first
  · exact goodLater k d second

end

theorem Splits.merge {whole : Map Nat DigestStats} (splits : Splits whole earlier later)
    (single : SingleTimes later earlier) :
    Splits whole (mergeUmap later earlier) ∅ ∧ Splits whole ∅ (mergeUmap later earlier) := by
  have merged := lookup_mergeUmap splits.goodEarlier splits.goodLater single
  have good := splits.goodEarlier.merge splits.goodLater single
  constructor
  · refine ⟨fun k => ?_, good, goodMap_empty⟩
    rw [AList.lookup_empty, both_none, merged, splits.parts]
  · refine ⟨fun k => ?_, goodMap_empty, good⟩
    rw [merged, splits.parts]
    rfl

namespace Observed

theorem inv_start : Inv start where
  alone := Nat.zero_le _
  splits := ⟨fun _ => rfl, goodMap_empty, goodMap_empty⟩

theorem Inv.only {s : Observed} (inv : s.Inv) {i : Nat} {r : Reader}
    (found : s.seen.readers[i]? = some r) : i = 0 ∧ s.seen.readers = [r] := by
  have alone := inv.alone
  match same : s.seen.readers, alone with
  | [], _ => simp [same] at found
  | [r'], _ =>
    rw [same] at found
    cases i with
    | zero => exact ⟨rfl, by simpa using found⟩
    | succ i => simp at found

theorem Inv.step {s s' : Observed} {e : DigestEvent} (inv : s.Inv) (meets : s.Meets e)
    (stepped : s.step e = .ok s') : s'.Inv := by
  obtain ⟨seen, moved, rest⟩ := Machine.bind_eq_ok.mp stepped
  cases e with
  | update u =>
    cases moved
    cases rest
    exact ⟨inv.alone, inv.splits.update meets⟩
  | swapOut =>
    cases moved
    cases rest
    have none : s.seen.readers = [] := meets
    have splits := inv.splits
    simp only [Processor.away, none] at splits
    constructor
    · simp [none]
    · simp only [none]
      refine ⟨fun k => ?_, splits.goodLater, goodMap_empty⟩
      rw [Maps.empty, AList.lookup_empty, both_none, splits.parts]
      rfl
  | collect i | mergeBack i =>
    simp only [Processor.step] at moved
    split at moved
    next aux found =>
      cases moved
      cases rest
      obtain ⟨rfl, only⟩ := inv.only found
      have splits := inv.splits
      simp only [Processor.away, only] at splits
      have merged := splits.merge (meets _ found)
      refine ⟨by simp [only], ?_⟩
      simp_all [Processor.away, Maps.empty]
    · cases moved

/-- After any updates and reads, the statistics of every digest are those of the updates alone. -/
theorem statistics_unread {s : Observed} (run : Machine.Run Observed.step Meets start s)
    (finished : s.seen.readers = []) (k : Nat) :
    s.seen.maps.umap.lookup k = s.unread.umap.lookup k := by
  have inv : s.Inv := run.invariant Inv inv_start fun _ _ _ inv meets stepped =>
    inv.step meets stepped
  have splits := inv.splits
  simp only [Processor.away, finished] at splits
  rw [splits.parts]
  rfl

theorem singleTimes_of_entries {later : Map Nat DigestStats} (earlier : Map Nat DigestStats)
    (single : ∀ e ∈ later.entries, e.2.stats.sumTime = e.2.stats.minTime) :
    SingleTimes later earlier := by
  intro k a b _ found
  exact single ⟨k, b⟩ (AList.mem_lookup_iff.mp found)

/-- A query of digest 1 that took the time `t`. -/
def sample (t n : Nat) : Update where
  key := 1
  digest := 1
  digestText := "SELECT ?"
  username := "app"
  schemaname := "db"
  hid := 0
  clientAddress := ""
  t := t
  n := n
  rowsAffected := 0
  rowsSent := 1
  normalize := false
  maxDigestLength := 2048

/-- One query before a read, and one more during it. -/
theorem statistics_unread_one : ∃ s : Observed,
    Machine.Run Observed.step Meets start s ∧ s.seen.readers = [] ∧
      s.seen.maps.umap.lookup 1 = s.unread.umap.lookup 1 ∧
      (s.unread.umap.lookup 1).map (fun d => d.stats.sumTime) = some 15 := by
  have first : Machine.Run Observed.step Meets start _ :=
    .step .start (by exact Nat.one_ne_zero) (i := .update (sample 10 1)) rfl
  have taken := first.step (by rfl) (i := .swapOut) rfl
  have second := taken.step (by exact Nat.succ_ne_zero 1) (i := .update (sample 5 2)) rfl
  have collected := second.step (i := .collect 0)
    (by exact fun r _ => singleTimes_of_entries r.aux.umap (by decide)) rfl
  have done := collected.step (i := .mergeBack 0)
    (by exact fun r _ => singleTimes_of_entries r.aux.umap (by decide)) rfl
  exact ⟨_, done, rfl, statistics_unread done rfl 1, rfl⟩

/-- Two queries of 5 and 7 during a read, after one of 10: 7 is lost. -/
theorem read_loses_time : ∃ s : Observed,
    Machine.Run Observed.step (fun _ _ => True) start s ∧ s.seen.readers = [] ∧
      (s.seen.maps.umap.lookup 1).map (fun d => d.stats.sumTime) = some 15 ∧
      (s.unread.umap.lookup 1).map (fun d => d.stats.sumTime) = some 22 := by
  have ran : [.update (sample 10 1), .swapOut, .update (sample 5 2), .update (sample 7 3),
      .collect 0, .mergeBack 0].foldlM Observed.step start = .ok _ := rfl
  exact ⟨_, Machine.run_of_foldlM ran, rfl, rfl, rfl⟩

end Observed

end MockProxy.QueryProcessor
