import MockProxy.Lib.SortedMap
import MockProxy.LionRouter.Evaluate

/-!
# Routing statistics

`EvaluateHost` calls `RecordTransactionDetails` as soon as it has drawn a store. A transaction is
counted there before its regions are looked up once more, and before the TiKV, the TiDB and the
hostgroup of the store are looked up. The update thread resets all counters from time to time.

The counters agree with each other after every call. They count the calls that returned as long as
every call that draws a store returns, and a call that throws leaves them unchanged if and only if
it has drawn none (`statistics_exact`).
-/

namespace MockProxy.LionRouter

open Machine Inquiry

/-! ### Counters -/

/-- `++` on an entry of a map, which is added if it is missing -/
def bump (counts : SortedMap Int Int) (storeId : Int) : SortedMap Int Int :=
  (counts.insert storeId 0).modify storeId (· + 1)

structure TxnLog where
  keys : List Int
  regionIds : Finset Int
  storeId : Int

/-- The members of `LionRouter` that hold statistics -/
structure Statistics where
  storeSqlCount : SortedMap Int Int := .empty
  totalTransactions : Int := 0
  crossPartitionTransactions : Int := 0
  storeCrossPartitionCount : SortedMap Int Int := .empty
  transactionDetails : List TxnLog := []

/-- A transaction across partitions is counted. -/
def Statistics.cross (st : Statistics) (log : TxnLog) : Statistics :=
  { st with
    crossPartitionTransactions := st.crossPartitionTransactions + 1
    storeCrossPartitionCount := bump st.storeCrossPartitionCount log.storeId
    transactionDetails := st.transactionDetails ++ [log] }

/-! ### Calls -/

/-- A call of `EvaluateHost`. The regions can change while it runs: the `n`-th lookup reads
`snapshots n`. `locked` says whether `store_sql_mutex` could be taken. -/
structure HostCall where
  deployment : Deployment
  snapshots : Nat → MetaInfo
  keys : List Int
  random : Nat
  locked : Bool

namespace HostCall

def answers (c : HostCall) (n : Nat) : ∀ q : Question, q.Answer := (c.snapshots n).answer

/-- The store that is drawn, and the number of lookups before it is -/
def draw (c : HostCall) : Except EvalFault (Int × Nat) :=
  match (bestStores c.deployment c.keys).along c.answers 0 with
  | (.error fault, _) => .error fault
  | (.ok best, n) =>
    match best.bestStoreIds[c.random % best.bestStoreIds.length]? with
    | none => .error .divisionByZero
    | some bestStoreId => .ok (bestStoreId, n)

/-- `LionRouter::RecordTransactionDetails`, with the statistics -/
def recordTransactionDetails (c : HostCall) (st : Statistics) (dstStoreId : Int) (n : Nat) :
    Except EvalFault Unit × Statistics :=
  let counted := { st with totalTransactions := st.totalTransactions + 1 }
  match ((partitionsAndStores c.keys).along c.answers n).1 with
  | .error fault => (.error fault, counted)
  | .ok (partitions, stores) =>
    if 1 < stores.card then (.ok (), counted.cross ⟨c.keys, partitions, dstStoreId⟩)
      else (.ok (), counted)

/-- `LionRouter::EvaluateHost`, with the statistics -/
def evaluateHost (c : HostCall) (st : Statistics) : Except EvalFault Int × Statistics :=
  match c.draw with
  | .error fault => (.error fault, st)
  | .ok (bestStoreId, n) =>
    match c.recordTransactionDetails st bestStoreId n with
    | (.error fault, st) => (.error fault, st)
    | (.ok (), st) =>
      match c.deployment.hostgroup bestStoreId with
      | .error what => (.error (.exception what), st)
      | .ok hostgroupId =>
        (.ok hostgroupId,
          if c.locked then { st with storeSqlCount := bump st.storeSqlCount bestStoreId } else st)

end HostCall

/-- The call ends as the evaluation without statistics does. -/
theorem HostCall.evaluateHost_fst (c : HostCall) (st : Statistics) : (c.evaluateHost st).1 =
    (((LionRouter.evaluateHost c.deployment c.keys c.random).along c.answers 0).1).map
      Routed.hostgroupId := by
  rw [LionRouter.evaluateHost, Prog.along_bind, HostCall.evaluateHost, draw]
  rcases (bestStores c.deployment c.keys).along c.answers 0 with ⟨fault | best, n⟩
  · rfl
  · dsimp only
    unfold finishHost
    cases best.bestStoreIds[c.random % best.bestStoreIds.length]? with
    | none => rfl
    | some storeId =>
      dsimp only
      rw [Prog.along_bind, LionRouter.recordTransactionDetails, Prog.along_bind,
        HostCall.recordTransactionDetails]
      rcases (partitionsAndStores c.keys).along c.answers n with ⟨fault | found, k⟩
      · rfl
      · dsimp only
        by_cases several : 1 < found.2.card
        · rw [if_pos several]
          cases c.deployment.hostgroup storeId <;> rfl
        · rw [if_neg several]
          cases c.deployment.hostgroup storeId <;> rfl

/-! ### What a call does to the statistics -/

/-- A transaction was counted, possibly as one across partitions. -/
inductive Statistics.Records (st : Statistics) : Statistics → Prop
  | one (storeSqlCount : SortedMap Int Int) : st.Records
      { st with totalTransactions := st.totalTransactions + 1, storeSqlCount := storeSqlCount }
  | cross (storeSqlCount : SortedMap Int Int) (log : TxnLog) : st.Records
      { st.cross log with
        totalTransactions := st.totalTransactions + 1, storeSqlCount := storeSqlCount }

theorem Statistics.Records.total {st st' : Statistics} (records : st.Records st') :
    st'.totalTransactions = st.totalTransactions + 1 := by
  cases records with
  | one => rfl
  | cross => rfl

theorem Statistics.Records.sql {st st' : Statistics} (records : st.Records st')
    (storeSqlCount : SortedMap Int Int) : st.Records
      { st' with storeSqlCount := storeSqlCount } := by
  cases records with
  | one => exact .one storeSqlCount
  | cross _ log => exact .cross storeSqlCount log

namespace HostCall

variable {c : HostCall} {st : Statistics} {storeId : Int} {n : Nat} {fault : EvalFault}

theorem recordTransactionDetails_records (c : HostCall) (st : Statistics) (storeId : Int)
    (n : Nat) : st.Records (c.recordTransactionDetails st storeId n).2 := by
  unfold recordTransactionDetails
  cases ((partitionsAndStores c.keys).along c.answers n).1 with
  | error fault => exact .one _
  | ok found =>
    dsimp only
    split
    · exact .cross st.storeSqlCount _
    · exact .one _

theorem evaluateHost_of_no_draw (drawn : c.draw = .error fault) (st : Statistics) :
    c.evaluateHost st = (.error fault, st) := by
  unfold evaluateHost
  rw [drawn]

theorem evaluateHost_records (drawn : c.draw = .ok (storeId, n)) :
    st.Records (c.evaluateHost st).2 := by
  have records := c.recordTransactionDetails_records st storeId n
  unfold evaluateHost
  rw [drawn]
  dsimp only
  generalize c.recordTransactionDetails st storeId n = recorded at records ⊢
  rcases recorded with ⟨fault | done, st'⟩
  · exact records
  · cases c.deployment.hostgroup storeId with
    | error what => exact records
    | ok hostgroupId =>
      dsimp only
      split
      · exact records.sql _
      · exact records

/-- If a store is drawn, its hostgroup is found, and before that the regions once more. -/
def Routes (c : HostCall) : Prop :=
  ∀ storeId n, c.draw = .ok (storeId, n) →
    (∃ found, ((partitionsAndStores c.keys).along c.answers n).1 = .ok found) ∧
      ∃ hostgroupId, c.deployment.hostgroup storeId = .ok hostgroupId

theorem routes_of_no_draw (drawn : c.draw = .error fault) : c.Routes := by
  intro storeId n other
  rw [drawn] at other
  cases other

theorem routes_iff (drawn : c.draw = .ok (storeId, n)) (st : Statistics) :
    c.Routes ↔ ∃ hostgroupId, (c.evaluateHost st).1 = .ok hostgroupId := by
  have this : c.Routes ↔ (∃ found, ((partitionsAndStores c.keys).along c.answers n).1 = .ok found) ∧
      ∃ hostgroupId, c.deployment.hostgroup storeId = .ok hostgroupId := by
    constructor
    · exact fun routes => routes storeId n drawn
    · intro both other k again
      cases drawn.symm.trans again
      exact both
  rw [this]
  unfold evaluateHost recordTransactionDetails
  rw [drawn]
  dsimp only
  cases ((partitionsAndStores c.keys).along c.answers n).1 with
  | error fault => simp
  | ok found =>
    cases c.deployment.hostgroup storeId with
    | error what | ok hostgroupId =>
      by_cases several : 1 < found.2.card
      · simp [several]
      · simp [several]

end HostCall

/-! ### Counters that agree -/

theorem total_bump (counts : SortedMap Int Int) (storeId : Int) :
    (bump counts storeId).total id = counts.total id + 1 := by
  unfold bump
  cases known : counts.find? storeId with
  | none =>
    have found : (counts.insert storeId 0).find? storeId = some 0 := by
      rw [SortedMap.find?_insert 0 known, if_pos rfl]
    rw [SortedMap.total_modify found, SortedMap.total_insert 0 known]
    simp
  | some count =>
    rw [SortedMap.insert_of_find known, SortedMap.total_modify known]
    simp only [id]
    omega

/-- The transactions across partitions are those of all stores, and there is a record of each. -/
structure Statistics.Consistent (st : Statistics) : Prop where
  stores : st.crossPartitionTransactions = st.storeCrossPartitionCount.total id
  details : st.crossPartitionTransactions = st.transactionDetails.length
  le_total : st.crossPartitionTransactions ≤ st.totalTransactions

theorem Statistics.consistent_start : Consistent {} := ⟨rfl, rfl, le_rfl⟩

theorem Statistics.Consistent.records {st st' : Statistics} (consistent : st.Consistent)
    (records : st.Records st') : st'.Consistent := by
  obtain ⟨stores, details, below⟩ := consistent
  cases records with
  | one =>
    refine ⟨stores, details, ?_⟩
    dsimp only
    omega
  | cross _ log =>
    constructor
    · exact (congrArg (· + 1) stores).trans (total_bump _ _).symm
    · change st.crossPartitionTransactions + 1 = ((st.transactionDetails ++ [log]).length : Int)
      rw [List.length_append, details]
      rfl
    · change st.crossPartitionTransactions + 1 ≤ st.totalTransactions + 1
      omega

theorem Statistics.Consistent.evaluateHost {st : Statistics} (consistent : st.Consistent)
    (c : HostCall) : (c.evaluateHost st).2.Consistent := by
  cases drawn : c.draw with
  | error fault =>
    rw [HostCall.evaluateHost_of_no_draw drawn]
    exact consistent
  | ok found => exact consistent.records (HostCall.evaluateHost_records drawn)

/-! ### Sequences of calls -/

inductive StatisticsEvent
  | evaluate (c : HostCall)
  -- the update thread has shown the statistics
  | reset

/-- The statistics, and the number of calls that returned since the last reset -/
structure Tally where
  statistics : Statistics := {}
  returned : Nat := 0

def Tally.step (s : Tally) : StatisticsEvent → Except Unit Tally
  | .evaluate c =>
    .ok ⟨(c.evaluateHost s.statistics).2,
      match (c.evaluateHost s.statistics).1 with
      | .ok _ => s.returned + 1
      | .error _ => s.returned⟩
  | .reset => .ok {}

def Tally.Meets (_ : Tally) : StatisticsEvent → Prop
  | .evaluate c => c.Routes
  | .reset => True

theorem consistent_of_run {ok : Tally → StatisticsEvent → Prop} {s : Tally}
    (run : Run Tally.step ok {} s) : s.statistics.Consistent := by
  refine run.invariant (fun s => s.statistics.Consistent) Statistics.consistent_start ?_
  intro s event s' consistent _ stepped
  cases event with
  | evaluate c =>
    cases stepped
    exact consistent.evaluateHost c
  | reset =>
    cases stepped
    exact Statistics.consistent_start

theorem total_of_run {s : Tally} (run : Run Tally.step Tally.Meets {} s) :
    s.statistics.totalTransactions = s.returned := by
  refine run.invariant (fun s => s.statistics.totalTransactions = s.returned) rfl ?_
  intro s event s' same meets stepped
  cases event with
  | reset =>
    cases stepped
    rfl
  | evaluate c =>
    cases stepped
    cases drawn : c.draw with
    | error fault =>
      rw [HostCall.evaluateHost_of_no_draw drawn]
      exact same
    | ok found =>
      -- the call counts its transaction, and it returns
      obtain ⟨hostgroupId, returned⟩ := (HostCall.routes_iff drawn s.statistics).mp meets
      rw [(HostCall.evaluateHost_records drawn).total, returned, same]
      rfl

/-- After any calls that return once they have drawn a store, the counters agree, and the total is
the number of calls that returned since the last reset. A call that throws then leaves the
statistics unchanged if and only if it has not drawn a store that cannot be routed. -/
theorem statistics_exact {s : Tally} (run : Run Tally.step Tally.Meets {} s) :
    s.statistics.Consistent ∧ s.statistics.totalTransactions = s.returned ∧
      ∀ (c : HostCall) (fault : EvalFault), (c.evaluateHost s.statistics).1 = .error fault →
        ((c.evaluateHost s.statistics).2 = s.statistics ↔ c.Routes) := by
  refine ⟨consistent_of_run run, total_of_run run, ?_⟩
  intro c fault thrown
  cases drawn : c.draw with
  | error other =>
    rw [HostCall.evaluateHost_of_no_draw drawn]
    exact iff_of_true rfl (HostCall.routes_of_no_draw drawn)
  | ok found =>
    apply iff_of_false
    · intro same
      have records : s.statistics.Records (c.evaluateHost s.statistics).2 :=
        HostCall.evaluateHost_records drawn
      have counted := records.total
      rw [same] at counted
      omega
    · rw [HostCall.routes_iff drawn s.statistics]
      rintro ⟨hostgroupId, returned⟩
      rw [thrown] at returned
      cases returned

def MetaInfo.split : MetaInfo := MetaInfo.ofRegions [⟨7, 1, {2}⟩, ⟨8, 2, {3}⟩]

def HostCall.across (d : Deployment) : HostCall := ⟨d, fun _ => .split, [0, 10000], 0, true⟩

/-- A transaction across two partitions, and then a key in a region that is not known. -/
theorem statistics_exact_across : ∃ s : Tally, Run Tally.step Tally.Meets {} s ∧
    s.returned = 1 ∧ s.statistics.totalTransactions = 1 ∧ s.statistics.Consistent ∧
    s.statistics.crossPartitionTransactions = 1 ∧
    (HostCall.evaluateHost { HostCall.across .three with keys := [20000] } s.statistics).2 =
      s.statistics := by
  have routes : (HostCall.across .three).Routes := by
    intro storeId n drawn
    have computed : (HostCall.across .three).draw = .ok (2, 12) := by rfl
    cases computed.symm.trans drawn
    exact ⟨⟨_, rfl⟩, _, rfl⟩
  have run : Run Tally.step Tally.Meets {} _ :=
    .step .start (i := .evaluate (.across .three)) routes rfl
  obtain ⟨consistent, total, unchanged⟩ := statistics_exact run
  have unknown : HostCall.draw { HostCall.across .three with keys := [20000] } =
      .error (.exception "虚拟 region_id 2 不存在") := by rfl
  refine ⟨_, run, rfl, total, consistent, rfl, ?_⟩
  rw [unchanged _ (.exception "虚拟 region_id 2 不存在")
    (by rw [HostCall.evaluateHost_of_no_draw unknown])]
  exact HostCall.routes_of_no_draw unknown

/-- The stores have no TiDB, or the regions are gone when they are looked up again: the call throws
and its transaction has been counted. -/
theorem statistics_count_thrown :
    (∃ s : Tally, Tally.step {} (.evaluate
      (.across { Deployment.three with store2tidb := fun _ => none })) =
        .ok s ∧ s.returned = 0 ∧ s.statistics.totalTransactions = 1 ∧
        s.statistics.crossPartitionTransactions = 1 ∧ s.statistics.transactionDetails.length = 1) ∧
    ∃ s : Tally, Tally.step {} (.evaluate { HostCall.across .three with
        snapshots := fun n => if n < 12 then .split else {} }) = .ok s ∧
      s.returned = 0 ∧ s.statistics.totalTransactions = 1 :=
  ⟨⟨_, rfl, rfl, rfl, rfl, rfl⟩, _, rfl, rfl, rfl⟩

end MockProxy.LionRouter
