import MockProxy.Lib.CString
import MockProxy.Lib.Inquiry
import MockProxy.LionRouter.Regions

/-!
# The choice of a host

`EvaluateHost` counts, for every store, the keys whose regions have their leader or a follower
there, and routes to a store of least cost. Each lookup of a region reads `version_` again, so that
an update between two lookups can make one evaluation use two snapshots. The evaluation below is a
program that asks for regions; a run interleaves any number of evaluations and updates.
-/

namespace MockProxy.LionRouter

open Inquiry Json
open CString (int32)

/-! ### `EvaluateHost` -/

inductive Question
  | primary (virtualRegionId : Int)
  | secondary (virtualRegionId : Int)

def Question.Answer : Question → Type
  | .primary _ => Except String Int
  | .secondary _ => Except String (Finset Int)

def MetaInfo.answer (m : MetaInfo) : ∀ q : Question, q.Answer
  | .primary virtualRegionId => m.primaryStoreId virtualRegionId
  | .secondary virtualRegionId => m.secondaryStoreId virtualRegionId

inductive EvalFault
  -- a `std::runtime_error`
  | exception (what : String)
  -- `random() % idx` without any store
  | divisionByZero
  deriving DecidableEq

abbrev Eval := Prog Question Question.Answer EvalFault

/-- A call of `GetRegionPrimaryStoreId` -/
def askPrimary (virtualRegionId : Int) : Eval Int :=
  .ask (.primary virtualRegionId) fun
    | .ok storeId => .done storeId
    | .error what => .fail (.exception what)

/-- A call of `GetRegionSecondaryStoreId`; its set is looked at before anything else happens. -/
def askSecondary (virtualRegionId : Int) : Eval (Finset Int) :=
  .ask (.secondary virtualRegionId) fun
    | .ok storeIds => .done storeIds
    | .error what => .fail (.exception what)

/-- The members of `LionRouter` that do not change after its start. -/
structure Deployment where
  -- `store_ids_`, in ascending order
  storeIds : List Int
  storeID2tikv : Int → Option String
  store2tidb : String → Option String
  tidb2hostgroup : String → Option Int
  -- `weight_`
  weight : Int := 10

/-- `key / REGION_SIZE` -/
def regionOf (key : Int) : Int := key.tdiv 10000

/-- The keys of a store, by their leaders and by their followers. -/
structure Counts where
  primaryCount : Int := 0
  secondaryCount : Int := 0

def countKey (storeId : Int) (counts : Counts) (key : Int) : Eval Counts := do
  let primaryStoreId ← askPrimary (regionOf key)
  let secondaryStoreIds ← askSecondary (regionOf key)
  if primaryStoreId = storeId then
    return { counts with primaryCount := int32 (counts.primaryCount + 1) }
  else if storeId ∈ secondaryStoreIds then
    return { counts with secondaryCount := int32 (counts.secondaryCount + 1) }
  else return counts

/-- `min_cost`, and the first `idx` entries of `best_store_ids` -/
structure Best where
  minCost : Int := 0
  bestStoreIds : List Int := []

def Best.add (best : Best) (storeId cost : Int) : Best :=
  if best.minCost = cost then { best with bestStoreIds := best.bestStoreIds ++ [storeId] }
  else if best.minCost > cost then ⟨cost, [storeId]⟩
  else best

variable (d : Deployment) (keys : List Int)

def visitStore (best : Best) (storeId : Int) : Eval Best := do
  let counts ← keys.foldlM (countKey storeId) {}
  let cost := int32 (-(int32 (counts.primaryCount * d.weight) + counts.secondaryCount))
  return best.add storeId cost

def bestStores : Eval Best := d.storeIds.foldlM (visitStore d keys) {}

/-- The loop over the keys in `RecordTransactionDetails`, which looks the regions up once more: the
partitions and the stores of the leaders -/
def partitionsAndStores : Eval (Finset Int × Finset Int) :=
  keys.foldlM (fun found key => do
    let storeId ← askPrimary (regionOf key)
    return (insert (regionOf key) found.1, insert storeId found.2)) (∅, ∅)

/-- `RecordTransactionDetails`: whether the transaction is counted as one across partitions -/
def recordTransactionDetails : Eval Bool := do
  let found ← partitionsAndStores keys
  return decide (1 < found.2.card)

/-- What an evaluation returns, and what it adds to the statistics. -/
structure Routed where
  hostgroupId : Int
  bestStoreId : Int
  crossPartition : Bool
  deriving DecidableEq

/-- The hostgroup next to a store -/
def Deployment.hostgroup (d : Deployment) (storeId : Int) : Except String Int :=
  match d.storeID2tikv storeId with
  | none => .error ("No TiKV found for store_id: " ++ toString storeId)
  | some "" => .error ("No TiKV found for store_id: " ++ toString storeId)
  | some tikvIp =>
    match d.store2tidb tikvIp with
    | none => .error ("No TiDB found for TiKV StoreID: " ++ toString storeId)
    | some tidbIp =>
      match d.tidb2hostgroup tidbIp with
      | none => .error ("No hostgroup found for TiDB IP: " ++ tidbIp)
      | some hostgroupId => .ok hostgroupId

/-- What follows the loop over the stores -/
def finishHost (random : Nat) (best : Best) : Eval Routed :=
  match best.bestStoreIds[random % best.bestStoreIds.length]? with
  | none => .fail .divisionByZero
  | some bestStoreId => do
    let crossPartition ← recordTransactionDetails keys
    match d.hostgroup bestStoreId with
    | .error what => .fail (.exception what)
    | .ok hostgroupId => return ⟨hostgroupId, bestStoreId, crossPartition⟩

/-- `LionRouter::EvaluateHost`, where `random` is the number `random()` returns -/
def evaluateHost (random : Nat) : Eval Routed := do
  let best ← bestStores d keys
  finishHost d keys random best

/-! ### What it asks -/

def questions : Set Question :=
  {q | ∃ key ∈ keys, q = .primary (regionOf key) ∨ q = .secondary (regionOf key)}

variable {keys : List Int} {key : Int} {d : Deployment} {current : MetaInfo} {c : Call}

theorem asks_askPrimary (member : key ∈ keys) :
    (askPrimary (regionOf key)).Asks (questions keys) := by
  refine ⟨⟨key, member, .inl rfl⟩, ?_⟩
  rintro (what | storeId) <;> trivial

theorem asks_askSecondary (member : key ∈ keys) :
    (askSecondary (regionOf key)).Asks (questions keys) := by
  refine ⟨⟨key, member, .inr rfl⟩, ?_⟩
  rintro (what | storeIds) <;> trivial

theorem asks_countKey (member : key ∈ keys) (storeId : Int) (counts : Counts) :
    (countKey storeId counts key).Asks (questions keys) := by
  refine (asks_askPrimary member).bind fun primary =>
    (asks_askSecondary member).bind fun secondary => ?_
  split_ifs <;> trivial

theorem asks_bestStores (d : Deployment) (keys : List Int) :
    (bestStores d keys).Asks (questions keys) := by
  refine Prog.asks_foldlM fun storeId _ best => ?_
  refine (Prog.asks_foldlM fun key member counts => asks_countKey member storeId counts).bind
    fun _ => ?_
  trivial

theorem asks_recordTransactionDetails (keys : List Int) :
    (recordTransactionDetails keys).Asks (questions keys) := by
  refine (Prog.asks_foldlM fun key member found => ?_).bind fun _ => trivial
  exact (asks_askPrimary member).bind fun _ => trivial

theorem asks_evaluateHost (d : Deployment) (keys : List Int) (random : Nat) :
    (evaluateHost d keys random).Asks (questions keys) := by
  refine (asks_bestStores d keys).bind fun best => ?_
  unfold finishHost
  split
  · trivial
  · refine (asks_recordTransactionDetails keys).bind fun crossPartition => ?_
    split <;> trivial

/-! ### Evaluations and updates -/

/-- A call of `EvaluateHost`: what is left of it, and what the getters could read since it began. -/
structure Call where
  keys : List Int
  random : Nat
  rest : Eval Routed
  published : List MetaInfo

def Call.see (c : Call) (m : MetaInfo) : Call :=
  match c.rest with
  | .ask _ _ => { c with published := c.published ++ [m] }
  | _ => c

structure System where
  router : Router
  calls : List Call

inductive SystemEvent
  -- a whole call of `UpdateRegion2Store`
  | update (response : String)
  -- a call of `EvaluateHost` begins
  | evaluate (keys : List Int) (random : Nat)
  -- the `i`-th call gets the answer of its next getter
  | getter (i : Nat)

namespace System

def start : System := ⟨.start, []⟩

def step {J : Type} (lib : JsonLib J) (d : Deployment) (s : System) :
    SystemEvent → Except Unit System
  | .update response => do
    let router ← updateRegion2Store lib s.router response
    return ⟨router, s.calls.map (·.see router.current)⟩
  | .evaluate keys random =>
    .ok { s with calls := s.calls ++
      [⟨keys, random, evaluateHost d keys random, [s.router.current]⟩] }
  | .getter i =>
    match s.calls[i]? with
    | some c =>
      .ok { s with calls := s.calls.set i { c with rest := c.rest.step s.router.current.answer } }
    | none => .error ()

end System

/-- The hostgroup of a call that has returned is one it could return alone, on one snapshot that was
published during the call. -/
def Call.OneSnapshot (d : Deployment) (c : Call) : Prop :=
  ∀ routed, c.rest = .done routed → ∃ m ∈ c.published, ∃ random alone,
    (evaluateHost d c.keys random).alone m.answer = .ok alone ∧
      alone.hostgroupId = routed.hostgroupId

/-- An update that succeeds while a call is in progress leaves the regions of its keys where they
are. -/
def System.Meets {J : Type} (lib : JsonLib J) (s : System) : SystemEvent → Prop
  | .update response => ∀ regions, decode lib response = some regions →
      ∀ c ∈ s.calls, (∃ q next, c.rest = .ask q next) → ∀ q ∈ questions c.keys,
        (MetaInfo.ofRegions regions).answer q = s.router.current.answer q
  | _ => True

/-- What is left of a call ends, on the current snapshot, as the whole call does on one of those it
has seen. -/
structure Call.Tracks (d : Deployment) (current : MetaInfo) (c : Call) : Prop where
  asks : c.rest.Asks (questions c.keys)
  outcome : ∃ m ∈ c.published,
    (evaluateHost d c.keys c.random).alone m.answer = c.rest.alone current.answer

theorem Call.Tracks.oneSnapshot (tracks : c.Tracks d current) : c.OneSnapshot d := by
  intro routed returned
  obtain ⟨m, member, outcome⟩ := tracks.outcome
  rw [returned] at outcome
  exact ⟨m, member, c.random, routed, outcome, rfl⟩

theorem Call.Tracks.getter (tracks : c.Tracks d current) :
    Call.Tracks d current { c with rest := c.rest.step current.answer } := by
  refine ⟨tracks.asks.step _, ?_⟩
  simp only [Prog.alone_step]
  exact tracks.outcome

theorem Call.Tracks.see {next : MetaInfo} (tracks : c.Tracks d current)
    (agree : (∃ q rest, c.rest = .ask q rest) →
      ∀ q ∈ questions c.keys, next.answer q = current.answer q) :
    (c.see next).Tracks d next := by
  obtain ⟨m, member, outcome⟩ := tracks.outcome
  cases left : c.rest with
  | done _ | fail _ =>
    simp only [Call.see, left]
    rw [left] at outcome
    exact ⟨tracks.asks, m, member, by rw [left]; exact outcome⟩
  | ask q rest =>
    have seen : c.see next = { c with published := c.published ++ [next] } := by
      unfold Call.see
      rw [left]
    rw [seen]
    have same := tracks.asks.alone_congr (agree ⟨q, rest, left⟩)
    refine ⟨tracks.asks, m, List.mem_append_left _ member, ?_⟩
    exact outcome.trans same.symm

def System.Inv (d : Deployment) (s : System) : Prop := ∀ c ∈ s.calls, c.Tracks d s.router.current

theorem System.Inv.step {J : Type} {lib : JsonLib J} {s s' : System} {e : SystemEvent}
    (inv : s.Inv d) (meets : s.Meets lib e) (stepped : s.step lib d e = .ok s') : s'.Inv d := by
  cases e with
  | update response =>
    obtain ⟨router, updated, same⟩ := Machine.bind_eq_ok.mp stepped
    cases same
    have current := updateRegion2Store_current lib updated
    intro c member
    obtain ⟨old, oldMember, rfl⟩ := List.mem_map.mp member
    refine (inv old oldMember).see fun running q asked => ?_
    rw [current]
    cases decoded : decode lib response with
    | none => rfl
    | some regions => exact meets regions decoded old oldMember running q asked
  | evaluate keys random =>
    cases stepped
    refine List.forall_mem_append.mpr ⟨inv, List.forall_mem_singleton.mpr ?_⟩
    exact ⟨asks_evaluateHost d keys random, s.router.current, by simp, rfl⟩
  | getter i =>
    simp only [System.step] at stepped
    split at stepped
    next c found =>
      cases stepped
      intro c' member
      rcases List.mem_or_eq_of_mem_set member with old | new
      · exact inv c' old
      · rw [new]
        exact (inv c (List.mem_of_getElem? found)).getter
    · cases stepped

/-- In every run in which no update moves the regions an evaluation in progress asks for, every
evaluation that has returned could have returned the same hostgroup alone, on one snapshot that was
published during it. -/
theorem evaluateHost_one_snapshot {J : Type} (lib : JsonLib J) (d : Deployment) {s : System}
    (run : Machine.Run (System.step lib d) (System.Meets lib) System.start s) :
    ∀ c ∈ s.calls, c.OneSnapshot d := by
  have inv : s.Inv d := by
    refine run.invariant (System.Inv d) ?_ fun s e s' inv meets stepped => inv.step meets stepped
    exact fun c member => absurd member List.not_mem_nil
  exact fun c member => (inv c member).oneSnapshot

/-! ### One and two snapshots in an evaluation -/

/-- Three stores, each with a hostgroup of its own. -/
def Deployment.three : Deployment where
  storeIds := [1, 2, 3]
  storeID2tikv
    | 1 => some "kv1"
    | 2 => some "kv2"
    | 3 => some "kv3"
    | _ => none
  store2tidb tikvIp := some tikvIp
  tidb2hostgroup
    | "kv1" => some 1
    | "kv2" => some 2
    | "kv3" => some 3
    | _ => none

def Json.atOne : String :=
  "\x7b\"record_regions\":[\x7b\"leader\":\x7b\"id\":1,\"store_id\":1\x7d,\"peers\":[],\"region_id\":7\x7d]\x7d"

def Json.atTwo : String :=
  "\x7b\"record_regions\":[\x7b\"leader\":\x7b\"id\":1,\"store_id\":2\x7d,\"peers\":[],\"region_id\":7\x7d]\x7d"

def Json.moving (text : String) : Option Json :=
  if text = atOne then some (.regions [.region 7 1 []])
  else if text = atTwo then some (.regions [.region 7 2 []])
  else none

/-- An update during the evaluation that leaves the region where it is. -/
theorem evaluateHost_one_snapshot_same_region : ∃ s : System,
    Machine.Run (System.step (lib moving) .three) (System.Meets (lib moving))
      System.start s ∧ ∃ c ∈ s.calls, (∃ routed, c.rest = .done routed ∧ routed.hostgroupId = 1) ∧
      c.published.length = 2 ∧ c.OneSnapshot .three := by
  have a : Machine.Run (System.step (lib moving) .three) (System.Meets (lib moving))
      System.start _ :=
    .step .start (i := .update Json.atOne) (fun _ _ c member => absurd member List.not_mem_nil) rfl
  have b := a.step (i := .evaluate [0] 0) (by exact trivial) rfl
  have c := (b.step (i := .getter 0) (by exact trivial) rfl).step (i := .getter 0)
    (by exact trivial) rfl
  have d := c.step (i := .update Json.atOne) (by
    rintro regions decoded call member running q asked
    have same : some regions = _ := decoded.symm.trans rfl
    cases same
    rfl) rfl
  have e := (d.step (i := .getter 0) (by exact trivial) rfl).step (i := .getter 0)
    (by exact trivial) rfl
  have f := (e.step (i := .getter 0) (by exact trivial) rfl).step (i := .getter 0)
    (by exact trivial) rfl
  have g := f.step (i := .getter 0) (by exact trivial) rfl
  exact ⟨_, g, _, .head _, ⟨_, rfl, rfl⟩, rfl,
    evaluateHost_one_snapshot (lib moving) .three g _ (.head _)⟩

/-- On one snapshot with the best store alone in front, the hostgroup is that of this store. -/
theorem alone_evaluateHost {random : Nat} {m : MetaInfo} {cost storeId hostgroupId : Int}
    {routed : Routed} (best : (bestStores d keys).alone m.answer = .ok ⟨cost, [storeId]⟩)
    (hostgroup : d.hostgroup storeId = .ok hostgroupId)
    (returned : (evaluateHost d keys random).alone m.answer = .ok routed) :
    routed.hostgroupId = hostgroupId := by
  rw [evaluateHost, Prog.alone_bind, best] at returned
  have only : ([storeId] : List Int)[random % 1]? = some storeId := by
    rw [Nat.mod_one]
    rfl
  simp only [finishHost, List.length_singleton, only, Machine.ok_bind] at returned
  rw [Prog.alone_bind] at returned
  obtain ⟨crossPartition, -, rest⟩ := Machine.bind_eq_ok.mp returned
  simp only [hostgroup] at rest
  cases rest
  rfl

/-- The region moves from store 2 to store 1 while a call is in progress: store 1 is judged before,
store 2 after, and store 3, where the region never was, is as good as they are. -/
theorem evaluateHost_two_snapshots : ∃ s : System,
    Machine.Run (System.step (lib moving) .three) (fun _ _ => True) System.start s ∧
    ∃ c ∈ s.calls, (∃ routed, c.rest = .done routed ∧ routed.hostgroupId = 3) ∧
      ¬ c.OneSnapshot .three := by
  have ran : [SystemEvent.update Json.atTwo, .evaluate [0] 2, .getter 0, .getter 0,
    .update Json.atOne,
      .getter 0, .getter 0, .getter 0, .getter 0, .getter 0].foldlM
      (System.step (lib moving) .three) System.start = .ok _ := rfl
  refine ⟨_, Machine.run_of_foldlM ran, _, .head _, ⟨_, rfl, rfl⟩, ?_⟩
  intro one
  obtain ⟨m, member, random, routed, returned, same⟩ := one _ rfl
  have hostgroup : routed.hostgroupId = 2 ∨ routed.hostgroupId = 1 := by
    rcases List.mem_cons.mp member with rfl | later
    · exact .inl (alone_evaluateHost rfl rfl returned)
    · obtain rfl := List.mem_singleton.mp later
      exact .inr (alone_evaluateHost rfl rfl returned)
  have three : routed.hostgroupId = 3 := same
  omega

end MockProxy.LionRouter
