import MockProxy.LionRouter.Evaluate
import MockProxy.LionRouter.Stores

/-!
# Evaluations after any updates

`EvaluateHost` takes the remainder of a random number by the number of best stores. The loop over
the stores starts with a least cost of 0, and no store costs more than that, so the first store it
meets is a best one, whatever the regions are. Nothing is ever taken out of `store_ids_`. So the
remainder is taken by 0 if and only if no response has ever reported a store (`evaluateHost_safe`).

The costs are numbers of type `int`. They stay in its range up to two hundred million keys.
-/

namespace MockProxy.LionRouter

open Inquiry List
open CString (int32 int32_of_range)

/-! ### The loops, whatever the getters answer -/

def EvalFault.IsException (fault : EvalFault) : Prop := ∃ what, fault = .exception what

theorem ends_askPrimary (virtualRegionId : Int) :
    (askPrimary virtualRegionId).Ends (fun _ => True) EvalFault.IsException := by
  rintro (what | storeId)
  · exact ⟨what, rfl⟩
  · trivial

theorem ends_askSecondary (virtualRegionId : Int) :
    (askSecondary virtualRegionId).Ends (fun _ => True) EvalFault.IsException := by
  rintro (what | storeIds)
  · exact ⟨what, rfl⟩
  · trivial

/-- The counts of some keys: no more than there are keys -/
structure Counts.Within (counts : Counts) (keys : Nat) : Prop where
  primary_nonneg : 0 ≤ counts.primaryCount
  secondary_nonneg : 0 ≤ counts.secondaryCount
  sum_le : counts.primaryCount + counts.secondaryCount ≤ keys

variable {counts : Counts} {n : Nat} {best : Best} {d : Deployment}

theorem ends_countKey (storeId key : Int) (few : n + 1 < 2 ^ 31) (within : counts.Within n) :
    (countKey storeId counts key).Ends (fun counts => counts.Within (n + 1))
      EvalFault.IsException := by
  obtain ⟨primary, secondary, sum⟩ := within
  refine (ends_askPrimary _).bind fun primaryStoreId _ =>
    (ends_askSecondary _).bind fun storeIds _ => ?_
  rw [int32_of_range (by omega) (by omega), int32_of_range (by omega) (by omega)]
  split_ifs
  · exact ⟨by dsimp only; omega, secondary, by dsimp only; omega⟩
  · exact ⟨primary, by dsimp only; omega, by dsimp only; omega⟩
  · exact ⟨primary, secondary, by omega⟩

theorem ends_countKeys (storeId : Int) (keys : List Int) (few : n + keys.length < 2 ^ 31)
    (within : counts.Within n) : (keys.foldlM (countKey storeId) counts).Ends
      (fun counts => counts.Within (n + keys.length)) EvalFault.IsException := by
  induction keys generalizing counts n with
  | nil => exact within
  | cons key keys ih =>
    rw [length_cons] at few
    refine (ends_countKey storeId key (by omega) within).bind fun counts within => ?_
    have later := ih (by omega) within
    rwa [Nat.add_right_comm] at later

/-- The cost of a store is what the formula says, and it is not above 0. -/
theorem Counts.Within.cost (within : counts.Within n) (few : (10 : Int) * n < 2 ^ 31) :
    -2 ^ 31 < -(counts.primaryCount * 10 + counts.secondaryCount) ∧
      -(counts.primaryCount * 10 + counts.secondaryCount) ≤ 0 := by
  obtain ⟨primary, secondary, sum⟩ := within
  constructor <;> omega

/-! ### The best stores -/

/-- There is a best store, and all best stores are among those given. -/
structure Best.Some (best : Best) (storeIds : List Int) : Prop where
  minCost_nonpos : best.minCost ≤ 0
  nonempty : best.bestStoreIds ≠ []
  known : ∀ storeId ∈ best.bestStoreIds, storeId ∈ storeIds

theorem Best.add_some {storeIds : List Int} {storeId cost : Int} (low : cost ≤ 0)
    (member : storeId ∈ storeIds)
    (start : best.minCost = 0 ∧ best.bestStoreIds = [] ∨ best.Some storeIds) :
    (best.add storeId cost).Some storeIds := by
  have known : ∀ other ∈ best.bestStoreIds, other ∈ storeIds := by
    rcases start with ⟨-, empty⟩ | some
    · rw [empty]
      simp
    · exact some.known
  have nonpos : best.minCost ≤ 0 := by
    rcases start with ⟨zero, -⟩ | some
    · omega
    · exact some.minCost_nonpos
  unfold Best.add
  split_ifs with same better
  · refine ⟨nonpos, by simp, ?_⟩
    rw [forall_mem_append, forall_mem_singleton]
    exact ⟨known, member⟩
  · refine ⟨low, by simp, ?_⟩
    intro other inside
    rwa [mem_singleton.mp inside]
  · -- only with a best store that was there before
    rcases start with ⟨zero, -⟩ | some
    · omega
    · exact some

variable {keys : List Int} (weight : d.weight = 10) (few : (10 : Int) * keys.length < 2 ^ 31)

include weight few

theorem ends_visitStore {storeId : Int} (member : storeId ∈ d.storeIds)
    (start : best.minCost = 0 ∧ best.bestStoreIds = [] ∨ best.Some d.storeIds) :
    (visitStore d keys best storeId).Ends (fun best => best.Some d.storeIds)
      EvalFault.IsException := by
  have first : Counts.Within {} 0 := ⟨le_rfl, le_rfl, le_rfl⟩
  refine (ends_countKeys storeId keys (by omega) first).bind fun counts within => ?_
  rw [Nat.zero_add] at within
  have low : int32 (-(int32 (counts.primaryCount * d.weight) + counts.secondaryCount)) ≤ 0 := by
    obtain ⟨range, nonpos⟩ := within.cost few
    have primary := within.primary_nonneg
    have secondary := within.secondary_nonneg
    rw [weight, int32_of_range (n := counts.primaryCount * 10) (by omega) (by omega),
      int32_of_range (by omega) (by omega)]
    exact nonpos
  exact Best.add_some low member start

theorem ends_bestStores (stores : d.storeIds ≠ []) :
    (bestStores d keys).Ends (fun best => best.Some d.storeIds) EvalFault.IsException := by
  obtain ⟨first, rest, list⟩ := exists_cons_of_ne_nil stores
  have inside : ∀ storeId ∈ first :: rest, storeId ∈ d.storeIds := by simp [list]
  rw [forall_mem_cons] at inside
  have loop : bestStores d keys = (first :: rest).foldlM (visitStore d keys) {} := by
    unfold bestStores
    rw [list]
  rw [loop]
  refine (ends_visitStore weight few inside.1 (.inl ⟨rfl, rfl⟩)).bind fun best some => ?_
  exact Prog.ends_foldlM some fun storeId member best some =>
    ends_visitStore weight few (inside.2 storeId member) (.inr some)

omit weight few in
theorem ends_recordTransactionDetails (keys : List Int) :
    (recordTransactionDetails keys).Ends (fun _ => True) EvalFault.IsException := by
  have loop : (partitionsAndStores keys).Ends (fun _ => True) EvalFault.IsException :=
    Prog.ends_foldlM trivial fun key _ found _ => (ends_askPrimary _).bind fun storeId _ => trivial
  exact loop.bind fun found _ => trivial

def Deployment.Returns (d : Deployment) (routed : Routed) : Prop :=
  routed.bestStoreId ∈ d.storeIds ∧ d.hostgroup routed.bestStoreId = .ok routed.hostgroupId

omit weight few in
theorem ends_finishHost (d : Deployment) (keys : List Int) (random : Nat)
    (some : best.Some d.storeIds) :
    (finishHost d keys random best).Ends d.Returns EvalFault.IsException := by
  have inside : random % best.bestStoreIds.length < best.bestStoreIds.length :=
    Nat.mod_lt _ (length_pos_iff.mpr some.nonempty)
  unfold finishHost
  rw [getElem?_eq_getElem inside]
  refine (ends_recordTransactionDetails keys).bind fun crossPartition _ => ?_
  split
  next what missing =>
    exact ⟨what, rfl⟩
  next hostgroupId found =>
    exact ⟨some.known _ (getElem_mem inside), found⟩

theorem ends_evaluateHost (random : Nat) (stores : d.storeIds ≠ []) :
    (evaluateHost d keys random).Ends d.Returns EvalFault.IsException :=
  (ends_bestStores weight few stores).bind fun _ some => ends_finishHost d keys random some

omit weight few

theorem evaluateHost_of_no_store (none : d.storeIds = []) (keys : List Int) (random : Nat) :
    evaluateHost d keys random = .fail .divisionByZero := by
  unfold evaluateHost bestStores
  rw [none]
  rfl

/-! ### Updates -/

/-- The members of `LionRouter` that the updates write -/
structure Lion where
  router : Router
  stores : Stores

inductive Update
  | tikv2Store (response : String)
  | region2Store (response : String)

namespace Lion

def start : Lion := ⟨.start, .start⟩

def step {J : Type} (lib : StoresLib J) (s : Lion) : Update → Except Unit Lion
  | .tikv2Store response => do
    let stores ← updateTikv2Store lib s.stores response
    return { s with stores := stores }
  | .region2Store response => do
    let router ← updateRegion2Store lib.toJsonLib s.router response
    return { s with router := router }

/-- The TiDB and the hostgroup next to each store, as `InitTidb2Store` has read them -/
structure Tidbs where
  store2tidb : String → Option String
  tidb2hostgroup : String → Option Int

def deployment (s : Lion) (t : Tidbs) : Deployment where
  storeIds := s.stores.getAllStoreIds
  storeID2tikv := s.stores.storeID2tikv
  store2tidb := t.store2tidb
  tidb2hostgroup := t.tidb2hostgroup

end Lion

def writtenBy {J : Type} (lib : StoresLib J) (updates : List Update) : List (Int × String) :=
  updates.flatMap fun
    | .tikv2Store response => (storesOf lib response).1
    | .region2Store _ => []

variable {updates : List Update}

theorem stores_of_updates {J : Type} (lib : StoresLib J) {s s' : Lion}
    (ran : updates.foldlM (Lion.step lib) s = .ok s') :
    s'.stores = (writtenBy lib updates).foldl Stores.put s.stores := by
  induction updates generalizing s with
  | nil =>
    cases ran
    rfl
  | cons update rest ih =>
    obtain ⟨s₁, first, later⟩ := Machine.bind_eq_ok.mp ran
    rw [ih later]
    cases update with
    | tikv2Store response =>
      obtain ⟨stores, updated, same⟩ := Machine.bind_eq_ok.mp first
      cases same
      rw [updateTikv2Store_eq lib updated, ← foldl_append]
      rfl
    | region2Store response =>
      obtain ⟨router, -, same⟩ := Machine.bind_eq_ok.mp first
      cases same
      rfl

theorem mem_storeIds_iff {J : Type} (lib : StoresLib J) {s : Lion}
    (ran : updates.foldlM (Lion.step lib) Lion.start = .ok s) (t : Lion.Tidbs) (storeId : Int) :
    storeId ∈ (s.deployment t).storeIds ↔ storeId ∈ (writtenBy lib updates).map Prod.fst := by
  have stores : s.stores = (writtenBy lib updates).foldl Stores.put .start :=
    stores_of_updates lib ran
  change storeId ∈ s.stores.getAllStoreIds ↔ _
  rw [stores, mem_getAllStoreIds_iff]

/-- An evaluation that ended returned the hostgroup of a store that some response has reported, or
it threw, or it divided by 0 because no response has reported any. -/
structure SafeOutcome (d : Deployment) (written : List (Int × String))
    (outcome : Except EvalFault Routed) : Prop where
  returned : ∀ routed, outcome = .ok routed →
    routed.bestStoreId ∈ written.map Prod.fst ∧
      d.hostgroup routed.bestStoreId = .ok routed.hostgroupId
  divides : outcome = .error .divisionByZero ↔ written = []

theorem safeOutcome_of_ends {written : List (Int × String)} (weight : d.weight = 10)
    (stores : ∀ storeId, storeId ∈ d.storeIds ↔ storeId ∈ written.map Prod.fst)
    (few : (10 : Int) * keys.length < 2 ^ 31) (random : Nat)
    (answers : Nat → ∀ q : Question, q.Answer) :
    SafeOutcome d written ((evaluateHost d keys random).along answers 0).1 := by
  by_cases none : d.storeIds = []
  · have nothing : written = [] := by
      rw [← map_eq_nil_iff, eq_nil_iff_forall_not_mem]
      intro storeId
      rw [← stores, none]
      exact not_mem_nil
    rw [evaluateHost_of_no_store none]
    exact ⟨fun routed returned => (nomatch returned), iff_of_true rfl nothing⟩
  · have ends := ends_evaluateHost weight few random none
    constructor
    · intro routed returned
      obtain ⟨known, found⟩ := ends.along_ok returned
      exact ⟨(stores _).mp known, found⟩
    · constructor
      · intro divided
        obtain ⟨what, other⟩ := ends.along_error divided
        cases other
      · rintro rfl
        obtain ⟨first, rest, list⟩ := exists_cons_of_ne_nil none
        have member := (stores first).mp (list ▸ mem_cons_self)
        exact absurd member not_mem_nil

/-- After any updates, an evaluation returns the hostgroup of a known store or throws an exception,
and it takes a remainder by 0 if and only if no response has reported a store. This holds on the
snapshot that is current and also if others are published while it runs. The costs are in the range
of `int`. -/
theorem evaluateHost_safe {J : Type} (lib : StoresLib J) {updates : List Update} {s : Lion}
    (ran : updates.foldlM (Lion.step lib) Lion.start = .ok s) (t : Lion.Tidbs) (keys : List Int)
    (few : (10 : Int) * keys.length < 2 ^ 31) (random : Nat) :
    SafeOutcome (s.deployment t) (writtenBy lib updates)
      ((evaluateHost (s.deployment t) keys random).alone s.router.current.answer) ∧
    (∀ snapshots : Nat → MetaInfo, SafeOutcome (s.deployment t) (writtenBy lib updates)
      ((evaluateHost (s.deployment t) keys random).along (fun n => (snapshots n).answer) 0).1) ∧
    ∀ storeId, (keys.foldlM (countKey storeId) {}).Ends
      (fun counts => -2 ^ 31 < -(counts.primaryCount * 10 + counts.secondaryCount) ∧
        -(counts.primaryCount * 10 + counts.secondaryCount) ≤ 0) EvalFault.IsException := by
  have stores := mem_storeIds_iff lib ran t
  refine ⟨?_, ?_, ?_⟩
  · rw [← Prog.along_const _ 0]
    exact safeOutcome_of_ends rfl stores few random _
  · exact fun snapshots => safeOutcome_of_ends rfl stores few random _
  · intro storeId
    have first : Counts.Within {} 0 := ⟨le_refl _, le_refl _, le_refl _⟩
    refine (ends_countKeys storeId keys (by omega) first).mono (fun counts within => ?_)
      fun _ failed => failed
    rw [Nat.zero_add] at within
    exact within.cost few

def Lion.Tidbs.sample : Lion.Tidbs where
  store2tidb tikvIp := some tikvIp
  tidb2hostgroup
    | "a" => some 1
    | "b" => some 2
    | _ => none

def Json.sampleBoth (response : String) : Option Json :=
  (Json.sampleStores response).or (Json.moving response)

/-- Two stores, a response that cannot be parsed and one with a region: the second store leads
it. -/
theorem evaluateHost_safe_two : ∃ s : Lion,
    [Update.tikv2Store Json.twoStores, .region2Store "", .region2Store Json.atTwo].foldlM
      (Lion.step (Json.storesLib Json.sampleBoth)) Lion.start = .ok s ∧
    (∃ routed, (evaluateHost (s.deployment .sample) [0, 1] 0).alone s.router.current.answer =
      .ok routed ∧ routed.hostgroupId = 2) ∧
    (evaluateHost (s.deployment .sample) [0, 1] 0).alone s.router.current.answer ≠
      .error .divisionByZero := by
  have ran : [Update.tikv2Store Json.twoStores, .region2Store "", .region2Store Json.atTwo].foldlM
      (Lion.step (Json.storesLib Json.sampleBoth)) Lion.start = .ok _ := rfl
  obtain ⟨safe, -, -⟩ := evaluateHost_safe (Json.storesLib Json.sampleBoth) ran .sample [0, 1]
    (by decide) 0
  refine ⟨_, ran, ⟨_, rfl, rfl⟩, ?_⟩
  rw [Ne, safe.divides]
  decide +kernel

/-- No store is known before the first response, nor after one that cannot be parsed. -/
theorem evaluateHost_divides_by_zero : ∃ s : Lion,
    [Update.tikv2Store "", .region2Store Json.atTwo].foldlM
      (Lion.step (Json.storesLib Json.sampleBoth)) Lion.start = .ok s ∧
    ∀ keys random, (evaluateHost (s.deployment .sample) keys random).alone s.router.current.answer =
      .error .divisionByZero := by
  have ran : [Update.tikv2Store "", .region2Store Json.atTwo].foldlM
      (Lion.step (Json.storesLib Json.sampleBoth)) Lion.start = .ok _ := rfl
  refine ⟨_, ran, fun keys random => ?_⟩
  rfl

end MockProxy.LionRouter
