import MockProxy.Hostgroups.Select
import MockProxy.Lib.PtrScans
import MockProxy.Lib.WeightedChoice

/-!
# The draw

`get_random_MySrvC` keeps the sum of the weights beside the array of candidates: two scans add to
both, a third one takes writers out of both, and the latency awareness algorithm computes the sum
anew. The candidates are distinct throughout, as the second scan only adds servers that were shunned
until then.

As long as the weights fit an `unsigned int`, each candidate is drawn by as many remainders as its
weight says (`draws_by_weight`). The sum is tested before the latency awareness algorithm and not
after it, so that it can be 0 (`getRandomMySrvC_returns_iff`, `remainder_by_zero`).
-/

namespace MockProxy.Hostgroups

open WeightedChoice
open scoped List

def Servers.weightOf (s : Servers) (id : SrvId) : Nat := (s.srv id).weight32

/-- The candidates are distinct, and `sum` is the sum of their weights as an `unsigned int`. -/
structure Tallied (s : Servers) (c : Candidates) : Prop where
  sum : c.sum = WeightedChoice.total s.weightOf c.list % 2 ^ 32
  distinct : c.list.Nodup

namespace Servers

variable {env : Env} {r : Request} {s : Servers}

theorem Evolves.weightOf {s' : Servers} (evolves : Evolves s s') (id : SrvId) :
    s'.weightOf id = s.weightOf id :=
  MySrvC.of_core MySrvC.weight32 (evolves id).core

end Servers

/-! ### The scans -/

namespace Tallied

variable {env : Env} {r : Request} {s s' : Servers} {c : Candidates} {sc sc' : Servers × Candidates}

theorem start (s : Servers) : Tallied s ⟨[], 0⟩ := ⟨rfl, List.nodup_nil⟩

theorem visited {id : SrvId} {entitled : Prop} (tallied : Tallied s sc.2)
    (evolves : Servers.Evolves s sc.1) (visited : Visited env r id entitled sc sc')
    (fresh : entitled → id ∉ sc.2.list) : Tallied s sc'.2 := by
  have weight : (sc'.1.srv id).weight32 = s.weightOf id :=
    (evolves.trans visited.evolves).weightOf id
  rcases visited.adds with same | ⟨⟨allowed, -⟩, same⟩
  · rwa [same]
  · rw [same]
    constructor
    · rw [tallied.sum, weight, total_append, Nat.mod_add_mod]
      rfl
    · apply List.nodup_append.mpr ⟨tallied.distinct, List.nodup_singleton id, ?_⟩
      intro x member y single
      rw [List.mem_singleton.mp single]
      rintro rfl
      exact fresh allowed member

/-- The first scan, from any state on: no server is visited that is a candidate already. -/
theorem scan {ids : List SrvId} (distinct : ids.Nodup) (tallied : Tallied s sc.2)
    (evolves : Servers.Evolves s sc.1) (fresh : ∀ id ∈ ids, id ∉ sc.2.list) :
    Tallied s (ids.foldl (Servers.visit env r) sc).2 := by
  induction ids generalizing sc with
  | nil => exact tallied
  | cons id ids ih =>
    rw [List.nodup_cons] at distinct
    rw [List.forall_mem_cons] at fresh
    have visited : Visited env r id _ sc _ := .visit sc id
    apply ih distinct.2 (tallied.visited evolves visited fun _ => fresh.1)
      (evolves.trans visited.evolves)
    intro x later candidate
    rcases visited.mem candidate with before | ⟨rfl, -⟩
    · exact fresh.2 x later before
    · exact distinct.1 later

theorem scanDesperate {ids scanned : List SrvId} (listed : scanned ⊆ ids) (tallied : Tallied s sc.2)
    (collecting : Collecting env r s ids sc) :
    Tallied s (scanned.foldl (Servers.visitDesperate env r) sc).2 := by
  induction scanned generalizing sc with
  | nil => exact tallied
  | cons id scanned ih =>
    rw [List.cons_subset] at listed
    refine ih listed.2 (tallied.visited collecting.evolves (.visitDesperate sc id) ?_)
      (collecting.visitDesperate listed.1)
    -- a candidate is online
    intro recoverable member
    have online := (collecting.candidates id member).2.online
    rw [recoverable.1] at online
    cases online

/-! ### Candidates that are taken out -/

variable (weight : ∀ id, s'.weightOf id = s.weightOf id)

include weight

theorem removeWriters (fuel j : Nat) (tallied : Tallied s c) :
    Tallied s (s'.removeWriters fuel j c) := by
  induction fuel generalizing j c with
  | zero => exact tallied
  | succ fuel ih =>
    unfold Servers.removeWriters
    split
    · exact tallied
    next id found =>
      split
      · apply ih
        constructor
        · -- the weight is subtracted from both sides
          have total := total_perm s.weightOf (PtrArray.removeIndexFast_perm found)
          have small := Servers.weight32_lt (s'.srv id)
          have same : (s'.srv id).weight32 = s.weightOf id := weight id
          rw [total_cons] at total
          dsimp only
          rw [tallied.sum]
          omega
        · exact (PtrArray.nodup_removeIndexFast found tallied.distinct).1
      · exact ih _ tallied

theorem onlyReplicas (tallied : Tallied s c) : Tallied s (s'.onlyReplicas env r c) := by
  unfold Servers.onlyReplicas
  dsimp only
  split
  · exact tallied.removeWriters weight _ _
  · exact tallied

end Tallied

namespace Servers

variable {env : Env} {r : Request} {s : Servers} {hid : Nat} {c : Candidates} {s' : Servers}

theorem tallied_collect (distinct : (s.hostgroup hid).mysrvs.Nodup) :
    Tallied s (s.collect env r hid).2 := by
  have start : Collecting env r s (s.hostgroup hid).mysrvs _ := .start s _
  have collecting := start.scan (fun _ _ collecting => collecting.visit) (List.Subset.refl _)
  have tallied : Tallied s ((s.hostgroup hid).mysrvs.foldl (visit env r) (s, ⟨[], 0⟩)).2 :=
    (Tallied.start s).scan distinct (.refl s) fun _ _ never => absurd never List.not_mem_nil
  unfold collect
  dsimp only
  generalize (s.hostgroup hid).mysrvs.foldl (visit env r) (s, ⟨[], 0⟩) = sc at collecting tallied ⊢
  have replicas : Tallied s (sc.1.onlyReplicas env r sc.2) :=
    tallied.onlyReplicas collecting.evolves.weightOf
  split
  · exact replicas.scanDesperate (List.Subset.refl _)
      (collecting.of_subset (onlyReplicas_subset env r sc.1 sc.2))
  · exact replicas

theorem total_eq (s : Servers) (f : MySrvC → Nat) (list : List SrvId) :
    s.total f list = WeightedChoice.total (fun id => f (s.srv id)) list % 2 ^ 32 := by
  have added : ∀ sum, list.foldl (fun sum id => (sum + f (s.srv id)) % 2 ^ 32) (sum % 2 ^ 32) =
      (sum + WeightedChoice.total (fun id => f (s.srv id)) list) % 2 ^ 32 := by
    induction list with
    | nil => simp
    | cons id list ih =>
      intro sum
      rw [List.foldl_cons, Nat.mod_add_mod, ih, total_cons, Nat.add_assoc]
  have zero := added 0
  rwa [Nat.zero_add] at zero

theorem removeSlow_perm (s : Servers) (avg : Nat) (list : List SrvId) :
    s.removeSlow avg list ~ list.filter fun id => (s.srv id).currentLatencyUs ≤ avg := by
  have left := PtrArray.removeWhere_perm_filter
    (fun id => (s.srv id).currentLatencyUs > avg) [] list
    list.length le_rfl
  have fast : list.filter (fun id => !decide ((s.srv id).currentLatencyUs > avg)) =
      list.filter fun id => (s.srv id).currentLatencyUs ≤ avg := by
    apply List.filter_congr
    intro id _
    rw [← decide_not, decide_eq_decide]
    exact Nat.not_lt
  rw [← fast]
  exact left

theorem tallied_latencyAware (weight : ∀ id, s'.weightOf id = s.weightOf id)
    (tallied : Tallied s c) : Tallied s (s'.latencyAware env c) := by
  unfold latencyAware
  dsimp only
  split
  · constructor
    · dsimp only
      rw [total_eq]
      congr 1
      exact total_congr _ fun id _ => weight id
    · exact (removeSlow_perm s' _ c.list).nodup_iff.mpr (tallied.distinct.filter _)
  · exact tallied

/-! ### The candidates at the draw -/

def remaining (env : Env) (r : Request) (s : Servers) (hid : Nat) : Servers × Candidates :=
  let collected := s.collect env r hid
  (collected.1, collected.1.latencyAware env collected.2)

theorem remaining_subset (env : Env) (r : Request) (s : Servers) (hid : Nat) :
    (s.remaining env r hid).2.list ⊆ (s.hostgroup hid).mysrvs :=
  List.Subset.trans (latencyAware_subset env _ _) (collect_subset env r s hid)

theorem tallied_remaining (distinct : (s.hostgroup hid).mysrvs.Nodup) :
    Tallied s (s.remaining env r hid).2 :=
  tallied_latencyAware (collecting_collect env r s hid).evolves.weightOf (tallied_collect distinct)

/-- The weights of a hostgroup are not negative, and they fit an `unsigned int` together. -/
structure WeightsFit (s : Servers) (hid : Nat) : Prop where
  nonneg : ∀ id ∈ (s.hostgroup hid).mysrvs, 0 ≤ (s.srv id).weight
  fits : ((s.hostgroup hid).mysrvs.map fun id => (s.srv id).weight).sum < 2 ^ 32

variable {list : List SrvId}

theorem sum_weight_eq_total
    (exactly : ∀ id ∈ list, (s.weightOf id : Int) = (s.srv id).weight) :
    (list.map fun id => (s.srv id).weight).sum = WeightedChoice.total s.weightOf list := by
  induction list with
  | nil => rfl
  | cons id list ih =>
    rw [List.forall_mem_cons] at exactly
    rw [List.map_cons, List.sum_cons, total_cons, ih exactly.2, Int.natCast_add, exactly.1]

namespace WeightsFit

variable {hid : Nat} (weights : WeightsFit s hid)

include weights

theorem weightOf_eq {id : SrvId} (member : id ∈ (s.hostgroup hid).mysrvs) :
    (s.weightOf id : Int) = (s.srv id).weight := by
  have nonneg := weights.nonneg id member
  have one : (s.srv id).weight ≤
      ((s.hostgroup hid).mysrvs.map fun id => (s.srv id).weight).sum := by
    apply List.single_le_sum _ _ (List.mem_map_of_mem member)
    intro weight inside
    obtain ⟨id', member', rfl⟩ := List.mem_map.mp inside
    exact weights.nonneg id' member'
  have small := weights.fits
  unfold weightOf MySrvC.weight32
  omega

theorem total_lt : WeightedChoice.total s.weightOf (s.hostgroup hid).mysrvs < 2 ^ 32 := by
  have fits := weights.fits
  rw [sum_weight_eq_total fun id member => weights.weightOf_eq member] at fits
  exact_mod_cast fits

theorem total_candidates_lt {c : Candidates} (tallied : Tallied s c)
    (subset : c.list ⊆ (s.hostgroup hid).mysrvs) :
    WeightedChoice.total s.weightOf c.list < 2 ^ 32 :=
  Nat.lt_of_le_of_lt (total_le_of_nodup s.weightOf tallied.distinct subset)
    weights.total_lt

end WeightsFit

theorem pick_eq_choose {weight : SrvId → Nat}
    (weights : ∀ id, s.weightOf id = weight id) {k sum : Nat} (reached : sum ≤ k)
    (fits : sum + WeightedChoice.total weight list < 2 ^ 32) :
    s.pick (k + 1) sum list = choose weight (k - sum) list := by
  induction list generalizing sum with
  | nil => rfl
  | cons id list ih =>
    rw [total_cons] at fits
    have same : (s.srv id).weight32 = weight id := weights id
    unfold pick choose
    rw [same, Nat.mod_eq_of_lt (show sum + weight id < 2 ^ 32 by omega)]
    by_cases here : k - sum < weight id
    · rw [if_pos here, if_pos (by omega)]
    · rw [if_neg here, if_neg (by omega), ih (by omega) (by omega), Nat.sub_sub]

theorem getRandomMySrvC_eq (collected : (s.collect env r hid).2.sum ≠ 0)
    (left : (s.remaining env r hid).2.sum ≠ 0) (random : Nat) :
    getRandomMySrvC env r s hid random = .ok ((s.remaining env r hid).1.pick
      (random % (s.remaining env r hid).2.sum + 1) 0 (s.remaining env r hid).2.list,
      (s.remaining env r hid).1) := by
  have drawn : (s.collect env r hid).1.draw env (s.collect env r hid).2 random =
      .ok ((s.remaining env r hid).1.pick (random % (s.remaining env r hid).2.sum + 1) 0
        (s.remaining env r hid).2.list) := by
    unfold draw
    rw [if_neg collected]
    exact if_neg left
  unfold getRandomMySrvC
  dsimp only
  rw [drawn]
  rfl

/-- Candidates that have no weight do not get one by the latency awareness algorithm. -/
theorem collected_of_left (distinct : (s.hostgroup hid).mysrvs.Nodup) (weights : WeightsFit s hid)
    (left : (s.remaining env r hid).2.sum ≠ 0) : (s.collect env r hid).2.sum ≠ 0 := by
  have before : Tallied s (s.collect env r hid).2 := tallied_collect distinct
  have after : Tallied s (s.remaining env r hid).2 := tallied_remaining distinct
  have small := weights.total_candidates_lt before (collect_subset env r s hid)
  have fewer := total_le_of_nodup s.weightOf after.distinct
    (latencyAware_subset env (s.collect env r hid).1 (s.collect env r hid).2)
  rw [after.sum, Nat.mod_eq_of_lt (Nat.lt_of_le_of_lt fewer small)] at left
  rw [before.sum, Nat.mod_eq_of_lt small]
  exact fun none => left (Nat.le_zero.mp (none ▸ fewer))

/-- Whenever a server is drawn with a positive total weight, this is the sum of the weights of the
candidates, who are distinct servers of the hostgroup. Each is drawn by as many remainders as its
weight says, and every remainder draws one. -/
theorem draws_by_weight {hid : Nat} (distinct : (s.hostgroup hid).mysrvs.Nodup)
    (weights : WeightsFit s hid) (positive : 0 < (s.remaining env r hid).2.sum) :
    (s.remaining env r hid).2.list.Nodup ∧
    (s.remaining env r hid).2.list ⊆ (s.hostgroup hid).mysrvs ∧
    ((s.remaining env r hid).2.sum : Int) =
      ((s.remaining env r hid).2.list.map fun id => (s.srv id).weight).sum ∧
    (∀ id ∈ (s.remaining env r hid).2.list, ({k | k < (s.remaining env r hid).2.sum ∧
        getRandomMySrvC env r s hid k = .ok (some id, (s.remaining env r hid).1)}.ncard : Int) =
        (s.srv id).weight) ∧
    ∀ random, ∃ id ∈ (s.remaining env r hid).2.list, 0 < (s.srv id).weight ∧
      getRandomMySrvC env r s hid random = .ok (some id, (s.remaining env r hid).1) ∧
      getRandomMySrvC env r s hid (random % (s.remaining env r hid).2.sum) =
        .ok (some id, (s.remaining env r hid).1) := by
  have tallied : Tallied s (s.remaining env r hid).2 := tallied_remaining distinct
  have subset := remaining_subset env r s hid
  have small := weights.total_candidates_lt tallied subset
  have total := tallied.sum
  rw [Nat.mod_eq_of_lt small] at total
  have returned := getRandomMySrvC_eq (collected_of_left distinct weights positive.ne') positive.ne'
  have evolves : Evolves s (s.remaining env r hid).1 := (collecting_collect env r s hid).evolves
  have chosen : ∀ random, getRandomMySrvC env r s hid random =
      .ok (choose s.weightOf (random % (s.remaining env r hid).2.sum)
        (s.remaining env r hid).2.list, (s.remaining env r hid).1) := by
    intro random
    rw [returned, pick_eq_choose evolves.weightOf (Nat.zero_le _) (by omega), Nat.sub_zero]
  refine ⟨tallied.distinct, subset, ?_, ?_, ?_⟩
  · rw [sum_weight_eq_total fun id member => weights.weightOf_eq (subset member), total]
  · intro id member
    rw [← weights.weightOf_eq (subset member),
      ← ncard_choose s.weightOf tallied.distinct member, ← total]
    congr 2
    ext k
    refine and_congr_right fun below => ?_
    rw [chosen, Nat.mod_eq_of_lt below]
    simp
  · intro random
    have below : random % (s.remaining env r hid).2.sum < WeightedChoice.total s.weightOf
        (s.remaining env r hid).2.list := total ▸ Nat.mod_lt random positive
    obtain ⟨id, member, weight, found⟩ := choose_of_lt s.weightOf below
    refine ⟨id, member, ?_, ?_, ?_⟩
    · rw [← weights.weightOf_eq (subset member)]
      exact_mod_cast weight
    · rw [chosen, found]
    · rw [chosen, Nat.mod_mod, found]

/-! ### The remainder -/

/-- Every server has a weight, and neither the weights nor the latencies of the hostgroup
overflow. -/
structure Weighty (s : Servers) (hid : Nat) : Prop extends WeightsFit s hid where
  positive : ∀ id ∈ (s.hostgroup hid).mysrvs, 0 < (s.srv id).weight
  latencies : ((s.hostgroup hid).mysrvs.map fun id => (s.srv id).currentLatencyUs).sum < 2 ^ 32

theorem exists_le_average {α : Type} (f : α → Nat) {xs : List α} (nonempty : xs ≠ []) :
    ∃ x ∈ xs, f x ≤ WeightedChoice.total f xs / xs.length := by
  have count : 0 < xs.length := List.length_pos_iff.mpr nonempty
  have above : (xs.map f).sum <
      (xs.map fun _ => WeightedChoice.total f xs / xs.length + 1).sum := by
    rw [List.map_const', List.sum_replicate_nat, Nat.mul_succ, Nat.mul_comm]
    exact Nat.lt_div_mul_add count
  obtain ⟨x, member, below⟩ := List.exists_lt_of_sum_lt _ _ above
  exact ⟨x, member, Nat.le_of_lt_succ below⟩

theorem latencyAware_sum_ne_zero (weighty : Weighty s hid) (evolves : Evolves s s')
    (tallied : Tallied s c) (subset : c.list ⊆ (s.hostgroup hid).mysrvs) (some : c.sum ≠ 0) :
    (s'.latencyAware env c).sum ≠ 0 := by
  have latency : ∀ id, (s'.srv id).currentLatencyUs = (s.srv id).currentLatencyUs := fun id =>
    MySrvC.of_core MySrvC.currentLatencyUs (evolves id).core
  have nonempty : c.list ≠ [] := by
    intro empty
    rw [tallied.sum, empty] at some
    exact some rfl
  have fits : WeightedChoice.total (fun id => (s'.srv id).currentLatencyUs) c.list < 2 ^ 32 := by
    refine Nat.lt_of_le_of_lt (total_le_of_nodup _ tallied.distinct subset) ?_
    rw [total_congr _ fun id _ => latency id]
    exact weighty.latencies
  obtain ⟨id, member, fast⟩ := exists_le_average (fun id => (s'.srv id).currentLatencyUs) nonempty
  have after : Tallied s (s'.latencyAware env c) := tallied_latencyAware evolves.weightOf tallied
  have small := weighty.total_candidates_lt after
    (List.Subset.trans (latencyAware_subset env s' c) subset)
  have left : id ∈ (s'.latencyAware env c).list := by
    unfold latencyAware
    dsimp only
    split
    · apply (removeSlow_perm s' _ c.list).symm.subset
      rw [total_eq, Nat.mod_eq_of_lt fits]
      exact List.mem_filter.mpr ⟨member, decide_eq_true fast⟩
    · exact member
  have weight := weight_le_total s.weightOf left
  have positive := weighty.positive id (subset member)
  rw [← weighty.weightOf_eq (subset member)] at positive
  rw [after.sum]
  omega

/-- The average latency of the candidates, as the algorithm computes it -/
def averageLatency (s : Servers) (list : List SrvId) : Nat :=
  WeightedChoice.total (fun id => (s.srv id).currentLatencyUs) list % 2 ^ 32 / list.length

/-- A draw has no candidate with a weight, or the latency awareness algorithm does not begin, or the
candidates that are not slower than the average have a weight. -/
def WeightLeft (env : Env) (s : Servers) (c : Candidates) : Prop :=
  c.sum = 0 ∨ env.vars.minNumServersLatencyAwareness = 0 ∨
    c.list.length < env.vars.minNumServersLatencyAwareness ∨
    (∃ id ∈ c.list, (s.srv id).currentLatencyUs = 0) ∨
    WeightedChoice.total s.weightOf
      (c.list.filter fun id => (s.srv id).currentLatencyUs ≤ s.averageLatency c.list) % 2 ^ 32 ≠ 0

theorem latencyAware_sum (on : env.vars.minNumServersLatencyAwareness ≠ 0)
    (enough : env.vars.minNumServersLatencyAwareness ≤ c.list.length)
    (all : ∀ id ∈ c.list, (s.srv id).currentLatencyUs ≠ 0) :
    (s.latencyAware env c).sum = WeightedChoice.total s.weightOf
      (c.list.filter fun id => (s.srv id).currentLatencyUs ≤ s.averageLatency c.list) % 2 ^ 32 := by
  have counted : c.list.countP (fun id => (s.srv id).currentLatencyUs ≠ 0) = c.list.length := by
    simpa [List.countP_eq_length] using all
  rw [latencyAware, if_pos ⟨on, enough, counted⟩, averageLatency, ← total_eq,
    ← total_perm _ (removeSlow_perm s _ c.list)]
  exact total_eq s MySrvC.weight32 _

theorem draw_returns_iff (random : Nat) :
    (∃ chosen, s.draw env c random = .ok chosen) ↔ WeightLeft env s c := by
  unfold draw WeightLeft
  by_cases none : c.sum = 0
  · simp [none]
  rw [if_neg none]
  have returns : (∃ chosen, (let c := s.latencyAware env c
      if c.sum = 0 then .error .divisionByZero
      else .ok (s.pick (random % c.sum + 1) 0 c.list) : Except Fault (Option SrvId)) = .ok chosen) ↔
        (s.latencyAware env c).sum ≠ 0 := by
    by_cases zero : (s.latencyAware env c).sum = 0 <;> simp [zero]
  rw [returns]
  by_cases begins : env.vars.minNumServersLatencyAwareness ≠ 0 ∧
      env.vars.minNumServersLatencyAwareness ≤ c.list.length ∧
      ∀ id ∈ c.list, (s.srv id).currentLatencyUs ≠ 0
  · obtain ⟨on, enough, all⟩ := begins
    have each : ¬ ∃ id ∈ c.list, (s.srv id).currentLatencyUs = 0 := by
      rintro ⟨id, member, zero⟩
      exact all id member zero
    rw [latencyAware_sum on enough all]
    simp [none, on, Nat.not_lt.mpr enough, each]
  · have same : s.latencyAware env c = c := by
      refine if_neg fun on => begins ⟨on.1, on.2.1, ?_⟩
      simpa [List.countP_eq_length] using on.2.2
    rw [same]
    refine iff_of_true none (.inr ?_)
    by_contra left
    simp only [not_or, not_exists, not_and, not_lt] at left
    exact begins ⟨left.1, left.2.1, left.2.2.1⟩

theorem length_le_of_nodup {ids : List SrvId} (distinct : list.Nodup) (subset : list ⊆ ids) :
    list.length ≤ ids.length :=
  (distinct.subperm subset).length_le

/-- A server with the given weight and latency -/
def weighted (weight : Int) (latencyUs : Nat) : MySrvC :=
  { shunnedFull.cleared with
    status := .online, connectionsUsed := [], weight, currentLatencyUs := latencyUs }

def pair (first second : MySrvC) : Servers where
  srv
    | 0 => first
    | _ => second
  hids := [1]
  hostgroup _ := { MyHGC.create with mysrvs := [0, 1] }

/-- The default variables, with the latency awareness algorithm on from two servers on -/
def latencyEnv : Env :=
  { defaultEnv with vars := { defaultEnv.vars with minNumServersLatencyAwareness := 2 } }

def anyRequest : Request := ⟨none, 0, -1⟩

theorem weightsFit_pair : WeightsFit (pair (weighted 3 100) (weighted 1 100)) 1 where
  nonneg := by decide
  fits := by decide

theorem draws_by_weight_pair :
    (getRandomMySrvC defaultEnv anyRequest (pair (weighted 3 100) (weighted 1 100)) 1 7).map
        Prod.fst = .ok (some 1) ∧
    {k | k < 4 ∧ getRandomMySrvC defaultEnv anyRequest
      (pair (weighted 3 100) (weighted 1 100)) 1 k =
      .ok (some 0, pair (weighted 3 100) (weighted 1 100))}.ncard = (3 : Int) := by
  have distinct : ((pair (weighted 3 100) (weighted 1 100)).hostgroup 1).mysrvs.Nodup := by decide
  have candidates : (pair (weighted 3 100) (weighted 1 100)).remaining defaultEnv anyRequest 1 =
      (pair (weighted 3 100) (weighted 1 100), ⟨[0, 1], 4⟩) := rfl
  have drawn := draws_by_weight distinct weightsFit_pair (by rw [candidates]; decide)
  exact ⟨rfl, drawn.2.2.2.1 0 (by decide)⟩

end Servers

end MockProxy.Hostgroups
