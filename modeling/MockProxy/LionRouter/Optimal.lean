import MockProxy.LionRouter.Evaluate

/-!
# The stores an evaluation draws from

On fixed metadata that covers its keys, `EvaluateHost` draws from all stores of the greatest score:
ten for each key the store leads, one for each key it follows. The loop over the stores keeps the
best of them in the first `idx` entries of an array. A better store resets `idx`, and what stood
behind it stays in the array. The invariant of the loop is an equation: the entries in use are the
stores seen so far whose cost is the least cost seen so far (`Best.add_among`).

The cost of a store is its score with a minus sign, as a number of type `int`. With hundreds of
millions of keys it wraps around, and the best store can come out as the worst one.
`evaluateHost_draws_best_iff` says for which scores the right stores are drawn.
-/

namespace MockProxy.LionRouter

open Inquiry List Prog
open CString (int32)

/-! ### The score of a store -/

def MetaInfo.Covers (m : MetaInfo) (key : Int) : Prop :=
  (∃ storeId, m.primaryStoreId (regionOf key) = .ok storeId) ∧
    ∃ storeIds, m.secondaryStoreId (regionOf key) = .ok storeIds

def MetaInfo.leads (m : MetaInfo) (storeId key : Int) : Bool :=
  match m.primaryStoreId (regionOf key) with
  | .ok primary => primary = storeId
  | .error _ => false

def MetaInfo.follows (m : MetaInfo) (storeId key : Int) : Bool :=
  match m.secondaryStoreId (regionOf key) with
  | .ok storeIds => storeId ∈ storeIds ∧ ¬ m.leads storeId key
  | .error _ => false

def Deployment.score (d : Deployment) (m : MetaInfo) (keys : List Int) (storeId : Int) : Int :=
  d.weight * keys.countP (m.leads storeId) + keys.countP (m.follows storeId)

/-- The cost that the loop computes -/
def Deployment.cost (d : Deployment) (m : MetaInfo) (keys : List Int) (storeId : Int) : Int :=
  int32 (-d.score m keys storeId)

variable {d : Deployment} {m : MetaInfo} {storeId : Int} {keys storeIds : List Int}
  {cost : Int → Int} {size : Nat} {best : Best}

theorem Deployment.score_nonneg (weight : 0 ≤ d.weight) (m : MetaInfo) (keys : List Int)
    (storeId : Int) : 0 ≤ d.score m keys storeId :=
  Int.add_nonneg (Int.mul_nonneg weight (Int.natCast_nonneg _)) (Int.natCast_nonneg _)

/-! ### The loop over the keys -/

variable {virtualRegionId : Int}

theorem alone_askPrimary (found : m.primaryStoreId virtualRegionId = .ok storeId) :
    (askPrimary virtualRegionId).alone m.answer = .ok storeId := by
  simp [askPrimary, alone, MetaInfo.answer, found]

theorem alone_askSecondary {storeIds : Finset Int}
    (found : m.secondaryStoreId virtualRegionId = .ok storeIds) :
    (askSecondary virtualRegionId).alone m.answer = .ok storeIds := by
  simp [askSecondary, alone, MetaInfo.answer, found]

/-- Two numbers of keys, as the loop has them -/
def Counts.of (leads follows : Int) : Counts := ⟨int32 leads, int32 follows⟩

theorem int32_add_int32 (n k : Int) : int32 (int32 n + k) = int32 (n + k) := Int.bmod_add_bmod

theorem alone_countKey {key : Int} (covered : m.Covers key) (storeId a b : Int) :
    (countKey storeId (.of a b) key).alone m.answer =
      .ok (.of (a + [key].countP (m.leads storeId)) (b + [key].countP (m.follows storeId))) := by
  obtain ⟨⟨primary, led⟩, storeIds, followed⟩ := covered
  rw [countKey, alone_bind, alone_askPrimary led]
  show ((askSecondary (regionOf key) >>= _ : Eval Counts).alone m.answer) = _
  rw [alone_bind, alone_askSecondary followed]
  by_cases leads : primary = storeId
  · simp [Counts.of, int32_add_int32, MetaInfo.leads, MetaInfo.follows, led, followed, leads, alone,
      pure]
  · by_cases follows : storeId ∈ storeIds <;>
      simp [Counts.of, int32_add_int32, MetaInfo.leads, MetaInfo.follows, led, followed, leads,
        follows, alone, pure]

theorem alone_countKeys (covered : ∀ key ∈ keys, m.Covers key) (storeId a b : Int) :
    (keys.foldlM (countKey storeId) (.of a b)).alone m.answer =
      .ok (.of (a + keys.countP (m.leads storeId)) (b + keys.countP (m.follows storeId))) := by
  induction keys generalizing a b with
  | nil => simp [alone, pure]
  | cons key keys ih =>
    rw [forall_mem_cons] at covered
    rw [foldlM_cons, alone_bind, alone_countKey covered.1]
    refine (ih covered.2 _ _).trans ?_
    simp only [countP_cons, countP_nil, Nat.cast_add, add_assoc, Nat.zero_add]
    rw [add_comm (keys.countP (m.leads storeId) : Int),
      add_comm (keys.countP (m.follows storeId) : Int)]

theorem int32_cost (leads weight follows : Int) :
    int32 (-(int32 (int32 leads * weight) + int32 follows)) =
      int32 (-(leads * weight + follows)) := by
  have sum : int32 (int32 (int32 leads * weight) + int32 follows) =
      int32 (leads * weight + follows) := by
    simp only [int32, Int.bmod_add_bmod, Int.add_bmod_bmod]
    rw [← Int.bmod_add_bmod, Int.bmod_mul_bmod, Int.bmod_add_bmod]
  calc int32 (-(int32 (int32 leads * weight) + int32 follows))
      = int32 (-int32 (int32 (int32 leads * weight) + int32 follows)) := Int.bmod_neg_bmod.symm
    _ = int32 (-(leads * weight + follows)) := by
      rw [sum]
      exact Int.bmod_neg_bmod

theorem alone_visitStore (covered : ∀ key ∈ keys, m.Covers key) (best : Best) (storeId : Int) :
    (visitStore d keys best storeId).alone m.answer =
      .ok (best.add storeId (d.cost m keys storeId)) := by
  have counted := alone_countKeys covered storeId 0 0
  rw [Int.zero_add, Int.zero_add] at counted
  have start : ({} : Counts) = .of 0 0 := rfl
  have cost : d.cost m keys storeId = int32 (-(int32 (int32 (keys.countP (m.leads storeId)) *
      d.weight) + int32 (keys.countP (m.follows storeId)))) := by
    rw [int32_cost, Deployment.cost, Deployment.score, Int.mul_comm d.weight]
  rw [visitStore, alone_bind, start, counted, cost]
  simp only [Machine.ok_bind, Counts.of, alone, pure]

/-! ### The best stores -/

/-- The least cost among some stores, and the stores that have it; without a store it is 0. -/
def Best.among (cost : Int → Int) (storeIds : List Int) : Best where
  minCost := (storeIds.map cost).foldl min 0
  bestStoreIds := storeIds.filter fun storeId => cost storeId = (storeIds.map cost).foldl min 0

theorem foldl_min_le (costs : List Int) (start : Int) :
    costs.foldl min start ≤ start ∧ ∀ c ∈ costs, costs.foldl min start ≤ c := by
  induction costs generalizing start with
  | nil => simp
  | cons c costs ih =>
    obtain ⟨below, all⟩ := ih (min start c)
    rw [forall_mem_cons]
    exact ⟨below.trans (min_le_left _ _), below.trans (min_le_right _ _), all⟩

theorem foldl_min_mem (costs : List Int) (start : Int) :
    costs.foldl min start = start ∨ costs.foldl min start ∈ costs := by
  induction costs generalizing start with
  | nil => exact .inl rfl
  | cons c costs ih =>
    rw [foldl_cons, mem_cons]
    rcases ih (min start c) with first | later
    · rw [first]
      rcases min_choice start c with same | same
      · exact .inl same
      · exact .inr (.inl same)
    · exact .inr (.inr later)

theorem Best.add_filter {minCost : Int} (least : ∀ s ∈ storeIds, minCost ≤ cost s) (storeId : Int) :
    Best.add ⟨minCost, storeIds.filter fun s => cost s = minCost⟩ storeId (cost storeId) =
      ⟨min minCost (cost storeId),
        (storeIds ++ [storeId]).filter fun s => cost s = min minCost (cost storeId)⟩ := by
  unfold Best.add
  rcases lt_trichotomy minCost (cost storeId) with worse | same | better
  · have apart : ¬ cost storeId = minCost := ne_of_gt worse
    rw [if_neg worse.ne, if_neg (not_lt.mpr worse.le), min_eq_left worse.le]
    simp [apart]
  · -- as good as the best so far: it joins them
    simp [same.symm]
  · -- better than all so far: none of them has the new least cost
    have none : storeIds.filter (fun s => cost s = cost storeId) = [] := by
      rw [filter_eq_nil_iff]
      intro s member equal
      have above := least s member
      rw [of_decide_eq_true equal] at above
      exact absurd better (not_lt.mpr above)
    rw [if_neg better.ne', if_pos better, min_eq_right better.le, filter_append, none]
    simp

theorem Best.add_among (cost : Int → Int) (storeIds : List Int) (storeId : Int) :
    (Best.among cost storeIds).add storeId (cost storeId) =
      .among cost (storeIds ++ [storeId]) := by
  have least : ∀ s ∈ storeIds, (storeIds.map cost).foldl min 0 ≤ cost s := fun s member =>
    (foldl_min_le (storeIds.map cost) 0).2 _ (mem_map_of_mem member)
  have grown : ((storeIds ++ [storeId]).map cost).foldl min 0 =
      min ((storeIds.map cost).foldl min 0) (cost storeId) := by
    rw [map_append, foldl_append]
    rfl
  rw [Best.among, Best.add_filter least, Best.among, grown]

theorem alone_bestStores (covered : ∀ key ∈ keys, m.Covers key) :
    (bestStores d keys).alone m.answer =
      .ok (.among (d.cost m keys) d.storeIds) := by
  generalize isCost : d.cost m keys = cost
  have loop : ∀ seen storeIds : List Int, (storeIds.foldlM (visitStore d keys)
      (.among cost seen)).alone m.answer = .ok (.among cost (seen ++ storeIds)) := by
    intro seen storeIds
    induction storeIds generalizing seen with
    | nil =>
      rw [append_nil]
      rfl
    | cons storeId storeIds ih =>
      rw [foldlM_cons, alone_bind, alone_visitStore covered, isCost,
        Best.add_among, append_cons seen storeId storeIds]
      exact ih _
  exact loop [] d.storeIds

/-- The loop starts with a least cost of 0, so a store that costs more is never a best one. -/
theorem Best.mem_among : storeId ∈ (Best.among cost storeIds).bestStoreIds ↔
      storeId ∈ storeIds ∧ cost storeId ≤ 0 ∧ ∀ s ∈ storeIds, cost storeId ≤ cost s := by
  obtain ⟨low, least⟩ := foldl_min_le (storeIds.map cost) 0
  simp only [Best.among, mem_filter, decide_eq_true_eq]
  refine and_congr_right fun member => ⟨fun same => ?_, fun ⟨nonpos, lowest⟩ => ?_⟩
  · rw [same]
    exact ⟨low, fun s other => least _ (mem_map_of_mem other)⟩
  · refine le_antisymm ?_ (least _ (mem_map_of_mem member))
    rcases foldl_min_mem (storeIds.map cost) 0 with zero | some
    · rwa [zero]
    · obtain ⟨s, other, same⟩ := mem_map.mp some
      rw [← same]
      exact lowest s other

theorem Best.among_ne_nil (member : storeId ∈ storeIds) (low : cost storeId ≤ 0) :
    (Best.among cost storeIds).bestStoreIds ≠ [] := by
  have below := (foldl_min_le (storeIds.map cost) 0).2
  have attained : ∃ s ∈ storeIds, cost s = (storeIds.map cost).foldl min 0 := by
    rcases foldl_min_mem (storeIds.map cost) 0 with zero | some
    · have above := below (cost storeId) (mem_map_of_mem member)
      rw [zero] at above ⊢
      exact ⟨storeId, member, le_antisymm low above⟩
    · exact mem_map.mp some
  obtain ⟨s, there, same⟩ := attained
  intro none
  exact filter_eq_nil_iff.mp none s there (decide_eq_true same)

theorem Best.mem_of_among_ne_nil (some : (Best.among cost [storeId]).bestStoreIds ≠ []) :
    cost storeId ≤ 0 := by
  obtain ⟨s, member⟩ := exists_mem_of_ne_nil _ some
  obtain ⟨there, low, -⟩ := Best.mem_among.mp member
  rwa [mem_singleton.mp there] at low

/-! ### The array -/

/-- `best_store_ids` with as many entries as there are stores, `idx` and `min_cost` -/
structure Slots where
  bestStoreIds : List Int
  idx : Nat := 0
  minCost : Int := 0

/-- `best_store_ids[idx ++ ] = store_id`, nothing if that is behind the array -/
def Slots.put (s : Slots) (storeId : Int) : Option Slots :=
  if s.idx < s.bestStoreIds.length then
    some { s with bestStoreIds := s.bestStoreIds.set s.idx storeId, idx := s.idx + 1 }
  else none

def Slots.add (s : Slots) (storeId cost : Int) : Option Slots :=
  if s.minCost = cost then s.put storeId
  else if s.minCost > cost then Slots.put { s with minCost := cost, idx := 0 } storeId
  else some s

/-- The loop over some stores, on an array of `size` entries that are 0 in the beginning -/
def Slots.loop (cost : Int → Int) (size : Nat) (storeIds : List Int) : Option Slots :=
  storeIds.foldlM (fun s storeId => s.add storeId (cost storeId))
    { bestStoreIds := .replicate size 0 }

/-- The entries in use are those of `best`. -/
structure Slots.Holds (size : Nat) (s : Slots) (best : Best) : Prop where
  size : s.bestStoreIds.length = size
  inUse : s.bestStoreIds.take s.idx = best.bestStoreIds
  idx : s.idx = best.bestStoreIds.length
  minCost : s.minCost = best.minCost

theorem Slots.put_holds {s : Slots} (holds : s.Holds size best) (storeId : Int)
    (room : s.idx < size) : ∃ s', s.put storeId = some s' ∧
      s'.Holds size { best with bestStoreIds := best.bestStoreIds ++ [storeId] } := by
  have inside : s.idx < s.bestStoreIds.length := holds.size.symm ▸ room
  refine ⟨_, if_pos inside, ?_⟩
  constructor
  · rw [length_set]
    exact holds.size
  · have within : s.idx < (s.bestStoreIds.set s.idx storeId).length := by
      rwa [length_set]
    rw [take_succ_eq_append_getElem within, getElem_set_self,
      take_set_of_le le_rfl, holds.inUse]
  · rw [length_append, length_singleton, holds.idx]
  · exact holds.minCost

theorem Slots.add_holds {s : Slots} (holds : s.Holds size best) (storeId cost : Int)
    (room : s.idx < size) :
    ∃ s', s.add storeId cost = some s' ∧ s'.Holds size (best.add storeId cost) := by
  unfold Slots.add Best.add
  rw [holds.minCost]
  split
  · exact Slots.put_holds holds storeId room
  · split
    · -- the index is reset, so that nothing is in use
      have reset : Slots.Holds size { s with minCost := cost, idx := 0 } ⟨cost, []⟩ :=
        ⟨holds.size, take_zero, rfl, rfl⟩
      exact Slots.put_holds reset storeId (Nat.zero_lt_of_lt room)
    · exact ⟨s, rfl, holds⟩

theorem Best.length_among_le (cost : Int → Int) (storeIds : List Int) :
    (Best.among cost storeIds).bestStoreIds.length ≤ storeIds.length :=
  length_filter_le _ _

theorem Slots.loop_holds (cost : Int → Int) (storeIds : List Int) (fits : storeIds.length ≤ size) :
    ∃ s, Slots.loop cost size storeIds = some s ∧ s.Holds size (.among cost storeIds) := by
  induction storeIds using reverseRecOn with
  | nil => exact ⟨_, rfl, ⟨length_replicate, take_zero, rfl, rfl⟩⟩
  | append_singleton storeIds storeId ih =>
    rw [length_append, length_singleton] at fits
    obtain ⟨s, looped, holds⟩ := ih (by omega)
    have used : s.idx ≤ storeIds.length := holds.idx ▸ Best.length_among_le cost storeIds
    obtain ⟨s', added, holds'⟩ := Slots.add_holds holds storeId (cost storeId) (by omega)
    rw [Best.add_among] at holds'
    refine ⟨s', ?_, holds'⟩
    unfold Slots.loop at looped ⊢
    rw [foldlM_append, looped]
    simpa using added

/-! ### The evaluation -/

theorem alone_recordTransactionDetails (covered : ∀ key ∈ keys, m.Covers key) :
    ∃ crossPartition, (recordTransactionDetails keys).alone m.answer = .ok crossPartition := by
  have loop : ∀ found : Finset Int × Finset Int, ∃ found' : Finset Int × Finset Int,
      (keys.foldlM (fun found key => do
        let storeId ← askPrimary (regionOf key)
        return (insert (regionOf key) found.1, insert storeId found.2)) found :
          Eval (Finset Int × Finset Int)).alone m.answer = .ok found' := by
    induction keys with
    | nil => exact fun found => ⟨found, rfl⟩
    | cons key keys ih =>
      rw [forall_mem_cons] at covered
      intro found
      obtain ⟨⟨storeId, led⟩, -⟩ := covered.1
      rw [foldlM_cons, alone_bind, alone_bind, alone_askPrimary led]
      exact ih covered.2 _
  obtain ⟨found, looked⟩ := loop (∅, ∅)
  refine ⟨decide (1 < found.2.card), ?_⟩
  rw [recordTransactionDetails, alone_bind, partitionsAndStores, looked]
  rfl

/-- What is returned for a store that was drawn. -/
def Deployment.outcome (d : Deployment) (storeId : Int) (crossPartition : Bool) :
    Except EvalFault Routed :=
  match d.hostgroup storeId with
  | .error what => .error (.exception what)
  | .ok hostgroupId => .ok ⟨hostgroupId, storeId, crossPartition⟩

theorem alone_finishHost (covered : ∀ key ∈ keys, m.Covers key) (random : Nat)
    (stores : best.bestStoreIds ≠ []) : ∃ storeId ∈ best.bestStoreIds, ∃ crossPartition,
      (finishHost d keys random best).alone m.answer = d.outcome storeId crossPartition := by
  have inside : random % best.bestStoreIds.length < best.bestStoreIds.length :=
    Nat.mod_lt _ (length_pos_iff.mpr stores)
  obtain ⟨crossPartition, recorded⟩ := alone_recordTransactionDetails covered
  refine ⟨best.bestStoreIds[random % best.bestStoreIds.length], getElem_mem inside,
    crossPartition, ?_⟩
  unfold finishHost Deployment.outcome
  rw [getElem?_eq_getElem inside]
  rw [alone_bind, recorded]
  cases d.hostgroup best.bestStoreIds[random % best.bestStoreIds.length] with
  | error what => rfl
  | ok hostgroupId => rfl

/-- What an evaluation should do: it draws one of the stores of greatest score, from all of them and
without repetition, and after every store the loop has at least one entry of its array in use, and
no more than there are stores. -/
def DrawsBest (d : Deployment) (m : MetaInfo) (keys : List Int) (random : Nat) : Prop :=
  ∃ best : Best, (bestStores d keys).alone m.answer = .ok best ∧ best.bestStoreIds.Nodup ∧
    (∀ storeId, storeId ∈ best.bestStoreIds ↔ storeId ∈ d.storeIds ∧
      ∀ other ∈ d.storeIds, d.score m keys other ≤ d.score m keys storeId) ∧
    (∃ storeId ∈ best.bestStoreIds, ∃ crossPartition,
      (evaluateHost d keys random).alone m.answer = d.outcome storeId crossPartition) ∧
    (∀ seen, seen <+: d.storeIds → seen ≠ [] → ∃ s : Slots,
      Slots.loop (d.cost m keys) d.storeIds.length seen = some s ∧
        1 ≤ s.idx ∧ s.idx ≤ d.storeIds.length ∧
        (seen = d.storeIds → s.bestStoreIds.take s.idx = best.bestStoreIds))

/-! ### Scores that fit -/

/-- With a minus sign the score is at most 0 as an `int`. -/
def Held (score : Int) : Prop := score % 2 ^ 32 ≤ 2 ^ 31

theorem int32_neg_nonpos {score : Int} : int32 (-score) ≤ 0 ↔ Held score := by
  rw [int32, Int.bmod_def, Held]
  split_ifs <;> omega

theorem int32_neg_lt {score other : Int} (held : Held score) :
    int32 (-score) < int32 (-other) ↔ (Held other → other % 2 ^ 32 < score % 2 ^ 32) := by
  rw [int32, int32, Int.bmod_def, Int.bmod_def]
  unfold Held at *
  split_ifs <;> omega

/-- The greatest score is held, and the others that are held stay below it in the range of `int`;
the first store is a best one when nothing else was seen. -/
structure ScoresFit (d : Deployment) (m : MetaInfo) (keys : List Int) : Prop where
  first : ∀ storeId ∈ d.storeIds.head?, Held (d.score m keys storeId)
  greatest : ∀ storeId ∈ d.storeIds,
    (∀ other ∈ d.storeIds, d.score m keys other ≤ d.score m keys storeId) →
      Held (d.score m keys storeId) ∧ ∀ other ∈ d.storeIds,
        d.score m keys other < d.score m keys storeId → Held (d.score m keys other) →
          d.score m keys other % 2 ^ 32 < d.score m keys storeId % 2 ^ 32

theorem countP_leads_add_follows (m : MetaInfo) (storeId : Int) (keys : List Int) :
    keys.countP (m.leads storeId) + keys.countP (m.follows storeId) ≤ keys.length := by
  induction keys with
  | nil => rfl
  | cons key keys ih =>
    have once : ¬ (m.leads storeId key ∧ m.follows storeId key) := by
      rintro ⟨leads, follows⟩
      unfold MetaInfo.follows at follows
      split at follows
      · simp [leads] at follows
      · cases follows
    rw [countP_cons, countP_cons, length_cons]
    split_ifs with leads follows follows
    · exact absurd ⟨leads, follows⟩ once
    all_goals omega

/-- Scores of up to 214748364 keys fit. -/
theorem scoresFit_of_few (weight : d.weight = 10) (few : 10 * keys.length ≤ 2 ^ 31) :
    ScoresFit d m keys := by
  have range (storeId : Int) : 0 ≤ d.score m keys storeId ∧ d.score m keys storeId ≤ 2 ^ 31 := by
    have once := countP_leads_add_follows m storeId keys
    rw [Deployment.score, weight]
    omega
  have held (storeId : Int) : Held (d.score m keys storeId) := by
    have := range storeId
    unfold Held
    omega
  refine ⟨fun storeId _ => held storeId, fun storeId _ _ =>
    ⟨held storeId, fun other _ less _ => ?_⟩⟩
  have := range storeId
  have := range other
  omega

theorem exists_greatest (m : MetaInfo) (keys : List Int) (weight : 0 ≤ d.weight)
    (stores : d.storeIds ≠ []) :
    ∃ storeId ∈ d.storeIds, ∀ other ∈ d.storeIds,
      d.score m keys other ≤ d.score m keys storeId := by
  obtain ⟨first, rest, list⟩ := exists_cons_of_ne_nil stores
  have low : -d.score m keys first ≤ 0 :=
    Int.neg_nonpos_of_nonneg (d.score_nonneg weight m keys first)
  have nonempty : (Best.among (fun s => -d.score m keys s) d.storeIds).bestStoreIds ≠ [] :=
    Best.among_ne_nil (list ▸ mem_cons_self) low
  obtain ⟨storeId, member⟩ := exists_mem_of_ne_nil _ nonempty
  obtain ⟨there, -, least⟩ := Best.mem_among.mp member
  exact ⟨storeId, there, fun other inside => Int.neg_le_neg_iff.mp (least other inside)⟩

theorem ScoresFit.mem_among (fits : ScoresFit d m keys) (weight : 0 ≤ d.weight) (storeId : Int) :
    storeId ∈ (Best.among (d.cost m keys) d.storeIds).bestStoreIds ↔ storeId ∈ d.storeIds ∧
      ∀ other ∈ d.storeIds, d.score m keys other ≤ d.score m keys storeId := by
  rw [Best.mem_among]
  refine and_congr_right fun member => ?_
  simp only [Deployment.cost, int32_neg_nonpos]
  constructor
  · rintro ⟨held, least⟩ other inside
    by_contra less
    -- then the greatest score is another one, and it costs less
    obtain ⟨top, there, greatest⟩ := exists_greatest m keys weight (ne_nil_of_mem member)
    have below : d.score m keys storeId < d.score m keys top :=
      (Int.lt_of_not_ge less).trans_le (greatest other inside)
    obtain ⟨topHeld, others⟩ := fits.greatest top there greatest
    exact absurd (least top there)
      (not_le.mpr ((int32_neg_lt topHeld).mpr (others storeId member below)))
  · intro greatest
    obtain ⟨held, others⟩ := fits.greatest storeId member greatest
    refine ⟨held, fun other inside => ?_⟩
    rcases (greatest other inside).eq_or_lt with same | less
    · rw [same]
    · exact ((int32_neg_lt held).mpr (others other inside less)).le

/-- On metadata that covers the keys, the right stores are drawn exactly if the scores fit, and
those of less than 214748365 keys do. -/
theorem evaluateHost_draws_best_iff {d : Deployment} (sorted : d.storeIds.Pairwise (· < ·))
    (stores : d.storeIds ≠ []) (weight : d.weight = 10) {m : MetaInfo} {keys : List Int}
    (covered : ∀ key ∈ keys, m.Covers key) (random : Nat) :
    (DrawsBest d m keys random ↔ ScoresFit d m keys) ∧
      (10 * keys.length ≤ 2 ^ 31 → ScoresFit d m keys) := by
  have nonneg : 0 ≤ d.weight := by
    rw [weight]
    decide
  have looped := alone_bestStores (d := d) covered
  obtain ⟨first, rest, list⟩ := exists_cons_of_ne_nil stores
  have cost_nonpos : d.cost m keys first ≤ 0 ↔ Held (d.score m keys first) := int32_neg_nonpos
  refine ⟨⟨?_, fun fits => ?_⟩, scoresFit_of_few weight⟩
  · rintro ⟨best, ran, -, drawn, -, index⟩
    obtain rfl := Except.ok.inj (ran.symm.trans looped)
    refine ⟨fun storeId isFirst => ?_, fun storeId member greatest => ?_⟩
    · rw [list] at isFirst
      cases isFirst
      obtain ⟨s, loop, some, -⟩ := index [first] (by rw [list]; simp) (by simp)
      have room : [first].length ≤ d.storeIds.length := by simp [list]
      obtain ⟨s', loop', holds⟩ := Slots.loop_holds (d.cost m keys) [first] room
      obtain rfl := Option.some.inj (loop.symm.trans loop')
      rw [holds.idx] at some
      exact cost_nonpos.mp (Best.mem_of_among_ne_nil (length_pos_iff.mp some))
    · obtain ⟨-, low, least⟩ := Best.mem_among.mp ((drawn storeId).mpr ⟨member, greatest⟩)
      have held := int32_neg_nonpos.mp low
      refine ⟨held, fun other inside less => (int32_neg_lt held).mp ?_⟩
      -- a store that costs as little would be drawn as well
      by_contra same
      have as : d.cost m keys other = d.cost m keys storeId :=
        le_antisymm (not_lt.mp same) (least other inside)
      have drawnToo := (drawn other).mp
        (Best.mem_among.mpr ⟨inside, as.trans_le low, fun s there => as.trans_le (least s there)⟩)
      exact absurd (drawnToo.2 storeId member) (not_le.mpr less)
  · have low := cost_nonpos.mpr (fits.first first (by rw [list]; rfl))
    have nonempty : (Best.among (d.cost m keys) d.storeIds).bestStoreIds ≠ [] :=
      Best.among_ne_nil (list ▸ mem_cons_self) low
    refine ⟨_, looped, ?_, fits.mem_among nonneg, ?_, ?_⟩
    · exact (sorted.imp ne_of_lt).filter _
    · rw [evaluateHost, alone_bind, looped]
      exact alone_finishHost covered random nonempty
    · intro seen isPrefix some
      obtain ⟨s, ran, holds⟩ := Slots.loop_holds (d.cost m keys) seen isPrefix.length_le
      refine ⟨s, ran, ?_, ?_, ?_⟩
      · obtain ⟨start, more, rfl⟩ := exists_cons_of_ne_nil some
        rw [list] at isPrefix
        obtain ⟨rfl, -⟩ := cons_prefix_cons.mp isPrefix
        rw [holds.idx]
        exact length_pos_iff.mpr (Best.among_ne_nil mem_cons_self low)
      · rw [holds.idx]
        exact (Best.length_among_le _ seen).trans isPrefix.length_le
      · rintro rfl
        exact holds.inUse

def MetaInfo.ledByTwo : MetaInfo := MetaInfo.ofRegions [⟨7, 2, {3}⟩]

theorem ledByTwo_covers {keys : List Int} (first : ∀ key ∈ keys, regionOf key = 0) :
    ∀ key ∈ keys, MetaInfo.ledByTwo.Covers key := by
  intro key member
  unfold MetaInfo.Covers
  rw [first key member]
  exact ⟨⟨2, rfl⟩, {3}, rfl⟩

/-- Two keys of a region led by the second of three stores -/
theorem evaluateHost_draws_best_three : ∃ best : Best,
    (bestStores .three [0, 1]).alone MetaInfo.ledByTwo.answer = .ok best ∧
      best.bestStoreIds = [2] ∧ DrawsBest .three .ledByTwo [0, 1] 0 := by
  have covered : ∀ key ∈ ([0, 1] : List Int), MetaInfo.ledByTwo.Covers key :=
    ledByTwo_covers (by decide)
  obtain ⟨draws, few⟩ :=
    evaluateHost_draws_best_iff (d := .three) (by decide) (by decide) rfl covered 0
  exact ⟨⟨-20, [2]⟩, rfl, rfl, draws.mpr (few (by decide))⟩

/-- With 214748365 keys the leader of all of them costs more than 0, and the follower is drawn. -/
theorem many_keys_leave_leader :
    ((bestStores .three (replicate 214748365 0)).alone MetaInfo.ledByTwo.answer).map
        Best.bestStoreIds = .ok [3] ∧
      Deployment.three.score .ledByTwo (replicate 214748365 0) 2 = 2147483650 ∧
      Deployment.three.score .ledByTwo (replicate 214748365 0) 3 = 214748365 := by
  have score (storeId : Int) : Deployment.three.score .ledByTwo (replicate 214748365 0) storeId =
      if storeId = 2 then 2147483650 else if storeId = 3 then 214748365 else 0 := by
    have leads : MetaInfo.ledByTwo.leads storeId 0 = decide (2 = storeId) := rfl
    have follows : MetaInfo.ledByTwo.follows storeId 0 =
      decide (storeId ∈ ({3} : Finset Int) ∧ ¬ decide (2 = storeId)) := rfl
    rw [Deployment.score, countP_replicate, countP_replicate, leads, follows]
    by_cases two : storeId = 2
    · subst two
      rfl
    · by_cases three : storeId = 3
      · subst three
        rfl
      · simp [two, three, Ne.symm two]
  have costs : Deployment.three.cost .ledByTwo (replicate 214748365 0) = fun storeId =>
      int32 (-(if storeId = 2 then 2147483650 else if storeId = 3 then 214748365 else 0)) := by
    funext storeId
    rw [Deployment.cost, score]
  have covered : ∀ key ∈ replicate 214748365 (0 : Int), MetaInfo.ledByTwo.Covers key :=
    ledByTwo_covers fun key member => by
      rw [eq_of_mem_replicate member]
      rfl
  refine ⟨?_, by rw [score]; rfl, by rw [score]; rfl⟩
  rw [alone_bestStores covered, costs]
  rfl

end MockProxy.LionRouter
