import Mathlib.Algebra.BigOperators.Ring.Finset
import MockProxy.QueryCache.Consistency

/-!
# The counters of the query cache

`Glo_num_entries` and `Glo_size_values` count the entries in the arrays of all tables and the bytes
of their values. The size that is compared with the memory limit counts the overhead of an entry
once for every table, because each of the 32 tables adds the overhead of all entries.
-/

namespace MockProxy.QueryCache.Cache

open DataStream Machine

variable {c c' : Cache} {w : QcEntry → Nat} {e : QcEntry} {id : Nat}

def weight (w : QcEntry → Nat) (c : Cache) (id : Nat) : Nat := ((c.heap id).map w).getD 0

def weigh (w : QcEntry → Nat) (c : Cache) : Nat :=
  ∑ i, ((c.tables i).ptrArray.map (c.weight w)).sum

def held (c : Cache) : Nat := ∑ i, (c.tables i).ptrArray.length

theorem weight_of_some (found : c.heap id = some e) : c.weight w id = w e := by
  simp [weight, found]

theorem weigh_one (sound : Sound c) : c.weigh (fun _ => 1) = c.held := by
  apply Finset.sum_congr rfl
  intro i _
  have ones : (c.tables i).ptrArray.map (c.weight fun _ => 1) =
      (c.tables i).ptrArray.map fun _ => 1 := by
    apply List.map_congr_left
    intro id member
    obtain ⟨e, found, -⟩ := sound.listed i id member
    exact weight_of_some found
  rw [ones]
  simp

theorem weigh_put {old : QcEntry} (found : c.heap id = some old) (same : w e = w old) :
    (c.put id e).weigh w = c.weigh w := by
  have weights : (c.put id e).weight w = c.weight w := by
    funext id'
    by_cases written : id' = id
    · subst written
      rw [weight_of_some found, ← same]
      exact weight_of_some (heap_put_self c id' e)
    · unfold weight
      rw [heap_put_of_ne c written]
  unfold weigh
  rw [weights]
  rfl

theorem weigh_clear (i : TableId) : (c.clear i).weigh w = c.weigh w := by
  apply Finset.sum_congr rfl
  intro j _
  rw [ptrArray_clear]
  rfl

theorem weigh_sum (v w : QcEntry → Nat) (c : Cache) :
    c.weigh (fun e => v e + w e) = c.weigh v + c.weigh w := by
  have pointwise : (c.weight fun e => v e + w e) = fun id => c.weight v id + c.weight w id := by
    funext id
    unfold weight
    cases c.heap id with
    | none => rfl
    | some e => rfl
  unfold weigh
  rw [← Finset.sum_add_distrib, pointwise]
  apply Finset.sum_congr rfl
  intro i _
  exact List.sum_map_add

theorem weigh_const (k : Nat) (c : Cache) : c.weigh (fun _ => k) = c.weigh (fun _ => 1) * k := by
  have pointwise : (c.weight fun _ => k) = fun id => c.weight (fun _ => 1) id * k := by
    funext id
    unfold weight
    cases c.heap id with
    | none => simp
    | some e => simp
  unfold weigh
  rw [Finset.sum_mul, pointwise]
  apply Finset.sum_congr rfl
  intro i _
  exact List.sum_map_mul_right _ _ _

theorem weigh_add (sound : Sound c) (key : Nat) (e : QcEntry) :
    (c.add key e).weigh w = c.weigh w + w { e with refCount := 1 } := by
  have new : (c.add key e).weight w c.fresh = w { e with refCount := 1 } :=
    weight_of_some (Function.update_self ..)
  have table (i : TableId) : (((c.add key e).tables i).ptrArray.map ((c.add key e).weight w)).sum =
      ((c.tables i).ptrArray.map (c.weight w)).sum +
        if i = tableOf key then w { e with refCount := 1 } else 0 := by
    have old : (c.tables i).ptrArray.map ((c.add key e).weight w) =
        (c.tables i).ptrArray.map (c.weight w) := by
      apply List.map_congr_left
      intro id member
      obtain ⟨e', found, -⟩ := sound.listed i id member
      rw [weight_of_some found, weight_of_some (sound.heap_add_of_some found)]
    rw [ptrArray_add, List.map_append, old]
    split
    · simp [new]
    · simp
  unfold weigh
  rw [Finset.sum_congr rfl fun i _ => table i, Finset.sum_add_distrib]
  simp

theorem weigh_release (sound : Sound c) {i : TableId} {index : Nat}
    (there : (c.tables i).ptrArray[index]? = some id) (found : c.heap id = some e) :
    c.weigh w = (c.release i index id e.key).weigh w + w e := by
  have table (j : TableId) : ((c.tables j).ptrArray.map (c.weight w)).sum =
      (((c.release i index id e.key).tables j).ptrArray.map
        ((c.release i index id e.key).weight w)).sum + if j = i then w e else 0 := by
    -- what stays in the array weighs the same
    have stays : ((c.release i index id e.key).tables j).ptrArray.map
        ((c.release i index id e.key).weight w) =
        ((c.release i index id e.key).tables j).ptrArray.map (c.weight w) := by
      apply List.map_congr_left
      intro id' member
      obtain ⟨other, -⟩ := sound.ne_of_mem_release there found member
      unfold weight
      rw [heap_release_of_ne c i other]
    rw [stays, ptrArray_release]
    split
    next same =>
      subst same
      have removed := PtrArray.sum_map_removeIndexFast there (c.weight w)
      rw [weight_of_some found] at removed
      omega
    · rw [Nat.add_zero]
  unfold weigh
  rw [Finset.sum_congr rfl fun j _ => table j, Finset.sum_add_distrib]
  simp

/-! ### Every operation counts -/

/-- The counters, while this much has been purged and not yet been subtracted. -/
structure Counts (c : Cache) (p : Purged) : Prop where
  sound : Sound c
  numEntries : c.numEntries = c.weigh (fun _ => 1) + p.removedEntries
  sizeValues : c.sizeValues = c.weigh (fun e => e.value.length) + p.freedMemory

abbrev Counted (c : Cache) : Prop := Counts c ⟨0, 0⟩

namespace Counts

theorem put (p : Purged) : WriteClosed fun c => Counts c p := by
  intro c id old e counts found rewrites
  constructor
  · exact Sound.put c id old e counts.sound found rewrites
  · rw [weigh_put found (e := e) rfl]
    exact counts.numEntries
  · rw [weigh_put found (congrArg List.length rewrites.value)]
    exact counts.sizeValues

theorem clear (p : Purged) : ClearClosed fun c => Counts c p := by
  intro c i counts dropped
  constructor
  · exact Sound.clear c i counts.sound dropped
  · rw [weigh_clear]
    exact counts.numEntries
  · rw [weigh_clear]
    exact counts.sizeValues

theorem add {p : Purged} (counts : Counts c p) {key : Nat} {e : QcEntry} (keyed : e.key = key) :
    Counts (c.add key e) p := by
  constructor
  · exact counts.sound.add keyed
  · have before := counts.numEntries
    rw [weigh_add counts.sound]
    change c.numEntries + 1 = _
    omega
  · have before := counts.sizeValues
    rw [weigh_add counts.sound]
    change c.sizeValues + e.value.length = _
    dsimp only
    omega

theorem release {p : Purged} (counts : Counts c p) {i : TableId} {index id : Nat} {e : QcEntry}
    (there : (c.tables i).ptrArray[index]? = some id) (found : c.heap id = some e) :
    Counts (c.release i index id e.key) ⟨p.removedEntries + 1, p.freedMemory + e.value.length⟩ := by
  constructor
  · exact counts.sound.release there found
  · have before := counts.numEntries
    rw [weigh_release counts.sound there found] at before
    change c.numEntries = _
    dsimp only
    omega
  · have before := counts.sizeValues
    rw [weigh_release counts.sound there found] at before
    change c.sizeValues = _
    dsimp only
    omega

variable {c' : Cache} {d : Doubles}

theorem set (counted : Counted c) {key : Nat} {value : List Byte}
    {createMs curtimeMs expireMs : Nat} {deprecateEof : Bool}
    (done : c.set key value createMs curtimeMs expireMs deprecateEof = .ok c') : Counted c' := by
  obtain ⟨e, made, replaced⟩ := bind_eq_ok.mp done
  exact replace_keeps (put _) (counted.add (newEntry_key made)) replaced

theorem purgeSome (counted : Counted c) {i : TableId} {now : Nat} {aggressive : Bool}
    (done : c.purgeSome d i now aggressive = .ok c') : Counted c' := by
  rcases purgeSome_cases done with rfl | ⟨s, c', p, swept, rfl⟩
  · exact counted
  · have counts : Counts c' p := by
      apply sweep_keeps Counts _ counted swept
      intro c p index id e counts there found _
      exact counts.release there found
    constructor
    · exact { __ := counts.sound }
    · change c'.numEntries - p.removedEntries = c'.weigh _ + 0
      rw [counts.numEntries]
      omega
    · change c'.sizeValues - p.freedMemory = c'.weigh _ + 0
      rw [counts.sizeValues]
      omega

theorem step {op : Op} (counted : Counted c) (stepped : c.step d op = .ok c') : Counted c' := by
  cases op with
  | set key value createMs curtimeMs expireMs deprecateEof => exact counted.set stepped
  | get key r =>
    obtain ⟨⟨result, c'⟩, got, rfl⟩ := map_eq_ok.mp stepped
    exact get_keeps (put _) counted got
  | purgeSome i now aggressive => exact counted.purgeSome stepped
  | flush =>
    obtain ⟨⟨count, c'⟩, flushed, rfl⟩ := map_eq_ok.mp stepped
    exact flush_keeps (put _) (clear _) counted flushed

end Counts

theorem counted_start : Counted start where
  sound := sound_start
  numEntries := by simp [start, weigh]
  sizeValues := by simp [start, weigh]

theorem getDataSizeTotal_eq (c : Cache) :
    c.getDataSizeTotal = 32 * (c.numEntries * entryOverhead) + c.sizeValues := by
  unfold getDataSizeTotal
  rw [List.foldl_const, List.length_finRange, add_right_iterate]
  dsimp only
  rw [Nat.zero_add, nsmul_eq_mul, getDataSize]
  rfl

/-- In every state the counters are exact, and the size that is compared with the memory limit is
the sum over the entries exactly when there is none. -/
theorem counters_exact (d : Doubles) {c : Cache} (run : Run (step d) (fun _ _ => True) start c) :
    c.numEntries = c.held ∧ c.sizeValues = c.weigh (fun e => e.value.length) ∧
      (c.getDataSizeTotal = c.weigh (fun e => entryOverhead + e.value.length) ↔ c.held = 0) := by
  have counted : Counted c := by
    apply run.invariant Counted counted_start
    intro c op c' counted _ stepped
    exact counted.step stepped
  have entries : c.numEntries = c.held := by
    rw [counted.numEntries, weigh_one counted.sound, Nat.add_zero]
  have sizes : c.sizeValues = c.weigh (fun e => e.value.length) := by
    rw [counted.sizeValues, Nat.add_zero]
  refine ⟨entries, sizes, ?_⟩
  rw [getDataSizeTotal_eq, weigh_sum, weigh_const, weigh_one counted.sound]
  have overhead : entryOverhead = 120 := rfl
  rw [overhead]
  omega

/-- One entry of 20 bytes. -/
theorem counters_exact_oneColumn :
    ∃ c, Run (step .exact) (fun _ _ => True) start c ∧ c.numEntries = 1 ∧
      c.numEntries = c.held ∧ c.sizeValues = c.weigh (fun e => e.value.length) := by
  have ran : [Op.set 0 oneColumn 1 1 1000 true].foldlM (step .exact) start = .ok _ := rfl
  have run := run_of_foldlM ran
  exact ⟨_, run, rfl, (counters_exact .exact run).1, (counters_exact .exact run).2.1⟩

/-- Its overhead is counted for each of the 32 tables. -/
theorem overhead_counted_per_table : ∃ c, Run (step .exact) (fun _ _ => True) start c ∧ c.held = 1 ∧
      c.weigh (fun e => entryOverhead + e.value.length) = 140 ∧ c.getDataSizeTotal = 3860 := by
  have ran : [Op.set 0 oneColumn 1 1 1000 true].foldlM (step .exact) start = .ok _ := rfl
  refine ⟨_, run_of_foldlM ran, ?_, ?_, ?_⟩
  · decide
  · decide
  · decide

end MockProxy.QueryCache.Cache
