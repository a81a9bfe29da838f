import MockProxy.Lib.SortedMap

/-!
# Ids that are given out and given back

The keys of a map are the ids in use. Ids that were given back wait in a list, and the ids from
`next` on were never given out.
-/

structure IdPool {ν : Type} (used : SortedMap Nat ν) (free : List Nat) (next : Nat) : Prop where
  nodup : free.Nodup
  unused : ∀ id ∈ free, used.find? id = none
  positive : 0 < next
  freeBounds : ∀ id ∈ free, 0 < id ∧ id < next
  usedBounds : ∀ id v, used.find? id = some v → 0 < id ∧ id < next

namespace IdPool

variable {ν : Type} {used : SortedMap Nat ν} {free : List Nat} {next id : Nat}

theorem empty (positive : 0 < next) : IdPool (.empty : SortedMap Nat ν) [] next where
  nodup := List.nodup_nil
  unused id mem := by cases mem
  positive := positive
  freeBounds id mem := by cases mem
  usedBounds id v found := by cases found

theorem insert (pool : IdPool used free next) (fresh : used.find? id = none) (notFree : id ∉ free)
    (bounds : 0 < id ∧ id < next) (v : ν) : IdPool (used.insert id v) free next where
  __ := pool
  unused id' mem := by
    rw [SortedMap.find?_insert v fresh, if_neg, pool.unused id' mem]
    rintro rfl
    exact notFree mem
  usedBounds := SortedMap.forall_insert pool.usedBounds fresh bounds

/-- The id that was given back last is given out. -/
theorem pop (pool : IdPool used (id :: free) next) :
    used.find? id = none ∧ 0 < id ∧ ∀ v, IdPool (used.insert id v) free next := by
  obtain ⟨notFree, nodup⟩ := List.nodup_cons.mp pool.nodup
  obtain ⟨fresh, unused⟩ := List.forall_mem_cons.mp pool.unused
  obtain ⟨bounds, freeBounds⟩ := List.forall_mem_cons.mp pool.freeBounds
  have rest : IdPool used free next := { pool with nodup, unused, freeBounds }
  exact ⟨fresh, bounds.1, rest.insert fresh notFree bounds⟩

variable (pool : IdPool used free next)

include pool

/-- A new id is given out. -/
theorem grow : used.find? next = none ∧ ∀ v, IdPool (used.insert next v) free (next + 1) := by
  have fresh : used.find? next = none := by
    cases found : used.find? next with
    | none => rfl
    | some v => exact absurd (pool.usedBounds next v found).2 (lt_irrefl _)
  have wider : IdPool used free (next + 1) :=
    { pool with
      positive := Nat.succ_pos _
      freeBounds := fun id mem => (pool.freeBounds id mem).imp_right Nat.lt_succ_of_lt
      usedBounds := fun id v found => (pool.usedBounds id v found).imp_right Nat.lt_succ_of_lt }
  refine ⟨fresh, wider.insert fresh (fun mem => ?_) ⟨pool.positive, lt_add_one _⟩⟩
  exact Nat.lt_irrefl _ (pool.freeBounds next mem).2

theorem erase (id : Nat) : IdPool (used.erase id) free next where
  __ := pool
  unused id' mem := by rw [SortedMap.find?_erase, pool.unused id' mem, ite_self]
  usedBounds := SortedMap.forall_erase pool.usedBounds id

/-- An id in use is given back. -/
theorem release {v : ν} (found : used.find? id = some v) :
    IdPool (used.erase id) (id :: free) next where
  nodup := by
    refine List.nodup_cons.mpr ⟨fun mem => ?_, pool.nodup⟩
    rw [pool.unused id mem] at found
    cases found
  unused := by
    rw [List.forall_mem_cons, SortedMap.find?_erase, if_pos rfl]
    exact ⟨rfl, (pool.erase id).unused⟩
  positive := pool.positive
  freeBounds := List.forall_mem_cons.mpr ⟨pool.usedBounds id v found, pool.freeBounds⟩
  usedBounds := (pool.erase id).usedBounds

end IdPool
