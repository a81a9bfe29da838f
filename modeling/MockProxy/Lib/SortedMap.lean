import Mathlib.Algebra.Order.BigOperators.Group.List
import Mathlib.Data.Set.Card

/-!
# Maps kept in the order of their keys

A map is the list of its entries with strictly growing keys, so that a loop over it visits them in
that order. `find?_eq_some` reads a lookup off the entries; `total` adds up a weight of the values,
and `total_insert`, `total_modify` and `total_erase` say by how much an operation changes it. A
counter that is kept beside a map is right if it is the total of its weight.
-/

structure SortedMap (κ ν : Type) [LinearOrder κ] where
  entries : List (κ × ν)
  sorted : entries.Pairwise fun x y => x.1 < y.1

namespace SortedMap

open List

variable {κ ν : Type} [LinearOrder κ] {m m' : SortedMap κ ν} {k k' : κ} {v : ν} {l : List (κ × ν)}

@[ext] theorem ext (same : m.entries = m'.entries) : m = m' := by
  cases m
  cases same
  rfl

def empty : SortedMap κ ν where
  entries := []
  sorted := .nil

def find? (m : SortedMap κ ν) (k : κ) : Option ν :=
  (m.entries.find? fun entry => entry.1 = k).map Prod.snd

def size (m : SortedMap κ ν) : Nat := m.entries.length

/-- An entry at its place; the entry of a key that is there stays. -/
def insertEntry (k : κ) (v : ν) : List (κ × ν) → List (κ × ν)
  | [] => [(k, v)]
  | entry :: rest =>
    if k < entry.1 then (k, v) :: entry :: rest
    else if k = entry.1 then entry :: rest
    else entry :: insertEntry k v rest

theorem mem_insertEntry {entry : κ × ν} (mem : entry ∈ insertEntry k v l) :
    entry = (k, v) ∨ entry ∈ l := by
  induction l with
  | nil => exact .inl (mem_singleton.mp mem)
  | cons head rest ih =>
    rw [insertEntry] at mem
    split_ifs at mem
    · exact mem_cons.mp mem
    · exact .inr mem
    · rcases mem_cons.mp mem with rfl | mem
      · exact .inr mem_cons_self
      · exact (ih mem).imp_right (mem_cons_of_mem _)

theorem sorted_insertEntry (sorted : l.Pairwise fun x y => x.1 < y.1) :
    (insertEntry k v l).Pairwise fun x y => x.1 < y.1 := by
  induction l with
  | nil => exact pairwise_singleton _ _
  | cons head rest ih =>
    obtain ⟨above, sortedRest⟩ := pairwise_cons.mp sorted
    rw [insertEntry]
    split_ifs with before same
    · refine pairwise_cons.mpr ⟨forall_mem_cons.mpr ⟨before, ?_⟩, sorted⟩
      exact fun entry mem => lt_trans before (above entry mem)
    · exact sorted
    · refine pairwise_cons.mpr ⟨?_, ih sortedRest⟩
      intro entry mem
      rcases mem_insertEntry mem with rfl | mem
      · exact lt_of_le_of_ne (not_lt.mp before) (Ne.symm same)
      · exact above entry mem

def insert (m : SortedMap κ ν) (k : κ) (v : ν) : SortedMap κ ν where
  entries := insertEntry k v m.entries
  sorted := sorted_insertEntry m.sorted

/-- A change of the value of a key, if there is one. -/
def modify (m : SortedMap κ ν) (k : κ) (f : ν → ν) : SortedMap κ ν where
  entries := m.entries.map fun entry => if entry.1 = k then (entry.1, f entry.2) else entry
  sorted := by
    rw [pairwise_map]
    refine m.sorted.imp fun below => ?_
    split_ifs <;> exact below

def erase (m : SortedMap κ ν) (k : κ) : SortedMap κ ν where
  entries := m.entries.filter fun entry => entry.1 ≠ k
  sorted := m.sorted.filter _

/-! ### Lookups -/

theorem eq_of_mem (sorted : l.Pairwise fun x y => x.1 < y.1) {w : ν} (first : (k, v) ∈ l)
    (second : (k, w) ∈ l) : v = w := by
  induction l with
  | nil => cases first
  | cons head rest ih =>
    obtain ⟨above, sortedRest⟩ := pairwise_cons.mp sorted
    rcases mem_cons.mp first with rfl | inRest
    · rcases mem_cons.mp second with same | inRest
      · exact (Prod.mk.inj same).2.symm
      · exact absurd (above _ inRest) (lt_irrefl _)
    · rcases mem_cons.mp second with rfl | inRest'
      · exact absurd (above _ inRest) (lt_irrefl _)
      · exact ih sortedRest inRest inRest'

theorem find?_eq_some : m.find? k = some v ↔ (k, v) ∈ m.entries := by
  constructor
  · intro found
    obtain ⟨entry, search, rfl⟩ := Option.map_eq_some_iff.mp found
    have key : entry.1 = k := by simpa using find?_some search
    subst key
    exact mem_of_find?_eq_some search
  · intro mem
    rw [find?]
    cases search : m.entries.find? fun entry => entry.1 = k with
    | none =>
      have other := find?_eq_none.mp search _ mem
      simp at other
    | some entry =>
      have key : entry.1 = k := by simpa using find?_some search
      subst key
      exact congrArg some (eq_of_mem m.sorted (mem_of_find?_eq_some search) mem)

theorem find?_eq_none : m.find? k = none ↔ ∀ v, (k, v) ∉ m.entries := by
  constructor
  · intro missing v mem
    rw [find?_eq_some.mpr mem] at missing
    cases missing
  · intro missing
    cases found : m.find? k with
    | none => rfl
    | some v => exact absurd (find?_eq_some.mp found) (missing v)

@[simp] theorem find?_empty (k : κ) : (empty : SortedMap κ ν).find? k = none := rfl

theorem find?_ext (same : ∀ v, m.find? k = some v ↔ m'.find? k' = some v) :
    m.find? k = m'.find? k' :=
  Option.ext same

theorem find?_erase (m : SortedMap κ ν) (k k' : κ) :
    (m.erase k).find? k' = if k' = k then none else m.find? k' := by
  split_ifs with same
  · subst same
    exact find?_eq_none.mpr fun v mem => by simp [erase] at mem
  · refine find?_ext fun v => ?_
    rw [find?_eq_some, find?_eq_some]
    simp [erase, same]

theorem find?_erase_eq_some : (m.erase k).find? k' = some v ↔ k' ≠ k ∧ m.find? k' = some v := by
  rw [find?_erase]
  split_ifs with same
  · simp [same]
  · simp [same]

theorem find?_modify (m : SortedMap κ ν) (k k' : κ) (f : ν → ν) :
    (m.modify k f).find? k' = if k' = k then (m.find? k').map f else m.find? k' := by
  have keys : (fun entry : κ × ν => decide (entry.1 = k')) ∘
      (fun entry => if entry.1 = k then (entry.1, f entry.2) else entry) =
        fun entry => decide (entry.1 = k') := by
    funext entry
    simp only [Function.comp_apply]
    split_ifs <;> rfl
  rw [find?, modify, find?_map, keys]
  cases search : m.entries.find? fun entry => entry.1 = k' with
  | none => simp [find?, search]
  | some entry =>
    have key : entry.1 = k' := by simpa using find?_some search
    have lookup : m.find? k' = some entry.2 := by rw [find?, search, Option.map_some]
    rw [lookup]
    by_cases same : k' = k
    · simp [key, same]
    · simp [key, same]

theorem exists_find?_modify {f : ν → ν} {P : ν → Prop} (keeps : ∀ v, P (f v) ↔ P v) :
    (∃ v, (m.modify k f).find? k' = some v ∧ P v) ↔ ∃ v, m.find? k' = some v ∧ P v := by
  rw [find?_modify]
  split_ifs with same
  · cases m.find? k' <;> simp [keeps]
  · rfl

theorem of_find?_modify {f : ν → ν} (found : (m.modify k f).find? k' = some v) :
    ∃ old, m.find? k' = some old ∧ (v = old ∨ (k' = k ∧ v = f old)) := by
  rw [find?_modify] at found
  split_ifs at found with same
  · obtain ⟨old, search, rfl⟩ := Option.map_eq_some_iff.mp found
    exact ⟨old, search, .inr ⟨same, rfl⟩⟩
  · exact ⟨v, found, .inl rfl⟩

theorem erase_insert (v : ν) (fresh : m.find? k = none) : (m.insert k v).erase k = m := by
  have keys : ∀ entry ∈ m.entries, entry.1 ≠ k := by
    rintro ⟨k', w⟩ mem rfl
    exact find?_eq_none.mp fresh w mem
  have kept : ∀ l : List (κ × ν), (∀ entry ∈ l, entry.1 ≠ k) →
      l.filter (fun entry => entry.1 ≠ k) = l := by
    intro l others
    exact filter_eq_self.mpr fun entry mem => by simpa using others entry mem
  ext1
  show (insertEntry k v m.entries).filter (fun entry => entry.1 ≠ k) = m.entries
  generalize m.entries = l at keys
  induction l with
  | nil => simp [insertEntry]
  | cons head rest ih =>
    have other := keys head mem_cons_self
    rw [insertEntry]
    split_ifs with before same
    · rw [filter_cons_of_neg (by simp), kept _ keys]
    · exact absurd same.symm other
    · rw [filter_cons_of_pos (by simpa using other),
        ih fun entry mem => keys entry (mem_cons_of_mem _ mem)]

theorem mem_insertEntry_self (v : ν) (fresh : ∀ entry ∈ l, entry.1 ≠ k) :
    (k, v) ∈ insertEntry k v l := by
  induction l with
  | nil => exact mem_singleton_self _
  | cons head rest ih =>
    rw [insertEntry]
    split_ifs with before same
    · exact mem_cons_self
    · exact absurd same.symm (fresh head mem_cons_self)
    · exact mem_cons_of_mem _ (ih fun entry mem => fresh entry (mem_cons_of_mem _ mem))

theorem find?_insert (v : ν) (fresh : m.find? k = none) (k' : κ) :
    (m.insert k v).find? k' = if k' = k then some v else m.find? k' := by
  split_ifs with same
  · subst same
    refine find?_eq_some.mpr (mem_insertEntry_self v ?_)
    rintro ⟨k'', w⟩ mem rfl
    exact find?_eq_none.mp fresh w mem
  · have undone := congrArg (·.find? k') (erase_insert v fresh)
    rwa [find?_erase, if_neg same] at undone

theorem find?_insert_eq_some (fresh : m.find? k = none) {w : ν} :
    (m.insert k v).find? k' = some w ↔ k' = k ∧ w = v ∨ m.find? k' = some w := by
  rw [find?_insert v fresh]
  split_ifs with same
  · simp [same, fresh, eq_comm]
  · simp [same]

section

variable {P : κ → ν → Prop} (all : ∀ k v, m.find? k = some v → P k v)
include all

theorem forall_insert (fresh : m.find? k = none) (new : P k v) :
    ∀ k' w, (m.insert k v).find? k' = some w → P k' w := by
  intro k' w found
  rcases (find?_insert_eq_some fresh).mp found with ⟨rfl, rfl⟩ | before
  · exact new
  · exact all k' w before

theorem forall_erase (k : κ) : ∀ k' w, (m.erase k).find? k' = some w → P k' w :=
  fun k' w found => all k' w (find?_erase_eq_some.mp found).2

theorem forall_modify {f : ν → ν} (new : ∀ v, m.find? k = some v → P k (f v)) :
    ∀ k' w, (m.modify k f).find? k' = some w → P k' w := by
  intro k' w found
  obtain ⟨old, there, rfl | ⟨rfl, rfl⟩⟩ := of_find?_modify found
  · exact all k' w there
  · exact new old there

end

theorem insert_of_find (found : m.find? k = some v) (w : ν) : m.insert k w = m := by
  ext1
  have mem := find?_eq_some.mp found
  show insertEntry k w m.entries = m.entries
  have sorted := m.sorted
  generalize m.entries = l at mem sorted
  induction l with
  | nil => cases mem
  | cons head rest ih =>
    obtain ⟨above, sortedRest⟩ := pairwise_cons.mp sorted
    rw [insertEntry]
    rcases mem_cons.mp mem with rfl | mem
    · rw [if_neg (lt_irrefl _), if_pos rfl]
    · have below : head.1 < k := above _ mem
      rw [if_neg (not_lt_of_gt below), if_neg (ne_of_gt below), ih mem sortedRest]

/-! ### Keys -/

def keys (m : SortedMap κ ν) : List κ := m.entries.map Prod.fst

theorem mem_keys : k ∈ m.keys ↔ ∃ v, m.find? k = some v := by
  simp [keys, find?_eq_some]

theorem mem_keys_insert : k' ∈ (m.insert k v).keys ↔ k' = k ∨ k' ∈ m.keys := by
  cases known : m.find? k with
  | none =>
    rw [mem_keys, find?_insert v known, mem_keys]
    split_ifs with same
    · simp [same]
    · simp [same]
  | some w =>
    rw [insert_of_find known]
    constructor
    · exact .inr
    · rintro (rfl | there)
      · exact mem_keys.mpr ⟨w, known⟩
      · exact there

/-! ### Totals -/

def total (m : SortedMap κ ν) (weight : ν → Int) : Int :=
  (m.entries.map fun entry => weight entry.2).sum

@[simp] theorem total_empty (weight : ν → Int) : (empty : SortedMap κ ν).total weight = 0 := rfl

theorem total_erase (found : m.find? k = some v) (weight : ν → Int) :
    (m.erase k).total weight = m.total weight - weight v := by
  obtain ⟨entries, sorted⟩ := m
  have mem : (k, v) ∈ entries := find?_eq_some.mp found
  clear found
  show ((entries.filter fun entry => entry.1 ≠ k).map fun entry => weight entry.2).sum =
    (entries.map fun entry => weight entry.2).sum - weight v
  induction entries with
  | nil => cases mem
  | cons head rest ih =>
    obtain ⟨above, sortedRest⟩ := pairwise_cons.mp sorted
    rcases mem_cons.mp mem with rfl | mem
    · -- the keys behind are greater, so that nothing else is taken out
      have kept : rest.filter (fun entry => entry.1 ≠ k) = rest :=
        filter_eq_self.mpr fun entry mem => by simpa using ne_of_gt (above entry mem)
      rw [filter_cons_of_neg (by simp), kept, map_cons, sum_cons,
        add_sub_cancel_left]
    · have other : head.1 ≠ k := ne_of_lt (above _ mem)
      rw [filter_cons_of_pos (by simpa using other), map_cons, map_cons,
        sum_cons, sum_cons, ih sortedRest mem]
      omega

theorem total_insert (v : ν) (fresh : m.find? k = none) (weight : ν → Int) :
    (m.insert k v).total weight = m.total weight + weight v := by
  have found : (m.insert k v).find? k = some v := by rw [find?_insert v fresh, if_pos rfl]
  have undone := total_erase found weight
  rw [erase_insert v fresh] at undone
  omega

theorem erase_modify (m : SortedMap κ ν) (k : κ) (f : ν → ν) :
    (m.modify k f).erase k = m.erase k := by
  ext1
  show (m.entries.map _).filter _ = m.entries.filter _
  induction m.entries with
  | nil => rfl
  | cons head rest ih =>
    by_cases same : head.1 = k
    · simpa [same] using ih
    · simpa [same] using ih

theorem total_modify (found : m.find? k = some v) (f : ν → ν) (weight : ν → Int) :
    (m.modify k f).total weight = m.total weight - weight v + weight (f v) := by
  have changed : (m.modify k f).find? k = some (f v) := by rw [find?_modify, if_pos rfl, found]; rfl
  have before := total_erase found weight
  have after := total_erase changed weight
  rw [erase_modify] at after
  omega

variable {weight : ν → Int}

theorem total_nonneg (nonneg : ∀ k v, m.find? k = some v → 0 ≤ weight v) : 0 ≤ m.total weight := by
  refine sum_nonneg ?_
  intro w mem
  obtain ⟨⟨k, v⟩, entry, rfl⟩ := mem_map.mp mem
  exact nonneg k v (find?_eq_some.mpr entry)

theorem le_total (found : m.find? k = some v) (nonneg : ∀ v, 0 ≤ weight v) :
    weight v ≤ m.total weight := by
  have rest : 0 ≤ (m.erase k).total weight := total_nonneg fun _ v _ => nonneg v
  rw [total_erase found] at rest
  omega

end SortedMap
