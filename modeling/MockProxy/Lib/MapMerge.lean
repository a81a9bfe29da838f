import Mathlib.Data.List.AList
import Mathlib.Data.Set.Card

/-!
# Merging one map into another

`mergeInto combine src dst` goes over the entries of `src`: an entry whose key `dst` has is combined
with the entry there, the others are added. `lookup_mergeInto` says what the result holds; the order
in which `src` is gone through does not matter.
-/

namespace MapMerge

variable {κ α : Type} [DecidableEq κ]

abbrev Map (κ α : Type) := AList fun _ : κ => α

variable (combine : α → α → α)

def mergeEntry (dst : Map κ α) (key : κ) (b : α) : Map κ α :=
  match dst.lookup key with
  | some a => dst.insert key (combine a b)
  | none => dst.insert key b

def mergeInto (src dst : Map κ α) : Map κ α :=
  src.foldl (mergeEntry combine) dst

def both : Option α → Option α → Option α
  | some a, some b => some (combine a b)
  | some a, none => some a
  | none, b => b

@[simp] theorem both_none (a : Option α) : both combine a none = a := by
  cases a <;> rfl

theorem both_eq_some {combine : α → α → α} {x y : Option α} {c : α} :
    both combine x y = some c ↔ (∃ a b, x = some a ∧ y = some b ∧ combine a b = c) ∨
      x = some c ∧ y = none ∨ x = none ∧ y = some c := by
  cases x <;> cases y <;> simp [both]

theorem lookup_mergeEntry (dst : Map κ α) (key : κ) (b : α) (k : κ) :
    (mergeEntry combine dst key b).lookup k =
      if k = key then both combine (dst.lookup key) (some b) else dst.lookup k := by
  unfold mergeEntry
  split_ifs with same
  · subst same
    cases dst.lookup k <;> exact AList.lookup_insert ..
  · cases dst.lookup key <;> exact AList.lookup_insert_ne same

theorem lookup_mergeInto (src dst : Map κ α) (k : κ) :
    (mergeInto combine src dst).lookup k = both combine (dst.lookup k) (src.lookup k) := by
  obtain ⟨entries, distinct⟩ := src
  unfold mergeInto AList.foldl AList.lookup
  -- over the entries; no later entry has the key of the first one
  induction entries generalizing dst with
  | nil => simp
  | cons entry entries ih =>
    obtain ⟨key, b⟩ := entry
    obtain ⟨fresh, distinct⟩ := List.nodupKeys_cons.mp distinct
    have merged := ih (mergeEntry combine dst key b) distinct
    rw [List.foldl_cons, merged, ← AList.lookup, lookup_mergeEntry]
    by_cases same : k = key
    · subst same
      rw [if_pos rfl, List.dlookup_eq_none.mpr fresh, List.dlookup_cons_eq, both_none,
        AList.lookup]
    · have differ : k ≠ (⟨key, b⟩ : Sigma fun _ : κ => α).1 := same
      rw [if_neg same, List.dlookup_cons_ne _ _ differ, AList.lookup]

end MapMerge
