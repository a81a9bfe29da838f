import Mathlib.Data.Set.Card

/-!
# The last write of a key

A map that is only written to, one entry after another, holds for every key the value that was
written for it last. `last key writes k` is that write in the list of all writes, and `lookup_foldl`
reads a lookup off it.
-/

namespace LastWrite

open List

variable {ω κ ν : Type} [DecidableEq κ] (key : ω → κ)

def last (writes : List ω) (k : κ) : Option ω := writes.reverse.find? fun w => key w = k

variable {key} {writes earlier later : List ω} {w : ω} {k : κ}

theorem mem_of_last (found : last key writes k = some w) : w ∈ writes ∧ key w = k :=
  ⟨mem_reverse.mp (mem_of_find?_eq_some found),
    of_decide_eq_true (find?_some (p := fun w => decide (key w = k)) found)⟩

theorem last_eq_none_iff : last key writes k = none ↔ ∀ w ∈ writes, key w ≠ k := by
  simp [last]

theorem exists_last (member : w ∈ writes) : ∃ w', last key writes (key w) = some w' := by
  cases found : last key writes (key w) with
  | none => exact absurd rfl (last_eq_none_iff.mp found w member)
  | some w' => exact ⟨w', rfl⟩

theorem last_append :
    last key (earlier ++ later) k = (last key later k).or (last key earlier k) := by
  unfold last
  rw [reverse_append, find?_append]

theorem last_of_nodup (nodup : (writes.map key).Nodup) (member : w ∈ writes) :
    last key writes (key w) = some w := by
  obtain ⟨w', found⟩ : ∃ w', last key writes (key w) = some w' := exists_last member
  obtain ⟨member', same⟩ := mem_of_last found
  rw [found, inj_on_of_nodup_map nodup member' member same]

/-- What the later writes hold for a key they write is not changed by the earlier ones. -/
theorem last_append_of_mem (nodup : (later.map key).Nodup) (member : w ∈ later) :
    last key (earlier ++ later) (key w) = some w := by
  rw [last_append, last_of_nodup nodup member]
  rfl

theorem mem_later_of_last (found : last key (earlier ++ later) k = some w)
    (written : k ∈ later.map key) : w ∈ later := by
  obtain ⟨w', member, rfl⟩ := mem_map.mp written
  obtain ⟨w'', here⟩ : ∃ w'', last key later (key w') = some w'' := exists_last member
  rw [last_append, here] at found
  cases found
  exact (mem_of_last here).1

/-- What a lookup finds after some writes, if each of them changes it as `p` and `value` say. -/
theorem lookup_foldl {σ : Type} {step : σ → ω → σ} {p : ω → Bool} {value : ω → ν}
    (get : σ → Option ν) (written : ∀ s w, get (step s w) = if p w then some (value w) else get s)
    (writes : List ω) (s : σ) :
    get (writes.foldl step s) = ((writes.reverse.find? p).map value).or (get s) := by
  induction writes using reverseRecOn with
  | nil => rfl
  | append_singleton writes w ih =>
    rw [foldl_append, foldl_cons, foldl_nil, written, ih, reverse_append,
      reverse_singleton, singleton_append]
    split_ifs with here
    · rw [find?_cons_of_pos here]
      rfl
    · rw [find?_cons_of_neg here]

end LastWrite
