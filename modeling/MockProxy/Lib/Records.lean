import Mathlib.Data.Set.Card

/-!
# Records that are taken off the front of a buffer

A reader looks for a complete record at the front of what it has, handles it, takes some items off
and looks again; what is left waits for more to arrive. A `Splitter` says how records are found.
What arrives later must not change a record that is already complete, and this alone makes the
records and what is left over independent of the pieces in which a stream arrives (`records_append`,
`leftover_append`).
-/

namespace Records

/-- How records are found. `consumed` is the number of items that are taken off for a record. -/
structure Splitter (α : Type) where
  next : List α → Option (List α)
  consumed : List α → Nat
  next_append : ∀ {u r : List α} (v : List α), next u = some r → next (u ++ v) = some r
  consumed_pos : ∀ r, 0 < consumed r
  consumed_le : ∀ {u r : List α}, next u = some r → consumed r ≤ u.length

variable {α : Type} (S : Splitter α)

namespace Splitter

variable {S} in
theorem length_drop_lt {u r : List α} (found : S.next u = some r) :
    (u.drop (S.consumed r)).length < u.length := by
  have some_taken := S.consumed_pos r
  have fits := S.consumed_le found
  rw [List.length_drop]
  omega

def split (u : List α) : List (List α) × List α :=
  match _found : S.next u with
  | none => ([], u)
  | some r => (r :: (split (u.drop (S.consumed r))).1, (split (u.drop (S.consumed r))).2)
termination_by u.length
decreasing_by all_goals exact length_drop_lt _found

def records (u : List α) : List (List α) := (S.split u).1

def leftover (u : List α) : List α := (S.split u).2

variable {S} {u r : List α}

theorem split_none (none : S.next u = none) : S.split u = ([], u) := by
  rw [split]
  split
  · rfl
  next found =>
    rw [none] at found
    cases found

theorem split_some (found : S.next u = some r) :
    S.split u = (r :: S.records (u.drop (S.consumed r)), S.leftover (u.drop (S.consumed r))) := by
  rw [split]
  split
  next none =>
    rw [none] at found
    cases found
  next r' found' =>
    rw [found] at found'
    cases found'
    rfl

theorem records_none (none : S.next u = none) : S.records u = [] :=
  congrArg Prod.fst (split_none none)

theorem leftover_none (none : S.next u = none) : S.leftover u = u :=
  congrArg Prod.snd (split_none none)

theorem records_some (found : S.next u = some r) :
    S.records u = r :: S.records (u.drop (S.consumed r)) :=
  congrArg Prod.fst (split_some found)

theorem leftover_some (found : S.next u = some r) :
    S.leftover u = S.leftover (u.drop (S.consumed r)) := by
  have parts := split_some found
  exact (Prod.ext_iff.mp parts).2

theorem split_append (u v : List α) :
    S.records (u ++ v) = S.records u ++ S.records (S.leftover u ++ v) ∧
      S.leftover (u ++ v) = S.leftover (S.leftover u ++ v) := by
  induction length : u.length using Nat.strongRecOn generalizing u with
  | ind n ih =>
    cases found : S.next u with
    | none =>
      rw [records_none found, leftover_none found]
      exact ⟨rfl, rfl⟩
    | some r =>
      -- the first record is the same with more behind it
      have same := S.next_append v found
      have rest : (u ++ v).drop (S.consumed r) = u.drop (S.consumed r) ++ v :=
        List.drop_append_of_le_length (S.consumed_le found)
      have later := ih _ (length ▸ length_drop_lt found) (u.drop (S.consumed r)) rfl
      rw [records_some same, leftover_some same, rest, records_some found, leftover_some found,
        later.1, later.2]
      exact ⟨rfl, rfl⟩

theorem records_append (u v : List α) :
    S.records (u ++ v) = S.records u ++ S.records (S.leftover u ++ v) := (split_append u v).1

theorem leftover_append (u v : List α) : S.leftover (u ++ v) = S.leftover (S.leftover u ++ v) :=
  (split_append u v).2

theorem next_leftover (u : List α) : S.next (S.leftover u) = none := by
  induction length : u.length using Nat.strongRecOn generalizing u with
  | ind n ih =>
    cases found : S.next u with
    | none =>
      rw [leftover_none found]
      exact found
    | some r =>
      rw [leftover_some found]
      exact ih _ (length ▸ length_drop_lt found) _ rfl

end Splitter

end Records
