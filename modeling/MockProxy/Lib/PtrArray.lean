import Mathlib.Data.Set.Card

/-!
# Arrays with fast removal

`removeIndexFast i` takes an element out by moving the last one to its place. Up to a permutation it
is the removal of that one element (`removeIndexFast_perm`).
-/

namespace PtrArray

open List

variable {α : Type} {xs : List α}

def removeIndexFast (i : Nat) (xs : List α) : List α :=
  match xs.getLast? with
  | none => []
  | some last => if i + 1 = xs.length then xs.dropLast else (xs.set i last).dropLast

theorem removeIndexFast_perm {i : Nat} {x : α} (found : xs[i]? = some x) :
    (x :: removeIndexFast i xs).Perm xs := by
  obtain ⟨bound, rfl⟩ := List.getElem?_eq_some_iff.mp found
  rcases xs.eq_nil_or_concat with rfl | ⟨front, last, rfl⟩
  · simp at bound
  · unfold removeIndexFast
    simp only [concat_eq_append, getLast?_append, getLast?_singleton, Option.some_or,
      length_append, length_singleton] at bound ⊢
    by_cases lastOne : i = front.length
    · subst lastOne
      simpa using (perm_append_singleton last front).symm
    · have inside : i < front.length := by omega
      rw [if_neg (by omega), set_append_left _ _ inside, dropLast_concat,
        getElem_append_left inside]
      calc front[i] :: front.set i last
        _ ~ front[i] :: last :: front.eraseIdx i :=
          (set_perm_cons_eraseIdx inside last).cons _
        _ ~ last :: front[i] :: front.eraseIdx i := .swap _ _ _
        _ ~ last :: front := (getElem_cons_eraseIdx_perm inside).cons _
        _ ~ front ++ [last] := (perm_append_singleton last front).symm

section

variable {i : Nat} {xs : List α} {x y : α} (found : xs[i]? = some x)

include found

theorem length_removeIndexFast : (removeIndexFast i xs).length + 1 = xs.length :=
  (removeIndexFast_perm found).length_eq

theorem mem_of_mem_removeIndexFast (member : y ∈ removeIndexFast i xs) : y ∈ xs :=
  (removeIndexFast_perm found).subset (mem_cons_of_mem x member)

theorem nodup_removeIndexFast (distinct : xs.Nodup) :
    (removeIndexFast i xs).Nodup ∧ x ∉ removeIndexFast i xs := by
  have split := (removeIndexFast_perm found).nodup_iff.mpr distinct
  exact ⟨(nodup_cons.mp split).2, (nodup_cons.mp split).1⟩

theorem mem_removeIndexFast_of_ne (member : y ∈ xs) (other : y ≠ x) : y ∈ removeIndexFast i xs := by
  rcases mem_cons.mp ((removeIndexFast_perm found).symm.subset member) with same | kept
  · exact absurd same other
  · exact kept

theorem sum_map_removeIndexFast (f : α → Nat) :
    f x + ((removeIndexFast i xs).map f).sum = (xs.map f).sum := by
  have sums := ((removeIndexFast_perm found).map f).sum_eq
  rwa [map_cons] at sums

end

/-- The first element that is equal to `x` is taken out. -/
def removeFast [DecidableEq α] (x : α) (xs : List α) : List α :=
  if x ∈ xs then removeIndexFast (xs.idxOf x) xs else xs

theorem removeFast_perm [DecidableEq α] {x : α} (member : x ∈ xs) :
    (x :: removeFast x xs).Perm xs := by
  have found : xs[xs.idxOf x]? = some x := getElem?_idxOf member
  rw [removeFast, if_pos member]
  exact removeIndexFast_perm found

/-- A scan from the index `j` that takes out the elements with `p`; the element that was moved to
the place of one that is taken out is looked at next. -/
def removeWhere (p : α → Bool) : (fuel j : Nat) → List α → List α
  | 0, _, xs => xs
  | fuel + 1, j, xs =>
    match xs[j]? with
    | none => xs
    | some x =>
      if p x then removeWhere p fuel j (removeIndexFast j xs) else removeWhere p fuel (j + 1) xs

theorem mem_of_mem_removeWhere {p : α → Bool} {fuel j : Nat} {y : α}
    (member : y ∈ removeWhere p fuel j xs) : y ∈ xs := by
  induction fuel generalizing j xs with
  | zero => exact member
  | succ fuel ih =>
    unfold removeWhere at member
    split at member
    · exact member
    next x found =>
      split at member
      · exact mem_of_mem_removeIndexFast found (ih member)
      · exact ih member

theorem countP_removeWhere {p q : α → Bool} (apart : ∀ x, p x → q x = false) (fuel j : Nat)
    (xs : List α) : (removeWhere p fuel j xs).countP q = xs.countP q := by
  induction fuel generalizing j xs with
  | zero => rfl
  | succ fuel ih =>
    unfold removeWhere
    split
    · rfl
    next x found =>
      split
      next taken =>
        have counts := (removeIndexFast_perm found).countP_eq q
        rw [countP_cons, apart x taken, if_neg Bool.false_ne_true, Nat.add_zero] at counts
        rw [ih, counts]
      · exact ih (j + 1) xs

end PtrArray
