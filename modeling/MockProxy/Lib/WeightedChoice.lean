import Mathlib.Algebra.Order.BigOperators.Group.List
import Mathlib.Data.Set.Card

/-!
# Choosing by weight

A number below the total weight chooses the element in whose part of the weights it lies. Laid out
one behind the other, each element as often as its weight says (`tickets`), the choice is a lookup.
So an element is chosen by as many numbers as its weight (`ncard_choose`).
-/

namespace WeightedChoice

open List

variable {α : Type} (weight : α → Nat)

def choose : (k : Nat) → List α → Option α
  | _, [] => none
  | k, x :: xs => if k < weight x then some x else choose (k - weight x) xs

variable (xs : List α)

def total : Nat := (xs.map weight).sum

@[simp] theorem total_nil : total weight [] = 0 := rfl

@[simp] theorem total_cons (x : α) (xs : List α) :
    total weight (x :: xs) = weight x + total weight xs := rfl

@[simp] theorem total_append (xs ys : List α) :
    total weight (xs ++ ys) = total weight xs + total weight ys := by
  simp [total]

theorem total_perm {xs ys : List α} (perm : xs.Perm ys) : total weight xs = total weight ys :=
  (perm.map weight).sum_eq

theorem total_congr {weight' : α → Nat} {xs : List α} (same : ∀ x ∈ xs, weight x = weight' x) :
    total weight xs = total weight' xs := by
  unfold total
  rw [map_congr_left same]

variable {x : α}

theorem weight_le_total {xs : List α} (member : x ∈ xs) : weight x ≤ total weight xs :=
  single_le_sum (fun _ _ => Nat.zero_le _) _ (mem_map_of_mem member)

theorem total_le_of_nodup {xs ys : List α} (distinct : xs.Nodup) (subset : xs ⊆ ys) :
    total weight xs ≤ total weight ys := by
  obtain ⟨zs, perm, sub⟩ := distinct.subperm subset
  rw [← total_perm weight perm]
  exact (sub.map weight).sum_le_sum fun _ _ => Nat.zero_le _

/-! ### Tickets -/

def tickets : List α := xs.flatMap fun x => replicate (weight x) x

theorem tickets_cons (x : α) (xs : List α) :
    tickets weight (x :: xs) = replicate (weight x) x ++ tickets weight xs :=
  flatMap_cons

theorem length_tickets : (tickets weight xs).length = total weight xs := by
  induction xs with
  | nil => rfl
  | cons x xs ih => rw [tickets_cons, length_append, length_replicate, ih, total_cons]

theorem choose_eq_getElem? (k : Nat) (xs : List α) :
    choose weight k xs = (tickets weight xs)[k]? := by
  induction xs generalizing k with
  | nil => simp [choose, tickets]
  | cons x xs ih =>
    unfold choose
    rw [tickets_cons]
    split
    next below =>
      rw [getElem?_append_left (by simpa using below), getElem?_replicate, if_pos below]
    next above =>
      rw [getElem?_append_right (by simpa using above), length_replicate, ih]

theorem mem_tickets {xs : List α} : x ∈ tickets weight xs ↔ x ∈ xs ∧ 0 < weight x := by
  simp only [tickets, mem_flatMap, mem_replicate, Nat.pos_iff_ne_zero]
  constructor
  · rintro ⟨y, member, positive, rfl⟩
    exact ⟨member, positive⟩
  · rintro ⟨member, positive⟩
    exact ⟨x, member, positive, rfl⟩

theorem count_tickets [DecidableEq α] {xs : List α} (distinct : xs.Nodup) (member : x ∈ xs) :
    (tickets weight xs).count x = weight x := by
  induction xs with
  | nil => exact absurd member not_mem_nil
  | cons y ys ih =>
    rw [nodup_cons] at distinct
    rw [tickets_cons, count_append, count_replicate]
    rcases mem_cons.mp member with rfl | later
    · have absent : x ∉ tickets weight ys :=
        fun inside => distinct.1 ((mem_tickets weight).mp inside).1
      rw [count_eq_zero_of_not_mem absent]
      simp
    · have other : y ≠ x := by
        rintro rfl
        exact distinct.1 later
      rw [ih distinct.2 later]
      simp [other]

/-! ### How often an element is chosen -/

theorem choose_of_lt {k : Nat} {xs : List α} (below : k < total weight xs) :
    ∃ x ∈ xs, 0 < weight x ∧ choose weight k xs = some x := by
  rw [← length_tickets] at below
  rw [choose_eq_getElem?, getElem?_eq_getElem below]
  obtain ⟨member, positive⟩ := (mem_tickets weight).mp (getElem_mem below)
  exact ⟨_, member, positive, rfl⟩

theorem ncard_getElem?_eq [DecidableEq α] (x : α) :
    {k | k < xs.length ∧ xs[k]? = some x}.ncard = xs.count x := by
  induction xs using reverseRecOn with
  | nil => simp
  | append_singleton xs y ih =>
    by_cases last : y = x
    · subst last
      have split : {k | k < (xs ++ [y]).length ∧ (xs ++ [y])[k]? = some y} =
          insert xs.length {k | k < xs.length ∧ xs[k]? = some y} := by
        ext k
        simp only [length_append, length_singleton, Set.mem_ofPred_eq, Set.mem_insert_iff]
        rcases Nat.lt_trichotomy k xs.length with below | rfl | above
        · simp [below, below.ne, Nat.lt_succ_of_lt below]
        · simp
        · omega
      have finite : {k | k < xs.length ∧ xs[k]? = some y}.Finite :=
        (Set.finite_lt_nat xs.length).subset fun k both => both.1
      rw [split, Set.ncard_insert_of_notMem (by simp) finite, ih]
      simp
    · have same : {k | k < (xs ++ [y]).length ∧ (xs ++ [y])[k]? = some x} =
          {k | k < xs.length ∧ xs[k]? = some x} := by
        ext k
        simp only [length_append, length_singleton, Set.mem_ofPred_eq]
        rcases Nat.lt_trichotomy k xs.length with below | rfl | above
        · simp [below, Nat.lt_succ_of_lt below]
        · simp [last]
        · omega
      rw [same, ih]
      simp [last]

/-- Of the numbers below the total weight, as many choose an element as its weight says. -/
theorem ncard_choose {xs : List α} (distinct : xs.Nodup) (member : x ∈ xs) :
    {k | k < total weight xs ∧ choose weight k xs = some x}.ncard = weight x := by
  classical
  have count := ncard_getElem?_eq (tickets weight xs) x
  rw [length_tickets, count_tickets weight distinct member] at count
  simp only [choose_eq_getElem?]
  exact count

end WeightedChoice
