import Mathlib.Data.List.TakeWhile
import Mathlib.Data.Set.Card

/-!
# Walking two sorted lists in step

`missing xs ys` looks for the elements of `xs` in `ys` with one cursor into each list: for each
element of `xs` the cursor of `ys` moves past the smaller elements and must then stand on the
element itself. It does not move past an element it has found. On strictly sorted lists this decides
whether `xs` is contained in `ys`. `matching` walks in the same way and counts the elements it
finds.
-/

namespace SortedWalk

open List

variable {α : Type} [LinearOrder α] {ys xs : List α}

def missing : List α → List α → Bool
  | [], _ => false
  | x :: xs, ys =>
    match ys.dropWhile (· < x) with
    | [] => true
    | y :: rest => if y = x then missing xs (y :: rest) else true

theorem mem_dropWhile_lt {x z : α} (bound : x ≤ z) : z ∈ ys.dropWhile (· < x) ↔ z ∈ ys := by
  constructor
  · intro kept
    exact (dropWhile_suffix _).subset kept
  · intro member
    rw [← takeWhile_append_dropWhile (p := (· < x)) (l := ys), mem_append] at member
    rcases member with skipped | kept
    · have smaller : z < x := by simpa using mem_takeWhile_imp skipped
      exact absurd bound (not_le.mpr smaller)
    · exact kept

theorem mem_iff_head_eq {x y : α} {rest : List α} (sorted : ys.Pairwise (· < ·))
    (stopped : ys.dropWhile (· < x) = y :: rest) : x ∈ ys ↔ y = x := by
  have atLeast : x ≤ y := by
    have notSmaller := head_dropWhile_not (· < x) (l := ys) (by simp [stopped])
    simpa [stopped] using notSmaller
  have suffixSorted : (y :: rest).Pairwise (· < ·) :=
    stopped ▸ sorted.sublist (dropWhile_sublist _)
  rw [← mem_dropWhile_lt (le_refl x), stopped, mem_cons]
  constructor
  · rintro (same | later)
    · exact same.symm
    · -- everything behind the cursor is larger than `y`, hence than `x`
      have larger := rel_of_pairwise_cons suffixSorted later
      exact absurd larger (not_lt.mpr atLeast)
  · intro same
    exact .inl same.symm

theorem missing_iff (sortedXs : xs.Pairwise (· < ·)) (sortedYs : ys.Pairwise (· < ·)) :
    missing xs ys ↔ ∃ x ∈ xs, x ∉ ys := by
  induction xs generalizing ys with
  | nil => simp [missing]
  | cons x xs ih =>
    have later := pairwise_cons.mp sortedXs
    unfold missing
    split
    next ended =>
      have absent : x ∉ ys := by
        rw [← mem_dropWhile_lt (le_refl x), ended]
        exact not_mem_nil
      simp only [true_iff]
      exact ⟨x, mem_cons_self, absent⟩
    next y rest stopped =>
      have found := mem_iff_head_eq sortedYs stopped
      split
      next same =>
        have suffixSorted : (y :: rest).Pairwise (· < ·) :=
          stopped ▸ sortedYs.sublist (dropWhile_sublist _)
        -- the elements still to be looked for are larger than `x`, so none of them was skipped
        have unskipped : (∃ z ∈ xs, z ∉ y :: rest) ↔ ∃ z ∈ xs, z ∉ ys := by
          refine exists_congr fun z => and_congr_right fun member => ?_
          rw [← stopped, mem_dropWhile_lt (later.1 z member).le]
        rw [ih later.2 suffixSorted, exists_mem_cons_iff, unskipped]
        simp [found.mpr same]
      next differ =>
        simp only [true_iff]
        exact ⟨x, mem_cons_self, fun member => differ (found.mp member)⟩

/-- How many elements of the first list are found and agree. -/
def matching (agree : α → Bool) : List α → List α → Nat
  | [], _ => 0
  | x :: xs, ys =>
    match ys.dropWhile (· < x) with
    | [] => 0
    | y :: rest => (if y = x ∧ agree x then 1 else 0) + matching agree xs (y :: rest)

theorem matching_eq_countP {agree : α → Bool} (sortedXs : xs.Pairwise (· < ·))
    (sortedYs : ys.Pairwise (· < ·)) :
    matching agree xs ys = xs.countP fun x => x ∈ ys ∧ agree x := by
  induction xs generalizing ys with
  | nil => rfl
  | cons x xs ih =>
    have later := pairwise_cons.mp sortedXs
    -- the elements behind `x` are not skipped
    have unskipped : xs.countP (fun z => z ∈ ys.dropWhile (· < x) ∧ agree z) =
        xs.countP fun z => z ∈ ys ∧ agree z := by
      apply countP_congr
      intro z member
      simp [mem_dropWhile_lt (later.1 z member).le]
    rw [countP_cons, ← unskipped]
    unfold matching
    split
    next ended =>
      have absent : x ∉ ys := by
        rw [← mem_dropWhile_lt (le_refl x), ended]
        exact not_mem_nil
      simp [ended, absent]
    next y rest stopped =>
      have suffixSorted : (y :: rest).Pairwise (· < ·) :=
        stopped ▸ sortedYs.sublist (dropWhile_sublist _)
      rw [ih later.2 suffixSorted, stopped, Nat.add_comm]
      simp [mem_iff_head_eq sortedYs stopped]

theorem exists_notMem_of_length_lt (distinct : xs.Nodup) (shorter : ys.length < xs.length) :
    ∃ x ∈ xs, x ∉ ys := by
  by_contra none
  push Not at none
  have fits := (List.Nodup.subperm distinct none).length_le
  omega

end SortedWalk
