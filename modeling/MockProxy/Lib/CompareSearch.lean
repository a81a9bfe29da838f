import Mathlib.Data.Set.Card

/-!
# Sorting and bisection with a comparison function

The C library sorts (`qsort`) and searches (`bsearch`) with a function that answers with a negative
number, zero or a positive number. If it compares by a rank (`Ranks`), the search in a sorted array
finds exactly what is in it (`bsearch_qsort_iff`).
-/

namespace CompareSearch

variable {α : Type} {cmp : α → α → Int} {rank : α → Nat} {xs : List α}

/-- The function compares by a rank. -/
structure Ranks (cmp : α → α → Int) (rank : α → Nat) : Prop where
  less : ∀ a b, cmp a b < 0 ↔ rank a < rank b
  more : ∀ a b, 0 < cmp a b ↔ rank b < rank a
  injective : ∀ a b, rank a = rank b → a = b

def qsort (cmp : α → α → Int) (xs : List α) : List α := xs.mergeSort fun a b => cmp a b ≤ 0

/-- The loop of `bsearch`, over the places from `l` up to `u`. -/
def bsearchFrom (cmp : α → α → Int) (key : α) (xs : List α) : Nat → Nat → Nat → Bool
  | 0, _, _ => false
  | fuel + 1, l, u =>
    if l < u then
      match xs[(l + u) / 2]? with
      | none => false
      | some x =>
        if cmp key x < 0 then bsearchFrom cmp key xs fuel l ((l + u) / 2)
        else if 0 < cmp key x then bsearchFrom cmp key xs fuel ((l + u) / 2 + 1) u
        else true
    else false

def bsearch (cmp : α → α → Int) (key : α) (xs : List α) : Bool :=
  bsearchFrom cmp key xs (xs.length + 1) 0 xs.length

theorem Ranks.le_iff (ranks : Ranks cmp rank) (a b : α) : cmp a b ≤ 0 ↔ rank a ≤ rank b := by
  have more := ranks.more a b
  omega

theorem mem_qsort (cmp : α → α → Int) (xs : List α) (x : α) : x ∈ qsort cmp xs ↔ x ∈ xs :=
  List.mem_mergeSort

def Sorted (rank : α → Nat) (xs : List α) : Prop := xs.Pairwise fun a b => rank a ≤ rank b

theorem Ranks.sorted_qsort (ranks : Ranks cmp rank) (xs : List α) : Sorted rank (qsort cmp xs) := by
  have sorted : (qsort cmp xs).Pairwise fun a b => decide (cmp a b ≤ 0) := by
    apply List.pairwise_mergeSort
    · intro a b c first second
      simp only [decide_eq_true_eq, ranks.le_iff] at first second ⊢
      exact first.trans second
    · intro a b
      simp only [Bool.or_eq_true, decide_eq_true_eq, ranks.le_iff]
      exact Nat.le_total _ _
  exact sorted.imp fun below => (ranks.le_iff _ _).mp (of_decide_eq_true below)

theorem Sorted.le (sorted : Sorted rank xs) {i j : Nat} {x y : α} (first : xs[i]? = some x)
    (second : xs[j]? = some y) (order : i ≤ j) : rank x ≤ rank y := by
  obtain ⟨bound, rfl⟩ := List.getElem?_eq_some_iff.mp first
  obtain ⟨bound', rfl⟩ := List.getElem?_eq_some_iff.mp second
  rcases Nat.lt_or_eq_of_le order with before | rfl
  · exact List.pairwise_iff_getElem.mp sorted i j bound bound' before
  · exact le_rfl

theorem bsearchFrom_iff (ranks : Ranks cmp rank) {key : α} (sorted : Sorted rank xs)
    {fuel l u : Nat} (within : u ≤ xs.length) (enough : u - l < fuel) :
    bsearchFrom cmp key xs fuel l u ↔ ∃ i, l ≤ i ∧ i < u ∧ xs[i]? = some key := by
  induction fuel generalizing l u with
  | zero => omega
  | succ fuel ih =>
    rw [bsearchFrom]
    split
    next window =>
      have bound : (l + u) / 2 < xs.length := by omega
      obtain ⟨x, middle⟩ : ∃ x, xs[(l + u) / 2]? = some x :=
        ⟨_, List.getElem?_eq_getElem bound⟩
      rw [middle]
      dsimp only
      have less := ranks.less key x
      have more := ranks.more key x
      split_ifs with below above
      · rw [ih (by omega) (by omega)]
        constructor
        · rintro ⟨i, low, high, here⟩
          exact ⟨i, low, by omega, here⟩
        · rintro ⟨i, low, high, here⟩
          refine ⟨i, low, ?_, here⟩
          by_contra later
          have order := sorted.le middle here (by omega)
          omega
      · rw [ih within (by omega)]
        constructor
        · rintro ⟨i, low, high, here⟩
          exact ⟨i, by omega, high, here⟩
        · rintro ⟨i, low, high, here⟩
          refine ⟨i, ?_, high, here⟩
          by_contra earlier
          have order := sorted.le here middle (by omega)
          omega
      · obtain rfl : key = x := ranks.injective key x (by omega)
        exact ⟨fun _ => ⟨(l + u) / 2, by omega, by omega, middle⟩, fun _ => rfl⟩
    next empty =>
      simp only [Bool.false_eq_true, false_iff, not_exists, not_and]
      omega

theorem bsearch_qsort_iff (ranks : Ranks cmp rank) (key : α) (xs : List α) :
    bsearch cmp key (qsort cmp xs) ↔ key ∈ xs := by
  rw [bsearch, bsearchFrom_iff ranks (ranks.sorted_qsort xs) le_rfl (by omega),
    ← mem_qsort cmp xs, List.mem_iff_getElem?]
  constructor
  · rintro ⟨i, -, -, here⟩
    exact ⟨i, here⟩
  · rintro ⟨i, here⟩
    obtain ⟨bound, -⟩ := List.getElem?_eq_some_iff.mp here
    exact ⟨i, Nat.zero_le i, bound, here⟩

end CompareSearch
