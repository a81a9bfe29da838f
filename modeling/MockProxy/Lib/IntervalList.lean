import Mathlib.Data.Set.Card

/-!
# Lists of intervals

A set of integers kept as a list of closed intervals `(first, last)`. A list is
canonical when its intervals are not empty, stand in ascending order and neither overlap
nor touch. Two canonical lists of the same set are equal.
-/

namespace IntervalList

/-- `x` lies in one of the intervals. -/
def Covers (l : List (Int × Int)) (x : Int) : Prop := ∃ i ∈ l, i.1 ≤ x ∧ x ≤ i.2

@[simp] theorem covers_nil (x : Int) : ¬ Covers [] x := by
  simp [Covers]

@[simp] theorem covers_cons (i : Int × Int) (l : List (Int × Int)) (x : Int) :
    Covers (i :: l) x ↔ (i.1 ≤ x ∧ x ≤ i.2) ∨ Covers l x := by
  simp [Covers]

@[simp] theorem covers_append (l m : List (Int × Int)) (x : Int) :
    Covers (l ++ m) x ↔ Covers l x ∨ Covers m x := by
  simp [Covers, or_and_right, exists_or]

/-- Every interval starts behind `b`. -/
def Above (b : Int) (l : List (Int × Int)) : Prop := ∀ i ∈ l, b < i.1

@[simp] theorem above_nil (b : Int) : Above b [] := by
  simp [Above]

@[simp] theorem above_cons (b : Int) (i : Int × Int) (l : List (Int × Int)) :
    Above b (i :: l) ↔ b < i.1 ∧ Above b l := by
  simp [Above]

variable {b : Int} {l m : List (Int × Int)} {i : Int × Int}

theorem Above.mono {c : Int} (above : Above c l) (le : b ≤ c) : Above b l :=
  fun i member => lt_of_le_of_lt le (above i member)

theorem Above.lt_of_covers {x : Int} (above : Above b l) (covered : Covers l x) : b < x := by
  obtain ⟨i, member, low, -⟩ := covered
  exact lt_of_lt_of_le (above i member) low

def Canonical (l : List (Int × Int)) : Prop :=
  (∀ i ∈ l, i.1 ≤ i.2) ∧ l.Pairwise fun i j => i.2 + 1 < j.1

@[simp] theorem canonical_nil : Canonical [] := by
  simp [Canonical]

@[simp] theorem canonical_cons (i : Int × Int) (l : List (Int × Int)) :
    Canonical (i :: l) ↔ i.1 ≤ i.2 ∧ Above (i.2 + 1) l ∧ Canonical l := by
  simp only [Canonical, List.forall_mem_cons, List.pairwise_cons]
  tauto

theorem Canonical.covers_ends (canonical : Canonical l) (member : i ∈ l) :
    Covers l i.1 ∧ Covers l i.2 :=
  ⟨⟨i, member, le_rfl, canonical.1 i member⟩, ⟨i, member, canonical.1 i member, le_rfl⟩⟩

theorem Canonical.append (canonical : Canonical l) (proper : i.1 ≤ i.2)
    (gap : ∀ j ∈ l, j.2 + 1 < i.1) : Canonical (l ++ [i]) := by
  refine ⟨?_, List.pairwise_append.mpr ⟨canonical.2, List.pairwise_singleton _ _, ?_⟩⟩
  · rw [List.forall_mem_append, List.forall_mem_singleton]
    exact ⟨canonical.1, proper⟩
  · intro j member k last
    rw [List.mem_singleton.mp last]
    exact gap j member

/-- The head of a canonical list is determined by the set: its start is the least element
and its end the last one before the first gap. -/
theorem Canonical.head_le {j : Int × Int} (left : Canonical (i :: l)) (right : Canonical (j :: m))
    (same : ∀ x, Covers (i :: l) x ↔ Covers (j :: m) x) : j.1 ≤ i.1 ∧ (i.1 = j.1 → i.2 ≤ j.2) := by
  rw [canonical_cons] at left right
  constructor
  · have covered := (same i.1).mp (by simp [left.1])
    rw [covers_cons] at covered
    rcases covered with inside | later
    · exact inside.1
    · have behind := right.2.1.lt_of_covers later
      omega
  · by_contra longer
    -- `j.2 + 1` would lie in the first interval on the left, and in the first gap on the right
    have covered := (same (j.2 + 1)).mp (by rw [covers_cons]; left; omega)
    rw [covers_cons] at covered
    rcases covered with inside | later
    · omega
    · exact lt_irrefl _ (right.2.1.lt_of_covers later)

theorem Canonical.ext (left : Canonical l) (right : Canonical m)
    (same : ∀ x, Covers l x ↔ Covers m x) : l = m := by
  induction l generalizing m with
  | nil =>
    cases m with
    | nil => rfl
    | cons j m =>
      have covered := (same j.1).mpr (right.covers_ends (by simp)).1
      simp at covered
  | cons i l ih =>
    cases m with
    | nil =>
      have covered := (same i.1).mp (left.covers_ends (by simp)).1
      simp at covered
    | cons j m =>
      have forward := left.head_le right same
      have backward := right.head_le left fun x => (same x).symm
      have starts : i.1 = j.1 := le_antisymm backward.1 forward.1
      have ends : i.2 = j.2 := le_antisymm (forward.2 starts) (backward.2 starts.symm)
      have heads : i = j := Prod.ext starts ends
      rw [canonical_cons] at left right
      congr 1
      apply ih left.2.2 right.2.2
      intro x
      have both := same x
      simp only [covers_cons] at both
      constructor
      · intro covered
        have behind := left.2.1.lt_of_covers covered
        exact (both.mp (.inr covered)).resolve_left (by omega)
      · intro covered
        have behind := right.2.1.lt_of_covers covered
        exact (both.mpr (.inr covered)).resolve_left (by omega)

/-- A canonical list, except that one interval may touch the next. -/
inductive Joinable : List (Int × Int) → Prop
  | canonical {l : List (Int × Int)} (canonical : Canonical l) : Joinable l
  | touching {i j : Int × Int} {l : List (Int × Int)} (proper : i.1 ≤ i.2)
      (touches : i.2 + 1 = j.1) (rest : Canonical (j :: l)) : Joinable (i :: j :: l)
  | later {i : Int × Int} {l : List (Int × Int)} (proper : i.1 ≤ i.2) (above : Above (i.2 + 1) l)
      (rest : Joinable l) : Joinable (i :: l)

theorem Joinable.proper (joinable : Joinable l) : ∀ i ∈ l, i.1 ≤ i.2 := by
  induction joinable with
  | canonical canonical => exact canonical.1
  | touching proper touches rest => exact List.forall_mem_cons.mpr ⟨proper, rest.1⟩
  | later proper above rest ih => exact List.forall_mem_cons.mpr ⟨proper, ih⟩

def join : List (Int × Int) → List (Int × Int)
  | i :: j :: l => if i.2 + 1 = j.1 then (i.1, j.2) :: l else i :: join (j :: l)
  | l => l

theorem Canonical.join_eq (canonical : Canonical l) : join l = l := by
  fun_induction join l with
  | case1 i j l touches =>
    simp only [canonical_cons, above_cons] at canonical
    omega
  | case2 i j l apart ih => rw [ih ((canonical_cons _ _).mp canonical).2.2]
  | case3 l short => rfl

theorem Joinable.covers_join (joinable : Joinable l) (x : Int) :
    Covers (join l) x ↔ Covers l x := by
  induction joinable with
  | canonical canonical => rw [canonical.join_eq]
  | touching proper touches rest =>
    rw [canonical_cons] at rest
    simp only [join, touches, if_true, covers_cons, ← or_assoc]
    exact or_congr_left (by omega)
  | @later i l proper above rest ih =>
    cases l with
    | nil => rfl
    | cons j l =>
      have apart : i.2 + 1 ≠ j.1 := ne_of_lt ((above_cons _ _ _).mp above).1
      rw [join, if_neg apart, covers_cons, covers_cons, ih]

theorem above_join (above : Above b l) : Above b (join l) := by
  fun_induction join l with
  | case1 i j l touches =>
    simp only [above_cons] at above ⊢
    exact ⟨above.1, above.2.2⟩
  | case2 i j l apart ih =>
    rw [above_cons] at above ⊢
    exact ⟨above.1, ih above.2⟩
  | case3 l short => exact above

theorem Joinable.canonical_join (joinable : Joinable l) : Canonical (join l) := by
  induction joinable with
  | canonical canonical => rwa [canonical.join_eq]
  | touching proper touches rest =>
    simp only [canonical_cons] at rest
    simp only [join, touches, if_true, canonical_cons]
    exact ⟨by omega, rest.2.1, rest.2.2⟩
  | @later i l proper above rest ih =>
    cases l with
    | nil => simp [join, proper]
    | cons j l =>
      have apart : i.2 + 1 ≠ j.1 := ne_of_lt ((above_cons _ _ _).mp above).1
      rw [join, if_neg apart, canonical_cons]
      exact ⟨proper, above_join above, ih⟩

end IntervalList
