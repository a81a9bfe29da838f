import MockProxy.Lib.PtrArray

/-!
# Scans that remove elements

Three loops take elements out of an array while they go over it by index, each by moving the last
element to the place of the one that is taken out.

* `removeWhere` looks at the same place again; it takes out exactly the elements that are meant.
* `removeSkipping` goes on behind the place, so that the element that was moved there is not looked
  at. It takes out exactly the elements that are meant if and only if none of them is among the last
  ones (`removeSkipping_perm_filter_iff`).
* `removeFirstFor` takes out the first element whichever is meant. The elements that are meant have
  to come to the front before all others (`removeFirstFor_perm_filter_iff`).
-/

namespace PtrArray

open List

variable {α : Type}

/-! ### The place of an element -/

variable (rest : List α)

/-- What stands from the place of an element on once it has been taken out, where `rest` is behind
it. -/
def closeUp : List α :=
  match rest.getLast? with
  | none => []
  | some last => last :: rest.dropLast

@[simp] theorem closeUp_nil : closeUp ([] : List α) = [] := rfl

@[simp] theorem closeUp_concat (last : α) : closeUp (rest ++ [last]) = last :: rest := by
  simp [closeUp]

theorem closeUp_perm : closeUp rest ~ rest := by
  rcases rest.eq_nil_or_concat with rfl | ⟨front, last, rfl⟩
  · exact .refl _
  · rw [concat_eq_append, closeUp_concat]
    exact (perm_append_singleton last front).symm

theorem closeUp_subperm (x : α) (rest : List α) : closeUp rest <+~ x :: rest :=
  (closeUp_perm rest).subperm.trans (sublist_cons_self x rest).subperm

variable {xs : List α} {p : α → Bool} {x : α}

theorem nodup_of_subperm {ys : List α} (some : xs <+~ ys) (distinct : ys.Nodup) : xs.Nodup := by
  obtain ⟨zs, perm, sublist⟩ := some
  exact perm.nodup_iff.mp (distinct.sublist sublist)

theorem perm_filter_iff {left : List α} (distinct : xs.Nodup) (some : left <+~ xs) :
    left ~ xs.filter (fun x => !p x) ↔ ∀ x ∈ xs, x ∉ left ↔ p x := by
  rw [perm_ext_iff_of_nodup (nodup_of_subperm some distinct) (distinct.filter _)]
  simp only [mem_filter, Bool.not_eq_true']
  constructor
  · intro same x member
    rw [same x]
    simp [member]
  · intro missing x
    constructor
    · intro kept
      have member := some.subset kept
      exact ⟨member, Bool.eq_false_iff.mpr fun meant => (missing x member).mpr meant kept⟩
    · rintro ⟨member, other⟩
      by_contra gone
      rw [(missing x member).mp gone] at other
      cases other

theorem removeIndexFast_append (front : List α) (x : α) (rest : List α) :
    removeIndexFast front.length (front ++ x :: rest) = front ++ closeUp rest := by
  unfold removeIndexFast
  rcases rest.eq_nil_or_concat with rfl | ⟨mid, last, rfl⟩
  · simp
  · rw [concat_eq_append, closeUp_concat]
    have ends : (front ++ x :: (mid ++ [last])).getLast? = some last := by
      rw [← cons_append, ← append_assoc, getLast?_concat]
    rw [ends]
    dsimp only
    have inside : ¬ front.length + 1 = (front ++ x :: (mid ++ [last])).length := by simp
    rw [if_neg inside, set_append_right _ _ le_rfl, Nat.sub_self, set_cons_zero,
      ← cons_append, ← append_assoc, dropLast_concat]

/-! ### Looking at the same place again -/

theorem removeWhere_perm_filter (p : α → Bool) (front rest : List α) (fuel : Nat)
    (enough : rest.length ≤ fuel) :
    removeWhere p fuel front.length (front ++ rest) ~ front ++ rest.filter (fun x => !p x) := by
  induction fuel generalizing front rest with
  | zero =>
    rw [length_eq_zero_iff.mp (Nat.le_zero.mp enough)]
    exact .refl _
  | succ fuel ih =>
    unfold removeWhere
    cases rest with
    | nil =>
      simp
    | cons x rest =>
      rw [length_cons] at enough
      have here : (front ++ x :: rest)[front.length]? = some x := by simp
      rw [here]
      dsimp only
      by_cases meant : p x
      · rw [if_pos meant, removeIndexFast_append, filter_cons_of_neg (by simp [meant])]
        have moved := closeUp_perm rest
        refine (ih front (closeUp rest) ?_).trans ((moved.filter _).append_left front)
        rw [moved.length_eq]
        omega
      · rw [if_neg meant, filter_cons_of_pos (by simp [meant])]
        have next := ih (front ++ [x]) rest (by omega)
        rw [length_append, append_assoc, append_assoc] at next
        exact next

/-! ### Going on behind the place -/

/-- A scan from the index `j` that takes out the elements with `p`; the element that was moved to
the place of one that is taken out is not looked at. -/
def removeSkipping (p : α → Bool) : (fuel j : Nat) → List α → List α
  | 0, _, xs => xs
  | fuel + 1, j, xs =>
    match xs[j]? with
    | none => xs
    | some x =>
      if p x then removeSkipping p fuel (j + 1) (removeIndexFast j xs)
      else removeSkipping p fuel (j + 1) xs

/-- What such a scan leaves of the elements from its index on. -/
def skipping (p : α → Bool) : List α → List α
  | [] => []
  | x :: rest =>
    if p x then
      match rest.getLast? with
      | none => []
      | some last => last :: skipping p rest.dropLast
    else x :: skipping p rest
termination_by xs => xs.length
decreasing_by
  · rw [length_dropLast, length_cons]
    omega
  · exact lt_add_one _

theorem skipping_concat (meant : p x) (mid : List α) (last : α) :
    skipping p (x :: (mid ++ [last])) = last :: skipping p mid := by
  simp [skipping, meant]

theorem removeSkipping_append (p : α → Bool) (front rest : List α) (fuel : Nat)
    (enough : rest.length ≤ fuel) :
    removeSkipping p fuel front.length (front ++ rest) = front ++ skipping p rest := by
  induction fuel generalizing front rest with
  | zero =>
    rw [length_eq_zero_iff.mp (Nat.le_zero.mp enough), skipping]
    rfl
  | succ fuel ih =>
    unfold removeSkipping
    cases rest with
    | nil => rw [append_nil, getElem?_eq_none le_rfl, skipping, append_nil]
    | cons x rest =>
      have here : (front ++ x :: rest)[front.length]? = some x := by simp
      -- whatever is at the place now, it is passed
      have passed : ∀ (y : α) (ys : List α), ys.length ≤ fuel →
          removeSkipping p fuel (front.length + 1) (front ++ y :: ys) = front ++ y ::
            skipping p ys := by
        intro y ys few
        have next := ih (front ++ [y]) ys few
        rwa [length_append, append_assoc, append_assoc] at next
      rw [length_cons] at enough
      rw [here]
      dsimp only
      by_cases meant : p x
      · rw [if_pos meant, removeIndexFast_append]
        rcases rest.eq_nil_or_concat with rfl | ⟨mid, last, rfl⟩
        · cases fuel <;> simp [removeSkipping, skipping, meant]
        · rw [concat_eq_append] at enough ⊢
          rw [closeUp_concat, skipping_concat meant]
          exact passed last mid (by simp at enough; omega)
      · rw [if_neg meant, skipping, if_neg meant]
        exact passed x rest (by omega)

/-- The elements that are moved if all works out: with `n` elements that are meant, the last `n -
1`. -/
def Sources (p : α → Bool) (xs : List α) : List α := xs.drop (xs.length + 1 - xs.countP p)

theorem sources_cons_of_neg (other : ¬ p x) (rest : List α) :
    Sources p (x :: rest) = Sources p rest := by
  have count := countP_le_length (l := rest) (p := p)
  unfold Sources
  rw [countP_cons_of_neg other, length_cons,
    show rest.length + 1 + 1 - rest.countP p = rest.length + 1 - rest.countP p + 1 by omega,
    drop_succ_cons]

/-- The last element is a source if another one is meant besides the first. -/
theorem sources_cons_concat (meant : p x) (mid : List α) (last : α) :
    (∀ y ∈ Sources p (x :: (mid ++ [last])), p y = false) ↔
      p last = false ∧ ∀ y ∈ Sources p mid, p y = false := by
  have count := countP_le_length (l := mid) (p := p)
  unfold Sources
  rw [countP_cons_of_pos meant, countP_append, countP_singleton, length_cons,
    length_append, length_singleton]
  by_cases lastMeant : p last
  · rw [if_pos lastMeant,
      show mid.length + 1 + 1 + 1 - (mid.countP p + 1 + 1) = mid.length - mid.countP p + 1 by omega,
      drop_succ_cons, drop_append_of_le_length (Nat.sub_le _ _)]
    constructor
    · intro none
      exact absurd (none last (by simp)) (by simp [lastMeant])
    · rintro ⟨notMeant, -⟩
      exact absurd lastMeant (by simp [notMeant])
  · have notMeant : p last = false := by simpa using lastMeant
    rw [if_neg lastMeant, show mid.length + 1 + 1 + 1 - (mid.countP p + 1) = mid.length +
      1 - mid.countP p + 1 by omega, drop_succ_cons]
    by_cases alone : mid.countP p = 0
    · rw [alone, drop_of_length_le (by simp), drop_of_length_le (by simp)]
      simp [notMeant]
    · rw [drop_append_of_le_length (by omega)]
      rw [forall_mem_append, forall_mem_singleton, and_comm]

/-- What is meant is taken out, and nothing else, if and only if no element is moved that is
meant. -/
theorem skipping_perm_filter_iff (p : α → Bool) (xs : List α) :
    skipping p xs ~ xs.filter (fun x => !p x) ↔ ∀ y ∈ Sources p xs, p y = false := by
  induction count : xs.length using Nat.strongRecOn generalizing xs with
  | _ count ih =>
    cases xs with
    | nil => simp [skipping, Sources]
    | cons x rest =>
      by_cases meant : p x
      · rw [filter_cons_of_neg (by simp [meant])]
        rcases rest.eq_nil_or_concat with rfl | ⟨mid, last, rfl⟩
        · -- the last element is taken out, and nothing is moved
          simp [skipping, Sources, meant]
        · rw [concat_eq_append] at count ⊢
          rw [skipping_concat meant, sources_cons_concat meant, filter_append]
          by_cases lastMeant : p last
          · -- the last element is meant, is moved and stays
            refine iff_of_false (fun exactly => ?_) fun both => by simp [lastMeant] at both
            have counts := exactly.countP_eq p
            simp [lastMeant, countP_filter] at counts
          · have notMeant : p last = false := by simpa using lastMeant
            have rotated : mid.filter (fun y => !p y) ++ [last].filter (fun y => !p y) ~
                last :: mid.filter (fun y => !p y) := by
              simp [notMeant, perm_append_singleton]
            rw [rotated.congr_right, perm_cons, ih mid.length (by simp at count; omega) mid rfl,
              and_iff_right notMeant]
      · rw [skipping, if_neg meant, filter_cons_of_pos (by simp [meant]), perm_cons,
          sources_cons_of_neg meant]
        exact ih rest.length (by simp at count; omega) rest rfl

theorem removeSkipping_perm_filter_iff (p : α → Bool) (xs : List α) :
    removeSkipping p xs.length 0 xs ~ xs.filter (fun x => !p x) ↔
      ∀ y ∈ Sources p xs, p y = false := by
  rw [← skipping_perm_filter_iff]
  exact iff_of_eq (congrArg (· ~ _) (removeSkipping_append p [] xs xs.length le_rfl))

theorem removeSkipping_filter_perm (p : α → Bool) (fuel j : Nat) (xs : List α) :
    (removeSkipping p fuel j xs).filter (fun x => !p x) ~ xs.filter (fun x => !p x) := by
  induction fuel generalizing j xs with
  | zero => exact .refl _
  | succ fuel ih =>
    unfold removeSkipping
    split
    · exact .refl _
    next x found =>
      split
      next meant =>
        have others := (removeIndexFast_perm found).filter (fun x => !p x)
        rw [filter_cons_of_neg (by simp [meant])] at others
        exact (ih _ _).trans others
      · exact ih _ xs

/-! ### Taking out the first element -/

/-- A scan from the index `i` that takes out the first element for each one with `p` that it finds,
and looks at the same place again. -/
def removeFirstFor (p : α → Bool) : (fuel i : Nat) → List α → List α
  | 0, _, xs => xs
  | fuel + 1, i, xs =>
    match xs[i]? with
    | none => xs
    | some x =>
      if p x then removeFirstFor p fuel i (removeIndexFast 0 xs)
        else removeFirstFor p fuel (i + 1) xs

/-- The order in which the elements come to the front: the first one, and then from the last one
on. -/
def comingOrder : List α → List α
  | [] => []
  | x :: rest => x :: rest.reverse

theorem removeIndexFast_zero (x : α) (rest : List α) :
    removeIndexFast 0 (x :: rest) = closeUp rest :=
  removeIndexFast_append [] x rest

theorem comingOrder_closeUp : comingOrder (closeUp rest) = rest.reverse := by
  rcases rest.eq_nil_or_concat with rfl | ⟨mid, last, rfl⟩
  · rfl
  · rw [concat_eq_append, closeUp_concat, reverse_append]
    rfl

theorem removeFirstFor_congr {q : α → Bool} (same : ∀ x ∈ xs, p x = q x) (fuel i : Nat) :
    removeFirstFor p fuel i xs = removeFirstFor q fuel i xs := by
  induction fuel generalizing i xs with
  | zero => rfl
  | succ fuel ih =>
    unfold removeFirstFor
    cases found : xs[i]? with
    | none => rfl
    | some x =>
      dsimp only
      rw [same x (mem_of_getElem? found), ih same]
      cases xs with
      | nil => cases found
      | cons first rest =>
        have fewer : ∀ y ∈ removeIndexFast 0 (first :: rest), p y = q y := by
          intro y member
          rw [removeIndexFast_zero] at member
          exact same y (mem_cons_of_mem first ((closeUp_perm rest).subset member))
        rw [ih fewer]

theorem removeFirstFor_of_none (fuel : Nat) {i : Nat} (none : ∀ x ∈ xs.drop i, p x = false) :
    removeFirstFor p fuel i xs = xs := by
  induction fuel generalizing i with
  | zero => rfl
  | succ fuel ih =>
    unfold removeFirstFor
    split
    · rfl
    next x found =>
      have here : p x = false := none x (mem_of_getElem? (i := 0) (by simpa using found))
      rw [here]
      apply ih
      intro y member
      rw [← drop_drop] at member
      exact none y (mem_of_mem_drop member)

theorem removeFirstFor_subperm (p : α → Bool) (fuel i : Nat) (xs : List α) :
    removeFirstFor p fuel i xs <+~ xs := by
  induction fuel generalizing i xs with
  | zero => exact .refl xs
  | succ fuel ih =>
    unfold removeFirstFor
    split
    · exact .refl xs
    · split
      · cases xs with
        | nil => exact ih _ _
        | cons first rest =>
          rw [removeIndexFast_zero]
          exact (ih i (closeUp rest)).trans (closeUp_subperm first rest)
      · exact ih _ xs

/-- Behind a first element that is not meant, one that is meant costs an element that is not. -/
theorem countP_removeFirstFor_lt {first : α} (notMeant : p first = false) {rest : List α}
    {fuel i : Nat} (enough : rest.length ≤ fuel + i) (some : ∃ x ∈ rest.drop i, p x) :
    (removeFirstFor p fuel (i + 1) (first :: rest)).countP (fun x => !p x) <
      (first :: rest).countP fun x => !p x := by
  induction fuel generalizing i with
  | zero =>
    obtain ⟨x, member, -⟩ := some
    rw [drop_of_length_le (by omega)] at member
    exact absurd member not_mem_nil
  | succ fuel ih =>
    unfold removeFirstFor
    rw [getElem?_cons_succ]
    split
    next beyond =>
      obtain ⟨x, member, -⟩ := some
      rw [drop_of_length_le (getElem?_eq_none_iff.mp beyond)] at member
      exact absurd member not_mem_nil
    next x found =>
      split
      · -- the first element goes
        rw [removeIndexFast_zero, countP_cons_of_pos (by simp [notMeant])]
        have fewer := (removeFirstFor_subperm p fuel (i + 1) (closeUp rest)).countP_le fun x => !p x
        have moved := (closeUp_perm rest).countP_eq fun x => !p x
        omega
      next here =>
        apply ih (by omega)
        obtain ⟨y, member, meant⟩ := some
        obtain ⟨inside, same⟩ := List.getElem?_eq_some_iff.mp found
        rw [drop_eq_getElem_cons inside, same] at member
        rcases mem_cons.mp member with rfl | later
        · exact absurd meant here
        · exact ⟨y, later, meant⟩

/-- What is meant is taken out, and nothing else, if and only if it comes to the front before the
rest. -/
theorem removeFirstFor_perm_filter_iff (p : α → Bool) (xs : List α) (fuel : Nat)
    (enough : xs.length ≤ fuel) : removeFirstFor p fuel 0 xs ~ xs.filter (fun x => !p x) ↔
      (comingOrder xs).Pairwise fun x y => p y → p x := by
  induction fuel generalizing xs with
  | zero =>
    rw [length_eq_zero_iff.mp (Nat.le_zero.mp enough)]
    simp [removeFirstFor, comingOrder]
  | succ fuel ih =>
    cases xs with
    | nil => simp [removeFirstFor, comingOrder]
    | cons first rest =>
      rw [length_cons] at enough
      rw [comingOrder, pairwise_cons, removeFirstFor, getElem?_cons_zero]
      dsimp only
      by_cases meant : p first
      · rw [if_pos meant, removeIndexFast_zero, filter_cons_of_neg (by simp [meant])]
        have moved := closeUp_perm rest
        have next := ih (closeUp rest) (by rw [moved.length_eq]; omega)
        rw [comingOrder_closeUp] at next
        have same := moved.filter fun x => !p x
        constructor
        · intro exactly
          exact ⟨fun _ _ _ => meant, next.mp (exactly.trans same.symm)⟩
        · rintro ⟨-, ordered⟩
          exact (next.mpr ordered).trans same
      · rw [if_neg meant, filter_cons_of_pos (by simp [meant])]
        have notMeant : p first = false := by simpa using meant
        by_cases none : ∀ x ∈ rest, p x = false
        · have kept : removeFirstFor p fuel 1 (first :: rest) = first :: rest :=
            removeFirstFor_of_none fuel none
          have all : rest.filter (fun x => !p x) = rest :=
            filter_eq_self.mpr fun x member => by simp [none x member]
          have later : ∀ x ∈ rest.reverse, ¬ p x := by simpa using none
          rw [kept, all]
          refine iff_of_true (.refl _) ⟨fun x member isMeant => absurd isMeant (later x member), ?_⟩
          exact pairwise_of_forall_mem_list fun x _ y member isMeant =>
            absurd isMeant (later y member)
        · push Not at none
          obtain ⟨x, member, meantLater⟩ := none
          have isMeant : p x := by simpa using meantLater
          have within : rest.length ≤ fuel + 0 := by omega
          have fewer := countP_removeFirstFor_lt notMeant within ⟨x, member, isMeant⟩
          constructor
          · intro exactly
            have counts := exactly.countP_eq fun x => !p x
            rw [counts, countP_cons_of_pos (by simp [notMeant]), countP_filter,
              countP_cons_of_pos (by simp [notMeant])] at fewer
            simp at fewer
          · rintro ⟨before, -⟩
            exact absurd (before x (mem_reverse.mpr member) isMeant) meant

/-! ### Taking out elements until few are left -/

/-- The first element is taken out until at most `n` are left. -/
def shrink (n : Nat) (xs : List α) : List α := (removeIndexFast 0)^[xs.length - n] xs

theorem shrink_of_length_le {n : Nat} (few : xs.length ≤ n) : shrink n xs = xs := by
  unfold shrink
  rw [Nat.sub_eq_zero_of_le few]
  rfl

theorem shrink_nil (n : Nat) : shrink n ([] : List α) = [] := shrink_of_length_le (Nat.zero_le n)

theorem length_closeUp : (closeUp rest).length = rest.length :=
  (closeUp_perm rest).length_eq

theorem shrink_of_lt {n : Nat} {rest : List α} (many : n < (x :: rest).length) :
    shrink n (x :: rest) = shrink n (closeUp rest) := by
  rw [length_cons] at many
  unfold shrink
  rw [length_cons, length_closeUp, show rest.length + 1 - n = rest.length - n + 1 by omega,
    Function.iterate_succ_apply, removeIndexFast_zero]

theorem shrink_subperm (n : Nat) (xs : List α) : shrink n xs <+~ xs := by
  induction count : xs.length generalizing xs with
  | zero =>
    rw [shrink_of_length_le (by omega)]
  | succ count ih =>
    by_cases few : xs.length ≤ n
    · rw [shrink_of_length_le few]
    · cases xs with
      | nil => cases count
      | cons x rest =>
        rw [length_cons] at count
        rw [shrink_of_lt (by omega)]
        exact (ih (closeUp rest) (by rw [length_closeUp]; omega)).trans (closeUp_subperm x rest)

theorem shrink_shrink (n k : Nat) (xs : List α) : shrink n (shrink k xs) = shrink (min k n) xs := by
  induction count : xs.length generalizing xs with
  | zero =>
    obtain rfl := length_eq_zero_iff.mp count
    rw [shrink_nil, shrink_nil, shrink_nil]
  | succ count ih =>
    by_cases few : xs.length ≤ k
    · rw [shrink_of_length_le few]
      by_cases both : xs.length ≤ n
      · rw [shrink_of_length_le both, shrink_of_length_le (by omega)]
      · rw [Nat.min_eq_right (by omega)]
    · cases xs with
      | nil => cases count
      | cons x rest =>
        rw [length_cons] at count
        rw [shrink_of_lt (by omega), shrink_of_lt (by omega)]
        exact ih (closeUp rest) (by rw [length_closeUp]; omega)

end PtrArray
