import MockProxy.Hostgroups.Server
import MockProxy.Lib.IntervalList

/-!
# The executed GTIDs of a server

`GTID_Server_Data.cpp` keeps the transactions a server has executed as a map from the uuid of the
source server to a list of intervals of transaction numbers. `addGtid` walks the list of the uuid,
extends an interval, inserts one or appends one, and then joins at most one pair of neighbours.
The lists stay canonical, so they depend only on the set of transactions that were added.
-/

namespace MockProxy.Gtid

open IntervalList Function List
open MockProxy.Hostgroups (GtidServerData)

/-- `gtid_set_t` -/
abbrev GtidSet := String → Option (List (Int × Int))

/-- A sum or difference of type `int64_t`. -/
def int64 (x : Int) : Int := Int.bmod x (2 ^ 64)

/-- How the first loop of `addGtid` ends. -/
inductive Walked
  -- `return` from within the loop
  | returned (intervals : List (Int × Int))
  -- `break` after an interval was extended
  | extended (intervals : List (Int × Int))
  -- no interval concerns the number: `flag` is still set
  | ended

def Walked.behind (i : Int × Int) : Walked → Walked
  | .returned intervals => .returned (i :: intervals)
  | .extended intervals => .extended (i :: intervals)
  | .ended => .ended

/-- The first loop of `addGtid` -/
def walk (x : Int) : List (Int × Int) → Walked
  | [] => .ended
  | i :: rest =>
    if x ≥ i.1 ∧ x ≤ i.2 then .returned (i :: rest)
    else if int64 (x + 1) = i.1 then .extended ((int64 (i.1 - 1), i.2) :: rest)
    else if x = int64 (i.2 + 1) then .extended ((i.1, int64 (i.2 + 1)) :: rest)
    else if x < i.1 then .returned ((x, x) :: i :: rest)
    else (walk x rest).behind i

/-- The second loop of `addGtid`: the first interval that touches the next one takes it in. -/
def merge : List (Int × Int) → List (Int × Int)
  | i :: j :: rest => if int64 (i.2 + 1) = j.1 then (i.1, j.2) :: rest else i :: merge (j :: rest)
  | intervals => intervals

/-- What `addGtid` makes of the list of a uuid that is known. -/
def addTrxid (x : Int) (intervals : List (Int × Int)) : List (Int × Int) :=
  match walk x intervals with
  | .returned intervals => intervals
  | .extended intervals => merge intervals
  | .ended => merge (intervals ++ [(x, x)])

def addGtid (gtid : String × Int) (gtidExecuted : GtidSet) : GtidSet :=
  match gtidExecuted gtid.1 with
  | none => update gtidExecuted gtid.1 (some [(gtid.2, gtid.2)])
  | some intervals => update gtidExecuted gtid.1 (some (addTrxid gtid.2 intervals))

/-- A run of `addGtid` calls on an empty set. -/
def executedAfter (added : List (String × Int)) : GtidSet :=
  added.foldl (fun executed gtid => addGtid gtid executed) fun _ => none

/-! ### Numbers below the maximum of `int64_t` -/

/-- An `int64_t` other than `INT64_MAX`. -/
def Below (x : Int) : Prop := -2 ^ 63 ≤ x ∧ x < 2 ^ 63 - 1

variable {x : Int} {l : List (Int × Int)} {i : Int × Int} {executed : GtidSet}
  {added : String × Int → Prop}

theorem int64_eq (low : -2 ^ 63 ≤ x) (high : x < 2 ^ 63) : int64 x = x := by
  apply Int.bmod_eq_of_le <;> omega

theorem Below.succ (below : Below x) : int64 (x + 1) = x + 1 :=
  int64_eq (by have := below.1; omega) (by have := below.2; omega)

def EndsBelow (l : List (Int × Int)) : Prop := ∀ i ∈ l, Below i.1 ∧ Below i.2

/-- Where the ends are below the maximum, no sum overflows and the merge is the join of the
library. -/
theorem merge_eq_join (ends : EndsBelow l) : merge l = join l := by
  induction l with
  | nil => rfl
  | cons i l ih =>
    cases l with
    | nil => rfl
    | cons j l =>
      rw [merge, join, (ends i (by simp)).2.succ, ih fun k member => ends k (.tail _ member)]

/-! ### One insertion -/

/-- What the first loop leaves: the number is in, or every interval ends before it with a gap. -/
inductive WalkSpec (x : Int) (l : List (Int × Int)) : Walked → Prop
  | returned {m : List (Int × Int)} (canonical : Canonical m)
      (covers : ∀ y, Covers m y ↔ y = x ∨ Covers l y) : WalkSpec x l (.returned m)
  | extended {m : List (Int × Int)} (joinable : Joinable m) (ends : EndsBelow m)
      (covers : ∀ y, Covers m y ↔ y = x ∨ Covers l y) : WalkSpec x l (.extended m)
  | ended (gap : ∀ i ∈ l, i.2 + 1 < x) : WalkSpec x l .ended

/-- An interval that ends well before `x` stays in front of what the walk makes of the rest. -/
theorem WalkSpec.behind {w : Walked} (spec : WalkSpec x l w) (proper : i.1 ≤ i.2)
    (above : Above (i.2 + 1) l) (ends : Below i.1 ∧ Below i.2) (gap : i.2 + 1 < x) :
    WalkSpec x (i :: l) (w.behind i) := by
  have stillAbove : ∀ {m : List (Int × Int)}, (∀ k ∈ m, k.1 ≤ k.2) →
      (∀ y, Covers m y ↔ y = x ∨ Covers l y) → Above (i.2 + 1) m := by
    intro m nonempty covers k member
    rcases (covers k.1).mp ⟨k, member, le_rfl, nonempty k member⟩ with same | old
    · omega
    · exact above.lt_of_covers old
  have coversCons : ∀ {m : List (Int × Int)}, (∀ y, Covers m y ↔ y = x ∨ Covers l y) →
      ∀ y, Covers (i :: m) y ↔ y = x ∨ Covers (i :: l) y := by
    intro m covers y
    rw [covers_cons, covers_cons, covers]
    tauto
  cases spec with
  | returned canonical covers =>
    apply WalkSpec.returned
    · rw [canonical_cons]
      exact ⟨proper, stillAbove canonical.1 covers, canonical⟩
    · exact coversCons covers
  | extended joinable endsM covers =>
    apply WalkSpec.extended
    · exact .later proper (stillAbove joinable.proper covers) joinable
    · exact forall_mem_cons.mpr ⟨ends, endsM⟩
    · exact coversCons covers
  | ended later => exact .ended (forall_mem_cons.mpr ⟨gap, later⟩)

section

variable (canonical : Canonical (i :: l)) (ends : EndsBelow (i :: l)) (below : Below x)

include canonical ends below

/-- An interval that starts right behind `x` is extended to it; the one before it, if any, ends
earlier, so nothing touches. -/
theorem extend_first (start : x + 1 = i.1) : WalkSpec x (i :: l) (.extended ((x, i.2) :: l)) := by
  rw [canonical_cons] at canonical
  have inRange := forall_mem_cons.mp ends
  apply WalkSpec.extended
  · apply Joinable.canonical
    rw [canonical_cons]
    exact ⟨by omega, canonical.2⟩
  · exact forall_mem_cons.mpr ⟨⟨below, inRange.1.2⟩, inRange.2⟩
  · intro y
    simp only [covers_cons, ← or_assoc]
    exact or_congr_left (by omega)

/-- An interval that ends right before `x` is extended to it and may then touch the next one. -/
theorem extend_last (last : x = i.2 + 1) : WalkSpec x (i :: l) (.extended ((i.1, x) :: l)) := by
  rw [canonical_cons] at canonical
  obtain ⟨proper, above, rest⟩ := canonical
  have inRange := forall_mem_cons.mp ends
  have proper' : i.1 ≤ x := by omega
  apply WalkSpec.extended
  · cases l with
    | nil => exact .canonical (by simp [proper'])
    | cons j l =>
      by_cases touches : x + 1 = j.1
      · exact .touching proper' touches rest
      · apply Joinable.canonical
        rw [canonical_cons]
        refine ⟨proper', ?_, rest⟩
        rw [canonical_cons] at rest
        rw [above_cons] at above ⊢
        exact ⟨by omega, rest.2.1.mono (by omega)⟩
  · exact forall_mem_cons.mpr ⟨⟨inRange.1.1, below⟩, inRange.2⟩
  · intro y
    simp only [covers_cons, ← or_assoc]
    exact or_congr_left (by omega)

end

theorem walk_spec (canonical : Canonical l) (ends : EndsBelow l) (below : Below x) :
    WalkSpec x l (walk x l) := by
  induction l with
  | nil => exact .ended (by simp)
  | cons i l ih =>
    have parts := (canonical_cons _ _).mp canonical
    have inRange := forall_mem_cons.mp ends
    have high := inRange.1.2.succ
    rw [walk, below.succ, high]
    split_ifs with inside start last before
    · refine .returned canonical fun y => ?_
      simp only [covers_cons, ← or_assoc]
      exact or_congr_left (by omega)
    · rw [← start, Int.add_sub_cancel, int64_eq below.1 (by have := below.2; omega)]
      exact extend_first canonical ends below start
    · rw [← last]
      exact extend_last canonical ends below last
    · -- the first interval behind `x` does not touch it
      refine .returned ?_ fun y => ?_
      · have gap : x + 1 < i.1 := by omega
        rw [canonical_cons, above_cons]
        exact ⟨le_rfl, ⟨gap, parts.2.1.mono (by have := parts.1; dsimp only; omega)⟩, canonical⟩
      · rw [covers_cons]
        exact or_congr_left (by omega)
    · exact (ih parts.2.2 inRange.2).behind parts.1 parts.2.1 inRange.1
        (by have := parts.1; omega)

theorem addTrxid_spec (canonical : Canonical l) (ends : EndsBelow l) (below : Below x) :
    Canonical (addTrxid x l) ∧ ∀ y, Covers (addTrxid x l) y ↔ y = x ∨ Covers l y := by
  have spec := walk_spec canonical ends below
  unfold addTrxid
  generalize walk x l = walked at spec
  cases spec with
  | returned canonical' covers => exact ⟨canonical', covers⟩
  | extended joinable endsM covers =>
    dsimp only
    rw [merge_eq_join endsM]
    refine ⟨joinable.canonical_join, fun y => ?_⟩
    rw [joinable.covers_join, covers]
  | ended gap =>
    have longer : Canonical (l ++ [(x, x)]) := canonical.append le_rfl gap
    have endsM : EndsBelow (l ++ [(x, x)]) := by
      rw [EndsBelow, forall_mem_append, forall_mem_singleton]
      exact ⟨ends, below, below⟩
    rw [merge_eq_join endsM, longer.join_eq]
    refine ⟨longer, fun y => ?_⟩
    simp only [covers_append, covers_cons, covers_nil, or_false]
    rw [or_comm]
    exact or_congr_left (by omega)

/-! ### Whole runs -/

/-- The set holds exactly the transactions `added`, each list in canonical form. -/
structure Holds (executed : GtidSet) (added : String × Int → Prop) : Prop where
  canonical : ∀ uuid l, executed uuid = some l → Canonical l
  covers : ∀ uuid l, executed uuid = some l → ∀ x, Covers l x ↔ added (uuid, x)
  -- a uuid has a list when a transaction of it was added, and no list is empty
  known : ∀ uuid, (∃ l, executed uuid = some l) ↔ ∃ x, added (uuid, x)

theorem Holds.ends (holds : Holds executed added) (bounded : ∀ gtid, added gtid → Below gtid.2)
    {uuid : String} (found : executed uuid = some l) : EndsBelow l := by
  intro i member
  have covered := (holds.canonical uuid l found).covers_ends member
  have both := holds.covers uuid l found
  exact ⟨bounded _ ((both _).mp covered.1), bounded _ ((both _).mp covered.2)⟩

variable {gtid : String × Int}

theorem Holds.update (holds : Holds executed added) (canonical : Canonical l)
    (covers : ∀ x, Covers l x ↔ x = gtid.2 ∨ added (gtid.1, x)) :
    Holds (update executed gtid.1 (some l)) fun g => g = gtid ∨ added g := by
  have same : ∀ x, (gtid.1, x) = gtid ↔ x = gtid.2 := by
    intro x
    rw [Prod.ext_iff]
    simp
  have other : ∀ uuid, uuid ≠ gtid.1 → ∀ x, (uuid, x) ≠ gtid := by
    rintro uuid ne x rfl
    exact ne rfl
  constructor
  · intro uuid m found
    by_cases here : uuid = gtid.1
    · subst here
      rw [update_self, Option.some.injEq] at found
      exact found ▸ canonical
    · rw [update_of_ne here] at found
      exact holds.canonical uuid m found
  · intro uuid m found x
    by_cases here : uuid = gtid.1
    · subst here
      rw [update_self, Option.some.injEq] at found
      rw [← found, covers, same]
    · rw [update_of_ne here] at found
      rw [holds.covers uuid m found]
      simp [other uuid here]
  · intro uuid
    by_cases here : uuid = gtid.1
    · subst here
      simp only [update_self, Option.some.injEq, exists_eq', true_iff]
      exact ⟨gtid.2, .inl rfl⟩
    · simp [update_of_ne here, holds.known uuid, other uuid here]

theorem Holds.fresh (holds : Holds executed added) {uuid : String} (unknown : executed uuid = none)
    (x : Int) : ¬ added (uuid, x) := by
  intro old
  obtain ⟨l, known⟩ := (holds.known uuid).mpr ⟨x, old⟩
  rw [unknown] at known
  cases known

theorem Holds.addGtid (holds : Holds executed added) (bounded : ∀ gtid, added gtid → Below gtid.2)
    (below : Below gtid.2) : Holds (addGtid gtid executed) fun g => g = gtid ∨ added g := by
  cases found : executed gtid.1 with
  | none =>
    simp only [Gtid.addGtid, found]
    refine holds.update (by simp) fun x => ?_
    simp only [covers_cons, covers_nil, or_false, holds.fresh found]
    omega
  | some l =>
    have inserted := addTrxid_spec (holds.canonical _ _ found) (holds.ends bounded found) below
    simp only [Gtid.addGtid, found]
    refine holds.update inserted.1 fun x => ?_
    rw [inserted.2, holds.covers _ _ found]

theorem holds_executedAfter (added : List (String × Int)) (bounded : ∀ gtid ∈ added, Below gtid.2) :
    Holds (executedAfter added) (· ∈ added) := by
  induction added using reverseRecOn with
  | nil =>
    constructor <;> simp [executedAfter]
  | append_singleton added gtid ih =>
    have earlier := ih fun g member => bounded g (mem_append_left _ member)
    have next := earlier.addGtid (fun g member => bounded g (mem_append_left _ member))
      (bounded gtid (by simp))
    simpa only [executedAfter, foldl_append, foldl_cons, foldl_nil, mem_append,
      mem_singleton, or_comm] using next

theorem Holds.ext {left right : GtidSet} (l : Holds left added) (r : Holds right added) :
    left = right := by
  funext uuid
  cases foundL : left uuid with
  | none =>
    cases foundR : right uuid with
    | none => rfl
    | some m =>
      obtain ⟨x, old⟩ := (r.known uuid).mp ⟨m, foundR⟩
      exact absurd old (l.fresh foundL x)
  | some k =>
    obtain ⟨m, foundR⟩ := (r.known uuid).mpr ((l.known uuid).mp ⟨k, foundL⟩)
    rw [foundR]
    congr 1
    apply (l.canonical uuid k foundL).ext (r.canonical uuid m foundR)
    intro x
    rw [l.covers uuid k foundL, r.covers uuid m foundR]

theorem Holds.gtidExists (holds : Holds executed added) (active : Bool) (uuid : String)
    (trxid : Nat) : GtidServerData.gtidExists ⟨active, executed⟩ uuid trxid ↔
      added (uuid, Int.bmod trxid (2 ^ 64)) := by
  cases found : executed uuid with
  | none =>
    simp only [GtidServerData.gtidExists, found, Bool.false_eq_true, false_iff]
    exact holds.fresh found _
  | some l =>
    rw [← holds.covers uuid l found]
    simp [GtidServerData.gtidExists, found, Covers]

/-- After any sequence of `addGtid` calls with numbers below the maximum of `int64_t`,
`gtid_exists` finds exactly the transactions that were added, every list is sorted, disjoint and
without adjacent intervals, and any other sequence with the same transactions leaves the same
lists. -/
theorem executedAfter_exact (added : List (String × Int))
    (bounded : ∀ gtid ∈ added, -2 ^ 63 ≤ gtid.2 ∧ gtid.2 < 2 ^ 63 - 1) :
    (∀ active uuid trxid, GtidServerData.gtidExists
      ⟨active, executedAfter added⟩ uuid trxid = true ↔
      (uuid, Int.bmod trxid (2 ^ 64)) ∈ added) ∧
    (∀ uuid l, executedAfter added uuid = some l → Canonical l) ∧
    ∀ other : List (String × Int), (∀ gtid, gtid ∈ other ↔ gtid ∈ added) →
      executedAfter other = executedAfter added := by
  have holds := holds_executedAfter added bounded
  refine ⟨holds.gtidExists, holds.canonical, ?_⟩
  intro other same
  have holdsOther := holds_executedAfter other fun gtid member =>
    bounded gtid ((same gtid).mp member)
  have sameSet : (· ∈ other) = (· ∈ added) := funext fun gtid => propext (same gtid)
  exact (sameSet ▸ holdsOther).ext holds

/-- Four numbers out of order, the last one closing the gap. -/
theorem executedAfter_exact_gap :
    executedAfter [("a", 3), ("a", 1), ("a", 3), ("a", 2)] "a" = some [(1, 3)] ∧
    executedAfter [("a", 1), ("a", 2), ("a", 3)] =
      executedAfter [("a", 3), ("a", 1), ("a", 3), ("a", 2)] := by
  refine ⟨by decide, ?_⟩
  apply (executedAfter_exact [("a", 3), ("a", 1), ("a", 3), ("a", 2)] (by simp)).2.2
  simp only [mem_cons]
  tauto

end MockProxy.Gtid
