import Mathlib.Data.Set.Card

/-!
# Cutting a stream at its length headers

A `Format` says how a packet announces its own size: its first `header` items determine its total
size. A stream is then cut in exactly one way into whole packets and an unfinished rest
(`Cuts.unique`). The readers that use this file collect one packet at a time into a buffer;
`whole_of_fill` and `unfinished_of_short` are the two things that can happen to that buffer.

## Main results

* `Cuts.append`: cutting a stream that arrives in pieces.
* `cut_eq_of_cuts`: whoever cuts the stream into whole packets and an unfinished rest has computed
  `Format.cut`.
-/

namespace Framing

open List

/-- A self-delimiting packet format. `total` is applied to the `header` first items. -/
structure Format (α : Type) where
  header : Nat
  total : List α → Nat
  header_pos : 0 < header
  header_le_total : ∀ items, header ≤ total items

variable {α : Type} (F : Format α)

namespace Format

/-- The size announced by the header at the front of `s`. -/
def announced (s : List α) : Nat := F.total (s.take F.header)

/-- `p` is one packet, no more and no less. -/
def Whole (p : List α) : Prop := F.header ≤ p.length ∧ p.length = F.announced p

/-- No whole packet stands at the front of `r`. -/
def Unfinished (r : List α) : Prop := r.length < F.header ∨ r.length < F.announced r

instance (p : List α) : Decidable (F.Whole p) := inferInstanceAs (Decidable (_ ∧ _))

instance (r : List α) : Decidable (F.Unfinished r) := inferInstanceAs (Decidable (_ ∨ _))

/-- Cut at most `fuel` packets off the front. -/
def cutFuel : Nat → List α → List (List α) × List α
  | 0, s => ([], s)
  | fuel + 1, s =>
    if F.Unfinished s then ([], s)
    else
      let (pkts, rest) := cutFuel fuel (s.drop (F.announced s))
      (s.take (F.announced s) :: pkts, rest)

def cut (s : List α) : List (List α) × List α := F.cutFuel s.length s

end Format

/-- `s` is the packets `pkts` one after another, followed by `rest`. -/
structure Cuts (s : List α) (pkts : List (List α)) (rest : List α) : Prop where
  join : s = pkts.flatten ++ rest
  whole : ∀ p ∈ pkts, F.Whole p

variable {F} {s p t rest : List α} {pkts : List (List α)}

theorem announced_append (full : F.header ≤ s.length) (t : List α) :
    F.announced (s ++ t) = F.announced s := by
  simp [Format.announced, take_append_of_le_length full]

theorem Format.Whole.length_pos (whole : F.Whole p) : 0 < p.length :=
  Nat.lt_of_lt_of_le F.header_pos whole.1

theorem unfinished_nil : F.Unfinished [] := .inl F.header_pos

/-! ### Streams that arrive in pieces -/

theorem cuts_nil (s : List α) : Cuts F s [] s := ⟨rfl, by simp⟩

variable {pkts' : List (List α)} {rest' : List α}

theorem Cuts.append (first : Cuts F s pkts rest) (next : Cuts F (rest ++ t) pkts' rest') :
    Cuts F (s ++ t) (pkts ++ pkts') rest' := by
  refine ⟨?_, fun p member => ?_⟩
  · rw [first.join, append_assoc, next.join, flatten_append, append_assoc]
  · rcases mem_append.mp member with old | new
    · exact first.whole p old
    · exact next.whole p new

/-! ### One packet being collected -/

theorem whole_of_fill {acc more : List α} (full : F.header ≤ acc.length)
    (fill : acc.length + more.length = F.announced acc) : F.Whole (acc ++ more) := by
  refine ⟨by simp; omega, ?_⟩
  rw [announced_append full, length_append, fill]

theorem unfinished_of_short {acc more : List α} (full : F.header ≤ acc.length)
    (short : acc.length + more.length < F.announced acc) : F.Unfinished (acc ++ more) := by
  right
  rwa [announced_append full, length_append]

theorem whole_take_announced (full : F.header ≤ s.length) (there : F.announced s ≤ s.length) :
    F.Whole (s.take (F.announced s)) := by
  have long : F.header ≤ (s.take (F.announced s)).length := by
    rw [length_take]
    exact Nat.le_min.mpr ⟨F.header_le_total _, full⟩
  refine ⟨long, ?_⟩
  rw [← announced_append long (s.drop (F.announced s)), take_append_drop, length_take,
    Nat.min_eq_left there]

/-! ### Uniqueness -/

theorem Format.Whole.not_unfinished_append (whole : F.Whole p) (t : List α) :
    ¬ F.Unfinished (p ++ t) := by
  rintro (short | short)
  · have := whole.1
    simp only [length_append] at short
    omega
  · rw [announced_append whole.1, ← whole.2, length_append] at short
    omega

theorem whole_append_inj {q : List α} (first : F.Whole p) (second : F.Whole q)
    (same : p ++ s = q ++ t) : p = q ∧ s = t := by
  have size : p.length = q.length := by
    rw [first.2, second.2, ← announced_append first.1 s, ← announced_append second.1 t, same]
  exact append_inj same size

theorem Cuts.unique (left : Cuts F s pkts rest) (right : Cuts F s pkts' rest')
    (ends : F.Unfinished rest) (ends' : F.Unfinished rest') : pkts = pkts' ∧ rest = rest' := by
  induction pkts generalizing s pkts' with
  | nil =>
    cases pkts' with
    | nil => exact ⟨rfl, by simpa using left.join.symm.trans right.join⟩
    | cons q qs =>
      have same : rest = q ++ (qs.flatten ++ rest') := by
        simpa using left.join.symm.trans right.join
      exact absurd (same ▸ ends) ((right.whole q (by simp)).not_unfinished_append _)
  | cons p ps ih =>
    cases pkts' with
    | nil =>
      have same : rest' = p ++ (ps.flatten ++ rest) := by
        simpa using right.join.symm.trans left.join
      exact absurd (same ▸ ends') ((left.whole p (by simp)).not_unfinished_append _)
    | cons q qs =>
      have same : p ++ (ps.flatten ++ rest) = q ++ (qs.flatten ++ rest') := by
        simpa using left.join.symm.trans right.join
      obtain ⟨rfl, tails⟩ :=
        whole_append_inj (left.whole p (by simp)) (right.whole q (by simp)) same
      have shorter : Cuts F (ps.flatten ++ rest) ps rest :=
        ⟨rfl, fun x member => left.whole x (by simp [member])⟩
      have shorter' : Cuts F (ps.flatten ++ rest) qs rest' :=
        ⟨tails, fun x member => right.whole x (by simp [member])⟩
      obtain ⟨rfl, sameRest⟩ := ih shorter shorter'
      exact ⟨rfl, sameRest⟩

/-! ### The cut is computable -/

theorem cutFuel_spec (fuel : Nat) (s : List α) (enough : s.length ≤ fuel) :
    Cuts F s (F.cutFuel fuel s).1 (F.cutFuel fuel s).2 ∧ F.Unfinished (F.cutFuel fuel s).2 := by
  induction fuel generalizing s with
  | zero =>
    have empty : s = [] := length_eq_zero_iff.mp (by omega)
    subst empty
    exact ⟨cuts_nil _, unfinished_nil⟩
  | succ fuel ih =>
    rw [Format.cutFuel]
    split
    next ends => exact ⟨cuts_nil s, ends⟩
    next more =>
      simp only [Format.Unfinished, not_or, Nat.not_lt] at more
      have pos : 0 < F.announced s := Nat.lt_of_lt_of_le F.header_pos (F.header_le_total _)
      obtain ⟨cuts, ends⟩ := ih (s.drop (F.announced s)) (by rw [length_drop]; omega)
      refine ⟨⟨?_, ?_⟩, ends⟩
      · rw [flatten_cons, append_assoc, ← cuts.join, take_append_drop]
      · simpa [whole_take_announced more.1 more.2] using cuts.whole

theorem cut_cuts (s : List α) : Cuts F s (F.cut s).1 (F.cut s).2 :=
  (cutFuel_spec s.length s le_rfl).1

theorem cut_unfinished (s : List α) : F.Unfinished (F.cut s).2 :=
  (cutFuel_spec s.length s le_rfl).2

theorem cut_eq_of_cuts (cuts : Cuts F s pkts rest) (ends : F.Unfinished rest) :
    F.cut s = (pkts, rest) := by
  obtain ⟨samePkts, sameRest⟩ := (cut_cuts s).unique cuts (cut_unfinished s) ends
  exact Prod.ext samePkts sameRest

theorem cut_of_unfinished {r : List α} (ends : F.Unfinished r) : F.cut r = ([], r) :=
  cut_eq_of_cuts (cuts_nil r) ends

theorem cut_whole_append (whole : F.Whole p) (t : List α) :
    F.cut (p ++ t) = (p :: (F.cut t).1, (F.cut t).2) := by
  refine cut_eq_of_cuts ⟨?_, ?_⟩ (cut_unfinished t)
  · rw [flatten_cons, append_assoc, ← (cut_cuts t).join]
  · exact forall_mem_cons.mpr ⟨whole, (cut_cuts t).whole⟩

theorem Cuts.cut_append (cuts : Cuts F s pkts rest) :
    F.cut (s ++ t) = (pkts ++ (F.cut (rest ++ t)).1, (F.cut (rest ++ t)).2) :=
  cut_eq_of_cuts (cuts.append (cut_cuts (rest ++ t))) (cut_unfinished _)

end Framing
