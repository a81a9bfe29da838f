import Mathlib.Data.Set.Card

/-!
# Words joined with a delimiter

Two words with a delimiter between them can be told apart again if the delimiter is not found
anywhere else. A delimiter that overlaps with itself may also be found across the place where a word
and the delimiter meet; `Spaced` says how far two of its occurrences are apart at least, and it is
that much of the delimiter that must not occur in the words (`join_inj`).
-/

namespace Delimited

variable {α : Type}

/-- Two occurrences of the word start at least `n` places apart: moved by less, it does not agree
with itself. -/
structure Spaced (n : Nat) (d : List α) : Prop where
  fits : n ≤ d.length
  apart : ∀ k, 0 < k → k < n → ¬ d.drop k <+: d

variable {n : Nat} {d u v t t' a : List α}

theorem length_le_of_later (spaced : Spaced n d) (later : a ≠ [])
    (same : d ++ t = a ++ (d ++ t')) : n ≤ a.length := by
  by_contra near
  have inside : a.length ≤ d.length := by
    have fits := spaced.fits
    omega
  have moved : d.drop a.length ++ t = d ++ t' := by
    simpa [List.drop_append_of_le_length inside] using congrArg (List.drop a.length) same
  have overlap : d.drop a.length <+: d := by
    refine List.prefix_of_prefix_length_le ⟨t, moved⟩ ⟨t', rfl⟩ ?_
    simp
  exact spaced.apart a.length (List.length_pos_iff.mpr later) (Nat.lt_of_not_le near) overlap

/-- An occurrence behind another one leaves the first part of the delimiter to the word before. -/
theorem take_eq_of_later (spaced : Spaced n d) (later : a ≠ [])
    (same : d ++ t = a ++ (d ++ t')) : d.take n = a.take n := by
  have front := congrArg (List.take n) same
  rwa [List.take_append_of_le_length spaced.fits,
    List.take_append_of_le_length (length_le_of_later spaced later same)] at front

theorem join_inj (spaced : Spaced n d) (left : ¬ d.take n <:+: u) (right : ¬ d.take n <:+: v)
    (same : u ++ (d ++ t) = v ++ (d ++ t')) : u = v ∧ t = t' := by
  have none {u t t' a : List α} (free : ¬ d.take n <:+: u ++ a) (rest : d ++ t = a ++ (d ++ t')) :
      a = [] := by
    by_contra later
    refine free (List.IsInfix.trans ?_ (List.suffix_append u a).isInfix)
    rw [take_eq_of_later spaced later rest]
    exact ( List.take_prefix n a).isInfix
  rcases List.append_eq_append_iff.mp same with ⟨a, rfl, rest⟩ | ⟨a, rfl, rest⟩
  · obtain rfl := none right rest
    simpa using rest
  · obtain rfl := none left rest
    simpa using rest.symm

theorem behind_inj {c : α} {w w' : List α} (left : c ∉ w) (right : c ∉ w')
    (same : t ++ c :: w = t' ++ c :: w') : t = t' ∧ w = w' := by
  have none {w w' a : List α} (free : c ∉ w) (rest : c :: w = a ++ c :: w') : a = [] := by
    cases a with
    | nil => rfl
    | cons b a => simp [(List.cons.inj rest).2] at free
  rcases List.append_eq_append_iff.mp same with ⟨a, rfl, rest⟩ | ⟨a, rfl, rest⟩
  · obtain rfl := none left rest
    simpa using rest
  · obtain rfl := none right rest
    simpa using rest.symm

end Delimited
