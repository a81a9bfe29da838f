import Mathlib.Data.Set.Card

/-!
# The first occurrence of a pattern

`find pattern text` is the text from the first occurrence of the pattern on. A pattern whose first
character does not occur in it again cannot overlap with itself, so that a text that does not
contain it can be put before it without moving the place where it is found (`find_first`).
-/

namespace TextSearch

open List

variable {α : Type} {first : α}

def find [DecidableEq α] (pattern : List α) : List α → Option (List α)
  | [] => if pattern <+: [] then some [] else none
  | c :: rest => if pattern <+: c :: rest then some (c :: rest) else find pattern rest

theorem find_of_prefix [DecidableEq α] {pattern text : List α} (here : pattern <+: text) :
    find pattern text = some text := by
  cases text with
  | nil => exact if_pos here
  | cons c rest => exact if_pos here

theorem find_of_absent [DecidableEq α] {pattern text : List α} (absent : ¬ pattern <:+: text) :
    find pattern text = none := by
  induction text with
  | nil => exact if_neg fun here => absent here.isInfix
  | cons c rest ih =>
    rw [find, if_neg fun here => absent here.isInfix]
    exact ih fun later => absent (later.trans (suffix_cons c rest).isInfix)

/-- An occurrence that begins before the pattern would have to contain its first character again. -/
theorem not_prefix_append {tail before : List α} (fresh : first ∉ tail) (nonempty : before ≠ [])
    (absent : ¬ first :: tail <+: before) (rest : List α) :
    ¬ first :: tail <+: before ++ (first :: tail ++ rest) := by
  intro occurs
  rcases prefix_or_prefix_of_prefix occurs (prefix_append before _) with inside | ⟨beyond, parts⟩
  · exact absent inside
  · have shifted : beyond <+: first :: tail ++ rest := by
      rw [← prefix_append_right_inj before, parts]
      exact occurs
    cases beyond with
    | nil => exact absent (by rw [← parts, append_nil])
    | cons c beyond =>
      -- what is left of the occurrence begins with the first character, and it is in the tail
      obtain ⟨behind, same⟩ := shifted
      obtain rfl : c = first := (cons.inj same).1
      obtain ⟨b, before, rfl⟩ := exists_cons_of_ne_nil nonempty
      rw [← (cons.inj parts).2] at fresh
      exact fresh (mem_append_right _ mem_cons_self)

theorem find_first [DecidableEq α] {tail before : List α} (fresh : first ∉ tail)
    (absent : ¬ first :: tail <:+: before) (rest : List α) :
    find (first :: tail) (before ++ (first :: tail ++ rest)) = some (first :: tail ++ rest) := by
  induction before with
  | nil => exact find_of_prefix (prefix_append _ _)
  | cons c before ih =>
    have later : ¬ first :: tail <:+: before :=
      fun inside => absent (inside.trans (suffix_cons c before).isInfix)
    have here := not_prefix_append fresh (cons_ne_nil c before)
      (fun inside => absent inside.isInfix)
      rest
    rw [cons_append] at here ⊢
    rw [find, if_neg here]
    exact ih later

end TextSearch
