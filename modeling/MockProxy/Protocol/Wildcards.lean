import Mathlib.Data.Set.Card

/-!
# Patterns of `COM_FIELD_LIST`

`mywildcmp` selects the columns whose name matches the client's pattern. It compares the two
characters before it looks for a `%` in the pattern, so where the text has a `%` too, the one of the
pattern stands for this character only.
-/

namespace MockProxy.Protocol

def mywildcmp : List Char → List Char → Bool
  | [], str => str = []
  | p :: ps, str =>
    if p = '_' ∨ str.head? = some p then
      match str with
      | [] => false
      | _ :: rest => mywildcmp ps rest
    else if p = '%' then
      mywildcmp ps str ||
        match str with
        | [] => false
        | _ :: rest => mywildcmp (p :: ps) rest
    else false
termination_by p str => p.length + str.length

/-- The meaning of a pattern of `LIKE`. -/
def Like : List Char → List Char → Prop
  | [], str => str = []
  | p :: ps, str =>
    if p = '%' then ∃ rest, rest <:+ str ∧ Like ps rest
    else ∃ c rest, str = c :: rest ∧ (p = '_' ∨ p = c) ∧ Like ps rest

theorem like_percent_cons (ps : List Char) (c : Char) (rest : List Char) :
    Like ('%' :: ps) (c :: rest) ↔ Like ps (c :: rest) ∨ Like ('%' :: ps) rest := by
  simp [Like, List.suffix_cons_iff]

theorem mywildcmp_iff_like {p str : List Char} (free : '%' ∉ str) :
    mywildcmp p str ↔ Like p str := by
  fun_induction mywildcmp p str with
  | case1 str => simp [Like]
  | case2 p ps plain =>
    have notWild : p ≠ '%' := by
      rintro rfl
      simp at plain
    simp [Like, notWild]
  | case3 p ps c rest plain ih =>
    have notWild : p ≠ '%' := by
      rintro rfl
      simp_all
    have same : p = '_' ∨ p = c := plain.imp_right fun first => (Option.some.inj first).symm
    rw [ih fun later => free (List.mem_cons_of_mem c later)]
    simp [Like, notWild, same]
  | case4 ps str _ here later =>
    cases str with
    | nil => simp [here, Like]
    | cons c rest =>
      simp only [List.mem_cons, not_or] at free
      rw [like_percent_cons, Bool.or_eq_true, here (by simp [free]), later free.2]
  | case5 p ps str other notWild =>
    cases str with
    | nil => simp [Like, notWild]
    | cons c rest => simp_all [Like, eq_comm]

/-- Blanks stand for any text of their length. -/
theorem mywildcmp_blanks (text p str : List Char) :
    mywildcmp (List.replicate text.length '_' ++ p) (text ++ str) = mywildcmp p str := by
  induction text with
  | nil => rfl
  | cons c text ih =>
    rw [List.length_cons, List.replicate_succ, List.cons_append, List.cons_append, mywildcmp,
      if_pos (.inl rfl)]
    exact ih

theorem like_blanks (text p str : List Char) :
    Like (List.replicate text.length '_' ++ p) (text ++ str) ↔ Like p str := by
  induction text with
  | nil => rfl
  | cons c text ih => simp [List.replicate_succ, Like, ih]

/-- A text is compared rightly with every pattern iff it has no `%` itself. -/
theorem mywildcmp_right_iff (str : List Char) :
    (∀ p, mywildcmp p str = true ↔ Like p str) ↔ '%' ∉ str := by
  refine ⟨fun right wild => ?_, fun free p => mywildcmp_iff_like free⟩
  obtain ⟨before, behind, rfl⟩ := List.append_of_mem wild
  -- the `%` of the pattern has to stand for nothing, as a blank follows for the `%` of the text
  let blanks := List.replicate behind.length '_' ++ ['_']
  have compared : mywildcmp ('%' :: blanks) ('%' :: behind) = false := by
    rw [mywildcmp, if_pos (.inr rfl), ← List.append_nil behind, mywildcmp_blanks]
    simp [mywildcmp]
  have matched : Like ('%' :: blanks) ('%' :: behind) := by
    refine ⟨_, List.suffix_refl _, ?_⟩
    have all := (like_blanks ('%' :: behind) [] []).mpr rfl
    rwa [List.append_nil, List.append_nil, List.length_cons, List.replicate_succ'] at all
  have both := right (List.replicate before.length '_' ++ '%' :: blanks)
  rw [mywildcmp_blanks, like_blanks, compared] at both
  exact Bool.false_ne_true (both.mpr matched)

theorem percent_of_text_ends_wildcard :
    mywildcmp "%b".toList "%ab".toList = false ∧ Like "%b".toList "%ab".toList := by
  constructor
  · simp [mywildcmp]
  · exact ⟨['b'], ⟨['%', 'a'], rfl⟩, 'b', [], rfl, .inr rfl, rfl⟩

end MockProxy.Protocol
