import MockProxy.Lib.Delimited
import MockProxy.Variables.Pool

/-!
# The text that stands for a user

`compute_hash` joins the username, the password and the schema, and the sessions and the query cache
compare hashes of such texts. No delimiter stands between the password and the schema. The delimiter
between the username and the password ends with the character it begins with, so it can also be
found one occurrence further on where it overlaps with itself.
-/

namespace MockProxy.Variables

def del1 : List Char := "-ujhtgf76y576574fhYTRDF345wdt-".toList

def del2 : List Char := "-8k7jrhtrgJHRgrefgreyhtRFewg6-".toList

theorem spaced_del1 : Delimited.Spaced 29 del1 := ⟨by decide, fun k low high =>
  (by decide : ∀ k < 29, 0 < k → ¬ del1.drop k <+: del1) k high low⟩

/-- What is hashed of a `MySQL_Connection_userinfo`, where no field contains a delimiter; a field
that is NULL counts as empty. -/
@[ext] structure Credentials where
  username : List Char
  password : List Char
  schemaname : List Char
  free : ∀ field ∈ [username, password, schemaname], ¬ del1 <:+: field ∧ ¬ del2 <:+: field

namespace Credentials

/-- The buffer of `compute_hash` -/
def hashed (c : Credentials) : List Char :=
  c.username ++ del1 ++ c.password ++ c.schemaname ++ del2

/-- The second username is the first one with all of the delimiter but its last character, and what
stands behind the first one begins with the rest of another delimiter. -/
def Shifted (c c' : Credentials) : Prop :=
  c'.username = c.username ++ del1.take 29 ∧
    c.password ++ c.schemaname = del1.drop 1 ++ (c'.password ++ c'.schemaname)

theorem shifted_of_later {user a t t' : List Char} (free : ¬ del1 <:+: user ++ a) (later : a ≠ [])
    (same : del1 ++ t = a ++ (del1 ++ t')) : a = del1.take 29 ∧ t = del1.drop 1 ++ t' := by
  have far := Delimited.length_le_of_later spaced_del1 later same
  have near : a.length < 30 := by
    by_contra long
    have inside : del1 <+: a := by
      have whole : del1.length ≤ a.length := Nat.le_of_not_lt long
      exact List.prefix_of_prefix_length_le ⟨t, rfl⟩ ⟨del1 ++ t', same.symm⟩ whole
    exact free (inside.isInfix.trans (List.suffix_append user a).isInfix)
  have length : a.length = 29 := by omega
  have first : a = del1.take 29 := by
    rw [Delimited.take_eq_of_later spaced_del1 later same, ← length, List.take_length]
  refine ⟨first, ?_⟩
  have behind : '-' :: t = '-' :: (del1.drop 1 ++ t') := by
    rw [first] at same
    exact congrArg (List.drop 29) same
  exact (List.cons.inj behind).2

theorem hashed_eq_iff {c c' : Credentials} : c.hashed = c'.hashed ↔
    c.username = c'.username ∧ c.password ++ c.schemaname = c'.password ++ c'.schemaname ∨
      Shifted c c' ∨ Shifted c' c := by
  have same : c.hashed = c'.hashed ↔ c.username ++ (del1 ++ (c.password ++ c.schemaname)) =
      c'.username ++ (del1 ++ (c'.password ++ c'.schemaname)) := by
    simp only [hashed, ← List.append_assoc, List.append_left_inj]
  have user (c : Credentials) : ¬ del1 <:+: c.username := (c.free c.username (by simp)).1
  rw [same]
  constructor
  · intro texts
    -- one username is the first part of the other
    rcases List.append_eq_append_iff.mp texts with ⟨a, longer, rest⟩ | ⟨a, longer, rest⟩
    · by_cases here : a = []
      · subst here
        exact .inl ⟨by rw [longer, List.append_nil], List.append_cancel_left rest⟩
      · obtain ⟨first, behind⟩ := shifted_of_later (longer ▸ user c') here rest
        exact .inr (.inl ⟨first ▸ longer, behind⟩)
    · by_cases here : a = []
      · subst here
        exact .inl ⟨by rw [longer, List.append_nil], (List.append_cancel_left rest).symm⟩
      · obtain ⟨first, behind⟩ := shifted_of_later (longer ▸ user c) here rest
        exact .inr (.inr ⟨first ▸ longer, behind⟩)
  · have overlap (t : List Char) : del1 ++ (del1.drop 1 ++ t) = del1.take 29 ++ (del1 ++ t) := by
      rw [← List.append_assoc, ← List.append_assoc]
      exact congrArg (· ++ t) (by decide : del1 ++ del1.drop 1 = del1.take 29 ++ del1)
    rintro (⟨user, rest⟩ | ⟨longer, rest⟩ | ⟨longer, rest⟩)
    · rw [user, rest]
    · rw [longer, rest, overlap, List.append_assoc]
    · rw [longer, rest, overlap, List.append_assoc]

end Credentials

end MockProxy.Variables
