import Mathlib.Data.Nat.Log
import MockProxy.Lib.CString

/-!
# The text of a checksum

Peers compare the texts of their checksums. `get_checksum_from_hash` prints the two halves of the
hash one after the other without leading zeros, and fills up with zeros behind them. So the text
says neither where the low half ends nor where the high one does, and digits can move from one half
to the other. `checksums_differ_iff` says which hashes are told apart.
-/

namespace MockProxy.Cluster

open CString List

/-- `%0X` of an `unsigned int`: as many digits as the number has. -/
def hexText (n : Nat) : List Char := hexDigits (Nat.log 16 n + 1) n

/-- The loop over the 16 characters behind `0x`. -/
def replaceChecksumZeros (checksum : List Char) : List Char :=
  let zero c := if c = ' ' ∨ c = '\x00' then '0' else c
  checksum.take 2 ++ ((checksum.drop 2).take 16).map zero ++ checksum.drop 18

def checksumValueLength : Nat := 20

/-- `d32`: the halves as they are in memory. -/
def halves (hash : UInt64) : Nat × Nat := (hash.toNat % 2 ^ 32, hash.toNat / 2 ^ 32)

def getChecksumFromHash (hash : UInt64) : List Char :=
  let d32 := halves hash
  let printed := '0' :: 'x' :: (hexText d32.1 ++ hexText d32.2)
  let buf := printed ++ replicate (checksumValueLength - printed.length) '\x00'
  (replaceChecksumZeros buf).takeWhile (· ≠ '\x00')

theorem length_hexDigits (width n : Nat) : (hexDigits width n).length = width := by
  induction width generalizing n with
  | zero => rfl
  | succ width ih => simp [hexDigits, ih]

theorem hexText_inj {n m : Nat} (same : hexText n = hexText m) : n = m := by
  have read (n : Nat) : digitsIn 16 0 (hexText n) = n := by
    have fits := Nat.lt_pow_succ_log_self (b := 16) (by decide) n
    have value := digitsIn_hexDigits (Nat.log 16 n + 1) n 0 []
    rwa [append_nil, Nat.mod_eq_of_lt fits, Nat.zero_mul, Nat.zero_add] at value
  rw [← read n, same, read]

theorem length_hexText_le {n : Nat} (small : n < 2 ^ 32) : (hexText n).length ≤ 8 := by
  rw [hexText, length_hexDigits]
  by_cases zero : n = 0
  · simp [zero]
  · exact Nat.log_lt_of_lt_pow zero (small.trans_eq (by decide))

theorem length_halves_le (hash : UInt64) :
    (hexText (halves hash).1 ++ hexText (halves hash).2).length ≤ 16 := by
  have low := length_hexText_le (Nat.mod_lt hash.toNat (by decide : 0 < 2 ^ 32))
  have high := length_hexText_le (Nat.div_lt_of_lt_mul hash.toNat_lt : hash.toNat / 2 ^ 32 < 2 ^ 32)
  exact length_append ▸ Nat.add_le_add low high

theorem not_blank_of_hexText {n : Nat} {c : Char} (member : c ∈ hexText n) :
    ¬(c = ' ' ∨ c = '\x00') := by
  have digit := digitValue_of_mem_hexDigits member
  rintro (rfl | rfl) <;> exact absurd digit (by decide)

/-! ### Filling up with zeros -/

def filled (digits : List Char) : List Char := digits ++ replicate (16 - digits.length) '0'

theorem replaceChecksumZeros_digits {digits : List Char} (short : digits.length ≤ 16)
    (printed : ∀ c ∈ digits, ¬(c = ' ' ∨ c = '\x00')) :
    replaceChecksumZeros ('0' :: 'x' :: (digits ++ replicate (18 - digits.length) '\x00')) =
      '0' :: 'x' :: (filled digits ++ ['\x00', '\x00']) := by
  have kept : digits.map (fun c => if c = ' ' ∨ c = '\x00' then '0' else c) = digits :=
    (map_congr_left fun c member => if_neg (printed c member)).trans (map_id' digits)
  have zeros : replicate (18 - digits.length) '\x00' =
      replicate (16 - digits.length) '\x00' ++ ['\x00', '\x00'] := by
    rw [show 18 - digits.length = 16 - digits.length + 2 by omega, replicate_add]
    rfl
  have sixteen : (digits ++ replicate (16 - digits.length) '\x00').length = 16 := by
    rw [length_append, length_replicate]
    omega
  simp only [replaceChecksumZeros, zeros, filled, take_succ_cons, take_zero, drop_succ_cons,
    drop_zero, cons_append, nil_append, ← append_assoc]
  rw [take_left' sixteen, drop_left' sixteen, map_append, kept, map_replicate]
  rfl

theorem getChecksumFromHash_eq (hash : UInt64) : getChecksumFromHash hash =
    '0' :: 'x' :: filled (hexText (halves hash).1 ++ hexText (halves hash).2) := by
  have printed : ∀ c ∈ hexText (halves hash).1 ++ hexText (halves hash).2,
      ¬(c = ' ' ∨ c = '\x00') := by
    intro c member
    rcases mem_append.mp member with inLow | inHigh
    · exact not_blank_of_hexText inLow
    · exact not_blank_of_hexText inHigh
  have noNul : ∀ c ∈ '0' :: 'x' :: filled (hexText (halves hash).1 ++ hexText (halves hash).2),
      decide (c ≠ '\x00') := by
    simp only [filled, mem_cons, mem_append, mem_replicate, decide_eq_true_eq]
    rintro c (rfl | rfl | member | ⟨-, rfl⟩)
    · decide
    · decide
    · exact fun nul => printed c (mem_append.mpr member) (.inr nul)
    · decide
  unfold getChecksumFromHash
  simp only [length_cons, checksumValueLength, Nat.reduceSubDiff, cons_append]
  rw [replaceChecksumZeros_digits (length_halves_le hash) printed]
  rw [← cons_append, ← cons_append, takeWhile_append_of_pos noNul]
  exact append_nil _

/-- The digits are the same but for zeros at the end. -/
def SameUpToZeros (digits digits' : List Char) : Prop :=
  ∃ k, digits' = digits ++ replicate k '0' ∨ digits = digits' ++ replicate k '0'

section

variable {digits digits' : List Char}

theorem SameUpToZeros.of_append {k k' : Nat}
    (same : digits ++ replicate k '0' = digits' ++ replicate k' '0') :
    SameUpToZeros digits digits' := by
  rcases append_eq_append_iff.mp same with ⟨zeros, rfl, eq⟩ | ⟨zeros, rfl, eq⟩
  · exact ⟨zeros.length, .inl (congrArg _ (append_eq_replicate_iff.mp eq.symm).2.1)⟩
  · exact ⟨zeros.length, .inr (congrArg _ (append_eq_replicate_iff.mp eq.symm).2.1)⟩

theorem filled_append (short : digits.length ≤ 16) (k : Nat)
    (short' : (digits ++ replicate k '0').length ≤ 16) :
    filled (digits ++ replicate k '0') = filled digits := by
  rw [length_append, length_replicate] at short'
  rw [filled, filled, append_assoc, ← replicate_add, length_append, length_replicate]
  congr 2
  omega

theorem filled_eq_iff (short : digits.length ≤ 16) (short' : digits'.length ≤ 16) :
    filled digits = filled digits' ↔ SameUpToZeros digits digits' := by
  constructor
  · exact SameUpToZeros.of_append
  · rintro ⟨k, rfl | rfl⟩
    · exact (filled_append short k short').symm
    · exact filled_append short' k short

theorem sameUpToZeros_append_iff (front : List Char) :
    SameUpToZeros (front ++ digits) (front ++ digits') ↔ SameUpToZeros digits digits' := by
  simp only [SameUpToZeros, append_assoc, append_cancel_left_eq]

end

/-! ### Hashes that are told apart -/

/-- The low half of the second hash has the digits of the first one's and more of them, which are
the first digits of the other high half: the high halves are the same behind them, but for zeros at
the end. -/
def Confused (hash hash' : UInt64) : Prop :=
  ∃ moved, hexText (halves hash').1 = hexText (halves hash).1 ++ moved ∧
    SameUpToZeros (hexText (halves hash).2) (moved ++ hexText (halves hash').2)

section

variable {hash hash' : UInt64}

theorem Confused.same (confused : Confused hash hash') :
    getChecksumFromHash hash = getChecksumFromHash hash' := by
  obtain ⟨moved, low, high⟩ := confused
  rw [getChecksumFromHash_eq, getChecksumFromHash_eq,
    (filled_eq_iff (length_halves_le hash) (length_halves_le hash')).mpr]
  rw [low, append_assoc, sameUpToZeros_append_iff]
  exact high

theorem confused_of_same (same : getChecksumFromHash hash = getChecksumFromHash hash') :
    Confused hash hash' ∨ Confused hash' hash := by
  rw [getChecksumFromHash_eq, getChecksumFromHash_eq, cons_inj_right, cons_inj_right,
    filled, filled, append_assoc, append_assoc] at same
  rcases append_eq_append_iff.mp same with ⟨moved, low, high⟩ | ⟨moved, low, high⟩
  · rw [← append_assoc] at high
    exact .inl ⟨moved, low, .of_append high⟩
  · rw [← append_assoc] at high
    exact .inr ⟨moved, low, .of_append high⟩

theorem halves_inj (low : (halves hash).1 = (halves hash').1)
    (high : (halves hash).2 = (halves hash').2) : hash = hash' := by
  apply UInt64.toNat_inj.mp
  rw [← Nat.div_add_mod hash.toNat (2 ^ 32), ← Nat.div_add_mod hash'.toNat (2 ^ 32)]
  exact congrArg₂ (2 ^ 32 * · + ·) high low

/-- Halves with as many digits are told apart. -/
theorem Confused.eq (confused : Confused hash hash')
    (low : (hexText (halves hash).1).length = (hexText (halves hash').1).length)
    (high : (hexText (halves hash).2).length = (hexText (halves hash').2).length) :
    hash = hash' := by
  obtain ⟨moved, sameLow, k, sameHigh⟩ := confused
  have none : moved = [] := by
    rw [sameLow, length_append] at low
    exact eq_nil_of_length_eq_zero (by omega)
  subst none
  rw [append_nil] at sameLow
  rw [nil_append] at sameHigh
  refine halves_inj (hexText_inj sameLow.symm) (hexText_inj ?_)
  have zero : k = 0 := by
    rcases sameHigh with eq | eq <;>
    · have lengths := congrArg length eq
      rw [length_append, length_replicate] at lengths
      omega
  subst zero
  rw [replicate_zero, append_nil, append_nil] at sameHigh
  exact sameHigh.elim Eq.symm id

/-- Two different hashes have different texts exactly if neither turns into the other by moving
digits between the halves and by zeros at the end, so in particular if their halves have the same
numbers of digits. -/
theorem checksums_differ_iff (different : hash ≠ hash') :
    (getChecksumFromHash hash ≠ getChecksumFromHash hash' ↔
        ¬ Confused hash hash' ∧ ¬ Confused hash' hash) ∧
      ((hexText (halves hash).1).length = (hexText (halves hash').1).length →
        (hexText (halves hash).2).length = (hexText (halves hash').2).length →
        getChecksumFromHash hash ≠ getChecksumFromHash hash') := by
  constructor
  · rw [← not_or, not_iff_not]
    constructor
    · exact confused_of_same
    · rintro (confused | confused)
      · exact confused.same
      · exact confused.same.symm
  · intro low high same
    rcases confused_of_same same with confused | confused
    · exact different (confused.eq low high)
    · exact different (confused.eq low.symm high.symm).symm

end

theorem checksums_differ_eight_digits :
    getChecksumFromHash 0xFEDCBA9876543210 ≠ getChecksumFromHash 0xFEDCBA9876543211 :=
  (checksums_differ_iff (by decide)).2 rfl rfl

/-- Both print as `0x111`, filled up with zeros. -/
theorem halves_not_told_apart :
    getChecksumFromHash 0x1100000001 = getChecksumFromHash 0x100000011 ∧
      (0x1100000001 : UInt64) ≠ 0x100000011 := by
  decide +kernel

end MockProxy.Cluster
