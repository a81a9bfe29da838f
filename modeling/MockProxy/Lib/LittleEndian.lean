import Mathlib.Data.Set.Card

/-!
# Little-endian numbers

Fixed-width unsigned numbers as byte lists, lowest byte first. Encoding truncates like a store to
a bit field of that width does, so the round trip is a remainder (`ofBytes_toBytes`).
-/

namespace LittleEndian

def ofBytes : List UInt8 → Nat
  | [] => 0
  | b :: bs => b.toNat + 256 * ofBytes bs

/-- The `width` lowest bytes of `n`. -/
def toBytes : (width : Nat) → Nat → List UInt8
  | 0, _ => []
  | width + 1, n => UInt8.ofNat n :: toBytes width (n / 256)

@[simp] theorem ofBytes_nil : ofBytes [] = 0 := rfl

@[simp] theorem ofBytes_cons (b : UInt8) (bs : List UInt8) :
    ofBytes (b :: bs) = b.toNat + 256 * ofBytes bs := rfl

@[simp] theorem length_toBytes (width n : Nat) : (toBytes width n).length = width := by
  induction width generalizing n with
  | zero => rfl
  | succ width ih => simp [toBytes, ih]

theorem ofBytes_toBytes (width n : Nat) : ofBytes (toBytes width n) = n % 256 ^ width := by
  induction width generalizing n with
  | zero => simp [toBytes, Nat.mod_one]
  | succ width ih =>
    have low : (UInt8.ofNat n).toNat = n % 256 := by simp
    rw [toBytes, ofBytes_cons, ih, low, Nat.pow_succ', Nat.mod_mul]

end LittleEndian
