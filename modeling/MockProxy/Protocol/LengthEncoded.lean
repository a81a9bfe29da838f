import MockProxy.Session.Binds

/-!
# Length-encoded integers

A number is written with as many bytes as its size needs: one for a number below 251, otherwise a
first byte that says how many follow. `mysql_decode_length` reads back what `write_encoded_length`
wrote, for every 64-bit number and whatever stands behind it (`lengthField_encoded`).
-/

namespace MockProxy.Protocol

open DataStream Session LittleEndian

/-- `mysql_encode_length`: the size of the field, and its first byte if that is not the number. -/
def mysqlEncodeLength (len : Nat) : Nat × Byte :=
  if len < 251 then (1, 0)
  else if len < 65536 then (3, 0xfc)
  else if len < 16777216 then (4, 0xfd)
  else (9, 0xfe)

def writeEncodedLength (val len : Nat) (first : Byte) : List Byte :=
  if len = 1 then [UInt8.ofNat val] else first :: toBytes (len - 1) val

/-- The two calls that write a number. -/
def encoded (val : Nat) : List Byte :=
  writeEncodedLength val (mysqlEncodeLength val).1 (mysqlEncodeLength val).2

/-- `write_encoded_length_and_string`, with the length of the string. -/
def encodedString (string : List Byte) : List Byte := encoded string.length ++ string

@[simp] theorem length_encoded (n : Nat) : (encoded n).length = (mysqlEncodeLength n).1 := by
  unfold encoded mysqlEncodeLength
  split_ifs <;> simp [writeEncodedLength]

theorem head?_encoded (n : Nat) :
    ∃ first, (encoded n).head? = some first ∧ first ≠ 0xfb ∧ first ≠ 0xff ∧
      (n < 2 ^ 24 → first ≠ 0xfe) := by
  unfold encoded mysqlEncodeLength
  split_ifs with one two three
  · have apart : ∀ b : Byte, 251 ≤ b.toNat → UInt8.ofNat n ≠ b := by
      rintro b large rfl
      rw [UInt8.toNat_ofNat'] at large
      omega
    exact ⟨_, rfl, apart _ (by decide), apart _ (by decide), fun _ => apart _ (by decide)⟩
  · exact ⟨_, rfl, by decide, by decide, fun _ => by decide⟩
  · exact ⟨_, rfl, by decide, by decide, fun _ => by decide⟩
  · exact ⟨_, rfl, by decide, by decide, fun small => absurd small three⟩

/-- A number of three bytes is read with a load of four. -/
theorem lengthField_encoded {n : Nat} (small : n < 2 ^ 64) {rest : List Byte}
    (more : 65536 ≤ n → n < 16777216 → rest ≠ []) :
    LengthField (encoded n ++ rest) (encoded n).length n := by
  have value : ∀ width, n < 256 ^ width → ofBytes (toBytes width n) = n := by
    intro width fits
    rw [ofBytes_toBytes, Nat.mod_eq_of_lt fits]
  unfold encoded mysqlEncodeLength
  split_ifs with one two three
  · have byte : (UInt8.ofNat n).toNat = n := by
      rw [UInt8.toNat_ofNat']
      omega
    have short : UInt8.ofNat n ≤ 0xfb := by
      have most : (0xfb : UInt8).toNat = 251 := rfl
      rw [UInt8.le_iff_toNat_le]
      omega
    have field : LengthField (UInt8.ofNat n :: rest) 1 _ := .one short
    rwa [byte] at field
  · have field : LengthField (0xfc :: (toBytes 2 n ++ rest)) 3 _ :=
      .two (length_toBytes 2 n)
    rwa [value 2 two] at field
  · have field : LengthField (0xfd :: (toBytes 3 n ++ rest)) 4 _ :=
      .three (length_toBytes 3 n) (more (by omega) three)
    rwa [value 3 three] at field
  · have field : LengthField (0xfe :: (toBytes 8 n ++ rest)) 9 _ :=
      .eight (length_toBytes 8 n)
    rwa [value 8 small] at field

end MockProxy.Protocol
