import SmcKeys.Bytes.Digits

namespace SmcKeys

@[ext] structure Code where
  number : UInt32
  deriving DecidableEq, Inhabited

namespace Code

/-- The code of absent input. -/
def zero : Code := ⟨0⟩

/-- The first four bytes, zeros standing in for missing ones. -/
def ofBytes (bs : List UInt8) : Code :=
  ⟨UInt32.ofNat (Bytes.value (Bytes.padded 4 bs).toList.reverse)⟩

def toBytes (c : Code) : List UInt8 :=
  (Bytes.digits 4 c.number.toNat).reverse

/-- Five bytes that end in a zero whatever the code is. -/
def toTerminated (c : Code) : List UInt8 :=
  c.toBytes ++ [0]

instance : LT Code := ⟨fun a b => a.number < b.number⟩

instance : LE Code := ⟨fun a b => a.number ≤ b.number⟩

instance (a b : Code) : Decidable (a < b) :=
  inferInstanceAs (Decidable (a.number < b.number))

instance (a b : Code) : Decidable (a ≤ b) :=
  inferInstanceAs (Decidable (a.number ≤ b.number))

def sort (codes : List Code) : List Code :=
  codes.mergeSort fun a b => decide (a ≤ b)

@[simp] theorem length_toBytes (c : Code) : c.toBytes.length = 4 := by
  simp [toBytes]

theorem ofBytes_toBytes (c : Code) : ofBytes c.toBytes = c := by
  ext
  have := c.number.toNat_lt
  rw [ofBytes, Bytes.toList_padded c.length_toBytes, toBytes, List.reverse_reverse,
    Bytes.value_digits]
  simp [UInt32.ofNat_toNat]

theorem toBytes_ofBytes {bs : List UInt8} (h : bs.length = 4) : (ofBytes bs).toBytes = bs := by
  have hlt := Bytes.value_lt bs.reverse
  rw [List.length_reverse, h] at hlt
  have hdigits := Bytes.digits_value bs.reverse
  rw [List.length_reverse, h] at hdigits
  rw [ofBytes, Bytes.toList_padded h, toBytes, UInt32.toNat_ofNat_of_lt' hlt, hdigits,
    List.reverse_reverse]

end Code

end SmcKeys
