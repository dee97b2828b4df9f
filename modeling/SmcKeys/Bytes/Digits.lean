namespace SmcKeys.Bytes

def value : List UInt8 → Nat
  | [] => 0
  | b :: rest => b.toNat + 256 * value rest

def digits : Nat → Nat → List UInt8
  | 0, _ => []
  | width + 1, n => UInt8.ofNat n :: digits width (n / 256)

/-- The least number that has no room in so many bytes. -/
def limit : Nat → Nat
  | 0 => 1
  | width + 1 => 256 * limit width

@[simp] theorem limit_zero : limit 0 = 1 := rfl

@[simp] theorem limit_succ (width : Nat) : limit (width + 1) = 256 * limit width := rfl

@[simp] theorem value_nil : value [] = 0 := rfl

@[simp] theorem value_cons (b : UInt8) (rest : List UInt8) :
    value (b :: rest) = b.toNat + 256 * value rest := rfl

@[simp] theorem digits_zero (n : Nat) : digits 0 n = [] := rfl

@[simp] theorem digits_succ (width n : Nat) :
    digits (width + 1) n = UInt8.ofNat n :: digits width (n / 256) := rfl

@[simp] theorem length_digits (width n : Nat) : (digits width n).length = width := by
  induction width generalizing n with
  | zero => rfl
  | succ width ih => simp [ih]

theorem value_lt (bs : List UInt8) : value bs < limit bs.length := by
  induction bs with
  | nil => exact Nat.one_pos
  | cons b rest ih =>
      have := b.toNat_lt
      simp only [value_cons, List.length_cons, limit_succ]
      omega

theorem value_digits (width n : Nat) : value (digits width n) = n % limit width := by
  induction width generalizing n with
  | zero => rw [digits_zero, value_nil, limit_zero, Nat.mod_one]
  | succ width ih =>
      rw [digits_succ, value_cons, ih, limit_succ, Nat.mod_mul, UInt8.toNat_ofNat']

theorem digits_value (bs : List UInt8) : digits bs.length (value bs) = bs := by
  induction bs with
  | nil => rfl
  | cons b rest ih =>
      have hb := b.toNat_lt
      have hmod : (b.toNat + 256 * value rest) % 256 = b.toNat := by omega
      have hdiv : (b.toNat + 256 * value rest) / 256 = value rest := by omega
      rw [List.length_cons, digits_succ, value_cons, hdiv, ih]
      congr 1
      apply UInt8.toNat_inj.mp
      rw [UInt8.toNat_ofNat']
      exact hmod

/-- The bytes followed by zeros, or cut off, so as to fill `size` places. -/
def padded (size : Nat) (bs : List UInt8) : Vector UInt8 size :=
  Vector.ofFn fun i => bs.getD i 0

@[simp] theorem getElem_padded (size : Nat) (bs : List UInt8) (i : Nat) (h : i < size) :
    (padded size bs)[i] = bs.getD i 0 := by
  simp [padded]

theorem toList_padded_of_le {size : Nat} {bs : List UInt8} (h : bs.length ≤ size) :
    (padded size bs).toList = bs ++ List.replicate (size - bs.length) 0 := by
  apply List.ext_getElem
  · rw [Vector.length_toList, List.length_append, List.length_replicate]
    omega
  · intro i hleft hright
    by_cases hi : i < bs.length
    · simp [List.getElem_append_left hi, hi]
    · simp [List.getElem_append_right (Nat.not_lt.mp hi), Nat.not_lt.mp hi]

theorem toList_padded {size : Nat} {bs : List UInt8} (h : bs.length = size) :
    (padded size bs).toList = bs := by
  rw [toList_padded_of_le (Nat.le_of_eq h), h, Nat.sub_self]
  exact List.append_nil bs

end SmcKeys.Bytes
