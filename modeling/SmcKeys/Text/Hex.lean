import SmcKeys.Bytes.Digits

namespace SmcKeys.Text.Hex

inductive Flaw where
  | oddLength
  | badDigit (byte : UInt8) (index : Nat)
  deriving DecidableEq

def digit (n : Nat) : Char :=
  Char.ofNat (if n < 10 then 0x30 + n else 0x57 + n)

def digitValue? (b : UInt8) : Option Nat :=
  let n := b.toNat
  if 0x30 ≤ n ∧ n ≤ 0x39 then some (n - 0x30)
  else if 0x61 ≤ n ∧ n ≤ 0x66 then some (n - 0x57)
  else if 0x41 ≤ n ∧ n ≤ 0x46 then some (n - 0x37)
  else none

def letters : List UInt8 → List Char
  | [] => []
  | b :: rest => digit (b.toNat / 16) :: digit (b.toNat % 16) :: letters rest

def encode (bs : List UInt8) : String :=
  String.ofList (letters bs)

def number (width n : Nat) : String :=
  "0x" ++ encode (Bytes.digits width n).reverse

def nibble (b : UInt8) (index : Nat) : Except Flaw Nat :=
  match digitValue? b with
  | some n => .ok n
  | none => .error (.badDigit b index)

/-- Reads pairs from position `index` on; the first byte that is no digit is reported. -/
def pairs (index : Nat) : List UInt8 → Except Flaw (List UInt8)
  | high :: low :: rest => do
      let h ← nibble high index
      let l ← nibble low (index + 1)
      let bs ← pairs (index + 2) rest
      return UInt8.ofNat (16 * h + l) :: bs
  | _ => .ok []

/-- An odd count is refused before any digit is looked at. -/
def decode (digits : List UInt8) : Except Flaw (List UInt8) :=
  if digits.length % 2 = 0 then pairs 0 digits else .error .oddLength

@[simp] theorem letters_nil : letters [] = [] := rfl

@[simp] theorem letters_cons (b : UInt8) (rest : List UInt8) :
    letters (b :: rest) = digit (b.toNat / 16) :: digit (b.toNat % 16) :: letters rest := rfl

theorem length_letters (bs : List UInt8) : (letters bs).length = 2 * bs.length := by
  induction bs with
  | nil => rfl
  | cons b rest ih => simp [ih]; omega

end SmcKeys.Text.Hex
