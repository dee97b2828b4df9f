import SmcKeys.Bytes.Digits

namespace SmcKeys

namespace Bytes

def putNumber (width n : Nat) (dst : List UInt8) : List UInt8 := dst ++ digits width n

def putByte (b : UInt8) : List UInt8 → List UInt8 := putNumber 1 b.toNat

def putHalf (n : UInt16) : List UInt8 → List UInt8 := putNumber 2 n.toNat

def putWord (n : UInt32) : List UInt8 → List UInt8 := putNumber 4 n.toNat

def putZeros (count : Nat) (dst : List UInt8) : List UInt8 := dst ++ List.replicate count 0

def putAll (bs dst : List UInt8) : List UInt8 := dst ++ bs

end Bytes

/-- A cursor over the bytes that are left. Asking for more of them than there are has no result. -/
abbrev Reader (α : Type) : Type := StateT (List UInt8) Option α

namespace Reader

def next (count : Nat) : Reader (List UInt8) := fun src =>
  if count ≤ src.length then some (src.take count, src.drop count) else none

def skip (count : Nat) : Reader Unit := do
  let _ ← next count

def number (width : Nat) : Reader Nat := return Bytes.value (← next width)

def byte : Reader UInt8 := return UInt8.ofNat (← number 1)

def half : Reader UInt16 := return UInt16.ofNat (← number 2)

def word : Reader UInt32 := return UInt32.ofNat (← number 4)

def buffer (size : Nat) : Reader (Vector UInt8 size) := return Bytes.padded size (← next size)

/-- Takes so many bytes off the front, where there are as many, and makes something of them. -/
def Takes (m : Reader α) (count : Nat) (make : List UInt8 → α) : Prop :=
  ∀ src : List UInt8, count ≤ src.length → m.run src = some (make (src.take count), src.drop count)

section

variable {m : Reader α} {count : Nat} {make : List UInt8 → α}

theorem Takes.run_bind {src : List UInt8} (h : m.Takes count make) (f : α → Reader β)
    (hcount : count ≤ src.length) :
    (m >>= f).run src = (f (make (src.take count))).run (src.drop count) := by
  rw [StateT.run_bind, h src hcount]
  rfl

theorem Takes.map (h : m.Takes count make) (g : α → β) :
    Takes (m >>= fun a => pure (g a)) count fun bs => g (make bs) := by
  intro src hcount
  rw [h.run_bind _ hcount]
  rfl

end

theorem takes_next (count : Nat) : (next count).Takes count id := by
  intro src hcount
  exact if_pos hcount

theorem takes_skip (count : Nat) : (skip count).Takes count fun _ => () :=
  (takes_next count).map _

theorem takes_number (width : Nat) : (number width).Takes width Bytes.value :=
  (takes_next width).map _

theorem takes_byte : byte.Takes 1 fun bs => UInt8.ofNat (Bytes.value bs) :=
  (takes_number 1).map _

theorem takes_half : half.Takes 2 fun bs => UInt16.ofNat (Bytes.value bs) :=
  (takes_number 2).map _

theorem takes_word : word.Takes 4 fun bs => UInt32.ofNat (Bytes.value bs) :=
  (takes_number 4).map _

theorem takes_buffer (size : Nat) : (buffer size).Takes size (Bytes.padded size) :=
  (takes_next size).map _

end Reader

end SmcKeys
