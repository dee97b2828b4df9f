import Mathlib.Data.List.Forall2
import SmcKeys.Console.Session
import SmcKeys.Proofs.Ascii
import SmcKeys.Proofs.CommandFailures

namespace SmcKeys

namespace Text.Hex

def DigitOf (n : Nat) (c : Char) : Prop :=
  "0123456789abcdef".toList[n]? = some c ∨ "0123456789ABCDEF".toList[n]? = some c

instance (n : Nat) (c : Char) : Decidable (DigitOf n c) :=
  inferInstanceAs (Decidable (_ ∨ _))

/-- Two digits spell a byte, the one of the high half first. -/
inductive Spells : List Char → List UInt8 → Prop where
  | nil : Spells [] []
  | cons {n m : Nat} {high low : Char} {digits : List Char} {bytes : List UInt8}
      (hhigh : DigitOf n high) (hlow : DigitOf m low) (hrest : Spells digits bytes) :
      Spells (high :: low :: digits) (UInt8.ofNat (16 * n + m) :: bytes)

section

variable {n m : Nat} {c : Char} {digits : List Char} {bytes : List UInt8}

theorem DigitOf.lt (h : DigitOf n c) : n < 16 := by
  rcases h with h | h
  · exact (List.getElem?_eq_some_iff.mp h).1
  · exact (List.getElem?_eq_some_iff.mp h).1

theorem DigitOf.of_all {p : Nat → Char → Bool}
    (hlower : ∀ n < 16, "0123456789abcdef".toList[n]?.all (p n) = true)
    (hupper : ∀ n < 16, "0123456789ABCDEF".toList[n]?.all (p n) = true) (h : DigitOf n c) :
    p n c = true := by
  have hn := h.lt
  rcases h with h | h
  · have hall := hlower n hn
    rwa [h, Option.all_some] at hall
  · have hall := hupper n hn
    rwa [h, Option.all_some] at hall

theorem DigitOf.toNat_lt (h : DigitOf n c) : c.toNat < 0x80 :=
  of_decide_eq_true
    (h.of_all (p := fun _ c => decide (c.toNat < 0x80)) (by decide +kernel) (by decide +kernel))

theorem DigitOf.ne_mark (h : DigitOf n c) : c ≠ 'x' ∧ c ≠ 'X' :=
  of_decide_eq_true
    (h.of_all (p := fun _ c => decide (c ≠ 'x' ∧ c ≠ 'X')) (by decide +kernel)
      (by decide +kernel))

theorem DigitOf.digit_eq (h : DigitOf n c) : digit n = c.toLower :=
  of_decide_eq_true
    (h.of_all (p := fun n c => decide (digit n = c.toLower)) (by decide +kernel)
      (by decide +kernel))

theorem digitOf_digit (hn : n < 16) (h : c = digit n ∨ c = (digit n).toUpper) : DigitOf n c := by
  have hall : ∀ n < 16, DigitOf n (digit n) ∧ DigitOf n (digit n).toUpper := by decide +kernel
  rcases h with rfl | rfl
  · exact (hall n hn).1
  · exact (hall n hn).2

theorem Spells.length_eq (h : Spells digits bytes) : digits.length = 2 * bytes.length := by
  induction h with
  | nil => rfl
  | cons hhigh hlow hrest ih =>
      simp only [List.length_cons]
      omega

theorem Spells.toNat_lt (h : Spells digits bytes) : ∀ c ∈ digits, c.toNat < 0x80 := by
  induction h with
  | nil => simp
  | cons hhigh hlow hrest ih => simpa [hhigh.toNat_lt, hlow.toNat_lt] using ih

theorem Spells.letters_eq (h : Spells digits bytes) : letters bytes = digits.map Char.toLower := by
  induction h with
  | nil => rfl
  | @cons n m high low digits bytes hhigh hlow hrest ih =>
      have hn := hhigh.lt
      have hm := hlow.lt
      have hbyte : (UInt8.ofNat (16 * n + m)).toNat = 16 * n + m :=
        UInt8.toNat_ofNat_of_lt' (by change _ < 256; omega)
      have hdivided : (16 * n + m) / 16 = n := by omega
      have hleft : (16 * n + m) % 16 = m := by omega
      rw [letters_cons, hbyte, hdivided, hleft, hhigh.digit_eq, hlow.digit_eq, ih]
      rfl

/-- Bytes are spelt by their own letters, of which each may be put in upper case. -/
theorem spells_letters
    (h : List.Forall₂ (fun letter c => c = letter ∨ c = letter.toUpper) (letters bytes) digits) :
    Spells digits bytes := by
  induction bytes generalizing digits with
  | nil =>
      cases h
      exact .nil
  | cons b bytes ih =>
      cases h with
      | cons hhigh h =>
          cases h with
          | cons hlow hrest =>
              have hb := b.toNat_lt
              have hspells := Spells.cons (digitOf_digit (by omega) hhigh)
                (digitOf_digit (by omega) hlow) (ih hrest)
              have hbyte : 16 * (b.toNat / 16) + b.toNat % 16 = b.toNat := by omega
              rwa [hbyte, UInt8.ofNat_toNat] at hspells

end

theorem lt_of_digitValue? {b : UInt8} {n : Nat} (h : digitValue? b = some n) : b.toNat < 128 := by
  simp only [digitValue?] at h
  split at h
  · omega
  split at h
  · omega
  split at h
  · omega
  · cases h

theorem digitValue?_eq_some_iff {b : UInt8} {n : Nat} :
    digitValue? b = some n ↔ DigitOf n (Char.ofUInt8 b) := by
  constructor
  · intro h
    -- The bytes of digits are ASCII, so there are 128 to look at.
    have hall : ∀ i < 128, ∀ n ∈ digitValue? (UInt8.ofNat i),
        DigitOf n (Char.ofUInt8 (UInt8.ofNat i)) := by
      decide +kernel
    have hbyte := hall b.toNat (lt_of_digitValue? h) n
    rw [UInt8.ofNat_toNat] at hbyte
    exact hbyte h
  · intro h
    have hdigit := h.of_all (p := fun n c => digitValue? (UInt8.ofNat c.toNat) == some n)
      (by decide +kernel) (by decide +kernel)
    rwa [toNat_ofUInt8, UInt8.ofNat_toNat, beq_iff_eq] at hdigit

theorem nibble_eq_ok_iff {b : UInt8} {index n : Nat} :
    nibble b index = .ok n ↔ DigitOf n (Char.ofUInt8 b) := by
  rw [← digitValue?_eq_some_iff, nibble]
  cases digitValue? b with
  | none => simp
  | some m => simp

theorem eq_nil_of_short {digits : List UInt8} (heven : digits.length % 2 = 0)
    (hshort : ∀ high low rest, digits = high :: low :: rest → False) : digits = [] := by
  cases digits with
  | nil => rfl
  | cons high digits =>
      cases digits with
      | nil => simp at heven
      | cons low rest => exact (hshort high low rest rfl).elim

theorem pairs_eq_ok_iff {index : Nat} {digits bytes : List UInt8}
    (heven : digits.length % 2 = 0) :
    pairs index digits = .ok bytes ↔ Spells (digits.map Char.ofUInt8) bytes := by
  fun_induction pairs index digits generalizing bytes with
  | case1 index high low rest ih =>
      have hrest : rest.length % 2 = 0 := by
        simp only [List.length_cons] at heven
        omega
      constructor
      · intro h
        obtain ⟨n, hn, h⟩ := Console.bind_eq_ok h
        obtain ⟨m, hm, h⟩ := Console.bind_eq_ok h
        obtain ⟨bs, hbs, h⟩ := Console.bind_eq_ok h
        cases h
        exact .cons (nibble_eq_ok_iff.mp hn) (nibble_eq_ok_iff.mp hm) ((ih hrest).mp hbs)
      · intro h
        cases h with
        | cons hhigh hlow hspells =>
            rw [nibble_eq_ok_iff.mpr hhigh, nibble_eq_ok_iff.mpr hlow, (ih hrest).mpr hspells]
            rfl
  | case2 digits index hshort =>
      obtain rfl := eq_nil_of_short heven hshort
      constructor
      · intro h
        cases h
        exact .nil
      · intro h
        cases h
        rfl

theorem decode_eq_ok_iff {text : String} {bytes : List UInt8} :
    decode (utf8 text) = .ok bytes ↔ Spells text.toList bytes := by
  constructor
  · intro h
    unfold decode at h
    split at h
    case isTrue heven =>
      have hspells := (pairs_eq_ok_iff heven).mp h
      have hascii : IsAscii text := by
        apply isAscii_iff_bytes.mpr
        intro b hb
        rw [← toNat_ofUInt8]
        exact hspells.toNat_lt _ (List.mem_map_of_mem hb)
      rwa [map_utf8 hascii] at hspells
    case isFalse => cases h
  · intro h
    have hascii : IsAscii text := h.toNat_lt
    have heven : (utf8 text).length % 2 = 0 := by
      rw [length_utf8_eq_iff.mpr hascii, h.length_eq]
      omega
    rw [decode, if_pos heven, pairs_eq_ok_iff heven, map_utf8 hascii]
    exact h

theorem Spells.unique {digits : List Char} {bytes bytes' : List UInt8} (h : Spells digits bytes)
    (h' : Spells digits bytes') : bytes = bytes' := by
  rw [← String.toList_ofList (l := digits), ← decode_eq_ok_iff] at h h'
  exact Except.ok.inj (h.symm.trans h')

theorem decode_encode (bytes : List UInt8) : decode (utf8 (encode bytes)) = .ok bytes := by
  apply decode_eq_ok_iff.mpr
  rw [encode, String.toList_ofList]
  exact spells_letters (List.forall₂_same.mpr fun _ _ => .inl rfl)

end Text.Hex

namespace Console

open Text.Hex (Spells)

/-- Bytes are read from the digits that spell them, and are written in lower case. -/
structure Kit.Hexadecimal (kit : Kit) : Prop where
  read : ∀ text bytes, kit.readHex text = .ok bytes ↔ Spells text.toList bytes
  written : ∀ bytes, (kit.writeHex bytes).toList = Text.Hex.letters bytes

theorem Kit.hexadecimal_standard (terminal : Bool) : (Kit.standard terminal).Hexadecimal where
  read text bytes := by
    rw [← Text.Hex.decode_eq_ok_iff]
    change (Text.Hex.decode (Text.utf8 text)).mapError hexFlawText = .ok bytes ↔ _
    cases Text.Hex.decode (Text.utf8 text) <;> simp [Except.mapError]
  written bytes := String.toList_ofList

namespace Kit.Hexadecimal

variable {kit : Kit} {text : String} {bytes : List UInt8}

theorem bytesArgument_eq_ok_iff_spells (h : kit.Hexadecimal) :
    kit.bytesArgument text = .ok bytes ↔
      stripMark text.toList ≠ [] ∧ Spells (stripMark text.toList) bytes := by
  have hread := h.read (String.ofList (stripMark text.toList)) bytes
  rw [String.toList_ofList] at hread
  simp only [bytesArgument, List.isEmpty_iff]
  split
  case isTrue hempty => simp [hempty]
  case isFalse hdigits =>
    rw [and_iff_right hdigits, ← hread]
    cases kit.readHex (String.ofList (stripMark text.toList)) <;> simp [Except.mapError]

theorem writeHex_of_bytesArgument (h : kit.Hexadecimal)
    (hbytes : kit.bytesArgument text = .ok bytes) :
    (kit.writeHex bytes).toList = (stripMark text.toList).map Char.toLower := by
  rw [h.written]
  exact (h.bytesArgument_eq_ok_iff_spells.mp hbytes).2.letters_eq

end Kit.Hexadecimal

end Console

end SmcKeys
