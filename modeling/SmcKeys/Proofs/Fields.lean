import SmcKeys.Proofs.Codec

namespace SmcKeys

namespace Bytes

theorem getElem?_digits {width j : Nat} (n : Nat) (h : j < width) :
    (digits width n)[j]? = some (UInt8.ofNat (n >>> (8 * j))) := by
  induction width generalizing n j with
  | zero => exact absurd h (Nat.not_lt_zero j)
  | succ width ih =>
      cases j with
      | zero => rfl
      | succ j =>
          have hrest : n >>> (8 * (j + 1)) = (n / 256) >>> (8 * j) := by
            have hbyte : n >>> 8 = n / 256 := by omega
            rw [Nat.mul_succ, Nat.add_comm, Nat.shiftRight_add, hbyte]
          rw [digits_succ, List.getElem?_cons_succ, hrest]
          exact ih (n / 256) (Nat.lt_of_succ_lt_succ h)

end Bytes

namespace Frame

theorem number_lt (r : Frame) (f : Field) : number r f < Bytes.limit f.width := by
  have hlt := Bytes.value_lt (content r f)
  rwa [length_content] at hlt

theorem content_congr {r s : Frame} {f : Field}
    (h : ∀ i, f.offset ≤ i → i < f.offset + f.width → r[i]? = s[i]?) :
    content r f = content s f := by
  apply List.ext_getElem?
  intro j
  by_cases hj : j < f.width
  · rw [getElem?_content r hj, getElem?_content s hj]
    exact h _ (Nat.le_add_right _ _) (Nat.add_lt_add_left hj _)
  · rw [List.getElem?_eq_none (by simpa using hj), List.getElem?_eq_none (by simpa using hj)]

theorem getElem?_eq_of_content {r s : Frame} {f : Field} (h : content r f = content s f)
    {i : Nat} (hfrom : f.offset ≤ i) (hto : i < f.offset + f.width) : r[i]? = s[i]? := by
  obtain ⟨j, rfl⟩ := Nat.exists_eq_add_of_le hfrom
  have hj : j < f.width := by omega
  rw [← getElem?_content r hj, ← getElem?_content s hj, h]

end Frame

namespace Packet

theorem number_ofNumbers {n : Field → Nat} {f : Field} (h : n f < Bytes.limit f.width) :
    (ofNumbers n).number f = n f := by
  cases f with
  | data =>
      have hlength : (Bytes.digits capacity (n .data)).length = capacity :=
        Bytes.length_digits _ _
      change Bytes.value (Bytes.padded _ _).toList = _
      rw [Bytes.toList_padded hlength, Bytes.value_digits]
      exact Nat.mod_eq_of_lt h
  | major | minor | build | reserved | attributes | result | status | command =>
      exact UInt8.toNat_ofNat_of_lt' h
  | release | limitVersion | limitLength => exact UInt16.toNat_ofNat_of_lt' h
  | _ => exact UInt32.toNat_ofNat_of_lt' h

theorem number_decode (r : Frame) (f : Field) : (decode r).number f = Frame.number r f := by
  rw [decode_eq, number_ofNumbers (Frame.number_lt r f)]

@[simp] theorem content_decode (r : Frame) (f : Field) :
    (decode r).content f = Frame.content r f := by
  rw [content, number_decode, Frame.digits_number]

theorem decode_congr {r s : Frame} (h : ∀ f, Frame.content r f = Frame.content s f) :
    decode r = decode s := by
  have hnumber : Frame.number r = Frame.number s := by
    funext f
    rw [Frame.number, Frame.number, h]
  rw [decode_eq, decode_eq, hnumber]

theorem getElem?_encode_of_at?_none (p : Packet) {i : Nat} (hplace : i < frameSize)
    (h : Field.at? i = none) : p.encode[i]? = some 0 := by
  rw [getElem?_encode p hplace, h]

end Packet

end SmcKeys
