import SmcKeys.Proofs.Fields

namespace SmcKeys

namespace Packet

theorem getElem?_encode_field (p : Packet) {f : Field} {j : Nat} (h : j < f.width) :
    p.encode[f.offset + j]? = some (UInt8.ofNat (p.number f >>> (8 * j))) := by
  rw [← Frame.getElem?_content _ h, Frame.content_encode, content]
  exact Bytes.getElem?_digits _ h

theorem getElem?_encode_data (p : Packet) {j : Nat} (h : j < capacity) :
    p.encode[Field.data.offset + j]? = some p.data[j] := by
  have hcontent : p.content .data = p.data.toList := p.digits_number_data
  rw [← Frame.getElem?_content (f := .data) _ h, Frame.content_encode, hcontent]
  simp

theorem getElem?_of_decode (r : Frame) {f : Field} {j : Nat} (h : j < f.width) :
    r[f.offset + j]? = some (UInt8.ofNat ((decode r).number f >>> (8 * j))) := by
  rw [← Frame.getElem?_content _ h, ← content_decode, content]
  exact Bytes.getElem?_digits _ h

theorem number_decode_congr {r s : Frame} {f : Field}
    (h : ∀ i, f.offset ≤ i → i < f.offset + f.width → r[i]? = s[i]?) :
    (decode r).number f = (decode s).number f := by
  rw [number_decode, number_decode, Frame.number, Frame.number, Frame.content_congr h]

theorem run_reader_eq_decode (r : Frame) : reader.run r.toList = some (decode r, []) := by
  rw [run_reader, decode_eq]

/-- Both cursors come to each field at its place in the C structure, lowest byte first. -/
theorem fields_at_c_offsets :
    (Field.all.map fun f => (f, f.offset, f.width)) =
      [(.key, 0, 4), (.major, 4, 1), (.minor, 5, 1), (.build, 6, 1), (.reserved, 7, 1),
        (.release, 8, 2), (.limitVersion, 12, 2), (.limitLength, 14, 2), (.cpuLimit, 16, 4),
        (.gpuLimit, 20, 4), (.memoryLimit, 24, 4), (.dataSize, 28, 4), (.dataType, 32, 4),
        (.attributes, 36, 1), (.result, 40, 1), (.status, 41, 1), (.command, 42, 1),
        (.index, 44, 4), (.data, 48, 32)] ∧
    (∀ f : Field, f ∈ Field.all) ∧
    (∀ (p : Packet) (f : Field), ∀ j < f.width,
      p.encode[f.offset + j]? = some (UInt8.ofNat (p.number f >>> (8 * j)))) ∧
    (∀ (p : Packet) (j : Nat) (_ : j < capacity), p.encode[48 + j]? = some p.data[j]) ∧
    (∀ p : Packet, ∀ i < frameSize,
      (∀ f : Field, ¬ (f.offset ≤ i ∧ i < f.offset + f.width)) → p.encode[i]? = some 0) ∧
    (∀ r : Frame, reader.run r.toList = some (decode r, [])) ∧
    (∀ (r : Frame) (f : Field), ∀ j < f.width,
      r[f.offset + j]? = some (UInt8.ofNat ((decode r).number f >>> (8 * j)))) ∧
    (∀ (r s : Frame) (f : Field),
      (∀ i, f.offset ≤ i → i < f.offset + f.width → r[i]? = s[i]?) →
        (decode r).number f = (decode s).number f) := by
  refine ⟨by decide, Field.mem_all, fun p _ _ h => getElem?_encode_field p h,
    fun p _ h => getElem?_encode_data p h, ?_, run_reader_eq_decode,
    fun r _ _ h => getElem?_of_decode r h, fun _ _ _ h => number_decode_congr h⟩
  intro p i hplace hfree
  exact getElem?_encode_of_at?_none p hplace ((Field.at?_eq_none_iff hplace).mpr hfree)

end Packet

end SmcKeys
