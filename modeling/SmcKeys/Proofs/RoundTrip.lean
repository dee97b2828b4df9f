import SmcKeys.Proofs.Fields

namespace SmcKeys

namespace Frame

def padding : List Nat := [10, 11, 37, 38, 39, 43]

def cleared (r : Frame) : Frame :=
  Vector.ofFn fun i => if i.val ∈ padding then 0 else r[i]

theorem ext_getElem? {r s : Frame} (h : ∀ i : Nat, r[i]? = s[i]?) : r = s := by
  apply Vector.ext
  intro i hplace
  have hbyte := h i
  rwa [Vector.getElem?_eq_getElem hplace, Vector.getElem?_eq_getElem hplace,
    Option.some.injEq] at hbyte

theorem lt_of_mem_padding : ∀ i ∈ padding, i < frameSize := by decide

theorem mem_padding_iff : ∀ i < frameSize, i ∈ padding ↔ Field.at? i = none := by decide

section

variable {r : Frame} {i : Nat}

theorem getElem?_cleared_of_mem (h : i ∈ padding) : (cleared r)[i]? = some 0 := by
  simp [cleared, h, lt_of_mem_padding i h]

theorem getElem?_cleared_of_not_mem (h : i ∉ padding) : (cleared r)[i]? = r[i]? := by
  by_cases hplace : i < frameSize
  · simp [cleared, h, hplace]
  · rw [Vector.getElem?_eq_none (Nat.le_of_not_lt hplace),
      Vector.getElem?_eq_none (Nat.le_of_not_lt hplace)]

theorem cleared_of_padding_zero (h : ∀ i ∈ padding, r[i]? = some 0) : cleared r = r := by
  apply ext_getElem?
  intro i
  by_cases hpadding : i ∈ padding
  · rw [getElem?_cleared_of_mem hpadding, h i hpadding]
  · rw [getElem?_cleared_of_not_mem hpadding]

theorem exists_field_of_not_mem_padding (hplace : i < frameSize) (h : i ∉ padding) :
    ∃ f : Field, f.offset ≤ i ∧ i < f.offset + f.width := by
  cases hfield : Field.at? i with
  | none => exact absurd ((mem_padding_iff i hplace).mpr hfield) h
  | some p =>
      obtain ⟨hfound, hwidth⟩ := Field.of_mem_at? i hplace p hfield
      exact ⟨p.1, by omega, by omega⟩

theorem not_mem_padding_of_covers {f : Field} (hfrom : f.offset ≤ i)
    (hto : i < f.offset + f.width) : i ∉ padding := by
  have hplace : i < frameSize := Nat.lt_of_lt_of_le hto f.offset_add_width_le
  rw [mem_padding_iff i hplace, Field.at?_of_covers hfrom hto]
  exact Option.some_ne_none _

theorem getElem?_eq_of_contents {s : Frame} (h : ∀ f, content r f = content s f)
    (hpadding : i ∉ padding) : r[i]? = s[i]? := by
  by_cases hplace : i < frameSize
  · obtain ⟨f, hfrom, hto⟩ := exists_field_of_not_mem_padding hplace hpadding
    exact getElem?_eq_of_content (h f) hfrom hto
  · rw [Vector.getElem?_eq_none (Nat.le_of_not_lt hplace),
      Vector.getElem?_eq_none (Nat.le_of_not_lt hplace)]

end

end Frame

namespace Packet

open SmcKeys.Frame (padding cleared)

theorem getElem?_encode_of_padding (p : Packet) {i : Nat} (h : i ∈ padding) :
    p.encode[i]? = some 0 := by
  have hplace := Frame.lt_of_mem_padding i h
  exact getElem?_encode_of_at?_none p hplace ((Frame.mem_padding_iff i hplace).mp h)

theorem content_encode_decode (r : Frame) (f : Field) :
    Frame.content (decode r).encode f = Frame.content r f := by
  rw [Frame.content_encode, content_decode]

theorem encode_decode (r : Frame) : (decode r).encode = cleared r := by
  apply Frame.ext_getElem?
  intro i
  by_cases hpadding : i ∈ padding
  · rw [getElem?_encode_of_padding _ hpadding, Frame.getElem?_cleared_of_mem hpadding]
  · rw [Frame.getElem?_cleared_of_not_mem hpadding]
    exact Frame.getElem?_eq_of_contents (content_encode_decode r) hpadding

theorem exists_encode_iff {r : Frame} :
    (∃ p : Packet, p.encode = r) ↔ ∀ i ∈ padding, r[i]? = some 0 := by
  constructor
  · intro h i hpadding
    obtain ⟨p, rfl⟩ := h
    exact getElem?_encode_of_padding p hpadding
  · intro h
    refine ⟨decode r, ?_⟩
    rw [encode_decode, Frame.cleared_of_padding_zero h]

theorem decode_eq_decode_iff {r s : Frame} :
    decode r = decode s ↔ ∀ i, i ∉ padding → r[i]? = s[i]? := by
  constructor
  · intro h i hpadding
    refine Frame.getElem?_eq_of_contents (fun f => ?_) hpadding
    rw [← content_decode, h, content_decode]
  · intro h
    apply decode_congr
    intro f
    apply Frame.content_congr
    intro i hfrom hto
    exact h i (Frame.not_mem_padding_of_covers hfrom hto)

/-- A packet comes back from its frame, and a frame comes back from its packet up to padding. -/
theorem frames_are_packets_up_to_padding :
    (∀ p : Packet, decode p.encode = p) ∧
    (∀ r : Frame, (decode r).encode = cleared r) ∧
    (∀ r : Frame, (∃ p : Packet, p.encode = r) ↔ ∀ i ∈ padding, r[i]? = some 0) ∧
    (∀ r s : Frame, decode r = decode s ↔ ∀ i, i ∉ padding → r[i]? = s[i]?) :=
  ⟨decode_encode, encode_decode, fun _ => exists_encode_iff, fun _ _ => decode_eq_decode_iff⟩

end Packet

end SmcKeys
