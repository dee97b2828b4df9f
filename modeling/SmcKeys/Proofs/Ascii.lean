import SmcKeys.Text.Utf8

namespace SmcKeys.Text

def IsAscii (text : String) : Prop :=
  ∀ c ∈ text.toList, c.toNat < 0x80

instance (text : String) : Decidable (IsAscii text) :=
  inferInstanceAs (Decidable (∀ c ∈ text.toList, c.toNat < 0x80))

@[simp] theorem toNat_ofUInt8 (b : UInt8) : (Char.ofUInt8 b).toNat = b.toNat := by
  change b.toUInt32.toNat = b.toNat
  exact UInt8.toNat_toUInt32 b

theorem ofUInt8_inj {b b' : UInt8} : Char.ofUInt8 b = Char.ofUInt8 b' ↔ b = b' := by
  constructor
  · intro h
    apply UInt8.toNat_inj.mp
    rw [← toNat_ofUInt8, h, toNat_ofUInt8]
  · exact congrArg Char.ofUInt8

theorem utf8EncodeChar_of_lt {c : Char} (h : c.toNat < 0x80) :
    String.utf8EncodeChar c = [UInt8.ofNat c.toNat] :=
  if_pos (Nat.le_of_lt_succ h)

theorem ofUInt8_ofNat {c : Char} (h : c.toNat < 0x80) :
    Char.ofUInt8 (UInt8.ofNat c.toNat) = c := by
  apply Char.toNat_inj.mp
  rw [toNat_ofUInt8, UInt8.toNat_ofNat_of_lt' (Nat.lt_trans h (by decide))]

theorem utf8EncodeChar_ofUInt8 {b : UInt8} (h : b.toNat < 0x80) :
    String.utf8EncodeChar (Char.ofUInt8 b) = [b] := by
  rw [utf8EncodeChar_of_lt (by rwa [toNat_ofUInt8]), toNat_ofUInt8, UInt8.ofNat_toNat]

theorem lt_of_mem_utf8EncodeChar {c : Char} {b : UInt8} (hmem : b ∈ String.utf8EncodeChar c)
    (h : b.toNat < 0x80) : c.toNat < 0x80 := by
  apply Nat.lt_of_not_le
  intro hlarge
  have hshort : ¬c.val.toNat ≤ 127 := Nat.not_le.mpr hlarge
  have hhigh : ∀ n, 0x80 ≤ n → n < 256 → b ≠ UInt8.ofNat n := by
    rintro n hlow hlimit rfl
    rw [UInt8.toNat_ofNat_of_lt' hlimit] at h
    omega
  simp only [String.utf8EncodeChar, if_neg hshort] at hmem
  split at hmem
  · simp only [List.mem_cons, List.not_mem_nil, or_false] at hmem
    rcases hmem with hb | hb
    all_goals exact hhigh _ (by omega) (by omega) hb
  split at hmem
  · simp only [List.mem_cons, List.not_mem_nil, or_false] at hmem
    rcases hmem with hb | hb | hb
    all_goals exact hhigh _ (by omega) (by omega) hb
  · simp only [List.mem_cons, List.not_mem_nil, or_false] at hmem
    rcases hmem with hb | hb | hb | hb
    all_goals exact hhigh _ (by omega) (by omega) hb

theorem eq_ofUInt8_of_mem {c : Char} {b : UInt8} (hmem : b ∈ String.utf8EncodeChar c)
    (h : b.toNat < 0x80) : c = Char.ofUInt8 b := by
  have hc := lt_of_mem_utf8EncodeChar hmem h
  rw [utf8EncodeChar_of_lt hc, List.mem_singleton] at hmem
  rw [hmem, ofUInt8_ofNat hc]

theorem length_utf8EncodeChar_eq_one_iff {c : Char} :
    (String.utf8EncodeChar c).length = 1 ↔ c.toNat < 0x80 := by
  rw [String.length_utf8EncodeChar, Char.utf8Size_eq_one_iff, UInt32.le_iff_toNat_le]
  exact Nat.lt_succ_iff.symm

theorem isAscii_iff_bytes {text : String} : IsAscii text ↔ ∀ b ∈ utf8 text, b.toNat < 0x80 := by
  simp only [IsAscii, utf8, List.mem_flatMap]
  constructor
  · intro h b hb
    obtain ⟨c, hc, hmem⟩ := hb
    have hsmall := h c hc
    rw [utf8EncodeChar_of_lt hsmall, List.mem_singleton] at hmem
    rwa [hmem, UInt8.toNat_ofNat_of_lt' (Nat.lt_trans hsmall (by decide))]
  · intro h c hc
    obtain ⟨b, hb⟩ := List.exists_mem_of_ne_nil _ (@String.utf8EncodeChar_ne_nil c)
    exact lt_of_mem_utf8EncodeChar hb (h b ⟨c, hc, hb⟩)

theorem map_utf8 {text : String} (h : IsAscii text) :
    (utf8 text).map Char.ofUInt8 = text.toList := by
  unfold IsAscii utf8 at *
  generalize text.toList = cs at *
  induction cs with
  | nil => rfl
  | cons c rest ih =>
      obtain ⟨hc, hrest⟩ := List.forall_mem_cons.mp h
      rw [List.flatMap_cons, List.map_append, utf8EncodeChar_of_lt hc, ih hrest,
        List.map_singleton, ofUInt8_ofNat hc]
      rfl

theorem utf8_latin1 {bs : List UInt8} (h : ∀ b ∈ bs, b.toNat < 0x80) : utf8 (latin1 bs) = bs := by
  rw [utf8, latin1, String.toList_ofList]
  induction bs with
  | nil => rfl
  | cons b rest ih =>
      obtain ⟨hb, hrest⟩ := List.forall_mem_cons.mp h
      rw [List.map_cons, List.flatMap_cons, utf8EncodeChar_ofUInt8 hb, ih hrest]
      rfl

theorem length_le_length_utf8 (text : String) : text.toList.length ≤ (utf8 text).length := by
  unfold utf8
  generalize text.toList = cs
  induction cs with
  | nil => exact Nat.le_refl 0
  | cons c rest ih =>
      have hc := List.length_pos_iff.mpr (@String.utf8EncodeChar_ne_nil c)
      rw [List.flatMap_cons, List.length_append, List.length_cons]
      omega

theorem length_utf8_eq_iff {text : String} :
    (utf8 text).length = text.toList.length ↔ IsAscii text := by
  constructor
  · intro h c hc
    obtain ⟨before, after, hsplit⟩ := List.append_of_mem hc
    have hbefore := length_le_length_utf8 (String.ofList before)
    have hafter := length_le_length_utf8 (String.ofList after)
    have hpos := List.length_pos_iff.mpr (@String.utf8EncodeChar_ne_nil c)
    simp only [utf8, hsplit, String.toList_ofList, List.flatMap_append, List.flatMap_cons,
      List.length_append, List.length_cons] at h hbefore hafter
    exact length_utf8EncodeChar_eq_one_iff.mp (by omega)
  · intro h
    rw [← map_utf8 h, List.length_map]

end SmcKeys.Text
