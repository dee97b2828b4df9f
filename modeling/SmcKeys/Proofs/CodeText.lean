import Mathlib.Data.List.DropRight
import SmcKeys.Malformed
import SmcKeys.Proofs.Ascii

namespace SmcKeys

namespace Bytes

def unpadded (bs : List UInt8) : List UInt8 :=
  bs.rdropWhile (· == 0)

@[simp] theorem unpadded_concat_zero (bs : List UInt8) : unpadded (bs ++ [0]) = unpadded bs :=
  List.rdropWhile_concat_pos _ _ _ (by decide)

theorem unpadded_append_zeros (bs : List UInt8) (n : Nat) :
    unpadded (bs ++ List.replicate n 0) = unpadded bs := by
  induction n with
  | zero => rw [List.replicate_zero, List.append_nil]
  | succ n ih => rw [List.replicate_succ', ← List.append_assoc, unpadded_concat_zero, ih]

theorem exists_eq_unpadded_append (bs : List UInt8) :
    ∃ n, bs = unpadded bs ++ List.replicate n 0 := by
  have hzeros : bs.rtakeWhile (· == 0) = List.replicate (bs.rtakeWhile (· == 0)).length 0 := by
    apply List.eq_replicate_of_mem
    intro b hb
    simpa using List.mem_rtakeWhile_imp hb
  refine ⟨(bs.rtakeWhile (· == 0)).length, ?_⟩
  rw [← hzeros]
  exact List.rdropWhile_append_rtakeWhile.symm

end Bytes

namespace Text

def unpadded (text : String) : String :=
  String.ofList (text.toList.rdropWhile (· == '\x00'))

@[simp] theorem toList_unpadded (text : String) :
    (unpadded text).toList = text.toList.rdropWhile (· == '\x00') :=
  String.toList_ofList

theorem unpadded_eq_self_iff {text : String} :
    unpadded text = text ↔ text.toList.getLast? ≠ some '\x00' := by
  rw [← String.toList_inj, toList_unpadded, List.rdropWhile_eq_self_iff]
  constructor
  · intro h hlast
    obtain ⟨cs, hcs⟩ := List.getLast?_eq_some_iff.mp hlast
    exact h (by simp [hcs]) (by simp [hcs])
  · intro h hne hlast
    apply h
    rw [List.getLast?_eq_some_getLast hne, beq_iff_eq.mp hlast]

theorem IsAscii.unpadded {text : String} (h : IsAscii text) : IsAscii (unpadded text) := by
  intro c hc
  rw [toList_unpadded] at hc
  exact h c ((List.rdropWhile_prefix _ _).subset hc)

/-- The zeros at the end of a text's bytes are the NULs at its end. -/
theorem utf8_unpadded (text : String) : utf8 (unpadded text) = Bytes.unpadded (utf8 text) := by
  simp only [utf8, toList_unpadded]
  generalize text.toList = cs
  induction cs using List.reverseRecOn with
  | nil => rfl
  | append_singleton cs c ih =>
      rw [List.flatMap_append, List.flatMap_singleton]
      by_cases hc : c = '\x00'
      · rw [List.rdropWhile_concat_pos _ _ _ (by simp [hc]), ih, hc]
        exact (Bytes.unpadded_concat_zero _).symm
      · rw [List.rdropWhile_concat_neg _ _ _ (by simp [hc]), List.flatMap_append,
          List.flatMap_singleton]
        symm
        apply List.rdropWhile_eq_self_iff.mpr
        intro hne hlast
        apply hc
        rw [List.getLast_append_of_ne_nil _ String.utf8EncodeChar_ne_nil, beq_iff_eq] at hlast
        have hzero := List.getLast_mem (@String.utf8EncodeChar_ne_nil c)
        rw [hlast] at hzero
        exact eq_ofUInt8_of_mem hzero (by decide)

end Text

namespace Code

theorem significant_eq (c : Code) : c.significant = Bytes.unpadded c.toBytes := by
  rw [significant, Bytes.unpadded, List.rdropWhile, toBytes, List.reverse_reverse]

theorem toBytes_ofBytes_eq_padded (bs : List UInt8) :
    (ofBytes bs).toBytes = (Bytes.padded 4 bs).toList := by
  have hlength : (Bytes.padded 4 bs).toList.length = 4 := Vector.length_toList
  rw [← toBytes_ofBytes hlength, ofBytes, ofBytes, Bytes.toList_padded hlength]

theorem significant_ofBytes {bs : List UInt8} (h : bs.length ≤ 4) :
    (ofBytes bs).significant = Bytes.unpadded bs := by
  rw [significant_eq, toBytes_ofBytes_eq_padded, Bytes.toList_padded_of_le h,
    Bytes.unpadded_append_zeros]

theorem length_significant_le (c : Code) : c.significant.length ≤ 4 := by
  rw [significant_eq, ← c.length_toBytes]
  exact (List.rdropWhile_prefix _ _).length_le

theorem ofBytes_significant (c : Code) : ofBytes c.significant = c := by
  obtain ⟨n, hn⟩ := Bytes.exists_eq_unpadded_append c.toBytes
  rw [← significant_eq] at hn
  have hlength : c.significant.length + n = 4 := by
    rw [← c.length_toBytes, hn, List.length_append, List.length_replicate]
  have hsame : (ofBytes c.significant).toBytes = c.toBytes := by
    rw [toBytes_ofBytes_eq_padded, Bytes.toList_padded_of_le c.length_significant_le, hn]
    congr 2
    omega
  rw [← ofBytes_toBytes (ofBytes c.significant), hsame, ofBytes_toBytes]

@[simp] theorem toList_text (c : Code) : c.text.toList = c.significant.map Char.ofUInt8 :=
  String.toList_ofList

theorem text_inj {a b : Code} : a.text = b.text ↔ a = b := by
  constructor
  · intro h
    rw [← String.toList_inj, toList_text, toList_text] at h
    have hsame := List.map_injective_iff.mpr (fun _ _ => Text.ofUInt8_inj.mp) h
    rw [← ofBytes_significant a, hsame, ofBytes_significant]
  · exact congrArg text

theorem text_ofText {text : String} (h : (Text.utf8 text).length ≤ 4) :
    (ofText text).text = Text.latin1 (Text.utf8 (Text.unpadded text)) := by
  rw [Code.text, ofText, significant_ofBytes h, Text.utf8_unpadded]

theorem text_ofText_of_isAscii {text : String} (h : (Text.utf8 text).length ≤ 4)
    (hascii : Text.IsAscii text) : (ofText text).text = Text.unpadded text := by
  rw [text_ofText h, Text.latin1, Text.map_utf8 hascii.unpadded, String.ofList_toList]

theorem getLast?_text_ne (c : Code) : c.text.toList.getLast? ≠ some '\x00' := by
  intro hlast
  rw [toList_text, List.getLast?_map, Option.map_eq_some_iff] at hlast
  obtain ⟨b, hb, hnul⟩ := hlast
  have hself : c.significant.rdropWhile (· == 0) = c.significant := by
    rw [significant_eq]
    exact List.rdropWhile_idempotent _ _
  obtain ⟨bs, hbs⟩ := List.getLast?_eq_some_iff.mp hb
  apply List.rdropWhile_eq_self_iff.mp hself (by simp [hbs])
  have hzero : b = 0 := Text.ofUInt8_inj.mp hnul
  simp [hbs, hzero]

theorem text_ofText_eq_self_iff {text : String} (h : (Text.utf8 text).length ≤ 4) :
    (ofText text).text = text ↔ Text.IsAscii text ∧ text.toList.getLast? ≠ some '\x00' := by
  constructor
  · intro hsame
    have hlast := getLast?_text_ne (ofText text)
    rw [hsame] at hlast
    refine ⟨?_, hlast⟩
    rw [text_ofText h, Text.unpadded_eq_self_iff.mpr hlast] at hsame
    apply Text.length_utf8_eq_iff.mp
    conv => rhs; rw [← hsame]
    rw [Text.latin1, String.toList_ofList, List.length_map]
  · intro hboth
    obtain ⟨hascii, hlast⟩ := hboth
    rw [text_ofText_of_isAscii h hascii, Text.unpadded_eq_self_iff.mpr hlast]

structure Legible (text : String) : Prop where
  isAscii : Text.IsAscii text
  pos : 1 ≤ (Text.utf8 text).length
  le : (Text.utf8 text).length ≤ 4

theorem parse_eq_ok_iff {text : String} {code : Code} :
    parse text = .ok code ↔ Legible text ∧ ofText text = code := by
  have hany : (text.toList.any fun c => decide (0x80 ≤ c.toNat)) = true ↔ ¬Text.IsAscii text := by
    simp [Text.IsAscii]
  unfold parse
  split
  case isTrue hempty =>
    have hnone := List.isEmpty_iff.mp hempty
    apply iff_of_false (by simp)
    intro h
    have hpos := h.1.pos
    simp [Text.utf8, hnone] at hpos
  case isFalse hempty =>
    have hpos := List.length_pos_iff.mpr (mt List.isEmpty_iff.mpr hempty)
    split
    case isTrue hlarge => exact iff_of_false (by simp) fun h => hany.mp hlarge h.1.isAscii
    case isFalse hsmall =>
      have hascii : Text.IsAscii text := Decidable.of_not_not (mt hany.mpr hsmall)
      have hlength := Text.length_utf8_eq_iff.mpr hascii
      split
      case isTrue hlong =>
        apply iff_of_false (by simp)
        intro h
        have hle := h.1.le
        omega
      case isFalse hshort =>
        rw [Except.ok.injEq]
        exact (and_iff_right ⟨hascii, by omega, by omega⟩).symm

theorem named_eq_ok_iff {text : String} {code : Code} :
    named text = .ok code ↔ Legible text ∧ ofText text = code := by
  rw [← parse_eq_ok_iff, named]
  cases parse text with
  | error flaw => simp [Except.mapError]
  | ok found => simp [Except.mapError]

theorem text_of_named {text : String} {code : Code} (h : named text = .ok code) :
    code.text = Text.unpadded text := by
  obtain ⟨hlegible, rfl⟩ := named_eq_ok_iff.mp h
  exact text_ofText_of_isAscii hlegible.le hlegible.isAscii

theorem significant_eq_nil_iff {c : Code} : c.significant = [] ↔ c = .zero := by
  constructor
  · intro h
    rw [← ofBytes_significant c, h]
    rfl
  · rintro rfl
    rfl

theorem isAscii_text_iff {c : Code} :
    Text.IsAscii c.text ↔ ∀ b ∈ c.toBytes, b.toNat < 0x80 := by
  obtain ⟨n, hn⟩ := Bytes.exists_eq_unpadded_append c.toBytes
  rw [← significant_eq] at hn
  simp only [Text.IsAscii, toList_text, List.forall_mem_map, Text.toNat_ofUInt8, hn,
    List.forall_mem_append]
  apply Iff.symm (and_iff_left _)
  intro b hb
  rw [List.eq_of_mem_replicate hb]
  decide

theorem utf8_text {c : Code} (h : Text.IsAscii c.text) : Text.utf8 c.text = c.significant := by
  apply Text.utf8_latin1
  intro b hb
  rw [← Text.toNat_ofUInt8]
  apply h
  rw [toList_text]
  exact List.mem_map_of_mem hb

theorem named_text_eq_ok_iff {c code : Code} :
    named c.text = .ok code ↔ (c ≠ .zero ∧ ∀ b ∈ c.toBytes, b.toNat < 0x80) ∧ c = code := by
  rw [named_eq_ok_iff, ← isAscii_text_iff]
  constructor
  · intro h
    obtain ⟨hlegible, rfl⟩ := h
    have hbytes := utf8_text hlegible.isAscii
    refine ⟨⟨?_, hlegible.isAscii⟩, ?_⟩
    · intro hzero
      have hpos := hlegible.pos
      rw [hbytes, significant_eq_nil_iff.mpr hzero] at hpos
      cases hpos
    · rw [ofText, hbytes, ofBytes_significant]
  · intro h
    obtain ⟨⟨hne, hascii⟩, rfl⟩ := h
    have hbytes := utf8_text hascii
    refine ⟨⟨hascii, ?_, ?_⟩, ?_⟩
    · rw [hbytes]
      exact List.length_pos_iff.mpr (mt significant_eq_nil_iff.mp hne)
    · rw [hbytes]
      exact length_significant_le c
    · rw [ofText, hbytes, ofBytes_significant]

/-- The texts that name codes are those of one to four ASCII characters; such a text comes back
without the NULs at its end. -/
theorem texts_of_codes :
    (∀ text, (∃ code, named text = .ok code) ↔ Legible text) ∧
    (∀ text code, named text = .ok code → code.text = Text.unpadded text) ∧
    (∀ text other code code', named text = .ok code → named other = .ok code' →
      (code = code' ↔ Text.unpadded text = Text.unpadded other)) ∧
    (∀ code : Code,
      (named code.text = .ok code ↔ code ≠ .zero ∧ ∀ b ∈ code.toBytes, b.toNat < 0x80) ∧
      ((∃ cause, named code.text = .error cause) ↔
        ¬(code ≠ .zero ∧ ∀ b ∈ code.toBytes, b.toNat < 0x80))) ∧
    ∀ text, (Text.utf8 text).length ≤ 4 →
      ((ofText text).text = text ↔
        Text.IsAscii text ∧ text.toList.getLast? ≠ some '\x00') := by
  refine ⟨fun text => ?_, fun _ _ => text_of_named, ?_, fun code => ?_,
    fun _ => text_ofText_eq_self_iff⟩
  · simp [named_eq_ok_iff]
  · intro text other code code' htext hother
    rw [← text_inj, text_of_named htext, text_of_named hother]
  · have hnamed := @named_text_eq_ok_iff code
    cases hread : named code.text with
    | ok found =>
        obtain ⟨hcondition, rfl⟩ := hnamed.mp hread
        exact ⟨iff_of_true rfl hcondition, iff_of_false (by simp) (not_not_intro hcondition)⟩
    | error cause =>
        have hcondition : ¬(code ≠ .zero ∧ ∀ b ∈ code.toBytes, b.toNat < 0x80) := by
          intro hcondition
          cases hread.symm.trans (hnamed.mpr ⟨hcondition, rfl⟩)
        exact ⟨iff_of_false (by simp) hcondition, iff_of_true ⟨cause, rfl⟩ hcondition⟩

end Code

end SmcKeys
