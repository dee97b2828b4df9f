import SmcKeys.Console.Report
import SmcKeys.Proofs.CodeText
import SmcKeys.Proofs.HexDigits

namespace SmcKeys

namespace Text

theorem utf8_inj {a b : String} : utf8 a = utf8 b ↔ a = b := by
  rw [← String.toByteArray_inj, ← String.utf8Encode_toList, ← String.utf8Encode_toList]
  exact List.toByteArray_inj.symm

section

variable {cs cs' rest rest' : List Char}

theorem takeWhile_append_eq_left {kind : Char → Bool} (hcs : ∀ c ∈ cs, kind c = true)
    (hrest : ∀ c ∈ rest.head?, kind c = false) : (cs ++ rest).takeWhile kind = cs := by
  rw [List.takeWhile_append_of_pos hcs]
  cases rest with
  | nil => rw [List.takeWhile_nil, List.append_nil]
  | cons c rest =>
      have hc : ¬kind c = true := by simp [hrest c rfl]
      rw [List.takeWhile_cons_of_neg hc, List.append_nil]

theorem decimal_append_inj {n m : Nat} (hrest : ∀ c ∈ rest.head?, c.isDigit = false)
    (hrest' : ∀ c ∈ rest'.head?, c.isDigit = false)
    (h : (toString n).toList ++ rest = (toString m).toList ++ rest') : n = m ∧ rest = rest' := by
  have hdigits : ∀ n : Nat, ∀ c ∈ Nat.toDigits 10 n, c.isDigit = true := fun _ _ hc =>
    Nat.isDigit_of_mem_toDigits (by decide) (by decide) hc
  simp only [Nat.toString_eq_ofList_toDigits, String.toList_ofList] at h
  have hsame : Nat.toDigits 10 n = Nat.toDigits 10 m := by
    rw [← takeWhile_append_eq_left (hdigits n) hrest, h,
      takeWhile_append_eq_left (hdigits m) hrest']
  rw [hsame] at h
  refine ⟨?_, List.append_cancel_left h⟩
  rw [← Nat.ofDigitChars_ten_toDigits (n := n), hsame, Nat.ofDigitChars_ten_toDigits]

/-- What is put between a label and a text in front of it would have the mark of the label in a
place where the label has none. -/
theorem eq_nil_of_label {mark : Char} {label : List Char} (hmark : mark ∉ label)
    (hcs : cs.length ≤ label.length) (h : mark :: (label ++ rest) = cs ++ mark :: rest') :
    cs = [] := by
  cases cs with
  | nil => rfl
  | cons c cs =>
      rw [List.cons_append, List.cons.injEq] at h
      have hplace : cs.length < label.length := hcs
      -- The mark behind the text falls on a place of the label.
      have hfound : (label ++ rest)[cs.length]? = some mark := by
        rw [h.2, List.getElem?_append_right (Nat.le_refl _), Nat.sub_self]
        rfl
      rw [List.getElem?_append_left hplace] at hfound
      exact absurd (List.mem_of_getElem? hfound) hmark

theorem append_label_inj {mark : Char} {label : List Char} (hmark : mark ∉ label)
    (hcs : cs.length ≤ label.length) (hcs' : cs'.length ≤ label.length)
    (h : cs ++ mark :: (label ++ rest) = cs' ++ mark :: (label ++ rest')) :
    cs = cs' ∧ rest = rest' := by
  have hsame : cs = cs' := by
    rcases List.append_eq_append_iff.mp h with ⟨more, rfl, hmore⟩ | ⟨more, rfl, hmore⟩
    · rw [List.length_append] at hcs'
      rw [eq_nil_of_label hmark (Nat.le_trans (Nat.le_add_left _ _) hcs') hmore, List.append_nil]
    · rw [List.length_append] at hcs
      rw [eq_nil_of_label hmark (Nat.le_trans (Nat.le_add_left _ _) hcs) hmore, List.append_nil]
  rw [hsame] at h
  exact ⟨hsame, List.append_cancel_left (List.cons.inj (List.append_cancel_left h)).2⟩

end

namespace Hex

theorem encode_inj {bs cs : List UInt8} : encode bs = encode cs ↔ bs = cs := by
  constructor
  · intro h
    have hread := decode_encode bs
    rw [h, decode_encode cs] at hread
    exact (Except.ok.inj hread).symm
  · exact congrArg encode

theorem letters_inj {bs cs : List UInt8} (h : letters bs = letters cs) : bs = cs :=
  encode_inj.mp (congrArg String.ofList h)

theorem number_inj {width n m : Nat} (hn : n < Bytes.limit width) (hm : m < Bytes.limit width)
    (h : number width n = number width m) : n = m := by
  have hdigits := List.reverse_injective (encode_inj.mp ((String.append_right_inj "0x").mp h))
  rw [← Nat.mod_eq_of_lt hn, ← Nat.mod_eq_of_lt hm, ← Bytes.value_digits, ← Bytes.value_digits,
    hdigits]

end Hex

end Text

theorem Code.text_append_inj {a b : Code} {mark : Char} {label rest rest' : List Char}
    (hmark : mark ∉ label) (hlabel : 4 ≤ label.length)
    (h : a.text.toList ++ mark :: (label ++ rest) = b.text.toList ++ mark :: (label ++ rest')) :
    a = b ∧ rest = rest' := by
  have hshort : ∀ c : Code, c.text.toList.length ≤ label.length := by
    intro c
    rw [toList_text, List.length_map]
    exact Nat.le_trans c.length_significant_le hlabel
  obtain ⟨hsame, hrest⟩ := Text.append_label_inj hmark (hshort a) (hshort b) h
  exact ⟨text_inj.mp (String.toList_inj.mp hsame), hrest⟩

end SmcKeys
