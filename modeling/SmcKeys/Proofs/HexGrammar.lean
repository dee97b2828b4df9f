import SmcKeys.Proofs.HexDigits

namespace SmcKeys

namespace Console

open Text.Hex (Spells)

def marks : List String := ["", "0x", "0X"]

structure Denotes (text mark : String) (bytes : List UInt8) : Prop where
  mark_mem : mark ∈ marks
  exists_digits : ∃ digits, digits ≠ [] ∧ text.toList = mark.toList ++ digits ∧ Spells digits bytes

theorem exists_mark (cs : List Char) : ∃ mark ∈ marks, cs = mark.toList ++ stripMark cs := by
  unfold stripMark
  split
  · exact ⟨"0x", by decide, rfl⟩
  · exact ⟨"0X", by decide, rfl⟩
  · exact ⟨"", by decide, rfl⟩

theorem stripMark_append {mark : String} {digits : List Char} {bytes : List UInt8}
    (hmark : mark ∈ marks) (h : Spells digits bytes) :
    stripMark (mark.toList ++ digits) = digits := by
  simp only [marks, List.mem_cons, List.not_mem_nil, or_false] at hmark
  rcases hmark with rfl | rfl | rfl
  · -- The second of the digits is not the letter that ends a mark.
    change stripMark digits = digits
    unfold stripMark
    split
    · cases h with
      | cons hhigh hlow hrest => exact absurd rfl hlow.ne_mark.1
    · cases h with
      | cons hhigh hlow hrest => exact absurd rfl hlow.ne_mark.2
    · rfl
  · rfl
  · rfl

theorem Denotes.spells {text mark : String} {bytes : List UInt8}
    (h : Denotes text mark bytes) :
    text.toList = mark.toList ++ stripMark text.toList ∧
      stripMark text.toList ≠ [] ∧ Spells (stripMark text.toList) bytes := by
  obtain ⟨digits, hdigits, htext, hspells⟩ := h.exists_digits
  have hstripped := stripMark_append h.mark_mem hspells
  rw [← htext] at hstripped
  rw [hstripped]
  exact ⟨htext, hdigits, hspells⟩

theorem Denotes.unique {text mark mark' : String} {bytes bytes' : List UInt8}
    (h : Denotes text mark bytes) (h' : Denotes text mark' bytes') :
    mark = mark' ∧ bytes = bytes' := by
  constructor
  · rw [← String.toList_inj]
    exact List.append_cancel_right (h.spells.1.symm.trans h'.spells.1)
  · exact h.spells.2.2.unique h'.spells.2.2

variable {kit : Kit}

theorem Kit.Hexadecimal.bytesArgument_eq_ok_iff (h : kit.Hexadecimal) {text : String}
    {bytes : List UInt8} :
    kit.bytesArgument text = .ok bytes ↔ ∃ mark, Denotes text mark bytes := by
  rw [h.bytesArgument_eq_ok_iff_spells]
  constructor
  · intro hread
    obtain ⟨hdigits, hspells⟩ := hread
    obtain ⟨mark, hmark, htext⟩ := exists_mark text.toList
    exact ⟨mark, hmark, _, hdigits, htext, hspells⟩
  · intro hread
    obtain ⟨mark, hdenotes⟩ := hread
    exact hdenotes.spells.2

/-- An argument is read as the bytes that it denotes, of which there are none or one; all else is an
error of usage. -/
theorem bytes_denoted_by_argument (h : kit.Hexadecimal) :
    (∀ text bytes, kit.bytesArgument text = .ok bytes ↔ ∃ mark, Denotes text mark bytes) ∧
    (∀ text mark mark' bytes bytes', Denotes text mark bytes → Denotes text mark' bytes' →
      mark = mark' ∧ bytes = bytes') ∧
    (∀ text, (¬∃ mark bytes, Denotes text mark bytes) ↔
      ∃ trouble, kit.bytesArgument text = .error trouble ∧ trouble.complaint.exit.code = 64) ∧
    ∀ bytes mark digits, bytes ≠ [] → mark ∈ marks →
      List.Forall₂ (fun letter c => c = letter ∨ c = letter.toUpper)
        (kit.writeHex bytes).toList digits →
      kit.bytesArgument (mark ++ String.ofList digits) = .ok bytes := by
  refine ⟨fun _ _ => h.bytesArgument_eq_ok_iff, fun _ _ _ _ _ => Denotes.unique, ?_, ?_⟩
  · intro text
    constructor
    · intro hnone
      cases hread : kit.bytesArgument text with
      | ok bytes =>
          obtain ⟨mark, hdenotes⟩ := h.bytesArgument_eq_ok_iff.mp hread
          exact absurd ⟨mark, bytes, hdenotes⟩ hnone
      | error trouble =>
          refine ⟨trouble, rfl, ?_⟩
          rw [(ofArgument_of_bytesArgument hread).exit]
          rfl
    · intro hread hdenotes
      obtain ⟨trouble, hread, -⟩ := hread
      obtain ⟨mark, bytes, hdenotes⟩ := hdenotes
      cases hread.symm.trans (h.bytesArgument_eq_ok_iff.mpr ⟨mark, hdenotes⟩)
  · intro bytes mark digits hbytes hmark hdigits
    rw [h.written] at hdigits
    have hspells := Text.Hex.spells_letters hdigits
    refine h.bytesArgument_eq_ok_iff.mpr ⟨mark, hmark, digits, ?_, ?_, hspells⟩
    · rintro rfl
      cases hspells
      exact hbytes rfl
    · rw [String.toList_append, String.toList_ofList]

/-- Two bytes are read from letters of both cases, and of three digits none are. -/
theorem mixed_cases_read_and_odd_count_refused :
    let kit := Kit.standard false
    kit.Hexadecimal ∧ kit.bytesArgument "0X2a8F" = .ok [0x2a, 0x8f] ∧
      ∃ trouble, kit.bytesArgument "0x2a8" = .error trouble ∧
        trouble.complaint.exit.code = 64 := by
  intro kit
  have hkit : kit.Hexadecimal := Kit.hexadecimal_standard false
  obtain ⟨hread, -, hrefused, hwritten⟩ := bytes_denoted_by_argument hkit
  refine ⟨hkit, ?_, (hrefused _).mp ?_⟩
  · exact hwritten [0x2a, 0x8f] "0X" ['2', 'a', '8', 'F'] (by simp) (by decide)
      (by decide +kernel)
  · rintro ⟨mark, bytes, hdenotes⟩
    cases (show kit.bytesArgument "0x2a8" = .error (.badHex "0x2a8" "Odd number of digits")
      from rfl).symm.trans ((hread _ _).mpr ⟨mark, hdenotes⟩)

end Console

end SmcKeys
