import SmcKeys.Console.Session
import SmcKeys.Proofs.JsonObject

namespace SmcKeys.Console

open Text (decimal_append_inj)
open Text.Hex (number_inj)
open Text.Json (Legible Scalar)

theorem Printed.toBytes_line_inj {a b : String} :
    (Printed.line a).toBytes = (Printed.line b).toBytes ↔ a = b := by
  rw [Printed.line, Printed.line, toBytes, toBytes, Text.utf8_inj]
  exact String.append_left_inj "\n"

theorem Kit.Hexadecimal.writeHex_injective {kit : Kit} (h : kit.Hexadecimal) :
    Function.Injective kit.writeHex := by
  intro bytes bytes' hsame
  apply Text.Hex.letters_inj
  rw [← h.written, ← h.written, hsame]

namespace Report

theorem attributesText_inj {info info' : KeyInfo} :
    attributesText info = attributesText info' ↔ info.attributes = info'.attributes := by
  constructor
  · intro h
    have hlimit : ∀ b : UInt8, b.toNat < Bytes.limit 1 := UInt8.toNat_lt
    exact UInt8.toNat_inj.mp (number_inj (hlimit _) (hlimit _) h)
  · intro h
    rw [attributesText, attributesText, h]

variable {kit : Kit}

def shapeLetters (key type : Code) (size : UInt32) (rest : List Char) : List Char :=
  "key=".toList ++ (key.text.toList ++ ' ' :: ("type=".toList ++ (type.text.toList ++
    ' ' :: ("size=".toList ++ ((toString size.toNat).toList ++ ' ' :: rest)))))

theorem shapeLetters_inj {key key' type type' : Code} {size size' : UInt32}
    {rest rest' : List Char}
    (h : shapeLetters key type size rest = shapeLetters key' type' size' rest') :
    key = key' ∧ type = type' ∧ size = size' ∧ rest = rest' := by
  have hblank : ∀ rest : List Char, ∀ c ∈ (' ' :: rest).head?, c.isDigit = false := by simp
  obtain ⟨hkey, hrest⟩ := Code.text_append_inj (by decide) (by decide) (List.append_cancel_left h)
  obtain ⟨htype, hrest⟩ := Code.text_append_inj (by decide) (by decide) hrest
  obtain ⟨hsize, hrest⟩ := decimal_append_inj (hblank rest) (hblank rest') hrest
  exact ⟨hkey, htype, UInt32.toNat_inj.mp hsize, (List.cons.inj hrest).2⟩

theorem line_value_inj (hhex : Function.Injective kit.writeHex) {v v' : Value}
    (h : (kit.showValue v .pretty).toBytes = (kit.showValue v' .pretty).toBytes) :
    v.key = v'.key ∧ v.type = v'.type ∧ v.size = v'.size ∧ v.significant = v'.significant := by
  rw [Kit.showValue, Kit.showValue, Printed.toBytes_line_inj, ← String.toList_inj] at h
  simp only [String.toList_append, List.append_assoc] at h
  obtain ⟨hkey, htype, hsize, hrest⟩ := shapeLetters_inj h
  refine ⟨hkey, htype, hsize, hhex ?_⟩
  exact String.toList_inj.mp (List.append_cancel_left hrest)

theorem object_value_inj (hquote : Legible kit.quote) (hhex : Function.Injective kit.writeHex)
    {v v' : Value} (h : (kit.showValue v .json).toBytes = (kit.showValue v' .json).toBytes) :
    v.key = v'.key ∧ v.type = v'.type ∧ v.size = v'.size ∧ v.significant = v'.significant := by
  rw [Kit.showValue, Kit.showValue, Printed.toBytes_line_inj, Kit.object, Kit.object,
    hquote.object_inj] at h
  simp only [List.cons.injEq, Prod.mk.injEq, Scalar.string.injEq, Scalar.number.injEq, true_and,
    and_true] at h
  obtain ⟨hkey, htype, hsize, hdata⟩ := h
  exact ⟨Code.text_inj.mp hkey, Code.text_inj.mp htype, UInt32.toNat_inj.mp hsize,
    hhex hdata⟩

theorem line_info_inj {key key' : Code} {info info' : KeyInfo}
    (h : infoLine key info = infoLine key' info') : key = key' ∧ info = info' := by
  rw [infoLine, infoLine, ← String.toList_inj] at h
  simp only [String.toList_append, List.append_assoc] at h
  obtain ⟨hkey, htype, hsize, hrest⟩ := shapeLetters_inj h
  have hattributes := attributesText_inj.mp (String.toList_inj.mp (List.append_cancel_left hrest))
  exact ⟨hkey, KeyInfo.ext hsize htype hattributes⟩

theorem object_info_inj (hquote : Legible kit.quote) {key key' : Code} {info info' : KeyInfo}
    (h : (kit.showInfo key info .json).toBytes = (kit.showInfo key' info' .json).toBytes) :
    key = key' ∧ info = info' := by
  rw [Kit.showInfo, Kit.showInfo, Printed.toBytes_line_inj, Kit.object, Kit.object,
    hquote.object_inj] at h
  simp only [List.cons.injEq, Prod.mk.injEq, Scalar.string.injEq, Scalar.number.injEq, true_and,
    and_true] at h
  obtain ⟨hkey, htype, hsize, hattributes⟩ := h
  exact ⟨Code.text_inj.mp hkey, KeyInfo.ext (UInt32.toNat_inj.mp hsize) (Code.text_inj.mp htype)
    (attributesText_inj.mp hattributes)⟩

theorem line_index_inj (kit : Kit) {place place' : UInt32} {key key' : Code}
    (h : (kit.showIndex place key .pretty).toBytes =
      (kit.showIndex place' key' .pretty).toBytes) : place = place' ∧ key = key' := by
  rw [Kit.showIndex, Kit.showIndex, Printed.toBytes_line_inj, ← String.toList_inj] at h
  simp only [String.toList_append, List.append_assoc] at h
  obtain ⟨hplace, hrest⟩ := decimal_append_inj (by simp) (by simp) (List.append_cancel_left h)
  have hmark : ' ' ∉ "code=".toList := by decide
  obtain ⟨hkey, -⟩ := Code.text_append_inj hmark (by decide) (List.append_cancel_left hrest)
  exact ⟨UInt32.toNat_inj.mp hplace, hkey⟩

theorem object_index_inj (hquote : Legible kit.quote) {place place' : UInt32} {key key' : Code}
    (h : (kit.showIndex place key .json).toBytes = (kit.showIndex place' key' .json).toBytes) :
    place = place' ∧ key = key' := by
  rw [Kit.showIndex, Kit.showIndex, Printed.toBytes_line_inj, Kit.object, Kit.object,
    hquote.object_inj] at h
  simp only [List.cons.injEq, Prod.mk.injEq, Scalar.string.injEq, Scalar.number.injEq, true_and,
    and_true] at h
  obtain ⟨hplace, hkey, -⟩ := h
  exact ⟨UInt32.toNat_inj.mp hplace, Code.text_inj.mp hkey⟩

/-- Two outputs of one format, objects or plain lines, are the same if and only if the reports say
the same. -/
theorem printed_tells_contents (hquote : Legible kit.quote)
    (hhex : Function.Injective kit.writeHex) {format : Format}
    (hformat : format = .json ∨ format = .pretty) :
    (∀ v v' : Value,
      (kit.print format (.value v)).toBytes = (kit.print format (.value v')).toBytes ↔
        v.key = v'.key ∧ v.type = v'.type ∧ v.size = v'.size ∧ v.significant = v'.significant) ∧
    (∀ key key' info info',
      (kit.print format (.info key info)).toBytes =
          (kit.print format (.info key' info')).toBytes ↔ key = key' ∧ info = info') ∧
    ∀ place place' key key',
      (kit.print format (.index place key)).toBytes =
          (kit.print format (.index place' key')).toBytes ↔ place = place' ∧ key = key' := by
  refine ⟨fun v v' => ⟨fun h => ?_, fun h => ?_⟩, fun key key' info info' => ⟨fun h => ?_, ?_⟩,
    fun place place' key key' => ⟨fun h => ?_, ?_⟩⟩
  · rcases hformat with rfl | rfl
    · exact object_value_inj hquote hhex h
    · exact line_value_inj hhex h
  · obtain ⟨hkey, htype, hsize, hdata⟩ := h
    rcases hformat with rfl | rfl
    all_goals simp only [Kit.print, Kit.showValue, hkey, htype, hsize, hdata]
  · rcases hformat with rfl | rfl
    · exact object_info_inj hquote h
    · exact line_info_inj (Printed.toBytes_line_inj.mp h)
  · rintro ⟨rfl, rfl⟩
    rfl
  · rcases hformat with rfl | rfl
    · exact object_index_inj hquote h
    · exact line_index_inj kit h
  · rintro ⟨rfl, rfl⟩
    rfl

/-- A key whose text looks like the label behind it is told from a shorter one. -/
theorem label_in_key_told_apart :
    let kit := Kit.standard false
    let labelled : Value := { key := ⟨0x78207479⟩, size := 0, type := ⟨0x75693820⟩ }
    let short : Value := { key := ⟨0x78000000⟩, size := 0, type := ⟨0x75693820⟩ }
    Legible kit.quote ∧ Function.Injective kit.writeHex ∧
      (kit.print .pretty (.value labelled)).toBytes ≠
        (kit.print .pretty (.value short)).toBytes := by
  intro kit labelled short
  have hquote : Legible kit.quote := Text.Json.legible_quote
  have hhex : Function.Injective kit.writeHex := (Kit.hexadecimal_standard false).writeHex_injective
  refine ⟨hquote, hhex, fun hsame => ?_⟩
  obtain ⟨hkey, -⟩ :=
    ((printed_tells_contents hquote hhex (.inr rfl)).1 labelled short).mp hsame
  exact absurd hkey (by decide)

end Report

end SmcKeys.Console
