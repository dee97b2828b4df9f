import Mathlib.Data.String.Basic
import SmcKeys.Proofs.CodeText

/-!
Zeros at the end of a code are less than anything that could stand there, as the end of a name is.
-/

namespace SmcKeys

namespace Bytes

theorem value_append (bs cs : List UInt8) :
    value (bs ++ cs) = value bs + limit bs.length * value cs := by
  induction bs with
  | nil => simp
  | cons b bs ih =>
      rw [List.cons_append, value_cons, ih, value_cons, List.length_cons, limit_succ, Nat.mul_add,
        Nat.mul_assoc, Nat.add_assoc]

theorem add_mul_lt_iff {base low low' high high' : Nat} (hlow : low < base) (hlow' : low' < base) :
    low + base * high < low' + base * high' ↔ high < high' ∨ high = high' ∧ low < low' := by
  rcases Nat.lt_trichotomy high high' with hless | rfl | hmore
  · have hstep := Nat.mul_le_mul_left base (Nat.succ_le_of_lt hless)
    rw [Nat.mul_succ] at hstep
    exact iff_of_true (by omega) (.inl hless)
  · simp
  · have hstep := Nat.mul_le_mul_left base (Nat.succ_le_of_lt hmore)
    rw [Nat.mul_succ] at hstep
    exact iff_of_false (by omega) (by omega)

theorem value_reverse_lt_iff {bs cs : List UInt8} (h : bs.length = cs.length) :
    value bs.reverse < value cs.reverse ↔ bs < cs := by
  induction bs generalizing cs with
  | nil =>
      obtain rfl := List.length_eq_zero_iff.mp h.symm
      simp
  | cons b bs ih =>
      cases cs with
      | nil => cases h
      | cons c cs =>
          have hrest : bs.length = cs.length := Nat.succ.inj h
          have hbs := value_lt bs.reverse
          have hcs := value_lt cs.reverse
          rw [List.length_reverse] at hbs hcs
          rw [← hrest] at hcs
          simp only [List.reverse_cons, value_append, List.length_reverse, value_cons, value_nil,
            Nat.mul_zero, Nat.add_zero]
          rw [← hrest, add_mul_lt_iff hbs hcs, ih hrest, List.cons_lt_cons_iff,
            UInt8.lt_iff_toNat_lt, UInt8.toNat_inj]

theorem unpadded_cons (b : UInt8) (bs : List UInt8) :
    unpadded (b :: bs) = if unpadded bs = [] ∧ b = 0 then [] else b :: unpadded bs := by
  simp only [unpadded, List.rdropWhile, List.reverse_cons, List.dropWhile_append,
    List.reverse_eq_nil_iff, List.isEmpty_iff]
  by_cases hbs : bs.reverse.dropWhile (· == 0) = []
  · by_cases hb : b = 0
    · simp [hbs, hb]
    · simp [hbs, hb]
  · simp [hbs]

theorem nil_lt_of_ne_nil {bs : List UInt8} (h : bs ≠ []) : [] < bs := by
  cases bs with
  | nil => exact absurd rfl h
  | cons b bs => exact List.nil_lt_cons b bs

/-- Of two byte strings of one length, one that goes on with nothing but zeros is not the greater
one. -/
theorem unpadded_lt_iff {bs cs : List UInt8} (h : bs.length = cs.length) :
    unpadded bs < unpadded cs ↔ bs < cs := by
  induction bs generalizing cs with
  | nil =>
      obtain rfl := List.length_eq_zero_iff.mp h.symm
      rfl
  | cons b bs ih =>
      cases cs with
      | nil => cases h
      | cons c cs =>
          rw [unpadded_cons, unpadded_cons, List.cons_lt_cons_iff, ← ih (Nat.succ.inj h)]
          by_cases hbs : unpadded bs = [] ∧ b = 0
          · by_cases hcs : unpadded cs = [] ∧ c = 0
            · simp [hbs, hcs]
            -- One text ends here, and the other one goes on with more than zeros.
            · rw [if_pos hbs, if_neg hcs, hbs.1, hbs.2]
              apply iff_of_true (List.nil_lt_cons c _)
              by_cases hc : c = 0
              · exact .inr ⟨hc.symm, nil_lt_of_ne_nil fun hnil => hcs ⟨hnil, hc⟩⟩
              · exact .inl (UInt8.pos_iff_ne_zero.mpr hc)
          · by_cases hcs : unpadded cs = [] ∧ c = 0
            · rw [if_neg hbs, if_pos hcs, hcs.1, hcs.2]
              simp
            · rw [if_neg hbs, if_neg hcs, List.cons_lt_cons_iff]

end Bytes

theorem Text.map_ofUInt8_lt_iff {bs cs : List UInt8} :
    bs.map Char.ofUInt8 < cs.map Char.ofUInt8 ↔ bs < cs := by
  induction bs generalizing cs with
  | nil =>
      cases cs with
      | nil => simp
      | cons c cs => simp
  | cons b bs ih =>
      cases cs with
      | nil => simp
      | cons c cs =>
          have hbyte : Char.ofUInt8 b < Char.ofUInt8 c ↔ b < c := by
            rw [UInt8.lt_iff_toNat_lt, ← toNat_ofUInt8, ← toNat_ofUInt8]
            exact UInt32.lt_iff_toNat_lt
          rw [List.map_cons, List.map_cons, List.cons_lt_cons_iff, List.cons_lt_cons_iff, ih, hbyte,
            ofUInt8_inj]

namespace Code

theorem value_reverse_toBytes (c : Code) : Bytes.value c.toBytes.reverse = c.number.toNat := by
  rw [toBytes, List.reverse_reverse, Bytes.value_digits]
  exact Nat.mod_eq_of_lt c.number.toNat_lt

theorem lt_iff_toBytes_lt {a b : Code} : a < b ↔ a.toBytes < b.toBytes := by
  rw [← Bytes.value_reverse_lt_iff (a.length_toBytes.trans b.length_toBytes.symm),
    value_reverse_toBytes, value_reverse_toBytes]
  exact UInt32.lt_iff_toNat_lt

theorem lt_iff_text_lt {a b : Code} : a < b ↔ a.text < b.text := by
  have hlength : a.toBytes.length = b.toBytes.length :=
    a.length_toBytes.trans b.length_toBytes.symm
  rw [lt_iff_toBytes_lt, ← Bytes.unpadded_lt_iff hlength, ← significant_eq, ← significant_eq,
    ← Text.map_ofUInt8_lt_iff, ← toList_text, ← toList_text, String.lt_iff_toList_lt]

theorem le_iff_text_le {a b : Code} : a ≤ b ↔ a.text ≤ b.text := by
  have hle : a ≤ b ↔ ¬b < a := UInt32.not_lt.symm
  rw [hle, lt_iff_text_lt, not_lt]

/-- Sorting by names, which cannot tell apart what sorting by codes does not. -/
theorem mergeSort_text (codes : List Code) :
    codes.mergeSort (fun a b => decide (a.text ≤ b.text)) = sort codes := by
  simp only [sort, le_iff_text_le]

theorem pairwise_sort (codes : List Code) :
    (sort codes).Pairwise fun a b => a.text ≤ b.text := by
  rw [← mergeSort_text]
  apply List.Pairwise.imp of_decide_eq_true
  apply List.pairwise_mergeSort
  · intro a b c hab hbc
    exact decide_eq_true (le_trans (of_decide_eq_true hab) (of_decide_eq_true hbc))
  · intro a b
    simpa using le_total a.text b.text

theorem eq_sort_iff {codes sorted : List Code} :
    sorted = sort codes ↔
      sorted.Perm codes ∧ sorted.Pairwise fun a b => a.text ≤ b.text := by
  have hperm : (sort codes).Perm codes := List.mergeSort_perm codes _
  constructor
  · rintro rfl
    exact ⟨hperm, pairwise_sort codes⟩
  · intro h
    obtain ⟨hsame, hsorted⟩ := h
    apply List.Perm.eq_of_pairwise _ hsorted (pairwise_sort codes) (hsame.trans hperm.symm)
    intro a b _ _ hab hba
    exact text_inj.mp (le_antisymm hab hba)

/-- Codes are ordered as their names are, and no two of them have one name. -/
theorem order_of_names :
    (∀ a b : Code, a < b ↔ a.text < b.text) ∧ Function.Injective text ∧
    ∀ codes : List Code,
      codes.mergeSort (fun a b => decide (a.text ≤ b.text)) = sort codes ∧
      (sort codes).map text = (codes.map text).mergeSort ∧
      ∀ sorted : List Code, sorted = sort codes ↔
        sorted.Perm codes ∧ sorted.Pairwise fun a b => a.text ≤ b.text := by
  refine ⟨fun a b => lt_iff_text_lt, fun a b => text_inj.mp, fun codes => ⟨mergeSort_text codes, ?_,
    fun sorted => eq_sort_iff⟩⟩
  apply List.map_mergeSort
  intro a _ b _
  simp only [le_iff_text_le]

end Code

end SmcKeys
