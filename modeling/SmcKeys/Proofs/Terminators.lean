import Mathlib.Data.List.Forall2
import SmcKeys.Proofs.ForeignRun

namespace SmcKeys.Foreign

open Client (Job)

namespace KeyText

def endingIn (b : UInt8) (t : KeyText) : KeyText :=
  ⟨t.bytes.set 4 b⟩

@[simp] theorem code_endingIn (b : UInt8) (t : KeyText) : (t.endingIn b).code = t.code := by
  rw [code, code, endingIn, Vector.toList_set, List.take_set_of_le (Nat.le_refl 4)]

theorem ofCode_code (t : KeyText) : ofCode t.code = t.endingIn 0 := by
  have hlength : t.bytes.toList.length = 5 := Vector.length_toList
  have htake : (t.bytes.toList.take 4).length = 4 := by rw [List.length_take, hlength]; rfl
  have hterminated : (t.bytes.toList.take 4 ++ [0]).length = 5 := by
    rw [List.length_append, htake]
    rfl
  rw [ofCode, endingIn, KeyText.mk.injEq, ← Vector.toList_inj, code, Code.toTerminated,
    Code.toBytes_ofBytes htake, Bytes.toList_padded hterminated, Vector.toList_set,
    List.set_eq_take_append_cons_drop, if_pos (by omega), List.drop_eq_nil_of_le (by omega)]

end KeyText

namespace Value

def endingIn (b c : UInt8) (v : Value) : Value :=
  { v with key := v.key.endingIn b, type := v.type.endingIn c }

@[simp] theorem toValue_endingIn (b c : UInt8) (v : Value) :
    (v.endingIn b c).toValue = v.toValue := by
  simp [toValue, endingIn]

theorem ofValue_toValue (v : Value) : ofValue v.toValue = v.endingIn 0 0 := by
  simp only [ofValue, toValue, endingIn, KeyText.ofCode_code]

end Value

/-- The same call, but for the fifth bytes of the texts that it passes. -/
inductive Request.Resembles : Request → Request → Prop where
  | readKey (b : UInt8) (key : KeyText) (out : Option Value) (number : UInt32) :
      Resembles (.readKey (some key) out number) (.readKey (some (key.endingIn b)) out number)
  | writeKey (b c : UInt8) (value : Value) (number : UInt32) :
      Resembles (.writeKey (some value) number) (.writeKey (some (value.endingIn b c)) number)
  | codeOfText (b : UInt8) (text : KeyText) :
      Resembles (.codeOfText (some text)) (.codeOfText (some (text.endingIn b)))
  | same (request : Request) : Resembles request request

section

variable {service : Service (Process τ)}

theorem Request.Resembles.job? {request request' : Request} (h : request.Resembles request') :
    request'.job? = request.job? := by
  cases h with
  | readKey b key out number =>
      cases out with
      | none => rfl
      | some before => simp only [Request.job?, KeyText.code_endingIn]
  | writeKey b c value number => simp only [Request.job?, Value.toValue_endingIn]
  | codeOfText b text => rfl
  | same => rfl

theorem Request.Resembles.sent {request request' : Request} (h : request.Resembles request')
    (p : Process τ) : request'.sent service p = request.sent service p := by
  simp only [Request.sent, h.job?]

theorem Request.Resembles.perform {request request' : Request} (h : request.Resembles request')
    (p : Process τ) : request'.perform service p = request.perform service p := by
  cases h with
  | readKey b key out number =>
      cases out with
      | none => rfl
      | some before => simp only [Request.perform, Foreign.readKey, KeyText.code_endingIn]
  | writeKey b c value number =>
      simp only [Request.perform, Foreign.writeKey, Value.toValue_endingIn]
  | codeOfText b text => simp only [Request.perform, Foreign.codeOfText, KeyText.code_endingIn]
  | same => rfl

theorem run_of_resembles {requests requests' : List Request}
    (h : List.Forall₂ Request.Resembles requests requests') (p : Process τ) :
    run service requests' p = run service requests p := by
  induction h generalizing p with
  | nil => rfl
  | cons hfirst hrest ih => simp only [run, hfirst.perform, hfirst.sent, ih]

/-- What is in the output of a read before the call only shows if the read writes nothing. -/
theorem readKey_of_outputs (key : Option KeyText) (before before' : Value) (number : UInt32)
    (p : Process τ) :
    let here := readKey service key (some before) number p
    let there := readKey service key (some before') number p
    there.2 = here.2 ∧ there.1.status = here.1.status ∧
      (there.1.out = here.1.out ∨ here.1.out = some before ∧ there.1.out = some before') := by
  cases key with
  | none => exact ⟨rfl, rfl, .inr ⟨rfl, rfl⟩⟩
  | some key =>
      simp only [readKey]
      obtain ⟨outcome, q⟩ :=
        perform service number (Client.readInto {} key.code (.empty key.code)) p.clearError
      -- The buffer of the read is always made anew, so only a panic lets the output show.
      cases outcome with
      | returned reading => exact ⟨rfl, rfl, .inl rfl⟩
      | panicked => exact ⟨rfl, rfl, .inr ⟨rfl, rfl⟩⟩

end

/-- The first round trip loses nothing and the second one the fifth bytes, which no program can tell
apart. -/
theorem values_lose_only_fifth_bytes (service : Service (Process τ)) :
    (∀ v : SmcKeys.Value, (Value.ofValue v).toValue = v) ∧
    (∀ v : Value, Value.ofValue v.toValue = v.endingIn 0 0) ∧
    (∀ code before, codeOfText (textOfCode code (some before)) = code) ∧
    (∀ requests requests' p, List.Forall₂ Request.Resembles requests requests' →
      run service requests' p = run service requests p) ∧
    ∀ key before before' number p,
      let here := readKey service key (some before) number p
      let there := readKey service key (some before') number p
      Request.sent service p (.readKey key (some before') number) =
          Request.sent service p (.readKey key (some before) number) ∧
        there.2 = here.2 ∧ there.1.status = here.1.status ∧
        (there.1.out = here.1.out ∨ here.1.out = some before ∧ there.1.out = some before') := by
  refine ⟨Value.toValue_ofValue, Value.ofValue_toValue, ?_, ?_, ?_⟩
  · intro code before
    exact congrArg Code.number (KeyText.code_ofCode ⟨code⟩)
  · intro requests requests' p h
    exact run_of_resembles h p
  · intro key before before' number p
    refine ⟨?_, readKey_of_outputs key before before' number p⟩
    cases key with
    | none => rfl
    | some key => rfl

end SmcKeys.Foreign
