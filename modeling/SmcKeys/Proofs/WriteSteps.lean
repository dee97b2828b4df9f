import SmcKeys.Proofs.Alone
import SmcKeys.Proofs.CommandFailures

namespace SmcKeys

open Operation (calls)
open Client (declared infoRequest verdict writeRequest writeAfter)

def Value.ofFitting (key type : Code) (bytes : List UInt8) : Value where
  key := key
  size := UInt32.ofNat bytes.length
  type := type
  data := Bytes.padded capacity bytes

namespace Value

variable {key : Code} {bytes : List UInt8}

theorem ofBytes_of_fits (h : bytes.length ≤ capacity) (key type : Code) :
    ofBytes key type bytes = .ok (ofFitting key type bytes) :=
  if_neg (Nat.not_lt.mpr h)

theorem toNat_size_ofFitting (h : bytes.length ≤ capacity) (key type : Code) :
    (ofFitting key type bytes).size.toNat = bytes.length :=
  UInt32.toNat_ofNat_of_lt' (Nat.lt_of_le_of_lt h (by decide))

theorem toShape_ofFitting_iff (h : bytes.length ≤ capacity) (key : Code) (info : KeyInfo) :
    info.toShape = (ofFitting key info.type bytes).toShape ↔
      info.size.toNat = bytes.length := by
  rw [Shape.ext_iff, ← toNat_size_ofFitting h key info.type, UInt32.toNat_inj]
  exact and_iff_left rfl

end Value

namespace Console.Command

/-- The ways of a write to a key that nothing is known about, with the calls that it makes. -/
inductive Writing (key : Code) (bytes : List UInt8) :
    List Call → Outcome (Except Trouble Report) → Prop where
  | interrupted : Writing key bytes [⟨2, (infoRequest key).encode, .panicked⟩] .panicked
  | unknown {answer : Answer} {failure : Failure}
      (hdeclared : declared key answer = .error failure) :
      Writing key bytes [⟨2, (infoRequest key).encode, .returned answer⟩]
        (.returned (.error (.infoFailed key failure)))
  | oversized {answer : Answer} {info : KeyInfo} (hdeclared : declared key answer = .ok info)
      (hsize : capacity < bytes.length) :
      Writing key bytes [⟨2, (infoRequest key).encode, .returned answer⟩]
        (.returned (.error (.badValue key (.oversized bytes.length capacity))))
  | mismatched {answer : Answer} {info : KeyInfo} (hdeclared : declared key answer = .ok info)
      (hfits : bytes.length ≤ capacity) (hsize : info.size.toNat ≠ bytes.length) :
      Writing key bytes [⟨2, (infoRequest key).encode, .returned answer⟩]
        (.returned (.error (.writeFailed key
          (.mismatch key info.toShape (Value.ofFitting key info.type bytes).toShape))))
  | sent {answer : Answer} {info : KeyInfo} (hdeclared : declared key answer = .ok info)
      (hfits : bytes.length ≤ capacity) (hsize : info.size.toNat = bytes.length) {value : Value}
      (hvalue : value = .ofFitting key info.type bytes) (reply : Outcome Answer) :
      Writing key bytes
        [⟨2, (infoRequest key).encode, .returned answer⟩, ⟨2, (writeRequest value).encode, reply⟩]
        (reply.map fun answer =>
          tell (fun _ => .value value) (.writeFailed key) (verdict (writeRequest value) answer))

namespace Finishes

variable {site : Site σ} {op : Operation (Except Failure α)}
  {finish : Except Failure α → Operation (Except Trouble Report)} {report : α → Report}
  {trouble : Failure → Trouble}

theorem fst_run (h : Finishes site finish report trouble) (s : σ) :
    ((op >>= finish).run site s).1 = (op.run site s).1.map (tell report trouble) := by
  cases hrun : (op.run site s).1 with
  | returned result => rw [Operation.run_bind_of_returned hrun, h.ends, Outcome.map]
  | panicked => rw [Operation.run_bind_of_panicked hrun, Outcome.map]

theorem calls_bind (h : Finishes site finish report trouble) (s : σ) :
    Operation.calls ((op >>= finish).trace site s) = Operation.calls (op.trace site s) := by
  cases hrun : (op.run site s).1 with
  | returned result =>
      rw [Operation.calls_bind_of_returned hrun, h.calls, List.append_nil]
  | panicked => rw [Operation.calls_bind_of_panicked hrun]

end Finishes

section

variable {transport : UInt32 → Frame → τ → Outcome Answer × τ} {key : Code}
  {bytes : List UInt8} {w : World τ}

theorem write_of_known (transport : UInt32 → Frame → τ → Outcome Answer × τ) {value : Value}
    {info : KeyInfo} (hfound : w.cache.find? value.key = some info) :
    ((Client.write {} value).run (.alone transport) w).1 =
        ((writeAfter {} value (.ok info)).run (.alone transport) (w.lookedUp value.key)).1 ∧
      calls ((Client.write {} value).trace (.alone transport) w) =
        calls ((writeAfter {} value (.ok info)).trace (.alone transport)
          (w.lookedUp value.key)) := by
  have hrun : (Client.keyInfo {} value.key).run (.alone transport) w =
      (.returned (.ok info), w.lookedUp value.key) := Client.run_keyInfo_of_found rfl hfound
  have hsilent : calls ((Client.keyInfo {} value.key).trace (.alone transport) w) = [] :=
    Client.calls_keyInfo_of_found rfl hfound
  obtain ⟨hcalls, hwrite⟩ := Client.write_of_returned (congrArg Prod.fst hrun)
  rw [hcalls, hwrite, hsilent, hrun]
  exact ⟨rfl, rfl⟩

theorem writeOn_of_fits (hfits : bytes.length ≤ capacity) (info : KeyInfo) {value : Value}
    (hvalue : Value.ofFitting key info.type bytes = value) (site : Site σ) (s : σ) :
    ((writeOn key bytes (.ok info)).run site s).1 =
        ((Client.write {} value).run site s).1.map
          (tell (fun _ => .value value) (.writeFailed key)) ∧
      calls ((writeOn key bytes (.ok info)).trace site s) =
        calls ((Client.write {} value).trace site s) := by
  simp only [writeOn, Value.ofBytes_of_fits hfits, hvalue]
  exact ⟨(finishes_write key value).fst_run s, (finishes_write key value).calls_bind s⟩

theorem exists_delivered (transport : UInt32 → Frame → τ → Outcome Answer × τ) (key : Code)
    (value : Value) (w : World τ) :
    ∃ reply,
      calls ((Client.transact {} (writeRequest value) >>= fun response =>
        pure (response.map fun _ => ())).trace (.alone transport) w) =
          [⟨2, (writeRequest value).encode, reply⟩] ∧
      ((Client.transact {} (writeRequest value) >>= fun response =>
        pure (response.map fun _ => ())).run (.alone transport) w).1.map
          (tell (fun _ => .value value) (.writeFailed key)) =
        reply.map fun answer =>
          tell (fun _ => .value value) (.writeFailed key)
            (verdict (writeRequest value) answer) := by
  refine ⟨(transport 2 (writeRequest value).encode w.controller).1, ?_, ?_⟩
  · rw [Operation.trace_bind_pure, Client.trace_transact, Client.calls_exchange]
  · rw [Operation.run_bind, Client.run_transact]
    rcases (transport 2 (writeRequest value).encode w.controller).1 with answer | _
    · simp only [Outcome.map]
      cases verdict (writeRequest value) answer <;> rfl
    · rfl

theorem writing_writeOn {answer : Answer} {info : KeyInfo}
    (hdeclared : declared key answer = .ok info) (hfound : w.cache.find? key = some info) :
    Writing key bytes
      (⟨2, (infoRequest key).encode, .returned answer⟩ ::
        calls ((writeOn key bytes (.ok info)).trace (.alone transport) w))
      ((writeOn key bytes (.ok info)).run (.alone transport) w).1 := by
  by_cases hsize : capacity < bytes.length
  · rw [writeOn_of_oversized key hsize]
    exact .oversized hdeclared hsize
  · have hfits := Nat.not_lt.mp hsize
    have hshape := Value.toShape_ofFitting_iff hfits key info
    -- A name for the value keeps its fields out of the encoded request.
    generalize hvalue : Value.ofFitting key info.type bytes = value at hshape
    have hkey : value.key = key := by rw [← hvalue]; rfl
    obtain ⟨hend, hcalls⟩ := write_of_known transport (hkey ▸ hfound)
    obtain ⟨htold, hmade⟩ := writeOn_of_fits hfits info hvalue (.alone transport) w
    rw [htold, hmade, hend, hcalls]
    by_cases hsame : info.toShape = value.toShape
    · simp only [writeAfter, if_pos hsame]
      obtain ⟨reply, hexchange, hverdict⟩ := exists_delivered transport key value
        (w.lookedUp value.key)
      rw [hexchange, hverdict]
      exact .sent hdeclared hfits (hshape.mp hsame) hvalue.symm reply
    · simp only [writeAfter, if_neg hsame]
      have hmismatched := Writing.mismatched hdeclared hfits fun h => hsame (hshape.mpr h)
      rw [hvalue] at hmismatched
      rw [hkey]
      exact hmismatched

/-- A write to a key that is not in the cache goes one of these ways. -/
theorem writing_writeSteps (transport : UInt32 → Frame → τ → Outcome Answer × τ)
    (hmissing : w.cache.find? key = none) (bytes : List UInt8) :
    Writing key bytes (calls ((writeSteps key bytes).trace (.alone transport) w))
      ((writeSteps key bytes).run (.alone transport) w).1 := by
  generalize hreply : (transport 2 (infoRequest key).encode w.controller).1 = reply
  have hasked : calls ((Client.keyInfo {} key).trace (.alone transport) w) =
      [⟨2, (infoRequest key).encode, reply⟩] := by
    rw [← hreply]
    exact Client.calls_keyInfo_of_missing rfl hmissing
  have hrun : (Client.keyInfo {} key).run (.alone transport) w =
      (reply.map (declared key),
        ((w.lookedUp key).exchanged transport {} (infoRequest key)).settled key reply.info?) := by
    rw [← hreply]
    exact Client.run_keyInfo_of_missing rfl hmissing
  rw [writeSteps_eq]
  have hfound := congrArg Prod.fst hrun
  rcases reply with answer | _
  · cases hdeclared : declared key answer with
    | error failure =>
        simp only [Outcome.map, hdeclared] at hfound
        rw [Operation.calls_bind_of_returned hfound, Operation.run_bind_of_returned hfound, hasked]
        exact .unknown hdeclared
    | ok info =>
        simp only [Outcome.map, hdeclared] at hfound
        rw [Operation.calls_bind_of_returned hfound, Operation.run_bind_of_returned hfound, hasked,
          hrun]
        apply writing_writeOn hdeclared
        rw [Client.info?_of_declared hdeclared]
        apply World.find?_inserted_self
        simpa using hmissing
  · rw [Operation.calls_bind_of_panicked hfound, Operation.run_bind_of_panicked hfound, hasked]
    exact .interrupted

end

end Console.Command

end SmcKeys
