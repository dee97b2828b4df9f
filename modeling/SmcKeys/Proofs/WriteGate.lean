import SmcKeys.Proofs.Calls

namespace SmcKeys

open Operation (calls trace_bind)

def Call.IsWrite (call : Call) : Prop :=
  (Packet.decode call.request).command = .writeKey

namespace Client

def writeAfter (config : Config) (value : Value) :
    Except Failure KeyInfo → Operation (Except Failure Unit)
  | .error failure => .done (.error failure)
  | .ok info =>
      if info.toShape = value.toShape then do
        let response ← transact config (writeRequest value)
        return response.map fun _ => ()
      else
        .note (.writeRefused value.key info.toShape value.toShape) <|
        .done (.error (.mismatch value.key info.toShape value.toShape))

theorem write_eq (config : Config) (value : Value) :
    write config value = keyInfo config value.key >>= writeAfter config value := rfl

theorem not_isWrite_of_walk_keyInfo {config : Config} {key : Code} {call : Call}
    (h : Operation.Walk (keyInfo config key) steps outcome) (hcall : call ∈ calls steps) :
    ¬ call.IsWrite := by
  rw [Call.IsWrite, ((walk_keyInfo h).eq_of_mem_calls hcall).2, Packet.decode_encode]
  change Command.readKeyInfo ≠ Command.writeKey
  decide

theorem not_isWrite_of_keyInfo {config : Config} {key : Code} {site : Site σ} {s : σ}
    {call : Call} (h : call ∈ calls ((keyInfo config key).trace site s)) : ¬ call.IsWrite :=
  not_isWrite_of_walk_keyInfo (Operation.walk_trace site _ s) h

section

variable {site : Site σ} {config : Config} {value : Value} {s : σ}

theorem write_of_panicked (h : ((keyInfo config value.key).run site s).1 = .panicked) :
    calls ((write config value).trace site s) =
        calls ((keyInfo config value.key).trace site s) ∧
      ((write config value).run site s).1 = .panicked := by
  constructor
  · rw [write_eq, Operation.calls_bind_of_panicked h]
  · rw [write_eq, Operation.run_bind_of_panicked h]

theorem write_of_returned {found : Except Failure KeyInfo}
    (h : ((keyInfo config value.key).run site s).1 = .returned found) :
    calls ((write config value).trace site s) =
        calls ((keyInfo config value.key).trace site s) ++
          calls ((writeAfter config value found).trace site
            ((keyInfo config value.key).run site s).2) ∧
      (write config value).run site s =
        (writeAfter config value found).run site ((keyInfo config value.key).run site s).2 := by
  constructor
  · rw [write_eq, Operation.calls_bind_of_returned h]
  · rw [write_eq, Operation.run_bind_of_returned h]

theorem write_of_failed {failure : Failure}
    (h : ((keyInfo config value.key).run site s).1 = .returned (.error failure)) :
    calls ((write config value).trace site s) =
        calls ((keyInfo config value.key).trace site s) ∧
      ((write config value).run site s).1 = .returned (.error failure) := by
  obtain ⟨hcalls, hrun⟩ := write_of_returned h
  constructor
  · rw [hcalls]
    exact List.append_nil _
  · rw [hrun]
    rfl

theorem write_of_mismatch {info : KeyInfo}
    (h : ((keyInfo config value.key).run site s).1 = .returned (.ok info))
    (hshape : info.toShape ≠ value.toShape) :
    calls ((write config value).trace site s) =
        calls ((keyInfo config value.key).trace site s) ∧
      ((write config value).run site s).1 =
        .returned (.error (.mismatch value.key info.toShape value.toShape)) := by
  obtain ⟨hcalls, hrun⟩ := write_of_returned h
  rw [writeAfter, if_neg hshape] at hcalls hrun
  constructor
  · rw [hcalls]
    exact List.append_nil _
  · rw [hrun]
    rfl

theorem write_of_match {info : KeyInfo}
    (h : ((keyInfo config value.key).run site s).1 = .returned (.ok info))
    (hshape : info.toShape = value.toShape) :
    ∃ reply, calls ((write config value).trace site s) =
      calls ((keyInfo config value.key).trace site s) ++
        [⟨config.selector, (writeRequest value).encode, reply⟩] := by
  obtain ⟨hcalls, -⟩ := write_of_returned h
  obtain ⟨reply, hreply⟩ := calls_transact config (writeRequest value) site
    ((keyInfo config value.key).run site s).2
  refine ⟨reply, ?_⟩
  rw [hcalls, writeAfter, if_pos hshape, trace_bind, Operation.calls_append, hreply]
  split
  · rfl
  · rfl

end

/-- A value is sent once, with all its bytes, if the question about its key ended with its own size
and type, and else not at all. -/
theorem write_sends_iff_declared_shape (site : Site σ) (config : Config) (value : Value)
    (s : σ) :
    let found := ((keyInfo config value.key).run site s).1
    let asked := calls ((keyInfo config value.key).trace site s)
    let sent := calls ((write config value).trace site s)
    let outcome := ((write config value).run site s).1
    ((∃ call ∈ sent, call.IsWrite) ↔
      ∃ info, found = .returned (.ok info) ∧
        info.size = value.size ∧ info.type = value.type) ∧
    (∀ info, found = .returned (.ok info) → info.size = value.size → info.type = value.type →
      (∀ call ∈ asked, ¬ call.IsWrite) ∧
      ∃ request reply, sent = asked ++ [⟨config.selector, request, reply⟩] ∧
        Packet.decode request =
          { key := value.key, command := .writeKey, info := { size := value.size },
            data := value.data }) ∧
    (∀ info, found = .returned (.ok info) → ¬ (info.size = value.size ∧ info.type = value.type) →
      sent = asked ∧
      outcome = .returned (.error
        (.mismatch value.key ⟨info.size, info.type⟩ ⟨value.size, value.type⟩))) ∧
    (∀ failure, found = .returned (.error failure) →
      sent = asked ∧ outcome = .returned (.error failure)) ∧
    (found = .panicked → sent = asked ∧ outcome = .panicked) := by
  intro found asked sent outcome
  have hasked : ∀ call ∈ asked, ¬ call.IsWrite := fun _ h => not_isWrite_of_keyInfo h
  have hshape : ∀ info : KeyInfo,
      info.toShape = value.toShape ↔ info.size = value.size ∧ info.type = value.type :=
    fun _ => Shape.ext_iff
  refine ⟨⟨?_, ?_⟩, ?_, ?_, fun _ => write_of_failed, write_of_panicked⟩
  · intro hsent
    obtain ⟨call, hcall, hwrite⟩ := hsent
    -- Whatever was sent without a matching info was sent by the question.
    have hnot : sent ≠ asked := fun heq => hasked call (heq ▸ hcall) hwrite
    rcases hfound : found with (failure | info) | _
    · exact absurd (write_of_failed hfound).1 hnot
    · by_cases hinfo : info.toShape = value.toShape
      · exact ⟨info, rfl, (hshape info).mp hinfo⟩
      · exact absurd (write_of_mismatch hfound hinfo).1 hnot
    · exact absurd (write_of_panicked hfound).1 hnot
  · intro hfound
    obtain ⟨info, hinfo, hsize⟩ := hfound
    obtain ⟨reply, hsent⟩ := write_of_match hinfo ((hshape info).mpr hsize)
    refine ⟨⟨config.selector, (writeRequest value).encode, reply⟩, ?_, ?_⟩
    · simp only [sent]
      rw [hsent]
      exact List.mem_concat_self
    · rw [Call.IsWrite, Packet.decode_encode]
      rfl
  · intro info hfound hsize htype
    obtain ⟨reply, hsent⟩ := write_of_match hfound ((hshape info).mpr ⟨hsize, htype⟩)
    exact ⟨hasked, _, reply, hsent, Packet.decode_encode _⟩
  · intro info hfound hinfo
    exact write_of_mismatch hfound fun hsame => hinfo ((hshape info).mp hsame)

end Client

end SmcKeys
