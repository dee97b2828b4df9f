import SmcKeys.Proofs.Breakdown
import SmcKeys.Proofs.ReadBack

namespace SmcKeys

open Operation (calls)
open Client (failureOf? verdict readRequest)

def Site.Returns (site : Site σ) : Prop :=
  ∀ selector request s, (site.call selector request s).1 ≠ .panicked

theorem Operation.exists_returned {site : Site σ} (h : site.Returns) (op : Operation α) (s : σ) :
    ∃ a, (op.run site s).1 = .returned a := by
  induction op generalizing s with
  | done a => exact ⟨a, rfl⟩
  | consult key next ih => exact ih _ _ _
  | retain key info next ih => exact ih _ _ _
  | count tally next ih => exact ih _
  | call selector request next ih =>
      have hreply := h selector request s
      rw [Operation.run]
      generalize site.call selector request s = replied at hreply ⊢
      obtain ⟨answer | _, t⟩ := replied
      · exact ih answer t
      · exact absurd rfl hreply
  | note event next ih => exact ih _

/-- The ways of a read behind the question about its key, with the calls that it still makes and
what it leaves. -/
inductive Reading.Fills (config : Config) (key : Code) :
    Except Failure KeyInfo → List Call → Reading → Prop where
  | unknown (failure : Failure) : Fills config key (.error failure) [] ⟨{ key }, .error failure⟩
  | unread (info : KeyInfo) (answer : Answer) {failure : Failure}
      (hverdict : verdict (readRequest key info) answer = .error failure) :
      Fills config key (.ok info)
        [⟨config.selector, (readRequest key info).encode, .returned answer⟩]
        ⟨{ key, size := min info.size 32, type := info.type }, .error failure⟩
  | full (info : KeyInfo) (frame : Frame)
      (hverdict : verdict (readRequest key info) (.ok frame) = .ok (.decode frame)) :
      Fills config key (.ok info)
        [⟨config.selector, (readRequest key info).encode, .returned (.ok frame)⟩]
        ⟨{ key, size := min info.size 32, type := info.type, data := (Packet.decode frame).data },
          .ok ()⟩

namespace Client

theorem eq_ok_of_verdict {request response : Packet} {answer : Answer}
    (h : verdict request answer = .ok response) :
    ∃ frame, answer = .ok frame ∧ response = .decode frame := by
  cases answer with
  | error fault => cases h
  | ok frame =>
      simp only [verdict] at h
      split at h
      · cases h
        exact ⟨frame, rfl, rfl⟩
      · cases h

theorem fills_ofVerdict (config : Config) (key : Code) (info : KeyInfo) (answer : Answer) :
    Reading.Fills config key (.ok info)
      [⟨config.selector, (readRequest key info).encode, .returned answer⟩]
      (.ofVerdict key info (verdict (readRequest key info) answer)) := by
  cases hverdict : verdict (readRequest key info) answer with
  | error failure => exact .unread info answer hverdict
  | ok response =>
      obtain ⟨frame, rfl, rfl⟩ := eq_ok_of_verdict hverdict
      exact .full info frame hverdict

section

variable {site : Site σ}

theorem exists_answer (h : site.Returns) (config : Config) (request : Packet) (s : σ) :
    ∃ answer, calls ((transact config request).trace site s) =
        [⟨config.selector, request.encode, .returned answer⟩] ∧
      ((transact config request).run site s).1 = .returned (verdict request answer) := by
  obtain ⟨reply, hsteps, hend⟩ := walk_transact (Operation.walk_trace site _ s)
  obtain ⟨result, hreturned⟩ := Operation.exists_returned h (transact config request) s
  cases reply with
  | returned answer => exact ⟨answer, by rw [hsteps, calls_exchange], hend⟩
  | panicked => cases hreturned.symm.trans hend

theorem exists_fills (h : site.Returns) (config : Config) (key : Code)
    (found : Except Failure KeyInfo) (s : σ) :
    ∃ reading, ((readAfter config key found).run site s).1 = .returned reading ∧
      Reading.Fills config key found (calls ((readAfter config key found).trace site s))
        reading := by
  cases found with
  | error failure => exact ⟨_, rfl, .unknown failure⟩
  | ok info =>
      obtain ⟨answer, hcalls, hend⟩ := exists_answer h config (readRequest key info) s
      refine ⟨.ofVerdict key info (verdict (readRequest key info) answer), ?_, ?_⟩
      · rw [readAfter, Operation.run_bind_of_returned hend]
        rfl
      · rw [readAfter, Operation.calls_bind_of_returned hend, hcalls]
        exact fills_ofVerdict config key info answer

/-- A read is a read into an empty buffer, of which the buffer is handed out on success only. -/
theorem run_read {config : Config} {key : Code} {buffer : Value} {s : σ} {reading : Reading}
    (h : ((readInto config key buffer).run site s).1 = .returned reading) :
    (read config key).run site s =
      (.returned (reading.result.map fun _ => reading.value),
        ((readInto config key buffer).run site s).2) :=
  Operation.run_bind_of_returned h

theorem calls_read (config : Config) (key : Code) (buffer : Value) (s : σ) :
    calls ((read config key).trace site s) =
      calls ((readInto config key buffer).trace site s) :=
  congrArg calls (Operation.trace_bind_pure _ _ _ _)

end

end Client

theorem Value.length_significant {v : Value} (h : v.size.toNat ≤ 32) :
    v.significant.length = v.size.toNat := by
  have hlength : v.data.toList.length = 32 := v.data.length_toList
  rw [significant, List.length_take, hlength]
  exact Nat.min_eq_left h

theorem Reading.Fills.size_le {config : Config} {key : Code} {found : Except Failure KeyInfo}
    {after : List Call} {reading : Reading} (h : reading.Fills config key found after) :
    reading.value.size.toNat ≤ 32 := by
  have hcut : ∀ size : UInt32, (min size 32).toNat ≤ 32 := by
    intro size
    rw [toNat_min]
    exact Nat.min_le_right _ _
  cases h with
  | unknown failure => exact Nat.zero_le 32
  | unread info answer hverdict => exact hcut info.size
  | full info frame hverdict => exact hcut info.size

/-- A buffer gets key, size and type as far as they are known, data from a success alone, and zeros
otherwise; what it held before makes no difference. -/
theorem read_leaves_nothing_of_buffer {site : Site σ} (h : site.Returns) (config : Config)
    (key : Code) (buffer : Value) (s : σ) :
    let asked := calls ((Client.keyInfo config key).trace site s)
    let sent := calls ((Client.readInto config key buffer).trace site s)
    let filled := (Client.readInto config key buffer).run site s
    ∃ found reading, ((Client.keyInfo config key).run site s).1 = .returned found ∧
      filled.1 = .returned reading ∧
      reading.value.key = key ∧
      (∀ failure, found = .error failure →
        reading.value.size = 0 ∧ reading.value.type = .zero ∧
          reading.value.data = Payload.zero ∧ reading.result = .error failure ∧ sent = asked) ∧
      (∀ info, found = .ok info →
        reading.value.size.toNat = min info.size.toNat 32 ∧ reading.value.type = info.type ∧
          ∃ answer, sent = asked ++
            [⟨config.selector, (readRequest key info).encode, .returned answer⟩]) ∧
      (reading.result = .ok () →
        ∃ info frame, found = .ok info ∧
          sent = asked ++
            [⟨config.selector, (readRequest key info).encode, .returned (.ok frame)⟩] ∧
          reading.value.data = (Packet.decode frame).data) ∧
      (∀ failure, reading.result = .error failure → reading.value.data = Payload.zero) ∧
      (∀ other, (Client.readInto config key other).run site s = filled ∧
        calls ((Client.readInto config key other).trace site s) = sent) ∧
      reading.value.significant.length = reading.value.size.toNat ∧
      (Client.read config key).run site s =
        (.returned (reading.result.map fun _ => reading.value), filled.2) ∧
      calls ((Client.read config key).trace site s) = sent := by
  intro asked sent filled
  obtain ⟨found, hfound⟩ := Operation.exists_returned h (Client.keyInfo config key) s
  obtain ⟨reading, hreading, hfills⟩ := Client.exists_fills h config key found
    ((Client.keyInfo config key).run site s).2
  have hfilled : filled.1 = .returned reading := by
    simp only [filled, Client.readInto_eq]
    rw [Operation.run_bind_of_returned hfound, hreading]
  have hsent : sent = asked ++ calls ((Client.readAfter config key found).trace site
      ((Client.keyInfo config key).run site s).2) := by
    simp only [sent, Client.readInto_eq]
    exact Operation.calls_bind_of_returned hfound
  have hsize := hfills.size_le
  generalize calls ((Client.readAfter config key found).trace site _) = after at hfills hsent
  refine ⟨found, reading, hfound, hfilled, ?_, ?_, ?_, ?_, ?_, fun _ => ⟨rfl, rfl⟩,
    Value.length_significant hsize, Client.run_read hfilled, Client.calls_read ..⟩
  · cases hfills <;> rfl
  · rintro failure rfl
    cases hfills with
    | unknown failure => exact ⟨rfl, rfl, rfl, rfl, hsent.trans (List.append_nil _)⟩
  · rintro info rfl
    cases hfills with
    | unread info answer hverdict => exact ⟨toNat_min _ _, rfl, answer, hsent⟩
    | full info frame hverdict => exact ⟨toNat_min _ _, rfl, .ok frame, hsent⟩
  · intro hok
    cases hfills with
    | unknown failure => cases hok
    | unread info answer hverdict => cases hok
    | full info frame hverdict => exact ⟨info, frame, rfl, hsent, rfl⟩
  · intro failure hfailed
    cases hfills with
    | unknown failure => rfl
    | unread info answer hverdict => rfl
    | full info frame hverdict => cases hfailed

/-- The controller declares a key of 64 bytes and then does not let it be read. -/
theorem failed_read_leaves_zeros :
    let key : Code := ⟨0x54433050⟩
    let declared : KeyInfo := { size := 64, type := ⟨0x73703738⟩ }
    let stale : Value := { key := ⟨7⟩, size := 5, type := ⟨8⟩, data := Vector.replicate 32 255 }
    let transport := fun (_ : UInt32) (request : Frame) (w : Unit) =>
      if (Packet.decode request).command = .readKeyInfo then
        (Outcome.returned (Except.ok (Packet.encode { info := declared })), w)
      else (.returned (.error .unsupported), w)
    (Site.alone transport).Returns ∧
      ∃ reading, ((Client.readInto {} key stale).run (.alone transport)
          { controller := () }).1 = .returned reading ∧
        reading.result = .error (.transport .unsupported) ∧
        reading.value.size.toNat = 32 ∧ reading.value.type = declared.type ∧
        reading.value.data = Payload.zero ∧ reading.value.significant.length = 32 := by
  intro key declared stale transport
  have hreturns : (Site.alone transport).Returns := by
    intro selector request w
    simp only [Site.alone, Site.shared, transport]
    split <;> simp
  have hinfo : ((Client.keyInfo {} key).run (.alone transport)
      { controller := () }).1.success? = some declared := by decide +kernel
  have hread : ((Client.read {} key).run (.alone transport)
      { controller := () }).1.breakdown? failureOf? =
        some (.returned (.transport .unsupported)) := by decide +kernel
  obtain ⟨found, reading, hfound, hfilled, -, -, htold, -, hzero, -, hlength, hsame, -⟩ :=
    read_leaves_nothing_of_buffer hreturns {} key stale { controller := () }
  rw [hfound, Outcome.success?_returned_eq_some_iff] at hinfo
  obtain ⟨hsize, htype, -⟩ := htold declared hinfo
  have hresult : reading.result = .error (.transport .unsupported) := by
    simp only [hsame, Outcome.breakdown?, Client.failureOf?_map] at hread
    cases hend : reading.result with
    | ok done =>
        rw [hend] at hread
        cases hread
    | error failure =>
        rw [hend] at hread
        cases hread
        rfl
  exact ⟨hreturns, reading, hfilled, hresult, hsize, htype, hzero _ hresult,
    hlength.trans hsize⟩

end SmcKeys
