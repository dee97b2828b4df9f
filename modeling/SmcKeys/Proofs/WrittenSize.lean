import SmcKeys.Bench.Callers
import SmcKeys.Proofs.Alone
import SmcKeys.Proofs.ForeignRun
import SmcKeys.Proofs.Provenance
import SmcKeys.Proofs.Steps
import SmcKeys.Proofs.WriteGate

namespace SmcKeys

open Operation (Step Walk Takes calls takes_done walk_bind_iff walk_note_iff walk_done_iff)
open Client (Job Enquiry writeRequest writeAfter write write_eq infoRequest declared)

def Call.announced (call : Call) : Nat :=
  (Packet.decode call.request).info.size.toNat

def Call.Overruns (call : Call) : Prop :=
  call.IsWrite ∧ capacity < call.announced

instance (call : Call) : Decidable call.Overruns :=
  inferInstanceAs (Decidable (_ = _ ∧ _ < _))

def Operation.Step.Sends (packet : Packet) (step : Step) : Prop :=
  ∀ call, step.call? = some call → call.request = packet.encode

namespace Client

theorem takes_sends_transact (config : Config) (packet : Packet) :
    Takes (Step.Sends packet) (transact config packet) := by
  apply takes_transact
  · intro event call hcall
    cases hcall
  · intro reply call hcall
    cases hcall
    rfl

section

variable {config : Config} {value : Value} {call : Call}

theorem isWrite_of_request (h : call.request = (writeRequest value).encode) : call.IsWrite := by
  rw [Call.IsWrite, h, Packet.decode_encode]
  rfl

theorem announced_of_request (h : call.request = (writeRequest value).encode) :
    call.announced = value.size.toNat := by
  rw [Call.announced, h, Packet.decode_encode]
  rfl

theorem overruns_iff_of_request (h : call.request = (writeRequest value).encode) :
    call.Overruns ↔ capacity < value.size.toNat := by
  rw [Call.Overruns, announced_of_request h]
  exact and_iff_right (isWrite_of_request h)

/-- After its question about the key, a write makes no call but the one that sends its value, and
that only if the shapes agree. -/
theorem declared_of_written {found : Except Failure KeyInfo}
    (h : Walk (writeAfter config value found) steps outcome) (hcall : call ∈ calls steps) :
    ∃ info, found = .ok info ∧ info.toShape = value.toShape ∧
      call.request = (writeRequest value).encode := by
  cases found with
  | error failure =>
      obtain ⟨rfl, -⟩ := walk_done_iff.mp h
      cases hcall
  | ok info =>
      rw [writeAfter] at h
      split at h
      case isTrue hshape =>
        have hsends : Takes (Step.Sends (writeRequest value))
            (transact config (writeRequest value) >>= fun response =>
              .done (response.map fun _ => ())) :=
          (takes_sends_transact config (writeRequest value)).bind fun _ => takes_done _
        obtain ⟨step, hstep, hsome⟩ := List.mem_filterMap.mp hcall
        exact ⟨info, rfl, hshape, hsends _ _ h step hstep call hsome⟩
      case isFalse =>
        obtain ⟨rest, rfl, hrest⟩ := walk_note_iff.mp h
        obtain ⟨rfl, -⟩ := walk_done_iff.mp hrest
        cases hcall

theorem enquiry_of_written {rest : List Step}
    (h : Walk (write config value) (steps ++ rest) outcome) (hcall : call ∈ calls steps)
    (hwrite : call.IsWrite) :
    ∃ told info, Enquiry config value.key told (some info) ∧
      (∀ notice ∈ told, notice ∈ Operation.notices steps) ∧ info.toShape = value.toShape := by
  rw [write_eq] at h
  obtain ⟨found, first, later, hsplit, hfirst, hlater⟩ | ⟨hpanic, -⟩ := walk_bind_iff.mp h
  · -- The question makes no such call, so it had ended when this one was made.
    have hnot : call ∉ calls first := fun hmem => not_isWrite_of_walk_keyInfo hfirst hmem hwrite
    obtain ⟨missing, rfl, -⟩ | ⟨sent, rfl, rfl⟩ := List.append_eq_append_iff.mp hsplit
    · rw [Operation.calls_append] at hnot
      exact absurd (List.mem_append_left _ hcall) hnot
    · rw [Operation.calls_append] at hcall
      have hsent : call ∈ calls sent := (List.mem_append.mp hcall).resolve_left hnot
      have hlate : call ∈ calls (sent ++ rest) := by
        rw [Operation.calls_append]
        exact List.mem_append_left _ hsent
      obtain ⟨info, rfl, hshape, -⟩ := declared_of_written hlater hlate
      refine ⟨_, info, enquiry_keyInfo hfirst, ?_, hshape⟩
      intro notice hnotice
      rw [Operation.notices_append]
      exact List.mem_append_left _ hnotice
  · have hmem : call ∈ calls (steps ++ rest) := by
      rw [Operation.calls_append]
      exact List.mem_append_left _ hcall
    exact absurd hwrite (not_isWrite_of_walk_keyInfo hpanic hmem)

theorem Job.May.written {job : Job} {step : Step} (h : job.May step)
    (hcall : step.call? = some call) (hwrite : call.IsWrite) :
    ∃ value, job.request = .write value ∧ call.request = (writeRequest value).encode := by
  cases h with
  | write hrequest reply =>
      cases hcall
      exact ⟨_, hrequest, rfl⟩
  | ask | read | index =>
      cases hcall
      rw [Call.IsWrite, Packet.decode_encode] at hwrite
      cases hwrite
  | consult | retain | count | note => cases hcall

theorem Job.walk_write (h : Walk (Job.operation ⟨config, .write value⟩) steps outcome) :
    ∃ ending, Walk (write config value) steps ending := by
  obtain ⟨result, first, rest, rfl, hfirst, hrest⟩ | ⟨hpanic, -⟩ := walk_bind_iff.mp h
  · obtain ⟨rfl, -⟩ := walk_done_iff.mp hrest
    rw [List.append_nil]
    exact ⟨_, hfirst⟩
  · exact ⟨_, hpanic⟩

theorem Job.written_of_walk {job : Job} (h : Walk job.operation steps outcome)
    (hcall : call ∈ calls steps) (hwrite : call.IsWrite) :
    ∃ value, job.request = .write value ∧ call.request = (writeRequest value).encode := by
  obtain ⟨step, hstep, hsome⟩ := List.mem_filterMap.mp hcall
  exact (job.takes_operation _ _ h step hstep).written hsome hwrite

end

section

variable {transport : UInt32 → Frame → τ → Outcome Answer × τ} {config : Config} {key : Code}
  {info : KeyInfo} {w : World τ}

theorem map_declared_declaring (key : Code) (info : KeyInfo) :
    (Outcome.declaring info).map (declared key) = .returned (.ok info) := by
  have hsuccess : ControllerStatus.success.isSuccess = true := rfl
  simp [Outcome.declaring, Outcome.map, declared, verdict, Except.map, hsuccess]

theorem run_keyInfo_of_declaring (hmissing : w.cache.find? key = none)
    (hanswer : (transport config.selector (infoRequest key).encode w.controller).1 =
      .declaring info) :
    ((keyInfo config key).run (.alone transport) w).1 = .returned (.ok info) := by
  cases hcaching : config.caching with
  | false =>
      rw [keyInfo_of_not_caching hcaching, run_declaredInfo, hanswer, map_declared_declaring]
  | true =>
      rw [run_keyInfo_of_missing hcaching hmissing, hanswer, map_declared_declaring]

end

def ShapeDeclared (site : Site σ) (config : Config) (value : Value) (s : σ) : Prop :=
  ∃ info, ((keyInfo config value.key).run site s).1 = .returned (.ok info) ∧
    info.toShape = value.toShape

section

variable {site : Site σ} {config : Config} {value : Value} {s : σ}

theorem declared_of_sent {call : Call} (hcall : call ∈ calls ((write config value).trace site s))
    (hwrite : call.IsWrite) :
    ShapeDeclared site config value s ∧ call.request = (writeRequest value).encode := by
  have hasked : call ∉ calls ((keyInfo config value.key).trace site s) :=
    fun hmem => not_isWrite_of_keyInfo hmem hwrite
  rcases hfound : ((keyInfo config value.key).run site s).1 with found | _
  · rw [(write_of_returned hfound).1] at hcall
    obtain ⟨info, rfl, hshape, hrequest⟩ := declared_of_written (Operation.walk_trace site _ _)
      ((List.mem_append.mp hcall).resolve_left hasked)
    exact ⟨⟨info, hfound, hshape⟩, hrequest⟩
  · rw [(write_of_panicked hfound).1] at hcall
    exact absurd hcall hasked

theorem write_overruns_iff :
    (∃ call ∈ calls ((write config value).trace site s), call.Overruns) ↔
      capacity < value.size.toNat ∧ ShapeDeclared site config value s := by
  constructor
  · intro h
    obtain ⟨call, hcall, hover⟩ := h
    obtain ⟨hdeclared, hrequest⟩ := declared_of_sent hcall hover.1
    exact ⟨(overruns_iff_of_request hrequest).mp hover, hdeclared⟩
  · intro h
    obtain ⟨hsize, info, hinfo, hshape⟩ := h
    obtain ⟨reply, hsent⟩ := write_of_match hinfo hshape
    let call : Call := ⟨config.selector, (writeRequest value).encode, reply⟩
    have hrequest : call.request = (writeRequest value).encode := rfl
    refine ⟨call, ?_, (overruns_iff_of_request hrequest).mpr hsize⟩
    rw [hsent]
    exact List.mem_concat_self

end

end Client

namespace Crew

/-- Behind a write that was sent stands a value, and an info of the same shape. -/
theorem started_of_written {cache : Cache} {moves : List Move} {call : Call}
    (hcall : call ∈ sentIn ((idle cache).trace moves)) (hwrite : call.IsWrite) :
    ∃ config value info, .start ⟨config, .write value⟩ ∈ moves ∧
      call.request = (writeRequest value).encode ∧ info.toShape = value.toShape ∧
      (cache.find? value.key = some info ∨
        .answer value.key (some info) ∈ noticed ((idle cache).trace moves)) := by
  obtain ⟨i, hown⟩ := mem_sentIn_iff.mp hcall
  have hsteps : stepsOf i ((idle cache).trace moves) ≠ [] := by
    intro hnone
    rw [hnone] at hown
    cases hown
  obtain ⟨⟨⟨config, request⟩, progress⟩, rest, outcome, hthread, hwalk⟩ :=
    (accounts_trace cache moves).exists_walk hsteps
  have hsent : call ∈ calls (stepsOf i ((idle cache).trace moves) ++ rest) := by
    rw [Operation.calls_append]
    exact List.mem_append_left _ hown
  obtain ⟨value, hrequest, hencoded⟩ := Job.written_of_walk hwalk hsent hwrite
  obtain rfl : request = .write value := hrequest
  obtain ⟨outcome', hwritten⟩ := Job.walk_write hwalk
  obtain ⟨told, info, henquiry, htold, hshape⟩ :=
    Client.enquiry_of_written hwritten hown hwrite
  exact ⟨config, value, info, start_mem_of_idle hthread, hencoded, hshape,
    held_or_declared_of_enquiry henquiry htold⟩

def declaring (info : KeyInfo) (_ : UInt32) (_ : Frame) (_ : Unit) : Outcome Answer × Unit :=
  (.declaring info, ())

/-- Whatever is too large for the buffer is sent in some run. -/
theorem exists_overrun (config : Config) {value : Value} (hsize : capacity < value.size.toNat) :
    ∃ moves, (∀ job, .start job ∈ moves → job = ⟨config, .write value⟩) ∧
      ∃ call ∈ sentIn ((idle {}).trace moves), call.Overruns := by
  let job : Job := ⟨config, .write value⟩
  let crew : Crew := ⟨{}, [⟨job, .active job.operation⟩]⟩
  let site := Site.alone (declaring { toShape := value.toShape })
  let w : World Unit := { controller := () }
  have hdeclared : Client.ShapeDeclared site config value w :=
    ⟨_, Client.run_keyInfo_of_declaring rfl rfl, rfl⟩
  obtain ⟨call, hcall, hover⟩ := Client.write_overruns_iff.mpr ⟨hsize, hdeclared⟩
  have hthread : crew.threads[0]? = some ⟨job, .active job.operation⟩ := rfl
  obtain ⟨moves, htrace, hrun⟩ :=
    gets_run (declaring { toShape := value.toShape }) job.operation w hthread
  refine ⟨.start job :: moves, ?_, call, ?_, hover⟩
  · intro other hstart
    rcases List.mem_cons.mp hstart with hfirst | hlater
    · cases hfirst
      rfl
    · -- There are as many requests at the end as at the beginning.
      have hlt : crew.threads.length < (crew.run moves).threads.length :=
        length_lt_run_of_start hlater
      rw [hrun, List.length_set] at hlt
      exact absurd hlt (Nat.lt_irrefl _)
  · have hown : (idle {}).trace (.start job :: moves) =
        (job.operation.trace site w).map (Occurrence.mk 0) := htrace
    have hsteps : job.operation.trace site w = (write config value).trace site w :=
      Operation.trace_bind_pure _ _ _ w
    rw [hown, hsteps, sentIn]
    simpa [Function.comp_def] using hcall

end Crew

namespace Foreign

theorem writeKey_of_sent {service : Service (Process τ)} {p : Process τ} {request : Request}
    {call : Call} (hcall : call ∈ request.sent service p) (hwrite : call.IsWrite) :
    ∃ value number, request = .writeKey (some value) number := by
  rw [Request.sent] at hcall
  cases hjob : request.job? with
  | none =>
      rw [hjob] at hcall
      cases hcall
  | some behind =>
      obtain ⟨number, job⟩ := behind
      rw [hjob] at hcall
      obtain ⟨value, hrequest, -⟩ :=
        Job.written_of_walk (Operation.walk_trace _ job.operation p.clearError) hcall hwrite
      unfold Request.job? at hjob
      split at hjob
      case h_2 value number => exact ⟨value, number, rfl⟩
      case h_1 | h_3 | h_4 =>
        cases hjob
        cases hrequest
      case h_5 => cases hjob

theorem run_overruns_iff {service : Service (Process τ)} {requests : List Request}
    {p : Process τ} :
    (∃ call ∈ (run service requests p).calls, call.Overruns) ↔
      ∃ before value number after, requests = before ++ .writeKey (some value) number :: after ∧
        capacity < value.size.toNat ∧
        Client.ShapeDeclared (site service (.borrowed number)) {} value.toValue
          (run service before p).process.clearError := by
  constructor
  · intro h
    obtain ⟨call, hcall, hover⟩ := h
    obtain ⟨before, request, after, rfl, hsent⟩ := mem_calls_run_iff.mp hcall
    obtain ⟨value, number, rfl⟩ := writeKey_of_sent hsent hover.1
    rw [Request.sent_writeKey] at hsent
    exact ⟨before, value, number, after, rfl, Client.write_overruns_iff.mp ⟨call, hsent, hover⟩⟩
  · intro h
    obtain ⟨before, value, number, after, rfl, hsize, hdeclared⟩ := h
    have hlarge : capacity < value.toValue.size.toNat := hsize
    obtain ⟨call, hsent, hover⟩ := Client.write_overruns_iff.mpr ⟨hlarge, hdeclared⟩
    refine ⟨call, mem_calls_run_iff.mpr ⟨before, _, after, rfl, ?_⟩, hover⟩
    rw [Request.sent_writeKey]
    exact hsent

end Foreign

open Crew (idle)

/-- A write sends more than it carries if its value is larger than the buffer and its size has been
declared, and only then. -/
theorem overruns_iff_oversized_declared (site : Site σ) (config : Config) (value : Value) (s : σ)
    (written : Value → Prop) (service : Service (Foreign.Process τ))
    (requests : List Foreign.Request) (p : Foreign.Process τ) :
    ((∃ call ∈ calls ((write config value).trace site s), call.Overruns) ↔
      capacity < value.size.toNat ∧ Client.ShapeDeclared site config value s) ∧
    ((∀ (cache : Cache) (moves : List Move),
        (∀ config value, .start ⟨config, .write value⟩ ∈ moves → written value) →
        ∀ call ∈ sentIn ((idle cache).trace moves), ¬ call.Overruns) ↔
      ∀ value, written value → value.size.toNat ≤ capacity) ∧
    (∀ (cache : Cache) (moves : List Move),
      ∀ call ∈ sentIn ((idle cache).trace moves), call.IsWrite →
        ∃ config value info, .start ⟨config, .write value⟩ ∈ moves ∧
          call.announced = value.size.toNat ∧ info.toShape = value.toShape ∧
          (cache.find? value.key = some info ∨
            .answer value.key (some info) ∈ noticed ((idle cache).trace moves))) ∧
    ((∃ call ∈ (Foreign.run service requests p).calls, call.Overruns) ↔
      ∃ before value number after, requests = before ++ .writeKey (some value) number :: after ∧
        capacity < value.size.toNat ∧
        Client.ShapeDeclared (Foreign.site service (.borrowed number)) {} value.toValue
          (Foreign.run service before p).process.clearError) := by
  refine ⟨Client.write_overruns_iff, ⟨?_, ?_⟩, ?_, Foreign.run_overruns_iff⟩
  · intro hfits value hwritten
    apply Nat.le_of_not_lt
    intro hsize
    obtain ⟨moves, honly, call, hcall, hover⟩ := Crew.exists_overrun {} hsize
    refine hfits {} moves ?_ call hcall hover
    intro config other hstart
    cases honly _ hstart
    exact hwritten
  · intro hfits cache moves hwritten call hcall hover
    obtain ⟨config, value, info, hstart, hrequest, -⟩ := Crew.started_of_written hcall hover.1
    have hsize := (Client.overruns_iff_of_request hrequest).mp hover
    exact Nat.not_lt_of_le (hfits value (hwritten config value hstart)) hsize
  · intro cache moves call hcall hwrite
    obtain ⟨config, value, info, hstart, hrequest, hrest⟩ :=
      Crew.started_of_written hcall hwrite
    exact ⟨config, value, info, hstart, Client.announced_of_request hrequest, hrest⟩

def oversized : Value :=
  { key := ⟨0x54433050⟩
    size := 64
    type := ⟨0x73703738⟩
    data := Bytes.padded capacity [0x2a, 0x80] }

def declaredWrite (value : Value) : List Move :=
  .start ⟨{}, .write value⟩ ::
    List.replicate 10 (.step 0 (.declaring { toShape := value.toShape }))

def holding (value : Value) : Bench.Caller :=
  { controller := { bank := [⟨value.key, { toShape := value.toShape }, value.data⟩] } }

def callerService : Service Bench.Caller :=
  Bench.Rig.service Bench.Caller.mount fun _ p => (.returned (), p)

theorem exists_overrun_of_any {sent : List Call}
    (h : sent.any fun call => decide call.Overruns) :
    ∃ call ∈ sent, call.IsWrite ∧ ¬ call.announced ≤ capacity := by
  obtain ⟨call, hcall, hdecided⟩ := List.any_eq_true.mp h
  obtain ⟨hwrite, hsize⟩ := of_decide_eq_true hdecided
  exact ⟨call, hcall, hwrite, Nat.not_le_of_lt hsize⟩

/-- Its shape has been declared, so a client sends it, and so does a C program. -/
theorem not_every_write_within_capacity :
    (¬ ∀ (cache : Cache) (moves : List Move), ∀ call ∈ sentIn ((idle cache).trace moves),
        call.IsWrite → call.announced ≤ capacity) ∧
      ¬ ∀ (service : Service Bench.Caller) (requests : List Foreign.Request) (p : Bench.Caller),
        ∀ call ∈ (Foreign.run service requests p).calls,
          call.IsWrite → call.announced ≤ capacity := by
  constructor
  · intro hclaim
    have hany : (sentIn ((idle {}).trace (declaredWrite oversized))).any
        fun call => decide call.Overruns := by
      decide
    obtain ⟨call, hcall, hwrite, hsize⟩ := exists_overrun_of_any hany
    exact hsize (hclaim _ _ call hcall hwrite)
  · intro hclaim
    have hany : (Foreign.run callerService [.writeKey (some (.ofValue oversized)) 1]
        (holding oversized)).calls.any fun call => decide call.Overruns := by
      decide
    obtain ⟨call, hcall, hwrite, hsize⟩ := exists_overrun_of_any hany
    exact hsize (hclaim _ _ _ call hcall hwrite)

end SmcKeys
