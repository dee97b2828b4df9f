import SmcKeys.Proofs.Breakdown
import SmcKeys.Proofs.Reports

/-! A rejection with the status of a success would be paired as one; no request ends with that. -/

namespace SmcKeys

open Client (Job)

theorem ControllerStatus.isSuccess_iff (status : ControllerStatus) :
    status.isSuccess = true ↔ status = .success := by
  simp [isSuccess, ControllerStatus.ext_iff, success]

theorem KernelCode.isSuccess_iff (code : KernelCode) :
    code.isSuccess = true ↔ code = .success := by
  simp [isSuccess, KernelCode.ext_iff, success]

theorem KernelCode.isSuccess_eq_false {code : KernelCode} (h : code ≠ .success) :
    code.isSuccess = false := by
  rwa [Bool.eq_false_iff, ne_eq, isSuccess_iff]

theorem StatusPair.isSuccess_iff (pair : StatusPair) :
    pair.isSuccess = true ↔ pair = .success := by
  simp [isSuccess, KernelCode.isSuccess_iff, ControllerStatus.isSuccess_iff, StatusPair.ext_iff,
    success]

theorem Failure.isUnknownKey_iff (failure : Failure) :
    failure.isUnknownKey = true ↔ failure.status = ⟨.success, .keyNotFound⟩ := by
  cases failure with
  | rejected key command reported => simp [isUnknownKey, status]
  | transport fault =>
      simp [isUnknownKey, status, ControllerStatus.error, ControllerStatus.keyNotFound]
  | _ => simp [isUnknownKey, status, KernelCode.badArgument, KernelCode.success]

theorem Client.Response.status_of_succeeded {response : Client.Response}
    (h : response.failure? = none) : response.status = .success := by
  rcases response with (_ | _) | (_ | _) | ⟨value, _ | _⟩ | (_ | _) | (_ | _) <;> cases h <;> rfl

theorem Client.Response.status_of_failed {response : Client.Response} {failure : Failure}
    (h : response.failure? = some failure) : response.status = failure.status := by
  rcases response with (_ | _) | (_ | _) | ⟨value, _ | _⟩ | (_ | _) | (_ | _) <;> cases h <;> rfl

theorem Call.breakdown?_eq_failed_iff {call : Call} {failure : Failure} :
    call.breakdown? = some (.returned failure) ↔
      (∃ fault, call.reply = .returned (.error fault) ∧ failure = .transport fault) ∨
      ∃ frame, call.reply = .returned (.ok frame) ∧
        (Packet.decode frame).result ≠ .success ∧
        failure = .rejected (Packet.decode call.request).key
          (Packet.decode call.request).command (Packet.decode frame).result := by
  obtain ⟨selector, request, reply⟩ := call
  rcases reply with (fault | frame) | _
  · simp [breakdown?, eq_comm]
  · by_cases hresult : (Packet.decode frame).result = .success
    · simp [breakdown?, ControllerStatus.isSuccess_iff, hresult]
    · simp [breakdown?, ControllerStatus.isSuccess_iff, hresult, @eq_comm _ failure]
  · simp [breakdown?]

namespace Client.Job

/-- The ways in which a request fails, each with its status pair. -/
inductive Fails (site : Site σ) (s : σ) (job : Job) : StatusPair → Prop where
  | rejected {call : Call} {frame : Frame} (hcall : call ∈ job.sent site s)
      (hreply : call.reply = .returned (.ok frame))
      (hresult : (Packet.decode frame).result ≠ .success) :
      Fails site s job ⟨.success, (Packet.decode frame).result⟩
  | unreached {call : Call} {fault : Fault} (hcall : call ∈ job.sent site s)
      (hreply : call.reply = .returned (.error fault)) : Fails site s job ⟨fault.code, .error⟩
  | mismatched {value : Value} {info : KeyInfo} (hrequest : job.request = .write value)
      (hfound : job.found site s value.key = .returned (.ok info))
      (hshape : info.toShape ≠ value.toShape) :
      Fails site s job ⟨.badArgument, .dataTypeMismatch⟩
  | unnamed {text : String} {cause : Malformed} (hrequest : job.request = .readText text)
      (hnamed : Code.named text = .error cause) : Fails site s job ⟨.badArgument, .error⟩

variable {site : Site σ} {s : σ} {job : Job} {pair : StatusPair}

theorem Fails.ne_success (h : job.Fails site s pair) : pair ≠ .success := by
  cases h with
  | rejected hcall hreply hresult => simp [StatusPair.success, hresult]
  | unreached hcall hreply =>
      simp [StatusPair.success, ControllerStatus.error, ControllerStatus.success]
  | mismatched hrequest hfound hshape =>
      simp [StatusPair.success, KernelCode.badArgument, KernelCode.success]
  | unnamed hrequest hnamed =>
      simp [StatusPair.success, KernelCode.badArgument, KernelCode.success]

theorem breakdown?_eq_failed_iff {failure : Failure} :
    job.breakdown? site s = some (.returned failure) ↔
      ∃ response, (job.operation.run site s).1 = .returned response ∧
        response.failure? = some failure := by
  rw [breakdown?]
  cases (job.operation.run site s).1 with
  | returned response => simp [Outcome.breakdown?]
  | panicked => simp [Outcome.breakdown?]

theorem fails_iff :
    job.Fails site s pair ↔
      ∃ failure, job.breakdown? site s = some (.returned failure) ∧ failure.status = pair := by
  have haccords := accords_operation site s job
  constructor
  · intro h
    cases h with
    | @rejected call frame hcall hreply hresult =>
        have hbroken := Call.breakdown?_eq_failed_iff.mpr (.inr ⟨frame, hreply, hresult, rfl⟩)
        exact ⟨_, (haccords.eq_some_iff _).mpr (.inl ⟨call, hcall, hbroken⟩), rfl⟩
    | @unreached call fault hcall hreply =>
        have hbroken := Call.breakdown?_eq_failed_iff.mpr (.inl ⟨fault, hreply, rfl⟩)
        exact ⟨_, (haccords.eq_some_iff _).mpr (.inl ⟨call, hcall, hbroken⟩), rfl⟩
    | mismatched hrequest hfound hshape =>
        exact ⟨_, (haccords.eq_some_iff _).mpr (.inr ⟨_, rfl, .shape hrequest hfound hshape⟩), rfl⟩
    | unnamed hrequest hnamed =>
        exact ⟨_, (haccords.eq_some_iff _).mpr (.inr ⟨_, rfl, .name hrequest hnamed⟩), rfl⟩
  · intro h
    obtain ⟨failure, hended, rfl⟩ := h
    rcases (haccords.eq_some_iff _).mp hended with ⟨call, hcall, hbroken⟩ | ⟨_, hsame, hrefused⟩
    · rcases Call.breakdown?_eq_failed_iff.mp hbroken with
        ⟨fault, hreply, rfl⟩ | ⟨frame, hreply, hresult, rfl⟩
      · exact .unreached hcall hreply
      · exact .rejected hcall hreply hresult
    · cases hsame
      -- What is refused without a call is a value or a text.
      cases hrefused with
      | shape hrequest hfound hshape => exact .mismatched hrequest hfound hshape
      | name hrequest hnamed => exact .unnamed hrequest hnamed

theorem status_eq_success_iff {response : Response}
    (h : (job.operation.run site s).1 = .returned response) :
    response.status = .success ↔ response.failure? = none := by
  constructor
  · intro hstatus
    cases hfailure : response.failure? with
    | none => rfl
    | some failure =>
        have hfails : job.Fails site s failure.status :=
          fails_iff.mpr ⟨failure, breakdown?_eq_failed_iff.mpr ⟨response, h, hfailure⟩, rfl⟩
        rw [Response.status_of_failed hfailure] at hstatus
        exact absurd hstatus hfails.ne_success
  · exact Response.status_of_succeeded

end Client.Job

namespace Foreign.Request

def Succeeds (service : Service (Process τ)) (p : Process τ) (request : Request) : Prop :=
  ∃ number job, request.job? = some (number, job) ∧
    ∃ response,
      (job.operation.run (site service (.borrowed number)) p.clearError).1 =
        .returned response ∧
      response.failure? = none

theorem succeeds_iff {service : Service (Process τ)} {p : Process τ} {request : Request}
    {number : UInt32} {job : Job} (h : request.job? = some (number, job)) :
    request.Succeeds service p ↔
      ∃ response,
        (job.operation.run (site service (.borrowed number)) p.clearError).1 =
          .returned response ∧
        response.failure? = none := by
  constructor
  · intro hsucceeds
    obtain ⟨number', job', hother, hended⟩ := hsucceeds
    rw [h] at hother
    cases hother
    exact hended
  · exact fun hended => ⟨number, job, h, hended⟩

theorem status?_perform {service : Service (Process τ)} {p : Process τ} {request : Request}
    {pair : StatusPair} (h : (request.perform service p).1.status? = some pair) :
    pair = .success ↔ request.Succeeds service p := by
  have hbad : badArgument ≠ StatusPair.success := by decide
  cases hjob : request.job? with
  | none =>
      rw [status?_of_job?_eq_none hjob h]
      apply iff_of_false hbad
      intro hsucceeds
      obtain ⟨number, job, hother, -⟩ := hsucceeds
      rw [hjob] at hother
      cases hother
  | some behind =>
      obtain ⟨number, job⟩ := behind
      rw [succeeds_iff hjob]
      rcases fst_perform service hjob p with
        ⟨response, hended, himage, hstatus⟩ | ⟨hended, himage, hstatus⟩
      · rw [himage, hstatus] at h
        cases h
        simp [hended, Job.status_eq_success_iff hended]
      · rw [himage, hstatus] at h
        cases h
        exact iff_of_false hbad (by simp [hended])

end Foreign.Request

/-- The success pair stands for success alone, and the pair of a failure tells which side refused
and how. -/
theorem success_pair_iff_succeeded (site : Site σ) (s : σ) (job : Job)
    (service : Service (Foreign.Process τ)) (p : Foreign.Process τ) (request : Foreign.Request) :
    (∀ response, (job.operation.run site s).1 = .returned response →
      (response.status = .success ↔ response.failure? = none)) ∧
    (∀ pair, job.Fails site s pair ↔
      ∃ response failure, (job.operation.run site s).1 = .returned response ∧
        response.failure? = some failure ∧ response.status = pair) ∧
    (∀ response failure, (job.operation.run site s).1 = .returned response →
      response.failure? = some failure →
        (failure.isUnknownKey = true ↔ response.status = ⟨.success, .keyNotFound⟩)) ∧
    (∀ pair, (request.perform service p).1.status? = some pair →
      (pair = .success ↔ request.Succeeds service p)) := by
  refine ⟨?_, ?_, ?_, ?_⟩
  · exact fun response => Job.status_eq_success_iff
  · intro pair
    rw [Job.fails_iff]
    constructor
    · intro h
      obtain ⟨failure, hended, rfl⟩ := h
      obtain ⟨response, hreturned, hfailure⟩ := Job.breakdown?_eq_failed_iff.mp hended
      exact ⟨response, failure, hreturned, hfailure,
        Client.Response.status_of_failed hfailure⟩
    · intro h
      obtain ⟨response, failure, hreturned, hfailure, rfl⟩ := h
      exact ⟨failure, Job.breakdown?_eq_failed_iff.mpr ⟨response, hreturned, hfailure⟩,
        (Client.Response.status_of_failed hfailure).symm⟩
  · intro response failure hreturned hfailure
    rw [Client.Response.status_of_failed hfailure]
    exact failure.isUnknownKey_iff
  · exact fun pair => Foreign.Request.status?_perform

end SmcKeys
