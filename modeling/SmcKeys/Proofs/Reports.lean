import SmcKeys.Proofs.ForeignRun
import SmcKeys.Proofs.Proceeding

namespace SmcKeys

namespace Operation

variable {site : Site σ} {op : Operation α} {s : σ}

theorem fst_run_bind_done_of_returned {f : α → β} {a : α}
    (h : (op.run site s).1 = .returned a) :
    ((op >>= fun a => .done (f a)).run site s).1 = .returned (f a) := by
  rw [run_bind_of_returned h]
  rfl

theorem fst_run_bind_done_of_panicked {f : α → β} (h : (op.run site s).1 = .panicked) :
    ((op >>= fun a => .done (f a)).run site s).1 = .panicked := by
  rw [run_bind_of_panicked h]

end Operation

def Client.Response.status : Client.Response → StatusPair
  | .info result => .ofResult result
  | .value result => .ofResult result
  | .reading left => .ofResult left.result
  | .done result => .ofResult result
  | .code result => .ofResult result

namespace Foreign

open Client (Job)
open Operation (fst_run_bind_done_of_returned fst_run_bind_done_of_panicked)

def Response.status? : Response → Option StatusPair
  | .value reply => some reply.status
  | .status pair => some pair
  | .key reply => some reply.status
  | .info reply => some reply.status
  | _ => none

def answered (convert : α → β) (before : β) : Except Failure α → β
  | .ok answer => convert answer
  | .error _ => before

def Request.image : Request → Outcome Client.Response → Response
  | .readKey _ _ _, .returned (.reading left) =>
      .value ⟨.ofResult left.result, some (.ofValue left.value)⟩
  | .readKey _ out _, .panicked => .value ⟨badArgument, out⟩
  | .writeKey _ _, .returned (.done result) => .status (.ofResult result)
  | .writeKey _ _, .panicked => .status badArgument
  | .keyFromIndex _ out _, .returned (.code result) =>
      .key ⟨.ofResult result, out.map fun before => answered KeyText.ofCode before result⟩
  | .keyFromIndex _ out _, .panicked => .key ⟨badArgument, out⟩
  | .keyInfo _ out _, .returned (.info result) =>
      .info ⟨.ofResult result, out.map fun before => answered Info.ofInfo before result⟩
  | .keyInfo _ out _, .panicked => .info ⟨badArgument, out⟩
  | _, _ => .nothing

section

variable {service : Service (Process τ)} {request : Request} {number : UInt32} {job : Job}

theorem fst_report (result : Except Failure α) (p : Process τ) :
    (report result p).1 = .ofResult result := by
  cases result with
  | ok a => rfl
  | error failure => rfl

theorem fst_ask_of_returned {question : Operation (Except Failure α)} {convert : α → β}
    {before : β} {p : Process τ} {result : Except Failure α}
    (h : (question.run (site service (.borrowed number)) p).1 = .returned result) :
    (ask service number question convert before p).1 =
      ⟨.ofResult result, some (answered convert before result)⟩ := by
  have hrun : Foreign.perform service number question p = (.returned result, _) := Prod.ext h rfl
  rw [ask, hrun]
  cases result with
  | ok a => rfl
  | error failure => rfl

theorem fst_ask_of_panicked {question : Operation (Except Failure α)} {convert : α → β}
    {before : β} {p : Process τ}
    (h : (question.run (site service (.borrowed number)) p).1 = .panicked) :
    (ask service number question convert before p).1 = ⟨badArgument, some before⟩ := by
  have hrun : Foreign.perform service number question p = (.panicked, _) := Prod.ext h rfl
  rw [ask, hrun]

theorem Request.fst_perform (service : Service (Process τ))
    (h : request.job? = some (number, job)) (p : Process τ) :
    (∃ response,
      (job.operation.run (site service (.borrowed number)) p.clearError).1 =
        .returned response ∧
      (request.perform service p).1 = request.image (.returned response) ∧
      (request.image (.returned response)).status? = some response.status) ∨
    ((job.operation.run (site service (.borrowed number)) p.clearError).1 = .panicked ∧
      (request.perform service p).1 = request.image .panicked ∧
      (request.image .panicked).status? = some badArgument) := by
  unfold job? at h
  split at h
  case h_1 key before number =>
    cases h
    simp only [Job.operation, perform, Foreign.readKey, perform_eq_run]
    rcases hrun : (Client.readInto {} key.code (.empty key.code)).run
      (site service (.borrowed number)) p.clearError with ⟨left | _, q⟩
    · refine .inl ⟨_, fst_run_bind_done_of_returned (congrArg Prod.fst hrun), ?_, rfl⟩
      simp [image, fst_report]
    · exact .inr ⟨fst_run_bind_done_of_panicked (congrArg Prod.fst hrun), rfl, rfl⟩
  case h_2 value number =>
    cases h
    simp only [Job.operation, perform, Foreign.writeKey, perform_eq_run]
    rcases hrun : (Client.write {} value.toValue).run
      (site service (.borrowed number)) p.clearError with ⟨result | _, q⟩
    · refine .inl ⟨_, fst_run_bind_done_of_returned (congrArg Prod.fst hrun), ?_, rfl⟩
      simp [image, fst_report]
    · exact .inr ⟨fst_run_bind_done_of_panicked (congrArg Prod.fst hrun), rfl, rfl⟩
  case h_3 index before number =>
    cases h
    simp only [Job.operation, perform, Foreign.keyFromIndex]
    cases hend : ((Client.keyAt {} index).run (site service (.borrowed number)) p.clearError).1
      with
    | returned result =>
        refine .inl ⟨_, fst_run_bind_done_of_returned hend, ?_, rfl⟩
        exact congrArg Response.key (fst_ask_of_returned hend)
    | panicked =>
        refine .inr ⟨fst_run_bind_done_of_panicked hend, ?_, rfl⟩
        exact congrArg Response.key (fst_ask_of_panicked hend)
  case h_4 key before number =>
    cases h
    simp only [Job.operation, perform, Foreign.keyInfo]
    cases hend : ((Client.keyInfo {} ⟨key⟩).run (site service (.borrowed number))
      p.clearError).1 with
    | returned result =>
        refine .inl ⟨_, fst_run_bind_done_of_returned hend, ?_, rfl⟩
        exact congrArg Response.info (fst_ask_of_returned hend)
    | panicked =>
        refine .inr ⟨fst_run_bind_done_of_panicked hend, ?_, rfl⟩
        exact congrArg Response.info (fst_ask_of_panicked hend)
  case h_5 => cases h

theorem Request.response_of_job? (service : Service (Process τ))
    (h : request.job? = some (number, job)) (p : Process τ) :
    (request.perform service p).1 =
      request.image (job.operation.run (site service (.borrowed number)) p.clearError).1 := by
  rcases fst_perform service h p with ⟨response, hended, himage, -⟩ | ⟨hended, himage, -⟩
  · rw [himage, hended]
  · rw [himage, hended]

/-- Without a request behind it a call reports no status pair but a bad argument. -/
theorem Request.status?_of_job?_eq_none (h : request.job? = none) {p : Process τ}
    {status : StatusPair} (hstatus : (request.perform service p).1.status? = some status) :
    status = badArgument := by
  cases request with
  | readKey key out number =>
      cases key with
      | none => exact (Option.some.inj hstatus).symm
      | some key =>
          cases out with
          | none => exact (Option.some.inj hstatus).symm
          | some before => cases h
  | writeKey value number =>
      cases value with
      | none => exact (Option.some.inj hstatus).symm
      | some value => cases h
  | keyFromIndex index out number =>
      cases out with
      | none => exact (Option.some.inj hstatus).symm
      | some before => cases h
  | keyInfo key out number =>
      cases out with
      | none => exact (Option.some.inj hstatus).symm
      | some before => cases h
  | _ => cases hstatus

end

end Foreign

end SmcKeys
