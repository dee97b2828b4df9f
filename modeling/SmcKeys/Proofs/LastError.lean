import SmcKeys.Proofs.Bank
import SmcKeys.Proofs.Hosting
import SmcKeys.Proofs.StatusPairs

namespace SmcKeys

open Client (Job failureOf?)

theorem Fault.message_ne_empty (fault : Fault) : fault.message ≠ "" := by
  unfold message
  split <;> simp

theorem Failure.message_ne_empty (failure : Failure) : failure.message ≠ "" := by
  unfold message
  split <;> simp

namespace Foreign

def sanitized (message : String) : String :=
  message.map fun c => if c = '\x00' then '?' else c

theorem sanitized_eq_empty_iff {message : String} : sanitized message = "" ↔ message = "" :=
  String.map_eq_empty

theorem nul_not_mem_sanitized (message : String) : '\x00' ∉ (sanitized message).toList := by
  rw [sanitized, String.toList_map, List.mem_map]
  rintro ⟨c, -, hc⟩
  split at hc
  · cases hc
  · contradiction

inductive Mishap where
  | nullPointer (complaint : String)
  | faulted (fault : Fault)
  | broken (breakdown : Breakdown)

def Mishap.text : Mishap → String
  | .nullPointer complaint => complaint
  | .faulted fault => fault.message
  | .broken (.returned failure) => failure.message
  | .broken .panicked => panicMessage

def errorText : Option Mishap → String
  | some mishap => sanitized mishap.text
  | none => ""

theorem nul_not_mem_errorText (mishap? : Option Mishap) :
    '\x00' ∉ (errorText mishap?).toList := by
  cases mishap? with
  | none => exact List.not_mem_nil
  | some mishap => exact nul_not_mem_sanitized mishap.text

def faultOf? : Except Fault α → Option Fault
  | .ok _ => none
  | .error fault => some fault

namespace Request

def Reports : Request → Prop
  | .cleanUp | .codeOfText _ | .textOfCode _ _ => False
  | _ => True

def complaint? : Request → Option String
  | .openConnection none => some "conn cannot be null"
  | .readKey none _ _ => some "key and val cannot be null"
  | .readKey (some _) none _ => some "key and val cannot be null"
  | .writeKey none _ => some "val cannot be null"
  | .keyFromIndex _ none _ => some "key cannot be null"
  | .keyInfo _ none _ => some "info cannot be null"
  | _ => none

def slip? (service : Service (Process τ)) (p : Process τ) : Request → Option Mishap
  | .openConnection (some _) => (faultOf? (service.openNumber p.clearError).1).map .faulted
  | .closeConnection number => (faultOf? (service.closeNumber number p.clearError).1).map .faulted
  | request => request.complaint?.map .nullPointer

/-- What goes wrong in a call, which is the breakdown of the request behind it if there is one. -/
def mishap? (service : Service (Process τ)) (p : Process τ) (request : Request) :
    Option Mishap :=
  match request.job? with
  | some (number, job) =>
      (job.breakdown? (site service (.borrowed number)) p.clearError).map .broken
  | none => request.slip? service p

theorem cases_of_reports {request : Request} (h : request.Reports) :
    (∃ number job, request.job? = some (number, job)) ∨
      (∃ before, request = .openConnection (some before)) ∨
      (∃ number, request = .closeConnection number) ∨
      ∃ complaint, request.complaint? = some complaint := by
  cases request with
  | openConnection out =>
      cases out with
      | none => exact .inr (.inr (.inr ⟨_, rfl⟩))
      | some before => exact .inr (.inl ⟨before, rfl⟩)
  | closeConnection number => exact .inr (.inr (.inl ⟨number, rfl⟩))
  | readKey key out number =>
      cases key with
      | none => exact .inr (.inr (.inr ⟨_, rfl⟩))
      | some key =>
          cases out with
          | none => exact .inr (.inr (.inr ⟨_, rfl⟩))
          | some before => exact .inl ⟨_, _, rfl⟩
  | writeKey value number =>
      cases value with
      | none => exact .inr (.inr (.inr ⟨_, rfl⟩))
      | some value => exact .inl ⟨_, _, rfl⟩
  | keyFromIndex index out number =>
      cases out with
      | none => exact .inr (.inr (.inr ⟨_, rfl⟩))
      | some before => exact .inl ⟨_, _, rfl⟩
  | keyInfo key out number =>
      cases out with
      | none => exact .inr (.inr (.inr ⟨_, rfl⟩))
      | some before => exact .inl ⟨_, _, rfl⟩
  | cleanUp => cases h
  | codeOfText text => cases h
  | textOfCode code out => cases h

end Request

def Response.success? : Response → Option Bool
  | .opened kernel _ => some kernel.isSuccess
  | .closed kernel => some kernel.isSuccess
  | response => response.status?.map StatusPair.isSuccess

theorem Response.success?_of_status? {response : Response} {pair : StatusPair}
    (h : response.status? = some pair) : response.success? = some pair.isSuccess := by
  cases response <;> cases h <;> rfl

/-- A service behind which no function is called: whatever it does, it leaves the last error. -/
structure Quiet (service : Service (Process τ)) : Prop where
  opened : ∀ p, (service.openNumber p).2.lastError = p.lastError
  closed : ∀ number p, (service.closeNumber number p).2.lastError = p.lastError
  called : ∀ number selector request p,
    (service.call number selector request p).2.lastError = p.lastError
  noted : ∀ event p, (service.note event p).lastError = p.lastError

/-- A service whose faults in opening and closing are no successes by their codes. -/
structure Coded (service : Service (Process τ)) : Prop where
  opened : ∀ p fault, (service.openNumber p).1 = .error fault → fault.code ≠ .success
  closed : ∀ number p fault, (service.closeNumber number p).1 = .error fault →
    fault.code ≠ .success

theorem quiet_hosted (service : Service τ) : Quiet (hosted service) where
  opened _ := rfl
  closed _ _ := rfl
  called _ _ _ _ := rfl
  noted _ _ := rfl

def Process.told (breakdown? : Option Breakdown) (p : Process τ) : Process τ :=
  match breakdown? with
  | none => p
  | some breakdown => p.setError (Mishap.text (.broken breakdown))

theorem lastError_told {p : Process τ} (h : p.lastError = "") (breakdown? : Option Breakdown) :
    (p.told breakdown?).lastError = errorText (breakdown?.map .broken) := by
  cases breakdown? with
  | none => exact h
  | some breakdown => rfl

section

variable {service : Service (Process τ)}

theorem snd_report (result : Except Failure α) (p : Process τ) :
    (report result p).2 = p.told ((failureOf? result).map .returned) := by
  cases result with
  | ok a => rfl
  | error failure => rfl

theorem snd_ask (number : UInt32) (question : Operation (Except Failure α)) (convert : α → β)
    (before : β) (p : Process τ) :
    (ask service number question convert before p).2 =
      (question.run (site service (.borrowed number)) p).2.told
        ((question.run (site service (.borrowed number)) p).1.breakdown? failureOf?) := by
  rw [ask, perform_eq_run]
  obtain ⟨(failure | a) | _, q⟩ := question.run (site service (.borrowed number)) p
  · rfl
  · rfl
  · rfl

theorem Request.snd_perform {request : Request} {number : UInt32} {job : Job}
    (h : request.job? = some (number, job)) (p : Process τ) :
    (request.perform service p).2 =
      (job.operation.run (site service (.borrowed number)) p.clearError).2.told
        (job.breakdown? (site service (.borrowed number)) p.clearError) := by
  unfold job? at h
  split at h
  case h_1 key before number =>
    cases h
    simp only [Job.breakdown?, Job.operation, Operation.run_bind, perform, Foreign.readKey,
      perform_eq_run]
    obtain ⟨left | _, q⟩ := (Client.readInto {} key.code (.empty key.code)).run
      (site service (.borrowed number)) p.clearError
    · exact snd_report left.result q
    · rfl
  case h_2 value number =>
    cases h
    simp only [Job.breakdown?, Job.operation, Operation.run_bind, perform, Foreign.writeKey,
      perform_eq_run]
    obtain ⟨result | _, q⟩ := (Client.write {} value.toValue).run
      (site service (.borrowed number)) p.clearError
    · exact snd_report result q
    · rfl
  case h_3 index before number =>
    cases h
    simp only [Job.breakdown?, Job.operation, Operation.run_bind, perform,
      Foreign.keyFromIndex, snd_ask]
    obtain ⟨result | _, q⟩ := (Client.keyAt {} index).run
      (site service (.borrowed number)) p.clearError
    · rfl
    · rfl
  case h_4 key before number =>
    cases h
    simp only [Job.breakdown?, Job.operation, Operation.run_bind, perform,
      Foreign.keyInfo, snd_ask]
    obtain ⟨result | _, q⟩ := (Client.keyInfo {} ⟨key⟩).run
      (site service (.borrowed number)) p.clearError
    · rfl
    · rfl
  case h_5 => cases h

end

section

variable {service : Service (Process τ)} {request : Request} {p : Process τ}

theorem Quiet.lastError_run (h : Quiet service) (connection : Connection) (op : Operation α)
    (p : Process τ) : (op.run (site service connection) p).2.lastError = p.lastError := by
  have hidle : (site service connection).Follows (·.lastError) fun text _ => text :=
    { setCache := fun _ _ => rfl
      note := fun _ _ => rfl
      call := h.called connection.number }
  exact hidle.run_of_idle op p

/-- What a call leaves as the last error, and what it reports, when this goes wrong or nothing. -/
def Tells (done : Response × Process τ) (mishap? : Option Mishap) : Prop :=
  done.2.lastError = errorText mishap? ∧ done.1.success? = some mishap?.isNone

theorem tells_openConnection (hquiet : Quiet service) (hcoded : Coded service) (before : UInt32) :
    Tells (Request.perform service p (.openConnection (some before)))
      ((faultOf? (service.openNumber p.clearError).1).map .faulted) := by
  have hopened := hquiet.opened p.clearError
  have hfault := hcoded.opened p.clearError
  simp only [Request.perform, openConnection, Connection.acquire]
  generalize service.openNumber p.clearError = opened at hopened hfault ⊢
  obtain ⟨fault | number, q⟩ := opened
  · exact ⟨rfl, congrArg some (KernelCode.isSuccess_eq_false (hfault fault rfl))⟩
  · exact ⟨(hquiet.noted _ q).trans hopened, rfl⟩

theorem tells_closeConnection (hquiet : Quiet service) (hcoded : Coded service)
    (number : UInt32) :
    Tells (Request.perform service p (.closeConnection number))
      ((faultOf? (service.closeNumber number p.clearError).1).map .faulted) := by
  have hclosed := hquiet.closed number p.clearError
  have hfault := hcoded.closed number p.clearError
  simp only [Request.perform, closeConnection, Connection.close_eq, Connection.adopted]
  generalize service.closeNumber number p.clearError = closed at hclosed hfault ⊢
  obtain ⟨fault | _, q⟩ := closed
  · exact ⟨rfl, congrArg some (KernelCode.isSuccess_eq_false (hfault fault rfl))⟩
  · exact ⟨(hquiet.noted _ q).trans hclosed, rfl⟩

theorem tells_of_job? (hquiet : Quiet service) {number : UInt32} {job : Job}
    (h : request.job? = some (number, job)) :
    Tells (request.perform service p)
      ((job.breakdown? (site service (.borrowed number)) p.clearError).map .broken) := by
  constructor
  · rw [Request.snd_perform h]
    apply lastError_told
    exact hquiet.lastError_run _ job.operation p.clearError
  · rw [Option.isNone_map, Job.breakdown?]
    rcases Request.fst_perform service h p with
      ⟨response, hended, himage, hstatus⟩ | ⟨hended, himage, hstatus⟩
    · rw [himage, Response.success?_of_status? hstatus, hended, Option.some.injEq,
        Bool.eq_iff_iff, StatusPair.isSuccess_iff, Job.status_eq_success_iff hended]
      simp [Outcome.breakdown?]
    · rw [himage, Response.success?_of_status? hstatus, hended]
      rfl

theorem tells_of_complaint? {complaint : String} (h : request.complaint? = some complaint) :
    Tells (request.perform service p) (request.mishap? service p) := by
  unfold Request.complaint? at h
  split at h <;> cases h <;> exact ⟨rfl, rfl⟩

theorem Request.tells_mishap? (hquiet : Quiet service) (hcoded : Coded service)
    (hreports : request.Reports) :
    Tells (request.perform service p) (request.mishap? service p) := by
  rcases cases_of_reports hreports with
    ⟨number, job, hjob⟩ | ⟨before, rfl⟩ | ⟨number, rfl⟩ | ⟨complaint, hcomplaint⟩
  · simp only [mishap?, hjob]
    exact tells_of_job? hquiet hjob
  · exact tells_openConnection hquiet hcoded before
  · exact tells_closeConnection hquiet hcoded number
  · exact tells_of_complaint? hcomplaint

theorem Request.text_ne_empty_of_complaint? {complaint : String}
    (h : request.complaint? = some complaint) : complaint ≠ "" := by
  unfold complaint? at h
  split at h <;> cases h <;> simp

theorem Request.text_ne_empty {mishap : Mishap} (h : request.mishap? service p = some mishap) :
    mishap.text ≠ "" := by
  unfold mishap? at h
  split at h
  case h_1 number job hjob =>
    obtain ⟨breakdown, -, rfl⟩ := Option.map_eq_some_iff.mp h
    cases breakdown with
    | returned failure => exact failure.message_ne_empty
    | panicked => simp [Mishap.text, panicMessage]
  case h_2 =>
    unfold slip? at h
    split at h
    · obtain ⟨fault, -, rfl⟩ := Option.map_eq_some_iff.mp h
      exact fault.message_ne_empty
    · obtain ⟨fault, -, rfl⟩ := Option.map_eq_some_iff.mp h
      exact fault.message_ne_empty
    · obtain ⟨complaint, hcomplaint, rfl⟩ := Option.map_eq_some_iff.mp h
      exact text_ne_empty_of_complaint? hcomplaint

theorem Request.errorText_eq_empty_iff :
    errorText (request.mishap? service p) = "" ↔ request.mishap? service p = none := by
  cases h : request.mishap? service p with
  | none => simp [errorText]
  | some mishap => simp [errorText, sanitized_eq_empty_iff, Request.text_ne_empty h]

theorem Request.perform_of_not_reports (h : ¬request.Reports) :
    (request.perform service p).1.success? = none ∧
      (request.perform service p).2.lastError = p.lastError := by
  cases request with
  | cleanUp => exact ⟨rfl, rfl⟩
  | codeOfText text => exact ⟨rfl, rfl⟩
  | textOfCode number out => exact ⟨rfl, rfl⟩
  | _ => exact absurd trivial h

end

theorem lastError_run_of_not_reports {service : Service (Process τ)} {requests : List Request}
    (h : ∀ request ∈ requests, ¬request.Reports) (p : Process τ) :
    (run service requests p).process.lastError = p.lastError := by
  induction requests generalizing p with
  | nil => rfl
  | cons request rest ih =>
      obtain ⟨hnow, hlater⟩ := List.forall_mem_cons.mp h
      exact (ih hlater _).trans (Request.perform_of_not_reports hnow).2

/-- The last error is the text of what went wrong in the latest call that reports something, and
empty if and only if that was a success. -/
theorem last_error_tells_last_report {service : Service (Process τ)} (hquiet : Quiet service)
    (hcoded : Coded service) (before : List Request) (request : Request) (later : List Request)
    (hlater : ∀ other ∈ later, ¬other.Reports) (start : Process τ) :
    let atCall := (run service before start).process
    let now := run service (before ++ request :: later) start
    ∃ response, now.responses[before.length]? = some response ∧
      (request.Reports →
        (∃ success, response.success? = some success ∧
          (now.process.lastError = "" ↔ success = true)) ∧
        now.process.lastError = errorText (request.mishap? service atCall) ∧
        '\x00' ∉ now.process.lastError.toList) ∧
      (¬request.Reports →
        response.success? = none ∧ now.process.lastError = atCall.lastError) := by
  intro atCall now
  have hkept : now.process.lastError = (request.perform service atCall).2.lastError := by
    simp only [now, run_append]
    exact lastError_run_of_not_reports hlater _
  refine ⟨_, getElem?_responses before request later start, ?_, ?_⟩
  · intro hreports
    obtain ⟨htext, hsuccess⟩ := Request.tells_mishap? (p := atCall) hquiet hcoded hreports
    rw [hkept, htext]
    refine ⟨⟨_, hsuccess, ?_⟩, rfl, nul_not_mem_errorText _⟩
    rw [Request.errorText_eq_empty_iff, Option.isNone_iff_eq_none]
  · intro hreports
    have hidle : (request.perform service atCall).1.success? = none ∧
        (request.perform service atCall).2.lastError = atCall.lastError :=
      Request.perform_of_not_reports hreports
    exact ⟨hidle.1, hkept.trans hidle.2⟩

/-- The bank has no key of the code with the bytes `T`, NUL, `P` and `0`, and says so. -/
theorem last_error_names_key_with_nul :
    let service := hosted Bench.Bank.service
    let now := run service [.keyInfo 0x54005030 (some ⟨0, 0, 0⟩) 1, .cleanUp]
      { controller := [], lastError := "old" }
    Quiet service ∧ Coded service ∧ (∀ other ∈ [Request.cleanUp], ¬other.Reports) ∧
      ∃ response, now.responses[0]? = some response ∧ response.success? = some false ∧
        now.process.lastError = "READ_KEY_INFO on key T?P0 failed: key not found (132)" := by
  intro service now
  have hcoded : Coded service :=
    { opened := fun _ _ h => by cases h
      closed := fun _ _ _ h => by cases h }
  have hlater : ∀ other ∈ [Request.cleanUp], ¬other.Reports := by simp [Request.Reports]
  obtain ⟨response, hresponse, htold, -⟩ :=
    last_error_tells_last_report (quiet_hosted _) hcoded []
      (.keyInfo 0x54005030 (some ⟨0, 0, 0⟩) 1) [.cleanUp] hlater
      { controller := [], lastError := "old" }
  obtain ⟨⟨success, hsuccess, hempty⟩, htext, -⟩ := htold trivial
  have hmessage : now.process.lastError =
      sanitized (Failure.message (.rejected ⟨0x54005030⟩ .readKeyInfo .keyNotFound)) := htext
  have hname : (⟨0x54005030⟩ : Code).text = "T\x00P0" := by decide +kernel
  have hstatus : ControllerStatus.keyNotFound.text = "key not found (132)" := by decide +kernel
  have hsaid : now.process.lastError =
      "READ_KEY_INFO on key T?P0 failed: key not found (132)" := by
    rw [hmessage]
    apply String.toList_inj.mp
    unfold sanitized Failure.message
    simp only [hname, hstatus, String.toList_map]
    decide +kernel
  refine ⟨quiet_hosted _, hcoded, hlater, response, hresponse, ?_, hsaid⟩
  cases success with
  | false => exact hsuccess
  | true =>
      have hsilent : now.process.lastError = "" := hempty.mpr rfl
      simp [hsaid] at hsilent

end Foreign

end SmcKeys
