import SmcKeys.Console.Command
import SmcKeys.Proofs.StatusPairs

namespace SmcKeys

def Failure.IsMismatch (failure : Failure) : Prop :=
  ∃ key expected actual, expected ≠ actual ∧ failure = .mismatch key expected actual

namespace Console

open Operation (calls trace_bind_pure)
open Client (Job failureOf? breakdown?_run_bind_done)

def Trouble.failure? : Trouble → Option Failure
  | .infoFailed _ failure => some failure
  | .readFailed _ failure => some failure
  | .writeFailed _ failure => some failure
  | .indexFailed _ failure => some failure
  | _ => none

def resultFailure? : Except Trouble Report → Option Failure
  | .ok _ => none
  | .error trouble => trouble.failure?

namespace Exit

theorem ofFault_eq (fault : Fault) :
    ofFault fault = .permissionDenied ∨ ofFault fault = .transport := by
  rw [ofFault]
  split
  · exact .inl rfl
  · exact .inr rfl

theorem ofFault_ne_usage (fault : Fault) : ofFault fault ≠ .usage := by
  rcases ofFault_eq fault with h | h <;> simp [h]

theorem ofFailure_eq_usage_iff (failure : Failure) :
    ofFailure failure = .usage ↔
      (∃ text, failure = .invalidArgument text) ∨ ∃ cause, failure = .malformed cause := by
  cases failure with
  | transport fault => simpa [ofFailure] using ofFault_ne_usage fault
  | rejected key command status =>
      rw [ofFailure]
      split <;> simp
  | _ => simp [ofFailure]

theorem ofFailure_eq_failure_iff (failure : Failure) :
    ofFailure failure = .failure ↔
      ∃ key command status, failure = .rejected key command status ∧ status ≠ .keyNotFound := by
  cases failure with
  | transport fault =>
      rcases ofFault_eq fault with h | h <;> simp [ofFailure, h]
  | rejected key command status =>
      by_cases hstatus : status = .keyNotFound
      · simp [ofFailure, hstatus]
      · rw [ofFailure, if_neg hstatus]
        exact iff_of_true rfl ⟨key, command, status, rfl, hstatus⟩
  | _ => simp [ofFailure]

theorem ofFailure_eq_dataInvalid_iff (failure : Failure) :
    ofFailure failure = .dataInvalid ↔
      (∃ key command, failure = .rejected key command .keyNotFound) ∨
        ∃ key expected actual, failure = .mismatch key expected actual := by
  cases failure with
  | transport fault =>
      rcases ofFault_eq fault with h | h <;> simp [ofFailure, h]
  | rejected key command status =>
      by_cases hstatus : status = .keyNotFound
      · simp [ofFailure, hstatus]
      · simp [ofFailure, hstatus]
  | _ => simp [ofFailure]

theorem ofFailure_eq_dataInvalid_iff_status (failure : Failure) :
    ofFailure failure = .dataInvalid ↔
      failure.status = ⟨.success, .keyNotFound⟩ ∨
        failure.status = ⟨.badArgument, .dataTypeMismatch⟩ := by
  rw [ofFailure_eq_dataInvalid_iff]
  cases failure with
  | rejected key command status =>
      simp [Failure.status, KernelCode.success, KernelCode.badArgument]
  | _ =>
      simp [Failure.status, ControllerStatus.error, ControllerStatus.keyNotFound,
        ControllerStatus.dataTypeMismatch]

end Exit

theorem Complaint.exit_ofFailure (context : String) (failure : Failure) :
    (ofFailure context failure).exit = .ofFailure failure := by
  cases failure <;> rfl

theorem Trouble.exit_of_failure? {trouble : Trouble} {failure : Failure}
    (h : trouble.failure? = some failure) : trouble.complaint.exit = .ofFailure failure := by
  cases trouble <;> cases h <;> exact Complaint.exit_ofFailure _ failure

theorem Trouble.exit_of_no_failure {trouble : Trouble} (h : trouble.failure? = none) :
    trouble.complaint.exit ≠ .dataInvalid ∧ trouble.complaint.exit ≠ .failure := by
  cases trouble with
  | notOpened fault =>
      change Exit.ofFault fault ≠ _ ∧ Exit.ofFault fault ≠ _
      rcases Exit.ofFault_eq fault with hexit | hexit <;> simp [hexit]
  | infoFailed key failure => cases h
  | readFailed key failure => cases h
  | writeFailed key failure => cases h
  | indexFailed index failure => cases h
  | _ => simp [complaint]

theorem bind_eq_ok {x : Except ε α} {f : α → Except ε β} {b : β} (h : (x >>= f) = .ok b) :
    ∃ a, x = .ok a ∧ f a = .ok b := by
  cases x with
  | error e => cases h
  | ok a => exact ⟨a, rfl, h⟩

theorem bind_eq_error {x : Except ε α} {f : α → Except ε β} {e : ε} (h : (x >>= f) = .error e) :
    x = .error e ∨ ∃ a, x = .ok a ∧ f a = .error e := by
  cases x with
  | error other =>
      cases h
      exact .inl rfl
  | ok a => exact .inr ⟨a, rfl, h⟩

/-- What may be wrong with an argument by itself. -/
inductive Trouble.OfArgument : Trouble → Prop where
  | key (text : String) (cause : Malformed) : OfArgument (.badKey text cause)
  | noDigits : OfArgument .emptyHex
  | digits (text flaw : String) : OfArgument (.badHex text flaw)

theorem Trouble.OfArgument.exit {trouble : Trouble} (h : trouble.OfArgument) :
    trouble.complaint.exit = .usage := by
  cases h <;> rfl

theorem Trouble.OfArgument.failure? {trouble : Trouble} (h : trouble.OfArgument) :
    trouble.failure? = none := by
  cases h <;> rfl

theorem ofArgument_of_keyArgument {text : String} {trouble : Trouble}
    (h : keyArgument text = .error trouble) : trouble.OfArgument := by
  rw [keyArgument] at h
  cases hnamed : Code.named text with
  | error cause =>
      rw [hnamed] at h
      cases h
      exact .key text cause
  | ok key =>
      rw [hnamed] at h
      cases h

theorem ofArgument_of_bytesArgument {kit : Kit} {text : String} {trouble : Trouble}
    (h : kit.bytesArgument text = .error trouble) : trouble.OfArgument := by
  simp only [Kit.bytesArgument] at h
  split at h
  · cases h
    exact .noDigits
  · generalize kit.readHex _ = decoded at h
    cases decoded with
    | error flaw =>
        cases h
        exact .digits text flaw
    | ok bytes => cases h

def tell (report : α → Report) (trouble : Failure → Trouble) :
    Except Failure α → Except Trouble Report
  | .ok a => .ok (report a)
  | .error failure => .error (trouble failure)

namespace Command

theorem readSteps_eq (key : Code) :
    readSteps key = Client.read {} key >>= fun result =>
      .done (tell .value (.readFailed key) result) := by
  apply congrArg (Client.read {} key >>= ·)
  funext result
  cases result <;> rfl

theorem infoSteps_eq (key : Code) :
    infoSteps key = Client.keyInfo {} key >>= fun result =>
      .done (tell (.info key) (.infoFailed key) result) := by
  apply congrArg (Client.keyInfo {} key >>= ·)
  funext result
  cases result <;> rfl

theorem indexSteps_eq (index : UInt32) :
    indexSteps index = Client.keyAt {} index >>= fun result =>
      .done (tell (.index index) (.indexFailed index) result) := by
  apply congrArg (Client.keyAt {} index >>= ·)
  funext result
  cases result <;> rfl

def writeOn (key : Code) (bytes : List UInt8) :
    Except Failure KeyInfo → Operation (Except Trouble Report)
  | .error failure => .done (.error (.infoFailed key failure))
  | .ok declared =>
      match Value.ofBytes key declared.type bytes with
      | .error cause => .done (.error (.badValue key cause))
      | .ok value => do
          match ← Client.write {} value with
          | .error failure => return .error (.writeFailed key failure)
          | .ok () => .note (.keyWritten key value.size) (.done (.ok (.value value)))

theorem writeSteps_eq (key : Code) (bytes : List UInt8) :
    writeSteps key bytes = Client.keyInfo {} key >>= writeOn key bytes := by
  apply congrArg (Client.keyInfo {} key >>= ·)
  funext found
  cases found with
  | error failure => rfl
  | ok declared =>
      simp only [writeOn]
      cases Value.ofBytes key declared.type bytes <;> rfl

variable {kit : Kit}

inductive Takes (kit : Kit) : Command → Operation (Except Trouble Report) → Prop where
  | read {text : String} {key : Code} (hkey : keyArgument text = .ok key) :
      Takes kit (.read text) (readSteps key)
  | write {text data : String} {key : Code} {bytes : List UInt8}
      (hkey : keyArgument text = .ok key) (hbytes : kit.bytesArgument data = .ok bytes) :
      Takes kit (.write text data) (writeSteps key bytes)
  | info {text : String} {key : Code} (hkey : keyArgument text = .ok key) :
      Takes kit (.info text) (infoSteps key)
  | keyAt (index : UInt32) : Takes kit (.keyAt index) (indexSteps index)

/-- A command that is to write more bytes than a buffer has room for. -/
inductive Oversized (kit : Kit) (key : Code) (bytes : List UInt8) : Command → Prop where
  | write {text data : String} (hkey : keyArgument text = .ok key)
      (hbytes : kit.bytesArgument data = .ok bytes) (hsize : capacity < bytes.length) :
      Oversized kit key bytes (.write text data)

theorem takes_of_task {command : Command} {steps : Operation (Except Trouble Report)}
    (h : kit.task command = .ok (.remote steps)) : command.Takes kit steps := by
  cases command with
  | read text =>
      obtain ⟨key, hkey, hsteps⟩ := bind_eq_ok h
      cases hsteps
      exact .read hkey
  | write text data =>
      obtain ⟨key, hkey, hrest⟩ := bind_eq_ok h
      obtain ⟨bytes, hbytes, hsteps⟩ := bind_eq_ok hrest
      cases hsteps
      exact .write hkey hbytes
  | info text =>
      obtain ⟨key, hkey, hsteps⟩ := bind_eq_ok h
      cases hsteps
      exact .info hkey
  | keyAt index =>
      cases h
      exact .keyAt index
  | version extended => cases h

theorem task_of_write {text data : String} {key : Code} {bytes : List UInt8}
    (hkey : keyArgument text = .ok key) (hbytes : kit.bytesArgument data = .ok bytes) :
    kit.task (.write text data) = .ok (.remote (writeSteps key bytes)) := by
  simp only [Kit.task, hkey, hbytes]
  rfl

theorem ofArgument_of_task {command : Command} {trouble : Trouble}
    (h : kit.task command = .error trouble) : trouble.OfArgument := by
  cases command with
  | read text =>
      rcases bind_eq_error h with hkey | ⟨key, -, hsteps⟩
      · exact ofArgument_of_keyArgument hkey
      · cases hsteps
  | write text data =>
      rcases bind_eq_error h with hkey | ⟨key, -, hrest⟩
      · exact ofArgument_of_keyArgument hkey
      · rcases bind_eq_error hrest with hbytes | ⟨bytes, -, hsteps⟩
        · exact ofArgument_of_bytesArgument hbytes
        · cases hsteps
  | info text =>
      rcases bind_eq_error h with hkey | ⟨key, -, hsteps⟩
      · exact ofArgument_of_keyArgument hkey
      · cases hsteps
  | keyAt index => cases h
  | version extended => cases h

section

variable {site : Site σ} {s : σ}

theorem accords_of_job (job : Job) {op : Operation (Except Failure α)}
    (wrap : Except Failure α → Client.Response)
    (hwrap : ∀ result, (wrap result).failure? = failureOf? result)
    (hop : job.operation = op >>= fun result => .done (wrap result)) :
    Accords (job.Refuses site s) (calls (op.trace site s))
      ((op.run site s).1.breakdown? failureOf?) := by
  have haccords := Job.accords_operation site s job
  have htrace : job.operation.trace site s = op.trace site s := by
    rw [hop]
    exact trace_bind_pure _ _ _ _
  rw [Job.sent, htrace, Job.breakdown?, hop, breakdown?_run_bind_done hwrap] at haccords
  exact haccords

/-- What a command does with the result of an operation makes no call and tells the result. -/
structure Finishes (site : Site σ) (finish : Except Failure α → Operation (Except Trouble Report))
    (report : α → Report) (trouble : Failure → Trouble) : Prop where
  calls : ∀ result s, calls ((finish result).trace site s) = []
  ends : ∀ result s, ((finish result).run site s).1 = .returned (tell report trouble result)
  failure : ∀ failure, (trouble failure).failure? = some failure

namespace Finishes

variable {op : Operation (Except Failure α)}
  {finish : Except Failure α → Operation (Except Trouble Report)} {report : α → Report}
  {trouble : Failure → Trouble}

theorem accords (h : Finishes site finish report trouble) {refuses : Failure → Prop}
    (hop : Accords refuses (Operation.calls (op.trace site s))
      ((op.run site s).1.breakdown? failureOf?)) :
    Accords refuses (Operation.calls ((op >>= finish).trace site s))
      (((op >>= finish).run site s).1.breakdown? resultFailure?) := by
  cases hrun : (op.run site s).1 with
  | returned result =>
      have htold : resultFailure? (tell report trouble result) = failureOf? result := by
        cases result with
        | ok a => rfl
        | error failure => exact h.failure failure
      rw [hrun] at hop
      rw [Operation.calls_bind_of_returned hrun, Operation.run_bind_of_returned hrun, h.calls,
        h.ends, List.append_nil]
      simpa only [Outcome.breakdown?, htold] using hop
  | panicked =>
      rw [hrun] at hop
      rw [Operation.calls_bind_of_panicked hrun, Operation.run_bind_of_panicked hrun]
      exact hop

theorem exists_failure (h : Finishes site finish report trouble) {told : Trouble}
    (hrun : ((op >>= finish).run site s).1 = .returned (.error told)) :
    ∃ failure, told.failure? = some failure := by
  cases hop : (op.run site s).1 with
  | returned result =>
      rw [Operation.run_bind_of_returned hop, h.ends] at hrun
      cases result with
      | ok a => cases hrun
      | error failure =>
          cases hrun
          exact ⟨failure, h.failure failure⟩
  | panicked =>
      rw [Operation.run_bind_of_panicked hop] at hrun
      cases hrun

end Finishes

theorem finishes_done {report : α → Report} {trouble : Failure → Trouble}
    (h : ∀ failure, (trouble failure).failure? = some failure) :
    Finishes site (fun result => .done (tell report trouble result)) report trouble where
  calls _ _ := rfl
  ends _ _ := rfl
  failure := h

theorem finishes_write (key : Code) (value : Value) :
    Finishes site (fun result => match result with
      | .error failure => .done (.error (.writeFailed key failure))
      | .ok () => .note (.keyWritten key value.size) (.done (.ok (.value value))))
      (fun _ => .value value) (.writeFailed key) where
  calls result s := by cases result <;> rfl
  ends result s := by cases result <;> rfl
  failure _ := rfl

theorem accords_of_plain_job (job : Job) {op : Operation (Except Failure α)}
    (wrap : Except Failure α → Client.Response)
    (hwrap : ∀ result, (wrap result).failure? = failureOf? result)
    (hop : job.operation = op >>= fun result => .done (wrap result))
    (hwrite : ∀ value, job.request ≠ .write value)
    (hname : ∀ text, job.request ≠ .readText text) :
    Accords refusesNone (calls (op.trace site s)) ((op.run site s).1.breakdown? failureOf?) := by
  apply (accords_of_job job wrap hwrap hop).congr
  intro failure
  refine iff_of_false ?_ id
  intro h
  cases h with
  | shape hrequest hfound hshape => exact hwrite _ hrequest
  | name hrequest hnamed => exact hname _ hrequest

theorem accords_read (key : Code) :
    Accords refusesNone (calls ((Client.read {} key).trace site s))
      (((Client.read {} key).run site s).1.breakdown? failureOf?) :=
  accords_of_plain_job ⟨{}, .read key⟩ .value (fun _ => rfl) rfl (by simp) (by simp)

theorem accords_keyAt (index : UInt32) :
    Accords refusesNone (calls ((Client.keyAt {} index).trace site s))
      (((Client.keyAt {} index).run site s).1.breakdown? failureOf?) :=
  accords_of_plain_job ⟨{}, .keyAt index⟩ .code (fun _ => rfl) rfl (by simp) (by simp)

theorem accords_write (site : Site σ) (s : σ) (value : Value) :
    ∃ refuses : Failure → Prop, (∀ failure, refuses failure → failure.IsMismatch) ∧
      Accords refuses (calls ((Client.write {} value).trace site s))
        (((Client.write {} value).run site s).1.breakdown? failureOf?) := by
  refine ⟨_, ?_, accords_of_job ⟨{}, .write value⟩ .done (fun _ => rfl) rfl⟩
  intro failure h
  cases h with
  | @shape value info hrequest hfound hshape => exact ⟨_, _, _, hshape, rfl⟩
  | name hrequest hnamed => cases hrequest

theorem accords_writeOn (site : Site σ) (s : σ) (key : Code) (bytes : List UInt8)
    (declared : KeyInfo) :
    ∃ refuses : Failure → Prop, (∀ failure, refuses failure → failure.IsMismatch) ∧
      Accords refuses (calls ((writeOn key bytes (.ok declared)).trace site s))
        (((writeOn key bytes (.ok declared)).run site s).1.breakdown? resultFailure?) := by
  simp only [writeOn]
  cases Value.ofBytes key declared.type bytes with
  | error cause =>
      refine ⟨refusesNone, fun _ => False.elim, Accords.of_no_call ?_⟩
      simp [Outcome.breakdown?, resultFailure?, Trouble.failure?, refusesNone]
  | ok value =>
      obtain ⟨refuses, hmismatch, haccords⟩ := accords_write site s value
      exact ⟨refuses, hmismatch, (finishes_write key value).accords haccords⟩

theorem accords_writeSteps (key : Code) (bytes : List UInt8) :
    ∃ refuses : Failure → Prop, (∀ failure, refuses failure → failure.IsMismatch) ∧
      Accords refuses (calls ((writeSteps key bytes).trace site s))
        (((writeSteps key bytes).run site s).1.breakdown? resultFailure?) := by
  have hasked := Client.accords_keyInfo site {} s key
  rw [writeSteps_eq]
  -- Which values are refused depends on the info, so it is told in each case.
  rcases hfound : ((Client.keyInfo {} key).run site s).1 with (failure | declared) | _
  · rw [hfound] at hasked
    rw [Operation.calls_bind_of_returned hfound, Operation.run_bind_of_returned hfound]
    refine ⟨refusesNone, fun _ => False.elim, ?_⟩
    change Accords refusesNone (calls _ ++ []) (some (.returned failure))
    rw [List.append_nil]
    exact hasked
  · rw [hfound] at hasked
    obtain ⟨refuses, hmismatch, haccords⟩ := accords_writeOn site
      ((Client.keyInfo {} key).run site s).2 key bytes declared
    rw [Operation.calls_bind_of_returned hfound, Operation.run_bind_of_returned hfound]
    exact ⟨refuses, hmismatch, Accords.append hasked haccords⟩
  · rw [hfound] at hasked
    rw [Operation.calls_bind_of_panicked hfound, Operation.run_bind_of_panicked hfound]
    exact ⟨refusesNone, fun _ => False.elim, hasked⟩

theorem Takes.exists_accords {command : Command} {steps : Operation (Except Trouble Report)}
    (h : command.Takes kit steps) (site : Site σ) (s : σ) :
    ∃ refuses : Failure → Prop, (∀ failure, refuses failure → failure.IsMismatch) ∧
      Accords refuses (calls (steps.trace site s))
        ((steps.run site s).1.breakdown? resultFailure?) := by
  have hnone : ∀ failure, refusesNone failure → failure.IsMismatch := fun _ => False.elim
  cases h with
  | @read text key hkey =>
      rw [readSteps_eq]
      exact ⟨refusesNone, hnone, (finishes_done fun _ => rfl).accords (accords_read key)⟩
  | @write text data key bytes hkey hbytes => exact accords_writeSteps key bytes
  | @info text key hkey =>
      rw [infoSteps_eq]
      have hasked := Client.accords_keyInfo site {} s key
      exact ⟨refusesNone, hnone, (finishes_done fun _ => rfl).accords hasked⟩
  | keyAt index =>
      rw [indexSteps_eq]
      exact ⟨refusesNone, hnone, (finishes_done fun _ => rfl).accords (accords_keyAt index)⟩

theorem writeOn_of_oversized (key : Code) {bytes : List UInt8} (h : capacity < bytes.length)
    (declared : KeyInfo) :
    writeOn key bytes (.ok declared) =
      .done (.error (.badValue key (.oversized bytes.length capacity))) := by
  simp only [writeOn, Value.ofBytes, if_pos h]

theorem exists_failure_of_writeOn {key : Code} {bytes : List UInt8} {declared : KeyInfo}
    {trouble : Trouble} (h : ¬capacity < bytes.length)
    (hrun : ((writeOn key bytes (.ok declared)).run site s).1 = .returned (.error trouble)) :
    ∃ failure, trouble.failure? = some failure := by
  cases hvalue : Value.ofBytes key declared.type bytes with
  | error cause => simp [Value.ofBytes, h] at hvalue
  | ok value =>
      simp only [writeOn, hvalue] at hrun
      exact (finishes_write key value).exists_failure hrun

theorem Takes.failure_or_oversized {command : Command}
    {steps : Operation (Except Trouble Report)} {trouble : Trouble} (h : command.Takes kit steps)
    (hrun : (steps.run site s).1 = .returned (.error trouble)) :
    (∃ failure, trouble.failure? = some failure) ∨
      ∃ key bytes info, command.Oversized kit key bytes ∧ steps = writeSteps key bytes ∧
        ((Client.keyInfo {} key).run site s).1 = .returned (.ok info) := by
  cases h with
  | @read text key hkey =>
      rw [readSteps_eq] at hrun
      exact .inl ((finishes_done fun _ => rfl).exists_failure hrun)
  | @write text data key bytes hkey hbytes =>
      rw [writeSteps_eq] at hrun
      rcases hfound : ((Client.keyInfo {} key).run site s).1 with (failure | declared) | _
      · rw [Operation.run_bind_of_returned hfound] at hrun
        cases hrun
        exact .inl ⟨failure, rfl⟩
      · rw [Operation.run_bind_of_returned hfound] at hrun
        by_cases hsize : capacity < bytes.length
        · exact .inr ⟨key, bytes, declared, .write hkey hbytes hsize, rfl, hfound⟩
        · exact .inl (exists_failure_of_writeOn hsize hrun)
      · rw [Operation.run_bind_of_panicked hfound] at hrun
        cases hrun
  | @info text key hkey =>
      rw [infoSteps_eq] at hrun
      exact .inl ((finishes_done fun _ => rfl).exists_failure hrun)
  | keyAt index =>
      rw [indexSteps_eq] at hrun
      exact .inl ((finishes_done fun _ => rfl).exists_failure hrun)

theorem breakdown?_of_trouble {steps : Operation (Except Trouble Report)} {trouble : Trouble}
    {failure : Failure} (hrun : (steps.run site s).1 = .returned (.error trouble))
    (hfailure : trouble.failure? = some failure) :
    (steps.run site s).1.breakdown? resultFailure? = some (.returned failure) := by
  rw [hrun]
  exact congrArg (Option.map Outcome.returned) hfailure

theorem Takes.exit_ne_usage {command : Command} {steps : Operation (Except Trouble Report)}
    {trouble : Trouble} {failure : Failure} (h : command.Takes kit steps)
    (hrun : (steps.run site s).1 = .returned (.error trouble))
    (hfailure : trouble.failure? = some failure) : trouble.complaint.exit ≠ .usage := by
  obtain ⟨refuses, hmismatch, haccords⟩ := h.exists_accords site s
  rw [Trouble.exit_of_failure? hfailure, ne_eq, Exit.ofFailure_eq_usage_iff]
  rcases (haccords.eq_some_iff _).mp (breakdown?_of_trouble hrun hfailure) with
    ⟨call, -, hbroken⟩ | ⟨_, hsame, hrefused⟩
  · rcases Call.breakdown?_eq_failed_iff.mp hbroken with ⟨fault, -, rfl⟩ | ⟨frame, -, -, rfl⟩
    · simp
    · simp
  · cases hsame
    obtain ⟨key, expected, actual, -, rfl⟩ := hmismatch _ hrefused
    simp

end

end Command

end Console

end SmcKeys
