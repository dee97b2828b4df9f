import SmcKeys.Proofs.Proceeding

namespace SmcKeys

open Operation (calls calls_append calls_bind_of_returned calls_bind_of_panicked
  run_bind_of_returned run_bind_of_panicked)

abbrev Breakdown := Outcome Failure

def Call.breakdown? (call : Call) : Option Breakdown :=
  match call.reply with
  | .panicked => some .panicked
  | .returned (.error fault) => some (.returned (.transport fault))
  | .returned (.ok frame) =>
      let request := Packet.decode call.request
      let response := Packet.decode frame
      if response.result.isSuccess then none
      else some (.returned (.rejected request.key request.command response.result))

def Outcome.breakdown? (failure? : α → Option Failure) : Outcome α → Option Breakdown
  | .returned a => (failure? a).map .returned
  | .panicked => some .panicked

/-- No call comes after a failing one, and the end is as the failing call was, unless the caller
itself refuses. -/
structure Accords (refuses : Failure → Prop) (sent : List Call) (ending : Option Breakdown) :
    Prop where
  last : ∀ before call after, sent = before ++ call :: after → call.breakdown? ≠ none →
    after = []
  eq_some_iff : ∀ breakdown, ending = some breakdown ↔
    (∃ call ∈ sent, call.breakdown? = some breakdown) ∨
      ∃ failure, breakdown = .returned failure ∧ refuses failure

def refusesNone (_ : Failure) : Prop := False

namespace Accords

theorem of_no_call {refuses : Failure → Prop} {ending : Option Breakdown}
    (h : ∀ breakdown, ending = some breakdown ↔
      ∃ failure, breakdown = .returned failure ∧ refuses failure) :
    Accords refuses [] ending where
  last := by
    intro before call after hsplit
    simp at hsplit
  eq_some_iff := by
    intro breakdown
    simp [h]

theorem of_call {call : Call} : Accords refusesNone [call] call.breakdown? where
  last := by
    intro before other after hsplit _
    cases before with
    | nil =>
        cases hsplit
        rfl
    | cons first before => simp at hsplit
  eq_some_iff := by
    intro breakdown
    simp [refusesNone]

theorem congr {refuses refuses' : Failure → Prop} {sent : List Call} {ending : Option Breakdown}
    (h : Accords refuses sent ending) (hrefuses : ∀ failure, refuses failure ↔ refuses' failure) :
    Accords refuses' sent ending where
  last := h.last
  eq_some_iff := by simpa only [hrefuses] using h.eq_some_iff

theorem eq_none_of_mem {refuses : Failure → Prop} {sent : List Call}
    (h : Accords refuses sent none) {call : Call} (hcall : call ∈ sent) :
    call.breakdown? = none := by
  cases hbroken : call.breakdown? with
  | none => rfl
  | some breakdown => cases (h.eq_some_iff breakdown).mpr (.inl ⟨call, hcall, hbroken⟩)

theorem append {refuses refuses' : Failure → Prop} {first rest : List Call}
    {ending : Option Breakdown} (hfirst : Accords refuses' first none)
    (hrest : Accords refuses rest ending) : Accords refuses (first ++ rest) ending where
  last := by
    intro before call after hsplit hbroken
    rcases List.append_eq_append_iff.mp hsplit with ⟨mid, rfl, rfl⟩ | ⟨mid, rfl, hmid⟩
    · exact hrest.last mid call after rfl hbroken
    · cases mid with
      | nil => exact hrest.last [] call after hmid.symm hbroken
      | cons other mid =>
          cases hmid
          exact absurd (hfirst.eq_none_of_mem (by simp)) hbroken
  eq_some_iff := by
    intro breakdown
    rw [hrest.eq_some_iff]
    constructor
    · intro h
      rcases h with ⟨call, hcall, hbroken⟩ | hrefused
      · exact .inl ⟨call, List.mem_append_right _ hcall, hbroken⟩
      · exact .inr hrefused
    · intro h
      rcases h with ⟨call, hcall, hbroken⟩ | hrefused
      · rcases List.mem_append.mp hcall with hbefore | hafter
        · rw [hfirst.eq_none_of_mem hbefore] at hbroken
          cases hbroken
        · exact .inl ⟨call, hafter, hbroken⟩
      · exact .inr hrefused

end Accords

theorem Call.breakdown?_eq_panicked_iff {call : Call} :
    call.breakdown? = some .panicked ↔ call.reply = .panicked := by
  obtain ⟨selector, request, reply⟩ := call
  rcases reply with (fault | frame) | _
  · simp [breakdown?]
  · cases hresult : (Packet.decode frame).result.isSuccess <;> simp [breakdown?, hresult]
  · simp [breakdown?]

theorem Outcome.breakdown?_eq_panicked_iff {failure? : α → Option Failure} {outcome : Outcome α} :
    outcome.breakdown? failure? = some .panicked ↔ outcome = .panicked := by
  cases outcome with
  | returned a => simp [breakdown?]
  | panicked => simp [breakdown?]

theorem Accords.eq_panicked_iff {refuses : Failure → Prop} {sent : List Call}
    {failure? : α → Option Failure} {outcome : Outcome α}
    (h : Accords refuses sent (outcome.breakdown? failure?)) :
    outcome = .panicked ↔ ∃ call ∈ sent, call.reply = .panicked := by
  rw [← Outcome.breakdown?_eq_panicked_iff, h.eq_some_iff]
  simp [Call.breakdown?_eq_panicked_iff]

namespace Client

theorem breakdown?_verdict (selector : UInt32) (request : Packet) (reply : Outcome Answer) :
    (reply.map (verdict request)).breakdown? failureOf? =
      Call.breakdown? ⟨selector, request.encode, reply⟩ := by
  rcases reply with (fault | frame) | _
  · rfl
  · cases hresult : (Packet.decode frame).result.isSuccess <;>
      simp [Outcome.map, Outcome.breakdown?, verdict, Call.breakdown?, failureOf?, hresult]
  · rfl

section

variable (site : Site σ) (config : Config) (s : σ)

theorem accords_transact (request : Packet) :
    Accords refusesNone (calls ((transact config request).trace site s))
      (((transact config request).run site s).1.breakdown? failureOf?) := by
  obtain ⟨reply, hsteps, hend⟩ := walk_transact (Operation.walk_trace site _ s)
  rw [hsteps, hend, calls_exchange, breakdown?_verdict]
  exact .of_call

theorem accords_inquiry (key : Code) (reply : Outcome Answer) :
    Accords refusesNone (calls (exchangeSteps config (infoRequest key) reply))
      ((reply.map (declared key)).breakdown? failureOf?) := by
  have hverdict : (reply.map (declared key)).breakdown? failureOf? =
      (reply.map (verdict (infoRequest key))).breakdown? failureOf? := by
    cases reply with
    | returned answer => simp [Outcome.map, Outcome.breakdown?, declared]
    | panicked => rfl
  rw [calls_exchange, hverdict, breakdown?_verdict]
  exact .of_call

theorem accords_keyInfo (key : Code) :
    Accords refusesNone (calls ((keyInfo config key).trace site s))
      (((keyInfo config key).run site s).1.breakdown? failureOf?) := by
  have hwalk := walk_keyInfo (Operation.walk_trace site (keyInfo config key) s)
  generalize (keyInfo config key).trace site s = steps at hwalk ⊢
  generalize ((keyInfo config key).run site s).1 = outcome at hwalk ⊢
  have hasked := accords_inquiry config key
  cases hwalk with
  | hit info fresh hcaching =>
      rw [Operation.calls_lookup]
      apply Accords.of_no_call
      simp [Outcome.breakdown?, failureOf?, refusesNone]
  | failed fresh answer failure hcaching hdeclared =>
      rw [calls_append, Operation.calls_lookup, List.nil_append, ← hdeclared]
      exact hasked (.returned answer)
  | broken fresh hcaching =>
      rw [calls_append, Operation.calls_lookup, List.nil_append]
      exact hasked .panicked
  | settled fresh answer offered kept refreshed hcaching hdeclared =>
      rw [calls_append, calls_append, Operation.calls_lookup, Operation.calls_insert,
        List.nil_append, List.append_nil]
      have hoffered := hasked (.returned answer)
      rw [Outcome.map, hdeclared] at hoffered
      exact hoffered
  | asked reply hcaching => exact hasked reply

end

theorem breakdown?_run_bind_done {site : Site σ} {op : Operation α} {s : σ}
    {failure? : α → Option Failure} {failure?' : β → Option Failure} {f : α → β}
    (hf : ∀ a, failure?' (f a) = failure? a) :
    ((op >>= fun a => .done (f a)).run site s).1.breakdown? failure?' =
      (op.run site s).1.breakdown? failure? := by
  cases hrun : (op.run site s).1 with
  | returned a =>
      rw [run_bind_of_returned hrun]
      exact congrArg (Option.map Outcome.returned) (hf a)
  | panicked =>
      rw [run_bind_of_panicked hrun]
      rfl

section

variable {site : Site σ} {config : Config} {s : σ}

theorem accords_transact_done (request : Packet) {finish : Except Failure Packet → Response}
    (hfinish : ∀ verdict, (finish verdict).failure? = failureOf? verdict) :
    let op : Operation Response :=
      transact config request >>= fun verdict => .done (finish verdict)
    Accords refusesNone (calls (op.trace site s))
      ((op.run site s).1.breakdown? Response.failure?) := by
  intro op
  have htrace : op.trace site s = (transact config request).trace site s :=
    Operation.trace_bind_pure _ _ _ _
  rw [htrace, breakdown?_run_bind_done hfinish]
  exact accords_transact site config s request

end

namespace Job

section

variable (site : Site σ) (s : σ) (job : Job)

def sent : List Call :=
  calls (job.operation.trace site s)

def breakdown? : Option Breakdown :=
  (job.operation.run site s).1.breakdown? Response.failure?

def asked (key : Code) : List Call :=
  calls ((keyInfo job.config key).trace site s)

def found (key : Code) : Outcome (Except Failure KeyInfo) :=
  ((keyInfo job.config key).run site s).1

/-- What a request refuses by itself. -/
inductive Refuses : Failure → Prop where
  | shape {value : Value} {info : KeyInfo} (hrequest : job.request = .write value)
      (hfound : job.found site s value.key = .returned (.ok info))
      (hshape : info.toShape ≠ value.toShape) :
      Refuses (.mismatch value.key info.toShape value.toShape)
  | name {text : String} {cause : Malformed} (hrequest : job.request = .readText text)
      (hnamed : Code.named text = .error cause) : Refuses (.malformed cause)

end

variable {site : Site σ} {s : σ} {job : Job} {key : Code}

theorem sent_of_found (hsubject : job.request.subject? = some key) {info : KeyInfo}
    (hfound : job.found site s key = .returned (.ok info)) :
    job.sent site s = job.asked site s key ++
      calls ((job.proceed key (.ok info)).trace site
        ((keyInfo job.config key).run site s).2) := by
  rw [sent, operation_eq hsubject, calls_bind_of_returned hfound, asked]

theorem sent_of_not_found (hsubject : job.request.subject? = some key)
    (hfound : ∀ info, job.found site s key ≠ .returned (.ok info)) :
    job.sent site s = job.asked site s key := by
  rw [sent, asked, operation_eq hsubject]
  rcases hend : job.found site s key with (failure | info) | _
  · obtain ⟨response, hproceed, -⟩ := exists_failed hsubject failure
    rw [calls_bind_of_returned hend, hproceed]
    exact List.append_nil _
  · exact absurd hend (hfound info)
  · exact calls_bind_of_panicked hend

/-- A request that is told an info refuses nothing but a value of another shape. -/
def RefusesShape (job : Job) (info : KeyInfo) (failure : Failure) : Prop :=
  ∃ value, job.request = .write value ∧ info.toShape ≠ value.toShape ∧
    failure = .mismatch value.key info.toShape value.toShape

theorem accords_course {info : KeyInfo} {op : Operation Response} (h : job.Course key info op) :
    Accords (job.RefusesShape info) (calls (op.trace site s))
      ((op.run site s).1.breakdown? Response.failure?) := by
  cases h with
  | told hrequest =>
      apply Accords.of_no_call
      simp [RefusesShape, hrequest, Outcome.breakdown?, Response.failure?, failureOf?]
  | read hrequest hfinish =>
      apply (accords_transact_done (readRequest key info) hfinish).congr
      intro failure
      have hnot : ∀ value, job.request ≠ .write value := by
        intro value hwrite
        rw [hwrite] at hrequest
        cases hrequest
      simp [RefusesShape, refusesNone, hnot]
  | @write value hrequest hshape finish hfinish =>
      apply (accords_transact_done (writeRequest value) hfinish).congr
      intro failure
      simp [RefusesShape, refusesNone, hrequest, hshape]
  | @refuse value hrequest hshape =>
      apply Accords.of_no_call
      intro breakdown
      simp [RefusesShape, hrequest, hshape, Outcome.breakdown?, Response.failure?, failureOf?,
        eq_comm]

theorem refuses_iff (hsubject : job.request.subject? = some key) (failure : Failure) :
    job.Refuses site s failure ↔
      ∃ info, job.found site s key = .returned (.ok info) ∧ job.RefusesShape info failure := by
  constructor
  · intro h
    cases h with
    | @shape value info hrequest hfound hshape =>
        rw [hrequest] at hsubject
        cases hsubject
        exact ⟨info, hfound, value, hrequest, hshape, rfl⟩
    | name hrequest hnamed =>
        rw [hrequest, Request.subject?_readText_eq_some_iff, hnamed] at hsubject
        cases hsubject
  · intro h
    obtain ⟨info, hfound, value, hrequest, hshape, rfl⟩ := h
    rw [hrequest] at hsubject
    cases hsubject
    exact .shape hrequest hfound hshape

theorem accords_of_subject (hsubject : job.request.subject? = some key) :
    Accords (job.Refuses site s) (job.sent site s) (job.breakdown? site s) := by
  have hasked : Accords refusesNone (job.asked site s key)
      ((job.found site s key).breakdown? failureOf?) := accords_keyInfo site job.config s key
  -- Only a request that was told an info goes on; otherwise the question is all of it.
  rcases hfound : job.found site s key with (failure | info) | _
  · obtain ⟨response, hproceed, hfailure⟩ := exists_failed hsubject failure
    have hend : job.breakdown? site s = (job.found site s key).breakdown? failureOf? := by
      rw [breakdown?, operation_eq hsubject, run_bind_of_returned hfound, hproceed, hfound]
      exact congrArg (Option.map Outcome.returned) hfailure
    rw [sent_of_not_found hsubject (by simp [hfound]), hend]
    apply hasked.congr
    intro other
    simp [refusesNone, refuses_iff hsubject, hfound]
  · rw [hfound] at hasked
    rw [sent_of_found hsubject hfound, breakdown?, operation_eq hsubject,
      run_bind_of_returned hfound]
    apply Accords.append hasked
    apply (accords_course (course_proceed hsubject info)).congr
    intro failure
    simp [refuses_iff hsubject, hfound]
  · have hend : job.breakdown? site s = (job.found site s key).breakdown? failureOf? := by
      rw [breakdown?, operation_eq hsubject, run_bind_of_panicked hfound, hfound]
      rfl
    rw [sent_of_not_found hsubject (by simp [hfound]), hend]
    apply hasked.congr
    intro failure
    simp [refusesNone, refuses_iff hsubject, hfound]

theorem accords_operation (site : Site σ) (s : σ) (job : Job) :
    Accords (job.Refuses site s) (job.sent site s) (job.breakdown? site s) := by
  cases hsubject : job.request.subject? with
  | some key => exact accords_of_subject hsubject
  | none =>
      obtain ⟨config, request⟩ := job
      cases request with
      | readText text =>
          obtain ⟨cause, hnamed⟩ := Request.subject?_readText_eq_none_iff.mp hsubject
          rw [sent, breakdown?, operation_of_unnamed config hnamed]
          apply Accords.of_no_call
          intro breakdown
          constructor
          · intro h
            cases h
            exact ⟨_, rfl, .name rfl hnamed⟩
          · intro h
            obtain ⟨failure, rfl, hrefused⟩ := h
            cases hrefused with
            | shape hrequest hfound hshape => cases hrequest
            | name hrequest hother =>
                cases hrequest
                rw [hnamed] at hother
                cases hother
                rfl
      | keyAt index =>
          have hfinish : ∀ verdict : Except Failure Packet,
              (Response.code (verdict.map (·.key))).failure? = failureOf? verdict :=
            fun verdict => failureOf?_map _ verdict
          rw [sent, breakdown?, operation_keyAt]
          apply (accords_transact_done (indexRequest index) hfinish).congr
          intro failure
          constructor
          · exact False.elim
          · intro h
            cases h with
            | shape hrequest hfound hshape => cases hrequest
            | name hrequest hnamed => cases hrequest
      | keyInfo key => cases hsubject
      | read key => cases hsubject
      | readInto key buffer => cases hsubject
      | write value => cases hsubject

end Job

end Client

end SmcKeys
