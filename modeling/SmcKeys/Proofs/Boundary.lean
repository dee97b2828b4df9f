import SmcKeys.Proofs.Economy
import SmcKeys.Proofs.LastError
import SmcKeys.Proofs.Likeness

namespace SmcKeys.Foreign

open Operation (calls)
open Client (Job)

inductive Request.PassesNull : Request → Prop where
  | openConnection : PassesNull (.openConnection none)
  | readKey {key : Option KeyText} {out : Option Value} (h : key = none ∨ out = none)
      (number : UInt32) : PassesNull (.readKey key out number)
  | writeKey (number : UInt32) : PassesNull (.writeKey none number)
  | keyFromIndex (index number : UInt32) : PassesNull (.keyFromIndex index none number)
  | keyInfo (key number : UInt32) : PassesNull (.keyInfo key none number)

def Request.Panics (service : Service (Process τ)) (p : Process τ) (request : Request) : Prop :=
  ∃ call ∈ request.sent service p, call.reply = .panicked

def Request.refusal : Request → Response
  | .openConnection out => .opened .badArgument out
  | .readKey _ out _ => .value ⟨⟨.badArgument, .error⟩, out⟩
  | .writeKey _ _ => .status ⟨.badArgument, .error⟩
  | .keyFromIndex _ out _ => .key ⟨⟨.badArgument, .error⟩, out⟩
  | .keyInfo _ out _ => .info ⟨⟨.badArgument, .error⟩, out⟩
  | _ => .nothing

namespace Request

section

variable {service : Service (Process τ)} {request : Request} {p : Process τ}

theorem PassesNull.refused (h : request.PassesNull) (service : Service (Process τ))
    (p : Process τ) :
    request.sent service p = [] ∧
      ∃ message, request.perform service p =
        (request.refusal, { p with lastError := message }) := by
  cases h with
  | openConnection => exact ⟨rfl, _, rfl⟩
  | @readKey key out h number =>
      rcases h with rfl | rfl
      · exact ⟨rfl, _, rfl⟩
      · cases key with
        | none => exact ⟨rfl, _, rfl⟩
        | some key => exact ⟨rfl, _, rfl⟩
  | writeKey number => exact ⟨rfl, _, rfl⟩
  | keyFromIndex index number => exact ⟨rfl, _, rfl⟩
  | keyInfo key number => exact ⟨rfl, _, rfl⟩

theorem image_panicked {number : UInt32} {job : Job} (h : request.job? = some (number, job)) :
    request.image .panicked = request.refusal := by
  unfold job? at h
  split at h
  · rfl
  · rfl
  · rfl
  · rfl
  · cases h

theorem exists_job (h : request.Panics service p) :
    ∃ number job, request.job? = some (number, job) := by
  obtain ⟨call, hcall, -⟩ := h
  cases hjob : request.job? with
  | none =>
      simp only [sent, hjob] at hcall
      cases hcall
  | some behind => exact ⟨behind.1, behind.2, rfl⟩

theorem Panics.refused (h : request.Panics service p) :
    (request.perform service p).1 = request.refusal := by
  obtain ⟨number, job, hjob⟩ := exists_job h
  rw [Panics] at h
  simp only [sent, hjob] at h
  have hpanicked := (Job.accords_operation _ _ job).eq_panicked_iff.mpr h
  rw [response_of_job? service hjob, hpanicked, image_panicked hjob]

end

section

variable {service : Service τ} {request : Request}

theorem exists_added {number : UInt32} {job : Job} (h : request.job? = some (number, job))
    (p : Process τ) :
    ∃ added : Option (Code × KeyInfo),
      (request.perform (hosted service) p).2.cache.bindings =
          added.toList ++ p.cache.bindings ∧
        ∀ key info, added = some (key, info) ↔
          p.cache.find? key = none ∧
            ∃ call ∈ request.sent (hosted service) p, call.Declares key info := by
  obtain ⟨added, hbindings, hadded⟩ := job.exists_added (service.call number) p.toWorld
  refine ⟨added, ?_, ?_⟩
  · rw [← hbindings, ← toWorld_perform_hosted service h]
  · intro key info
    have hcaching : job.config.caching = true := by rw [config_of_job? h]
    rw [hadded, sent_hosted service h]
    simp only [hcaching, true_and]

theorem fst_perform_hosted {number : UInt32} {job : Job} (h : request.job? = some (number, job))
    (p : Process τ) :
    (request.perform (hosted service) p).1 =
      request.image (job.operation.run (.alone (service.call number)) p.toWorld).1 := by
  have hend : (job.operation.run (.alone (service.call number)) p.toWorld).1 =
      (job.operation.run (site (hosted service) (.borrowed number)) p.clearError).1 :=
    congrArg Prod.fst (run_hosted service number job.operation p.clearError)
  rw [hend, response_of_job? (hosted service) h]

theorem lastError_perform_hosted {number : UInt32} {job : Job}
    (h : request.job? = some (number, job)) (p : Process τ) :
    (request.perform (hosted service) p).2.lastError =
      errorText (((job.operation.run (.alone (service.call number)) p.toWorld).1.breakdown?
        Client.Response.failure?).map .broken) := by
  have hend : (job.operation.run (.alone (service.call number)) p.toWorld).1 =
      (job.operation.run (site (hosted service) (.borrowed number)) p.clearError).1 :=
    congrArg Prod.fst (run_hosted service number job.operation p.clearError)
  rw [hend, snd_perform h]
  exact lastError_told ((quiet_hosted service).lastError_run _ job.operation p.clearError) _

end

end Request

/-- What a call comes to in two processes that it does not tell apart; only a call that reports
something replaces the last error. -/
structure Concurs (service : Service τ) (request : Request) (p q : Process τ) : Prop where
  response : (request.perform (hosted service) p).1 = (request.perform (hosted service) q).1
  sent : request.sent (hosted service) p = request.sent (hosted service) q
  alike : (request.perform (hosted service) p).2.toWorld.Alike
    (request.perform (hosted service) q).2.toWorld
  lastError : request.Reports →
    (request.perform (hosted service) p).2.lastError =
      (request.perform (hosted service) q).2.lastError

section

variable {service : Service τ} {p q : Process τ}

theorem concurs_of_job? {request : Request} {number : UInt32} {job : Job}
    (hjob : request.job? = some (number, job)) (h : p.toWorld.Alike q.toWorld) :
    Concurs service request p q := by
  obtain ⟨houtcome, hcalls, hafter⟩ := job.blind_operation (service.call number) _ _ h
  constructor
  · rw [Request.fst_perform_hosted hjob, Request.fst_perform_hosted hjob, houtcome]
  · rw [Request.sent_hosted service hjob, Request.sent_hosted service hjob, hcalls]
  · rwa [Request.toWorld_perform_hosted service hjob, Request.toWorld_perform_hosted service hjob]
  · intro _
    rw [Request.lastError_perform_hosted hjob, Request.lastError_perform_hosted hjob, houtcome]

theorem perform_openConnection {before : UInt32} {opened : Except Fault UInt32} {t : τ}
    (h : service.openNumber p.controller = (opened, t)) :
    Request.perform (hosted service) p (.openConnection (some before)) =
      match opened with
      | .ok number =>
          (.opened .success (some number),
            { p.clearError with controller := service.note (.connectionOpened number) t })
      | .error fault =>
          (.opened fault.code (some before),
            { p.clearError with controller := t }.setError fault.message) := by
  have hopened : (hosted service).openNumber p.clearError =
      (opened, { p.clearError with controller := t }) := by
    simp only [hosted, Process.clearError, h]
  simp only [Request.perform, openConnection, Connection.acquire, hopened]
  cases opened with
  | ok number => rfl
  | error fault => rfl

theorem perform_closeConnection {number : UInt32} {closed : Except Fault Unit} {t : τ}
    (h : service.closeNumber number p.controller = (closed, t)) :
    Request.perform (hosted service) p (.closeConnection number) =
      match closed with
      | .ok () =>
          (.closed .success,
            { p.clearError with controller := service.note (.connectionClosed number) t })
      | .error fault =>
          (.closed fault.code,
            { p.clearError with controller := t }.setError fault.message) := by
  have hclosed : (hosted service).closeNumber (Connection.adopted number).number p.clearError =
      (closed, { p.clearError with controller := t }) := by
    simp only [hosted, Process.clearError, Connection.adopted, h]
  simp only [Request.perform, closeConnection, Connection.close_eq, hclosed]
  cases closed with
  | ok done => rfl
  | error fault => rfl

theorem concurs_of_perform {request : Request} {response : Response} {p' q' : Process τ}
    (hjob : request.job? = none) (hp : request.perform (hosted service) p = (response, p'))
    (hq : request.perform (hosted service) q = (response, q'))
    (halike : p'.toWorld.Alike q'.toWorld)
    (hlast : request.Reports → p'.lastError = q'.lastError) : Concurs service request p q where
  response := by rw [hp, hq]
  sent := by simp only [Request.sent, hjob]
  alike := by rwa [hp, hq]
  lastError := by rwa [hp, hq]

theorem concurs_of_complaint? {request : Request} {complaint : String}
    (hcomplaint : request.complaint? = some complaint) (h : p.toWorld.Alike q.toWorld) :
    Concurs service request p q := by
  have hnull : (p.clearError.setError complaint).toWorld.Alike
      (q.clearError.setError complaint).toWorld := ⟨h.controller, h.find?⟩
  unfold Request.complaint? at hcomplaint
  split at hcomplaint <;> cases hcomplaint <;>
    exact concurs_of_perform rfl rfl rfl hnull fun _ => rfl

/-- A call sees nothing of its process but the entries of the cache and the controller. -/
theorem concurs (service : Service τ) (request : Request) (h : p.toWorld.Alike q.toWorld) :
    Concurs service request p q := by
  by_cases hreports : request.Reports
  · rcases Request.cases_of_reports hreports with
      ⟨number, job, hjob⟩ | ⟨before, rfl⟩ | ⟨number, rfl⟩ | ⟨complaint, hcomplaint⟩
    · exact concurs_of_job? hjob h
    · rcases hopened : service.openNumber q.controller with ⟨fault | number, t⟩
      all_goals
        have hopened' := (congrArg service.openNumber h.controller).trans hopened
        exact concurs_of_perform rfl (perform_openConnection hopened')
          (perform_openConnection hopened) ⟨rfl, h.find?⟩ fun _ => rfl
    · rcases hclosed : service.closeNumber number q.controller with ⟨fault | _, t⟩
      all_goals
        have hclosed' := (congrArg (service.closeNumber number) h.controller).trans hclosed
        exact concurs_of_perform rfl (perform_closeConnection hclosed')
          (perform_closeConnection hclosed) ⟨rfl, h.find?⟩ fun _ => rfl
    · exact concurs_of_complaint? hcomplaint h
  · cases request with
    | cleanUp => exact concurs_of_perform rfl rfl rfl ⟨h.controller, fun _ => rfl⟩ False.elim
    | codeOfText text => exact concurs_of_perform rfl rfl rfl h False.elim
    | textOfCode code out => exact concurs_of_perform rfl rfl rfl h False.elim
    | _ => exact absurd trivial hreports

theorem Concurs.lastError_eq {request : Request} (h : Concurs service request p q)
    (hlast : p.lastError = q.lastError ∨ request.Reports) :
    (request.perform (hosted service) p).2.lastError =
      (request.perform (hosted service) q).2.lastError := by
  by_cases hreports : request.Reports
  · exact h.lastError hreports
  · rw [(Request.perform_of_not_reports hreports).2, (Request.perform_of_not_reports hreports).2]
    exact hlast.resolve_right hreports

/-- What one call does not tell apart, no sequence of calls does. -/
theorem concurs_run (service : Service τ) (later : List Request)
    (h : p.toWorld.Alike q.toWorld) :
    let here := run (hosted service) later p
    let there := run (hosted service) later q
    here.responses = there.responses ∧ here.calls = there.calls ∧
      here.process.toWorld.Alike there.process.toWorld ∧
      ((p.lastError = q.lastError ∨ ∃ request ∈ later, request.Reports) →
        here.process.lastError = there.process.lastError) := by
  induction later generalizing p q with
  | nil => exact ⟨rfl, rfl, h, by simp [run]⟩
  | cons request rest ih =>
      have hfirst := concurs service request h
      obtain ⟨hresponses, hcalls, halike, hlast⟩ := ih hfirst.alike
      simp only [run]
      refine ⟨by rw [hfirst.response, hresponses], by rw [hfirst.sent, hcalls], halike, ?_⟩
      intro htold
      apply hlast
      -- From the first report on, the last errors are the same.
      rcases htold with hbefore | ⟨other, hother, hreports⟩
      · exact .inl (hfirst.lastError_eq (.inl hbefore))
      · rcases List.mem_cons.mp hother with rfl | hlater
        · exact .inl (hfirst.lastError_eq (.inr hreports))
        · exact .inr ⟨other, hlater, hreports⟩

end

/-- A call that is refused as a bad argument leaves nothing behind but the last error, and after a
panic the info that its own question was answered with. -/
theorem refused_calls_are_atomic (τ : Type) :
    (∀ (service : Service (Process τ)) (request : Request) (p : Process τ), request.PassesNull →
      request.sent service p = [] ∧
        ∃ message, request.perform service p =
          (request.refusal, { p with lastError := message })) ∧
    (∀ (service : Service (Process τ)) (request : Request) (p : Process τ),
      request.Panics service p → (request.perform service p).1 = request.refusal) ∧
    ∀ (service : Service τ) (request : Request) (p : Process τ),
      let after := (request.perform (hosted service) p).2
      (request.Panics (hosted service) p →
        ∃ added : Option (Code × KeyInfo),
          after.cache.bindings = added.toList ++ p.cache.bindings ∧
            ∀ key info, added = some (key, info) ↔
              p.cache.find? key = none ∧
                ∃ call ∈ request.sent (hosted service) p, call.Declares key info) ∧
      ∀ q : Process τ, after.toWorld.Alike q.toWorld → ∀ later,
        let here := run (hosted service) later after
        let there := run (hosted service) later q
        here.responses = there.responses ∧ here.calls = there.calls ∧
          here.process.toWorld.Alike there.process.toWorld ∧
          ((after.lastError = q.lastError ∨ ∃ other ∈ later, other.Reports) →
            here.process.lastError = there.process.lastError) := by
  refine ⟨fun service request p h => h.refused service p,
    fun service request p h => h.refused, fun service request p => ⟨?_, ?_⟩⟩
  · intro hpanics
    obtain ⟨number, job, hjob⟩ := Request.exists_job hpanics
    exact Request.exists_added hjob p
  · exact fun q halike later => concurs_run service later halike

/-- The output is as it was passed, and the process has the info from then on. -/
theorem panicked_read_leaves_info :
    let info : KeyInfo := { size := 2, type := ⟨0x73703738⟩ }
    let service : Service Unit :=
      { Service.absent (fun _ s => s) with
        call := fun _ _ request s =>
          if (Packet.decode request).command = .readKeyInfo then
            (.returned (.ok (Packet.encode { info })), s)
          else (.panicked, s) }
    let text : KeyText := .ofCode ⟨0x54433050⟩
    let before : Value := .ofValue { key := ⟨7⟩, size := 1, type := ⟨8⟩ }
    let request : Request := .readKey (some text) (some before) 1
    let p : Process Unit := { controller := () }
    request.Panics (hosted service) p ∧
      (request.perform (hosted service) p).1 = .value ⟨⟨.badArgument, .error⟩, some before⟩ ∧
      (request.perform (hosted service) p).2.cache.bindings = [(⟨0x54433050⟩, info)] ∧
      ∀ q : Process Unit, (request.perform (hosted service) p).2.toWorld.Alike q.toWorld →
        (run (hosted service) [.keyInfo 0x54433050 (some ⟨0, 0, 0⟩) 1] q).calls = [] := by
  intro info service text before request p
  have hpanics : request.Panics (hosted service) p := by
    have hany : (request.sent (hosted service) p).any (fun call => match call.reply with
        | .panicked => true
        | .returned _ => false) = true := by decide +kernel
    obtain ⟨call, hcall, hreply⟩ := List.any_eq_true.mp hany
    refine ⟨call, hcall, ?_⟩
    cases hend : call.reply with
    | returned answer => simp [hend] at hreply
    | panicked => rfl
  have hdeclared : ∃ call ∈ request.sent (hosted service) p,
      call.Declares ⟨0x54433050⟩ info := by
    have hany : (request.sent (hosted service) p).any (fun call =>
        Frame.inquiry? call.request = some ⟨0x54433050⟩ ∧ call.reply.info? = some info) =
          true := by decide +kernel
    obtain ⟨call, hcall, hdeclares⟩ := List.any_eq_true.mp hany
    exact ⟨call, hcall, by simpa [Call.Declares] using hdeclares⟩
  obtain ⟨-, hrefused, hleft⟩ := refused_calls_are_atomic Unit
  obtain ⟨hadded, hlater⟩ := hleft service request p
  obtain ⟨added, hbindings, htold⟩ := hadded hpanics
  obtain rfl := (htold _ _).mpr ⟨rfl, hdeclared⟩
  have hresponse : (request.perform (hosted service) p).1 = request.refusal :=
    hrefused _ _ _ hpanics
  have hempty : p.cache.bindings = [] := rfl
  rw [hempty, Option.toList_some, List.append_nil] at hbindings
  refine ⟨hpanics, hresponse, hbindings, ?_⟩
  intro q halike
  rw [← (hlater q halike [.keyInfo 0x54433050 (some ⟨0, 0, 0⟩) 1]).2.1]
  have hnone : (run (hosted service) [.keyInfo 0x54433050 (some ⟨0, 0, 0⟩) 1]
      (request.perform (hosted service) p).2).calls.length = 0 := by decide +kernel
  exact List.length_eq_zero_iff.mp hnone

end SmcKeys.Foreign
