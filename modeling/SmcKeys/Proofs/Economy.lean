import SmcKeys.Proofs.Bank
import SmcKeys.Proofs.Binding
import SmcKeys.Proofs.Fleet
import SmcKeys.Proofs.Hosting
import SmcKeys.Proofs.Proceeding

namespace SmcKeys

open Operation (Step Walk calls notices lookupSteps)
open Bench (Bank)
open Client (Job Enquiry)

def Notice.lookup? : Notice → Option Code
  | .hit key _ => some key
  | .miss key => some key
  | _ => none

theorem Cache.Acts.eq_hit (h : Acts c step c') {key : Code} {info : KeyInfo}
    (hbound : c.find? key = some info) (hnotice : step.notice? = some notice)
    (hlookup : notice.lookup? = some key) : notice = .hit key info := by
  cases h with
  | consult k =>
      cases hfound : (c.consult k).result with
      | none =>
          rw [hfound] at hnotice
          cases hnotice
          cases hlookup
          rw [Cache.consult, hbound] at hfound
          cases hfound
      | some found =>
          rw [hfound] at hnotice
          cases hnotice
          cases hlookup
          rw [Cache.consult, hbound] at hfound
          cases hfound
          rfl
  | retain k info =>
      cases hnotice
      cases hlookup
  | count tally => cases hnotice
  | call selector request reply =>
      obtain ⟨asked, -, rfl⟩ := Option.map_eq_some_iff.mp hnotice
      cases hlookup
  | note event => cases hnotice

theorem Operation.inquiry?_of_mem_calls {steps : List Step}
    (hquiet : ∀ key declared, .answer key declared ∉ notices steps) {call : Call}
    (hcall : call ∈ calls steps) : Frame.inquiry? call.request = none := by
  obtain ⟨step, hstep, hsome⟩ := List.mem_filterMap.mp hcall
  cases step with
  | called selector request reply =>
      cases hsome
      cases hinquiry : Frame.inquiry? request with
      | none => rfl
      | some key =>
          refine absurd (List.mem_filterMap.mpr ⟨_, hstep, ?_⟩) (hquiet key reply.info?)
          simp [Step.notice?, hinquiry]
  | consulted key found fresh => cases hsome
  | retained key offered kept fresh => cases hsome
  | counted tally => cases hsome
  | noted event => cases hsome

namespace Client

theorem Enquiry.eq_of_hit {config : Config} {asked key : Code} {info : KeyInfo}
    (h : Enquiry config asked told found) (hhit : .hit key info ∈ told) :
    asked = key ∧ told = [.hit key info] := by
  cases h with
  | hit info' hcaching =>
      cases List.mem_singleton.mp hhit
      exact ⟨rfl, rfl⟩
  | failed hcaching => simp at hhit
  | settled offered kept hcaching => simp at hhit
  | asked declared hcaching => simp at hhit

theorem walk_keyInfo_of_hit {config : Config} {key : Code} {info : KeyInfo} {more : List Notice}
    (h : Walk (keyInfo config key) steps outcome)
    (htold : notices steps ++ more = [.hit key info]) :
    ∃ fresh, steps = lookupSteps key (some info) fresh ∧ outcome = .returned (.ok info) := by
  cases walk_keyInfo h with
  | hit info' fresh hcaching =>
      obtain ⟨rfl, -⟩ : info' = info ∧ more = [] := by simpa using htold
      exact ⟨fresh, rfl, rfl⟩
  | failed fresh answer failure hcaching hdeclared => simp [notices_inquiry] at htold
  | broken fresh hcaching => simp [notices_inquiry] at htold
  | settled fresh answer offered kept refreshed hcaching hdeclared =>
      simp [notices_inquiry] at htold
  | asked reply hcaching => simp [notices_inquiry] at htold

theorem Job.walk_of_hit {job : Job} {key : Code} {info : KeyInfo}
    (h : Walk job.operation steps outcome) (hhit : .hit key info ∈ notices steps) :
    job.request.subject? = some key ∧ notices steps = [.hit key info] ∧
      ∃ fresh used, steps = lookupSteps key (some info) fresh ++ used ∧
        Walk (job.proceed key (.ok info)) used outcome := by
  cases hsubject : job.request.subject? with
  | none =>
      rw [job.silent_operation hsubject _ _ h] at hhit
      cases hhit
  | some asked =>
      obtain ⟨found, henquiry⟩ := job.enquires_operation hsubject _ _ h
      -- The hit is all that is known of the whole request, so its question ended with it.
      obtain ⟨rfl, htold⟩ := henquiry.eq_of_hit hhit
      refine ⟨rfl, htold, ?_⟩
      rw [operation_eq hsubject] at h
      rcases Operation.walk_bind_iff.mp h with
        ⟨result, first, rest, rfl, hfirst, hrest⟩ | ⟨hpanic, rfl⟩
      · rw [Operation.notices_append] at htold
        obtain ⟨fresh, rfl, hresult⟩ := walk_keyInfo_of_hit hfirst htold
        cases hresult
        exact ⟨fresh, rest, rfl, hrest⟩
      · obtain ⟨-, -, hend⟩ := walk_keyInfo_of_hit hpanic (by rw [List.append_nil, htold])
        cases hend

end Client

namespace Crew

theorem eq_hit_of_bound {crew : Crew} {move : Move} {i : Nat} {key : Code} {info : KeyInfo}
    (hbound : crew.cache.find? key = some info) (h : notice ∈ heard i (crew.advance move).1)
    (hlookup : notice.lookup? = some key) : notice = .hit key info := by
  obtain ⟨step, hmem, hnotice⟩ := mem_heard_iff.mp h
  have hmove := crew.advances_advance move
  generalize crew.advance move = result at hmem hmove
  obtain ⟨now, crew'⟩ := result
  cases hmove with
  | start job => cases hmem
  | act hthread hfirst =>
      cases List.mem_singleton.mp hmem
      exact (Operation.acts_of_first hfirst).eq_hit hbound hnotice hlookup
  | pass j reply => cases hmem
  | reset => cases hmem

/-- A request that has been told an info by the cache has got to know nothing else, and goes on with
that info. -/
theorem Accounts.of_hit {past : List Occurrence} {crew : Crew} (h : Accounts past crew) {i : Nat}
    {key : Code} {info : KeyInfo} (hhit : .hit key info ∈ heard i past) :
    heard i past = [.hit key info] ∧
      ∃ thread, crew.threads[i]? = some thread ∧ thread.job.request.subject? = some key ∧
        ∀ steps outcome, thread.progress.Walk steps outcome →
          ∃ fresh used, stepsOf i past ++ steps = lookupSteps key (some info) fresh ++ used ∧
            Walk (thread.job.proceed key (.ok info)) used outcome := by
  have hsteps : stepsOf i past ≠ [] := by
    intro hnone
    rw [heard, hnone] at hhit
    cases hhit
  obtain ⟨thread, rest, outcome, hthread, hwalk⟩ := h.exists_walk hsteps
  have hmore : ∀ more, .hit key info ∈ notices (stepsOf i past ++ more) := by
    intro more
    rw [Operation.notices_append]
    exact List.mem_append_left _ hhit
  obtain ⟨hsubject, htold, -⟩ := Job.walk_of_hit hwalk (hmore rest)
  constructor
  · rw [Operation.notices_append] at htold
    rcases List.append_eq_singleton_iff.mp htold with ⟨hnone, -⟩ | ⟨hall, -⟩
    · rw [heard, hnone] at hhit
      cases hhit
    · exact hall
  · refine ⟨thread, hthread, hsubject, ?_⟩
    intro steps last hlast
    exact (Job.walk_of_hit (h.walks i thread hthread steps last hlast) (hmore steps)).2.2

end Crew

namespace Foreign

theorem Request.config_of_job? {request : Request} {number : UInt32} {job : Job}
    (h : request.job? = some (number, job)) : job.config = {} := by
  unfold job? at h
  split at h
  · cases h
    rfl
  · cases h
    rfl
  · cases h
    rfl
  · cases h
    rfl
  · cases h

section

variable (service : Service τ)

theorem Request.declarations_add_known_le {request : Request} (hkeeps : request ≠ .cleanUp)
    (p : Process τ) (key : Code) :
    declarations key (request.sent (hosted service) p) + p.cache.known key ≤
      (request.perform (hosted service) p).2.cache.known key := by
  cases hjob : request.job? with
  | none =>
      have hsent : request.sent (hosted service) p = [] := by simp only [sent, hjob]
      have hsame := (keeps_cache service).perform hjob hkeeps p
      rw [hsent, declarations_nil, Nat.zero_add]
      exact Nat.le_of_eq (congrArg (Cache.known key) hsame.symm)
  | some behind =>
      obtain ⟨number, job⟩ := behind
      have hcaching : job.config.caching = true := by rw [config_of_job? hjob]
      rw [sent_hosted service hjob, toWorld_perform_hosted service hjob]
      exact Job.declarations_add_known_le (service.call number) hcaching p.toWorld key

theorem declarations_add_known_le {requests : List Request} (hkeeps : .cleanUp ∉ requests)
    (p : Process τ) (key : Code) :
    declarations key (run (hosted service) requests p).calls + p.cache.known key ≤
      (run (hosted service) requests p).process.cache.known key := by
  induction requests generalizing p with
  | nil => simp [run]
  | cons request rest ih =>
      have hthis : request ≠ .cleanUp := fun hclean => hkeeps (by simp [hclean])
      have hfirst := Request.declarations_add_known_le service hthis p key
      have hlater := ih (fun hclean => hkeeps (List.mem_cons_of_mem _ hclean))
        (request.perform (hosted service) p).2
      simp only [run, declarations_append]
      omega

theorem declarations_le_one {requests : List Request} (hkeeps : .cleanUp ∉ requests)
    (p : Process τ) (key : Code) :
    declarations key (run (hosted service) requests p).calls ≤ 1 := by
  have hpaid := declarations_add_known_le service hkeeps p key
  have hone := (run (hosted service) requests p).process.cache.known_le_one key
  omega

end

end Foreign

/-- Whoever looks a key up after an insertion for it goes on with the info that the key is bound to,
and nobody asks again. -/
theorem bound_infos_not_asked_again :
    (∀ (cache : Cache) (before between after : List Move) (inserting looking : Move) (i : Nat)
        (key : Code) (offered kept : KeyInfo) (notice : Notice),
      let first := (Crew.idle cache).run before
      let second := (first.advance inserting).2.run between
      let moves := before ++ inserting :: between ++ looking :: after
      let past := (Crew.idle cache).trace moves
      .insertion key offered kept ∈ noticed (first.advance inserting).1 →
      .reset ∉ between →
      notice ∈ heard i (second.advance looking).1 → notice.lookup? = some key →
        second.cache.find? key = some kept ∧
        heard i past = [.hit key kept] ∧
        (∀ call ∈ calls (stepsOf i past), Frame.inquiry? call.request = none) ∧
        ∃ thread, ((Crew.idle cache).run moves).threads[i]? = some thread ∧
          thread.job.request.subject? = some key ∧
          ∀ steps outcome, thread.progress.Walk steps outcome →
            ∃ fresh used, stepsOf i past ++ steps = lookupSteps key (some kept) fresh ++ used ∧
              Walk (thread.job.proceed key (.ok kept)) used outcome) ∧
    (∀ (τ : Type) (transports : UInt32 → UInt32 → Frame → τ → Outcome Answer × τ)
        (errands : List Fleet.Errand) (w : World τ) (key : Code),
      .reset ∉ errands →
      (∀ number job, .request number job ∈ errands → job.config.caching = true) →
        declarations key (Fleet.run transports errands w).calls ≤ 1) ∧
    (∀ (τ : Type) (service : Service τ) (requests : List Foreign.Request)
        (p : Foreign.Process τ) (key : Code),
      .cleanUp ∉ requests →
        declarations key (Foreign.run (Foreign.hosted service) requests p).calls ≤ 1) := by
  refine ⟨?_, ?_, ?_⟩
  · intro cache before between after inserting looking i key offered kept notice first second
      moves past hinsert hquiet hlooking hlookup
    obtain ⟨j, hj⟩ := mem_noticed_iff.mp hinsert
    obtain ⟨step, hmem, hnotice⟩ := mem_heard_iff.mp hj
    have hbound : second.cache.find? key = some kept :=
      Crew.find?_run_of_some hquiet (Crew.find?_advance_of_decision hmem hnotice rfl)
    obtain rfl := Crew.eq_hit_of_bound hbound hlooking hlookup
    have hhit : .hit key kept ∈ heard i past := by
      simp only [past, moves, Crew.trace_append, Crew.trace_cons, Crew.run_append, Crew.run_cons,
        heard_append, List.mem_append]
      exact .inr (.inl hlooking)
    obtain ⟨hheard, hthread⟩ := (Crew.accounts_trace cache moves).of_hit hhit
    refine ⟨hbound, hheard, ?_, hthread⟩
    intro call hcall
    apply Operation.inquiry?_of_mem_calls _ hcall
    intro k declared hanswer
    change _ ∈ heard i past at hanswer
    rw [hheard] at hanswer
    simp at hanswer
  · intro τ transports errands w key hquiet hcaching
    exact Fleet.declarations_le_one transports hquiet hcaching w key
  · intro τ service requests p key hkeeps
    exact Foreign.declarations_le_one service hkeeps p key

/-- Of two questions on two connections, and of two calls of a C program, one gets to the
controller. -/
theorem answer_serves_later_read :
    let key : Code := ⟨0x54433050⟩
    let info : KeyInfo := { size := 2 }
    let before : List Move :=
      .start ⟨{}, .keyInfo key⟩ :: List.replicate 6 (.step 0 (.declaring info))
    let between : List Move := [.step 0 .panicked, .step 0 .panicked, .start ⟨{}, .read key⟩]
    let after : List Move := List.replicate 8 (.step 1 (.declaring info))
    let past := (Crew.idle {}).trace
      (before ++ .step 0 .panicked :: between ++ .step 1 .panicked :: after)
    let bank : Bank := [⟨key, info, Payload.zero⟩]
    let fleet := Fleet.run (fun _ => Bank.transport)
      [.request 1 ⟨{}, .keyInfo key⟩, .request 2 ⟨{}, .read key⟩] { controller := bank }
    let program := Foreign.run
      (Foreign.hosted { Service.absent (fun _ bank => bank) with call := fun _ => Bank.transport })
      [.keyInfo key.number (some (.ofInfo info)) 1, .keyInfo key.number (some (.ofInfo info)) 2]
      { controller := bank }
    heard 1 past = [.hit key info] ∧
      (∀ call ∈ calls (stepsOf 1 past), Frame.inquiry? call.request = none) ∧
      (calls (stepsOf 1 past)).length = 1 ∧
      declarations key fleet.calls ≤ 1 ∧ fleet.calls.length = 2 ∧
      declarations key program.calls ≤ 1 ∧ program.calls.length = 1 := by
  intro key info before between after past bank fleet program
  obtain ⟨hcrew, hfleet, hprogram⟩ := bound_infos_not_asked_again
  have hinsert : .insertion key info info ∈
      noticed (((Crew.idle {}).run before).advance (.step 0 .panicked)).1 := by decide
  have hlooking : Notice.hit key info ∈ heard 1
      (((((Crew.idle {}).run before).advance (.step 0 .panicked)).2.run between).advance
        (.step 1 .panicked)).1 := by decide
  obtain ⟨-, hheard, hquiet, -⟩ := hcrew {} before between after (.step 0 .panicked)
    (.step 1 .panicked) 1 key info info _ hinsert (by simp [between]) hlooking rfl
  refine ⟨hheard, hquiet, by decide, ?_, by decide +kernel, ?_, by decide +kernel⟩
  · refine hfleet Bank _ _ _ key (by simp) fun number job hjob => ?_
    simp only [List.mem_cons, List.not_mem_nil, or_false, Fleet.Errand.request.injEq] at hjob
    rcases hjob with ⟨-, rfl⟩ | ⟨-, rfl⟩
    · rfl
    · rfl
  · exact hprogram Bank _ _ _ key (by simp)

end SmcKeys
