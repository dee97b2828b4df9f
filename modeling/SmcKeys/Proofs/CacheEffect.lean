import SmcKeys.Proofs.Provenance
import SmcKeys.Proofs.Session
import SmcKeys.Proofs.Steps

namespace SmcKeys

open Operation (Step calls notices)
open Client (Job Enquiry)

def Call.Declares (call : Call) (key : Code) (info : KeyInfo) : Prop :=
  Frame.inquiry? call.request = some key ∧ call.reply.info? = some info

def Notice.bind (bindings : List (Code × KeyInfo)) : Notice → List (Code × KeyInfo)
  | .insertion key offered _ =>
      if bindings.lookup key = none then (key, offered) :: bindings else bindings
  | _ => bindings

namespace Operation

theorem Step.notice?_eq_answer_iff {step : Step} {key : Code} {info : KeyInfo} :
    step.notice? = some (.answer key (some info)) ↔
      ∃ call, step.call? = some call ∧ call.Declares key info := by
  cases step with
  | called selector request reply =>
      cases hinquiry : Frame.inquiry? request <;>
        simp [Step.notice?, Step.call?, Call.Declares, hinquiry]
  | consulted k found fresh => cases found <;> simp [Step.notice?, Step.call?]
  | retained k offered kept fresh => simp [Step.notice?, Step.call?]
  | counted tally => simp [Step.notice?, Step.call?]
  | noted event => simp [Step.notice?, Step.call?]

theorem answer_mem_notices_iff {steps : List Step} {key : Code} {info : KeyInfo} :
    .answer key (some info) ∈ notices steps ↔ ∃ call ∈ calls steps, call.Declares key info := by
  simp only [notices, calls, List.mem_filterMap, Step.notice?_eq_answer_iff]
  constructor
  · intro h
    obtain ⟨step, hstep, call, hcall, hdeclares⟩ := h
    exact ⟨call, ⟨step, hstep, hcall⟩, hdeclares⟩
  · intro h
    obtain ⟨call, ⟨step, hstep, hcall⟩, hdeclares⟩ := h
    exact ⟨step, hstep, call, hcall, hdeclares⟩

end Operation

namespace Cache

/-- How a cache comes from another one through steps with nobody in between. -/
inductive Leads : Cache → List Step → Cache → Prop where
  | nil (c : Cache) : Leads c [] c
  | cons {c next last : Cache} {step : Step} {steps : List Step} (hstep : c.Acts step next)
      (hrest : Leads next steps last) : Leads c (step :: steps) last

theorem Acts.bindings_eq (h : Acts c step c') :
    c'.bindings = step.notice?.toList.foldl Notice.bind c.bindings := by
  cases h with
  | consult key =>
      have hsame : (c.consult key).cache.bindings = c.bindings := rfl
      rw [hsame]
      cases (c.consult key).result with
      | none => rfl
      | some found => rfl
  | retain key info =>
      change (c.retain key info).cache.bindings =
        if c.find? key = none then (key, info) :: c.bindings else c.bindings
      cases hfound : c.find? key with
      | none => simp [retain_of_none hfound, bindings]
      | some kept => simp [retain_of_some hfound]
  | count tally => simp [Step.notice?, bindings]
  | call selector request reply =>
      cases hinquiry : Frame.inquiry? request with
      | none => simp [Step.notice?, hinquiry]
      | some key => simp [Step.notice?, hinquiry, Notice.bind]
  | note event => rfl

theorem Acts.find?_of_miss {key : Code} (h : Acts c step c')
    (hnotice : step.notice? = some (.miss key)) : c.find? key = none := by
  cases h with
  | consult k =>
      cases hfound : (c.consult k).result with
      | none =>
          rw [hfound] at hnotice
          cases hnotice
          exact hfound
      | some found =>
          rw [hfound] at hnotice
          cases hnotice
  | retain k info => cases hnotice
  | count tally => cases hnotice
  | call selector request reply =>
      obtain ⟨asked, -, hanswer⟩ := Option.map_eq_some_iff.mp hnotice
      cases hanswer
  | note event => cases hnotice

namespace Leads

theorem bindings_eq (h : Leads c steps c') :
    c'.bindings = (notices steps).foldl Notice.bind c.bindings := by
  induction h with
  | nil c => rfl
  | @cons c next last step steps hstep hrest ih =>
      rw [ih, hstep.bindings_eq, ← List.foldl_append]
      cases hnotice : step.notice? with
      | none => simp [notices, hnotice]
      | some notice => simp [notices, hnotice]

theorem find?_of_miss {key : Code} {rest : List Notice} (h : Leads c steps c')
    (hmiss : notices steps = .miss key :: rest) : c.find? key = none := by
  induction h with
  | nil c => cases hmiss
  | @cons c next last step steps hstep hrest ih =>
      cases hnotice : step.notice? with
      | none =>
          have hsame : next.find? key = c.find? key := by
            rw [hstep.find?_eq key, hnotice]
            exact Option.or_none
          rw [← hsame]
          exact ih (by simpa [notices, hnotice] using hmiss)
      | some notice =>
          have hfirst : notice = .miss key := by
            simp only [notices, List.filterMap_cons, hnotice, List.cons.injEq] at hmiss
            exact hmiss.1
          exact hstep.find?_of_miss (hfirst ▸ hnotice)

theorem find?_of_some {key : Code} {info : KeyInfo} (h : Leads c steps c')
    (hbound : c.find? key = some info) : c'.find? key = some info := by
  induction h with
  | nil c => exact hbound
  | cons hstep hrest ih =>
      apply ih
      rw [hstep.find?_eq key, hbound]
      rfl

theorem find?_of_decision {notice : Notice} {key : Code} {info : KeyInfo} (h : Leads c steps c')
    (hmem : notice ∈ notices steps) (hdecision : notice.decision? = some (key, info)) :
    c'.find? key = some info := by
  induction h with
  | nil c => cases hmem
  | @cons c next last step steps hstep hrest ih =>
      obtain ⟨first, hfirst, hnotice⟩ := List.mem_filterMap.mp hmem
      rcases List.mem_cons.mp hfirst with rfl | hlater
      · exact hrest.find?_of_some (hstep.find?_of_decision hnotice hdecision)
      · exact ih (List.mem_filterMap.mpr ⟨first, hlater, hnotice⟩)

theorem eq_of_not_caching {job : Job} (h : Leads c steps c')
    (hjob : job.config.caching = false ∨ job.request.subject? = none)
    (hmay : ∀ step ∈ steps, job.May step) : c' = c := by
  have hidle : ∀ key, job.config.caching = true → job.request.subject? = some key → False := by
    intro key hcaching hkey
    rcases hjob with hnot | hnone
    · rw [hcaching] at hnot
      cases hnot
    · rw [hkey] at hnone
      cases hnone
  induction h with
  | nil c => rfl
  | @cons c next last step steps hstep hrest ih =>
      rw [ih fun step hmem => hmay step (List.mem_cons_of_mem _ hmem)]
      have hfirst := hmay step List.mem_cons_self
      cases hstep with
      | consult key =>
          cases hfirst with
          | consult hcaching hkey => exact (hidle _ hcaching hkey).elim
      | retain key info =>
          cases hfirst with
          | retain hcaching hkey => exact (hidle _ hcaching hkey).elim
      | count tally =>
          cases hfirst with
          | count hcaching hkey => exact (hidle _ hcaching hkey).elim
      | call selector request reply => rfl
      | note event => rfl

end Leads

end Cache

open Cache (Leads)

/-- A site on which nobody but the operation itself uses the cache. -/
structure Site.Exclusive (site : Site σ) : Prop where
  setCache : ∀ cache s, site.cache (site.setCache cache s) = cache
  note : ∀ event s, site.cache (site.note event s) = site.cache s
  call : ∀ selector request s, site.cache (site.call selector request s).2 = site.cache s

theorem Site.exclusive_alone (transport : UInt32 → Frame → τ → Outcome Answer × τ) :
    (Site.alone transport).Exclusive where
  setCache _ _ := rfl
  note _ _ := rfl
  call _ _ _ := rfl

theorem Operation.leads_of_exclusive {site : Site σ} (h : site.Exclusive) (op : Operation α)
    (s : σ) : Leads (site.cache s) (op.trace site s) (site.cache (op.run site s).2) := by
  induction op generalizing s with
  | done a => exact .nil _
  | consult key next ih =>
      let access := (site.cache s).consult key
      have hrest := ih access.result access.fresh (site.setCache access.cache s)
      rw [h.setCache] at hrest
      exact .cons (.consult _ key) hrest
  | retain key info next ih =>
      let access := (site.cache s).retain key info
      have hrest := ih access.result access.fresh (site.setCache access.cache s)
      rw [h.setCache] at hrest
      exact .cons (.retain _ key info) hrest
  | count tally next ih =>
      have hrest := ih (site.setCache ((site.cache s).count tally) s)
      rw [h.setCache] at hrest
      exact .cons (.count _ tally) hrest
  | call selector request next ih =>
      have hcall := h.call selector request s
      rw [run, trace]
      generalize site.call selector request s = replied at hcall ⊢
      obtain ⟨answer | _, t⟩ := replied
      · have hrest := ih answer t
        rw [hcall] at hrest
        exact .cons (.call _ selector request _) hrest
      -- A panic may have changed the whole state, but not the cache.
      · change Leads _ _ (site.cache t)
        rw [hcall]
        exact .cons (.call _ selector request _) (.nil _)
  | note event next ih =>
      have hrest := ih (site.note event s)
      rw [h.note] at hrest
      exact .cons (.note _ event) hrest

theorem Operation.leads_trace (transport : UInt32 → Frame → τ → Outcome Answer × τ)
    (op : Operation α) (w : World τ) :
    Leads w.cache (op.trace (.alone transport) w) (op.run (.alone transport) w).2.cache :=
  leads_of_exclusive (Site.exclusive_alone transport) op w

theorem Client.Enquiry.exists_added {config : Config} {key : Code} {steps : List Step}
    {found : Option KeyInfo} (h : Enquiry config key (notices steps) found)
    (hleads : Leads c steps c') :
    ∃ added : Option (Code × KeyInfo), c'.bindings = added.toList ++ c.bindings ∧
      ∀ k info, added = some (k, info) ↔
        config.caching = true ∧ c.find? k = none ∧ .answer k (some info) ∈ notices steps := by
  have hbindings := hleads.bindings_eq
  have hmiss : ∀ rest, notices steps = .miss key :: rest → c.find? key = none :=
    fun _ => hleads.find?_of_miss
  generalize notices steps = told at h hbindings hmiss
  cases h with
  | hit info hcaching => exact ⟨none, hbindings, by simp⟩
  | failed hcaching => exact ⟨none, hbindings, by simp⟩
  | asked declared hcaching => exact ⟨none, hbindings, by simp [hcaching]⟩
  | settled offered kept hcaching =>
      have hnone : c.find? key = none := hmiss _ rfl
      refine ⟨some (key, offered), ?_, ?_⟩
      · rw [hbindings]
        exact if_pos hnone
      · intro k info
        simp only [Option.some.injEq, Prod.mk.injEq, List.mem_cons, reduceCtorEq,
          Notice.answer.injEq, List.not_mem_nil, or_false, false_or]
        constructor
        · intro hsame
          obtain ⟨rfl, rfl⟩ := hsame
          exact ⟨hcaching, hnone, rfl, rfl⟩
        · intro hanswer
          obtain ⟨-, -, rfl, rfl⟩ := hanswer
          exact ⟨rfl, rfl⟩

theorem Cache.find?_of_added {c c' : Cache} {added : Option (Code × KeyInfo)} {key : Code}
    {info : KeyInfo} (hbindings : c'.bindings = added.toList ++ c.bindings)
    (h : c'.find? key = some info) :
    c.find? key = some info ∨ added = some (key, info) := by
  rw [Cache.find?, hbindings] at h
  cases added with
  | none => exact .inl h
  | some binding =>
      obtain ⟨k, found⟩ := binding
      rw [Option.toList_some, List.singleton_append, List.lookup_cons] at h
      cases hkey : key == k with
      | false =>
          rw [hkey] at h
          exact .inl h
      | true =>
          rw [hkey] at h
          cases h
          obtain rfl : key = k := by simpa using hkey
          exact .inr rfl

namespace Client.Job

section

variable {τ : Type} (transport : UInt32 → Frame → τ → Outcome Answer × τ) (job : Job)
  (w : World τ)

/-- A request adds the info that it was answered with, if its client caches and had none. -/
theorem exists_added :
    ∃ added : Option (Code × KeyInfo),
      (job.operation.run (.alone transport) w).2.cache.bindings =
          added.toList ++ w.cache.bindings ∧
        ∀ key info, added = some (key, info) ↔
          job.config.caching = true ∧ w.cache.find? key = none ∧
            ∃ call ∈ calls (job.operation.trace (.alone transport) w),
              call.Declares key info := by
  have hleads := Operation.leads_trace transport job.operation w
  have hwalk := Operation.walk_trace (.alone transport) job.operation w
  simp only [← Operation.answer_mem_notices_iff]
  cases hsubject : job.request.subject? with
  | none =>
      have hsilent := Job.silent_operation hsubject _ _ hwalk
      have hbindings := hleads.bindings_eq
      rw [hsilent] at hbindings ⊢
      exact ⟨none, hbindings, by simp⟩
  | some key =>
      obtain ⟨found, henquiry⟩ := Job.enquires_operation hsubject _ _ hwalk
      exact henquiry.exists_added hleads

end

variable {τ : Type} {transport : UInt32 → Frame → τ → Outcome Answer × τ} {job : Job}
  {w : World τ}

theorem cache_eq_of_not_caching
    (h : job.config.caching = false ∨ job.request.subject? = none) :
    (job.operation.run (.alone transport) w).2.cache = w.cache :=
  (Operation.leads_trace transport job.operation w).eq_of_not_caching h
    (job.takes_operation _ _ (Operation.walk_trace _ _ w))

theorem find?_run_of_some {key : Code} {info : KeyInfo} (h : w.cache.find? key = some info) :
    (job.operation.run (.alone transport) w).2.cache.find? key = some info :=
  (Operation.leads_trace transport job.operation w).find?_of_some h

theorem held_or_declared_of_find? {key : Code} {info : KeyInfo}
    (h : (job.operation.run (.alone transport) w).2.cache.find? key = some info) :
    w.cache.find? key = some info ∨
      ∃ call ∈ calls (job.operation.trace (.alone transport) w), call.Declares key info := by
  obtain ⟨added, hbindings, hadded⟩ := exists_added transport job w
  rcases Cache.find?_of_added hbindings h with hheld | hnew
  · exact .inl hheld
  · exact .inr ((hadded key info).mp hnew).2.2

end Client.Job

namespace Session

variable {τ : Type} {transport : UInt32 → Frame → τ → Outcome Answer × τ} {w : World τ}
  {key : Code} {info : KeyInfo}

theorem held_or_declared_of_perform {task : Task}
    (h : (perform transport w task).world.cache.find? key = some info) :
    w.cache.find? key = some info ∨
      ∃ call, .sent call ∈ (perform transport w task).marks ∧ call.Declares key info := by
  cases task with
  | reset => cases h
  | request job =>
      rcases Job.held_or_declared_of_find? h with hheld | ⟨call, hcall, hdeclares⟩
      · exact .inl hheld
      · exact .inr ⟨call, List.mem_map.mpr ⟨call, hcall, rfl⟩, hdeclares⟩

theorem held_or_declared_of_run {tasks : List Task}
    (h : (run transport tasks w).world.cache.find? key = some info) :
    w.cache.find? key = some info ∨
      ∃ call, .sent call ∈ (run transport tasks w).marks ∧ call.Declares key info := by
  induction tasks generalizing w with
  | nil => exact .inl h
  | cons task rest ih =>
      simp only [run, List.mem_append]
      rcases ih h with hnext | ⟨call, hcall, hdeclares⟩
      · rcases held_or_declared_of_perform hnext with hheld | ⟨call, hcall, hdeclares⟩
        · exact .inl hheld
        · exact .inr ⟨call, .inl hcall, hdeclares⟩
      · exact .inr ⟨call, .inr hcall, hdeclares⟩

end Session

/-- An operation adds one binding at most and changes none, so all that a map says has been
declared. -/
theorem bindings_are_declared_infos (transport : UInt32 → Frame → τ → Outcome Answer × τ) :
    (∀ (job : Job) (w : World τ),
      let after := (job.operation.run (.alone transport) w).2.cache
      let sent := calls (job.operation.trace (.alone transport) w)
      (∃ added : Option (Code × KeyInfo),
        after.bindings = added.toList ++ w.cache.bindings ∧
          ∀ key info, added = some (key, info) ↔
            job.config.caching = true ∧ w.cache.find? key = none ∧
              ∃ call ∈ sent, call.Declares key info) ∧
      (∀ key info, w.cache.find? key = some info → after.find? key = some info) ∧
      ((job.config.caching = false ∨ ∃ index, job.request = .keyAt index) →
        after = w.cache)) ∧
    (∀ (tasks : List Task) (w : World τ), w.cache.bindings = [] →
      let session := Session.run transport tasks w
      ∀ key info, session.world.cache.find? key = some info →
        ∃ call, .sent call ∈ session.marks ∧ call.Declares key info) ∧
    (∀ (moves : List Move) (key : Code) (info : KeyInfo),
      ((Crew.idle {}).run moves).cache.find? key = some info →
        .answer key (some info) ∈ noticed ((Crew.idle {}).trace moves)) := by
  refine ⟨?_, ?_, ?_⟩
  · intro job w after sent
    refine ⟨Job.exists_added transport job w, fun _ _ => Job.find?_run_of_some, ?_⟩
    intro hidle
    apply Job.cache_eq_of_not_caching
    rcases hidle with hcaching | ⟨index, hrequest⟩
    · exact .inl hcaching
    · right
      rw [hrequest]
      rfl
  · intro tasks w hempty session key info hfound
    rcases Session.held_or_declared_of_run hfound with hheld | hdeclared
    · rw [Cache.find?, hempty] at hheld
      cases hheld
    · exact hdeclared
  · intro moves key info hfound
    rcases Crew.held_or_declared_of_find? hfound with hheld | hdeclared
    · cases hheld
    · exact hdeclared

end SmcKeys
