import SmcKeys.Proofs.CacheEffect

namespace SmcKeys

open Operation (calls notices)
open Client (Job Response Enquiry)

inductive Fleet.Errand where
  | request (number : UInt32) (job : Job)
  | reset

/-- What comes of errands: how each of them ended, of which a reset has nothing to say, and what was
called. -/
structure Fleet (τ : Type) where
  outcomes : List (Option (Outcome Response)) := []
  calls : List Call := []
  world : World τ

namespace Fleet

def perform (transports : UInt32 → UInt32 → Frame → τ → Outcome Answer × τ) (w : World τ) :
    Errand → Fleet τ
  | .request number job =>
      let run := job.operation.run (.alone (transports number)) w
      { outcomes := [some run.1]
        calls := Operation.calls (job.operation.trace (.alone (transports number)) w)
        world := run.2 }
  | .reset =>
      let use := w.cache.reset
      { outcomes := [none]
        world := (w.withCache use.cache).logAll use.events }

def run (transports : UInt32 → UInt32 → Frame → τ → Outcome Answer × τ) :
    List Errand → World τ → Fleet τ
  | [], w => { world := w }
  | errand :: rest, w =>
      let first := perform transports w errand
      let later := run transports rest first.world
      { outcomes := first.outcomes ++ later.outcomes
        calls := first.calls ++ later.calls
        world := later.world }

end Fleet

def Call.declares (key : Code) (call : Call) : Bool :=
  Frame.inquiry? call.request = some key ∧ call.reply.info?.isSome

def declarations (key : Code) (sent : List Call) : Nat :=
  sent.countP (Call.declares key)

@[simp] theorem declarations_nil (key : Code) : declarations key [] = 0 := rfl

@[simp] theorem declarations_append (key : Code) (first rest : List Call) :
    declarations key (first ++ rest) = declarations key first + declarations key rest :=
  List.countP_append

def Cache.known (key : Code) (c : Cache) : Nat :=
  (c.find? key).toList.length

theorem Cache.known_le_one (key : Code) (c : Cache) : c.known key ≤ 1 := by
  cases hfound : c.find? key <;> simp [known, hfound]

theorem Cache.Leads.known_le {c c' : Cache} {steps : List Operation.Step} (h : Leads c steps c')
    (key : Code) : c.known key ≤ c'.known key := by
  cases hfound : c.find? key with
  | none => simp [known, hfound]
  | some info => simp [known, hfound, h.find?_of_some hfound]

def Notice.declares (key : Code) : Notice → Bool
  | .answer k (some _) => k = key
  | _ => false

theorem declarations_calls (key : Code) (steps : List Operation.Step) :
    declarations key (calls steps) = (notices steps).countP (Notice.declares key) := by
  induction steps with
  | nil => rfl
  | cons step steps ih =>
      have hstep : declarations key (calls [step]) =
          (notices [step]).countP (Notice.declares key) := by
        cases step with
        | called selector request reply =>
            cases hinquiry : Frame.inquiry? request <;> cases hinfo : reply.info? <;>
              simp [calls, notices, declarations, Operation.Step.call?, Operation.Step.notice?,
                Call.declares, Notice.declares, List.countP_cons, hinquiry, hinfo]
        | consulted k found fresh => cases found <;> rfl
        | retained k offered kept fresh => rfl
        | counted tally => rfl
        | noted event => rfl
      rw [← List.singleton_append, Operation.calls_append, Operation.notices_append,
        declarations_append, List.countP_append, hstep, ih]

/-- The declarations of a question are paid for by what the cache gets to know. -/
theorem Client.Enquiry.declarations_add_known_le {config : Config} {asked : Code}
    {steps : List Operation.Step} {found : Option KeyInfo}
    (h : Enquiry config asked (notices steps) found) (hcaching : config.caching = true)
    {c c' : Cache} (hleads : c.Leads steps c') (key : Code) :
    declarations key (calls steps) + c.known key ≤ c'.known key := by
  have hknown := hleads.known_le key
  have hbindings := hleads.bindings_eq
  have hmiss : ∀ rest, notices steps = .miss asked :: rest → c.find? asked = none :=
    fun _ => hleads.find?_of_miss
  rw [declarations_calls]
  generalize notices steps = told at h hbindings hmiss ⊢
  -- Only a question that missed its key is ever answered with an info, and it inserts that info.
  cases h with
  | hit info => simpa [Notice.declares, List.countP_cons] using hknown
  | failed => simpa [Notice.declares, List.countP_cons] using hknown
  | asked declared huncached =>
      rw [hcaching] at huncached
      cases huncached
  | settled offered kept =>
      by_cases hkey : asked = key
      · subst hkey
        have hnone : c.find? asked = none := hmiss _ rfl
        have hbound : c'.find? asked = some offered := by
          rw [Cache.find?] at hnone
          simp [Cache.find?, hbindings, Notice.bind, hnone]
        simp [Notice.declares, Cache.known, hnone, hbound]
      · simpa [Notice.declares, List.countP_cons, hkey] using hknown

theorem Client.Job.declarations_add_known_le
    (transport : UInt32 → Frame → τ → Outcome Answer × τ) {job : Job}
    (hcaching : job.config.caching = true) (w : World τ) (key : Code) :
    declarations key (calls (job.operation.trace (.alone transport) w)) + w.cache.known key ≤
      (job.operation.run (.alone transport) w).2.cache.known key := by
  have hleads := Operation.leads_trace transport job.operation w
  have hwalk := Operation.walk_trace (.alone transport) job.operation w
  cases hsubject : job.request.subject? with
  | none =>
      rw [declarations_calls, job.silent_operation hsubject _ _ hwalk, List.countP_nil,
        Nat.zero_add]
      exact hleads.known_le key
  | some asked =>
      obtain ⟨found, henquiry⟩ := job.enquires_operation hsubject _ _ hwalk
      exact henquiry.declarations_add_known_le hcaching hleads key

namespace Fleet

variable (transports : UInt32 → UInt32 → Frame → τ → Outcome Answer × τ)

theorem declarations_add_known_le {errands : List Errand} (hquiet : .reset ∉ errands)
    (hcaching : ∀ number job, .request number job ∈ errands → job.config.caching = true)
    (w : World τ) (key : Code) :
    declarations key (run transports errands w).calls + w.cache.known key ≤
      (run transports errands w).world.cache.known key := by
  induction errands generalizing w with
  | nil => simp [run]
  | cons errand rest ih =>
      cases errand with
      | reset => exact absurd List.mem_cons_self hquiet
      | request number job =>
          have hfirst := Job.declarations_add_known_le (transports number)
            (hcaching number job List.mem_cons_self) w key
          have hlater := ih (fun hreset => hquiet (List.mem_cons_of_mem _ hreset))
            (fun n j hmem => hcaching n j (List.mem_cons_of_mem _ hmem))
            (job.operation.run (.alone (transports number)) w).2
          simp only [run, perform, declarations_append]
          omega

/-- Between two resets each key is declared once at most. -/
theorem declarations_le_one {errands : List Errand} (hquiet : .reset ∉ errands)
    (hcaching : ∀ number job, .request number job ∈ errands → job.config.caching = true)
    (w : World τ) (key : Code) : declarations key (run transports errands w).calls ≤ 1 := by
  have hpaid := declarations_add_known_le transports hquiet hcaching w key
  have hone := (run transports errands w).world.cache.known_le_one key
  omega

end Fleet

end SmcKeys
