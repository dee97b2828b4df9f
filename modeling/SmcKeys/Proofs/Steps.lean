import SmcKeys.Proofs.Request

namespace SmcKeys

open Operation (Step Walk lookupSteps insertSteps walk_bind_iff walk_note_iff walk_done_iff)
open Client (exchangeSteps infoRequest readRequest writeRequest indexRequest)

namespace Operation

/-- All steps of an operation are of one kind, whichever way through it is taken. -/
def Takes (kind : Step → Prop) (op : Operation α) : Prop :=
  ∀ steps outcome, Walk op steps outcome → ∀ step ∈ steps, kind step

section

variable {kind : Step → Prop}

theorem takes_done (a : α) : Takes kind (.done a) := by
  intro steps outcome h step hstep
  obtain ⟨rfl, -⟩ := walk_done_iff.mp h
  cases hstep

theorem Takes.bind {op : Operation α} {f : α → Operation β} (hop : Takes kind op)
    (hf : ∀ a, Takes kind (f a)) : Takes kind (op >>= f) := by
  intro steps outcome h step hstep
  obtain ⟨a, first, rest, rfl, hfirst, hrest⟩ | ⟨hpanic, -⟩ := walk_bind_iff.mp h
  · cases List.mem_append.mp hstep with
    | inl hbefore => exact hop _ _ hfirst step hbefore
    | inr hafter => exact hf a _ _ hrest step hafter
  · exact hop _ _ hpanic step hstep

theorem of_mem_noted {events : List Log.Event} (hnote : ∀ event, kind (.noted event))
    {step : Step} (h : step ∈ events.map Step.noted) : kind step := by
  obtain ⟨event, -, rfl⟩ := List.mem_map.mp h
  exact hnote event

theorem Takes.note {op : Operation α} (hop : Takes kind op) (hnote : ∀ event, kind (.noted event))
    (event : Log.Event) : Takes kind (.note event op) := by
  intro steps outcome h step hstep
  obtain ⟨rest, rfl, hrest⟩ := walk_note_iff.mp h
  cases List.mem_cons.mp hstep with
  | inl hfirst => exact hfirst ▸ hnote event
  | inr hafter => exact hop _ _ hrest step hafter

theorem takes_lookup (hnote : ∀ event, kind (.noted event)) {key : Code}
    (hconsult : ∀ found fresh, kind (.consulted key found fresh))
    (hcount : ∀ tally, kind (.counted tally)) : Takes kind (lookup key) := by
  intro steps outcome h step hstep
  obtain ⟨found, fresh, rfl, -⟩ := walk_lookup h
  simp only [lookupSteps, List.mem_cons, List.mem_append, List.not_mem_nil, or_false] at hstep
  obtain rfl | hcreation | rfl | rfl := hstep
  · exact hconsult found fresh
  · exact of_mem_noted hnote hcreation
  · exact hcount _
  · exact hnote _

theorem takes_insert (hnote : ∀ event, kind (.noted event)) {key : Code}
    (hretain : ∀ info kept fresh, kind (.retained key info kept fresh))
    (hcount : ∀ tally, kind (.counted tally)) (info : KeyInfo) :
    Takes kind (insert key info) := by
  intro steps outcome h step hstep
  obtain ⟨kept, fresh, rfl, -⟩ := walk_insert h
  simp only [insertSteps, List.mem_cons, List.mem_append] at hstep
  obtain rfl | hcreation | rfl | hconflict := hstep
  · exact hretain info kept fresh
  · exact of_mem_noted hnote hcreation
  · exact hcount _
  · exact of_mem_noted hnote hconflict

end

end Operation

open Operation (Takes takes_done takes_lookup takes_insert)

namespace Client

section

variable {kind : Step → Prop} {config : Config} (hnote : ∀ event, kind (.noted event))

include hnote

theorem takes_transact {request : Packet}
    (hcall : ∀ reply, kind (.called config.selector request.encode reply)) :
    Takes kind (transact config request) := by
  intro steps outcome h step hstep
  obtain ⟨reply, rfl, -⟩ := walk_transact h
  simp only [exchangeSteps, List.mem_cons] at hstep
  obtain rfl | rfl | hcomplaint := hstep
  · exact hnote _
  · exact hcall reply
  · exact Operation.of_mem_noted hnote hcomplaint

theorem takes_keyInfo {key : Code}
    (hconsult : config.caching = true → ∀ found fresh, kind (.consulted key found fresh))
    (hretain : config.caching = true → ∀ info kept fresh, kind (.retained key info kept fresh))
    (hcount : config.caching = true → ∀ tally, kind (.counted tally))
    (hask : ∀ reply, kind (.called config.selector (infoRequest key).encode reply)) :
    Takes kind (keyInfo config key) := by
  have hdeclared : Takes kind (declaredInfo config key) :=
    (takes_transact hnote hask).bind fun _ => takes_done _
  cases hcaching : config.caching with
  | false =>
      rw [keyInfo_of_not_caching hcaching]
      exact hdeclared
  | true =>
      rw [keyInfo_of_caching hcaching]
      apply (takes_lookup hnote (hconsult hcaching) (hcount hcaching)).bind
      intro found
      cases found with
      | some info => exact takes_done _
      | none =>
          apply hdeclared.bind
          intro result
          cases result with
          | error failure => exact takes_done _
          | ok info =>
              exact (takes_insert hnote (hretain hcaching) (hcount hcaching) info).bind
                fun _ => takes_done _

end

inductive Job.May (job : Job) : Step → Prop where
  | consult {key : Code} (hcaching : job.config.caching = true)
      (hkey : job.request.subject? = some key) (found : Option KeyInfo) (fresh : Bool) :
      May job (.consulted key found fresh)
  | retain {key : Code} (hcaching : job.config.caching = true)
      (hkey : job.request.subject? = some key) (offered : KeyInfo) (kept : Cache.Retention)
      (fresh : Bool) : May job (.retained key offered kept fresh)
  | count {key : Code} (hcaching : job.config.caching = true)
      (hkey : job.request.subject? = some key) (tally : Cache.Tally) : May job (.counted tally)
  | ask {key : Code} (hkey : job.request.subject? = some key) (reply : Outcome Answer) :
      May job (.called job.config.selector (infoRequest key).encode reply)
  | read {key : Code} (hkey : job.request.subject? = some key) (info : KeyInfo)
      (reply : Outcome Answer) :
      May job (.called job.config.selector (readRequest key info).encode reply)
  | write {value : Value} (hrequest : job.request = .write value) (reply : Outcome Answer) :
      May job (.called job.config.selector (writeRequest value).encode reply)
  | index {index : UInt32} (hrequest : job.request = .keyAt index) (reply : Outcome Answer) :
      May job (.called job.config.selector (indexRequest index).encode reply)
  | note (event : Log.Event) : May job (.noted event)

namespace Job

theorem takes_keyInfo {job : Job} {key : Code} (hkey : job.request.subject? = some key) :
    Takes job.May (Client.keyInfo job.config key) :=
  Client.takes_keyInfo .note (fun hcaching => .consult hcaching hkey)
    (fun hcaching => .retain hcaching hkey) (fun hcaching => .count hcaching hkey) (.ask hkey)

theorem takes_readInto {job : Job} {key : Code} (hkey : job.request.subject? = some key)
    (buffer : Value) : Takes job.May (Client.readInto job.config key buffer) := by
  apply (takes_keyInfo hkey).bind
  intro found
  cases found with
  | error failure => exact takes_done _
  | ok info =>
      have hread : Takes job.May (transact job.config (readRequest key info)) :=
        takes_transact .note (.read hkey info)
      apply hread.bind
      intro response
      cases response with
      | error failure => exact takes_done _
      | ok response => exact takes_done _

theorem takes_read {job : Job} {key : Code} (hkey : job.request.subject? = some key) :
    Takes job.May (Client.read job.config key) :=
  (takes_readInto hkey (.empty key)).bind fun _ => takes_done _

theorem takes_write {job : Job} {value : Value} (hrequest : job.request = .write value) :
    Takes job.May (Client.write job.config value) := by
  have hkey : job.request.subject? = some value.key := by rw [hrequest]; rfl
  apply (takes_keyInfo hkey).bind
  intro found
  cases found with
  | error failure => exact takes_done _
  | ok info =>
      dsimp only
      split
      case isTrue =>
        exact (takes_transact .note (.write hrequest)).bind fun _ => takes_done _
      case isFalse => exact (takes_done _).note .note _

theorem takes_operation (job : Job) : Takes job.May job.operation := by
  obtain ⟨config, request⟩ := job
  cases request with
  | keyInfo key => exact (takes_keyInfo rfl).bind fun _ => takes_done _
  | read key => exact (takes_read rfl).bind fun _ => takes_done _
  | readText text =>
      cases hnamed : Code.named text with
      | error cause =>
          simp only [operation, readText, hnamed]
          exact takes_done _
      | ok key =>
          have hread : Takes (May ⟨config, .readText text⟩) (Client.read config key) :=
            takes_read (Request.subject?_readText_eq_some_iff.mpr hnamed)
          simp only [operation, readText, hnamed]
          exact hread.bind fun _ => takes_done _
  | readInto key buffer => exact (takes_readInto rfl buffer).bind fun _ => takes_done _
  | write value => exact (takes_write rfl).bind fun _ => takes_done _
  | keyAt index =>
      exact ((takes_transact .note (.index rfl)).bind fun _ => takes_done _).bind
        fun _ => takes_done _

end Job

end Client

end SmcKeys
