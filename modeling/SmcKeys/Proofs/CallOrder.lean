import SmcKeys.Proofs.Breakdown

namespace SmcKeys

open Operation (calls lookupSteps)
open Client (Job Request)

def Call.Carries (call : Call) (config : Config) (packet : Packet) : Prop :=
  call.selector = config.selector ∧ Packet.decode call.request = packet

def Call.command (call : Call) : Command :=
  (Packet.decode call.request).command

theorem Call.Carries.command_eq {call : Call} {config : Config} {packet : Packet}
    (h : call.Carries config packet) : call.command = packet.command :=
  congrArg Packet.command h.2

theorem Call.carries_mk (config : Config) (packet : Packet) (reply : Outcome Answer) :
    Carries ⟨config.selector, packet.encode, reply⟩ config packet :=
  ⟨rfl, Packet.decode_encode packet⟩

namespace Client

section

variable (site : Site σ) (s : σ) {config : Config}

theorem exists_carrying (packet : Packet) (f : Except Failure Packet → Response) :
    ∃ call, calls ((transact config packet >>= fun verdict => .done (f verdict)).trace site s) =
      [call] ∧ call.Carries config packet := by
  obtain ⟨reply, hcalls⟩ := calls_transact config packet site s
  refine ⟨_, ?_, Call.carries_mk config packet reply⟩
  rw [← hcalls]
  exact congrArg calls (Operation.trace_bind_pure _ _ _ _)

theorem exists_trace_keyInfo (hcaching : config.caching = true) (key : Code) :
    ∃ fresh rest, (keyInfo config key).trace site s =
      .consulted key ((site.cache s).find? key) fresh :: rest := by
  rw [keyInfo_of_caching hcaching]
  exact ⟨_, _, rfl⟩

/-- A question needs no call if and only if the cache has the answer. -/
theorem calls_keyInfo_cases (config : Config) (key : Code) :
    (calls ((keyInfo config key).trace site s) = [] ∧ config.caching = true ∧
        ∃ info, (site.cache s).find? key = some info) ∨
      ((∃ reply, calls ((keyInfo config key).trace site s) =
          [⟨config.selector, (infoRequest key).encode, reply⟩]) ∧
        ¬ (config.caching = true ∧ ∃ info, (site.cache s).find? key = some info)) := by
  have hwalk := walk_keyInfo (Operation.walk_trace site (keyInfo config key) s)
  have hfirst : config.caching = true → _ := fun hcaching =>
    exists_trace_keyInfo site s hcaching key
  generalize (keyInfo config key).trace site s = steps at hwalk hfirst ⊢
  generalize ((keyInfo config key).run site s).1 = outcome at hwalk
  -- A walk has what the lookup was told; that the cache says so is in the first step of the run.
  have hfound : ∀ found fresh rest, steps = lookupSteps key found fresh ++ rest →
      config.caching = true → (site.cache s).find? key = found := by
    intro found fresh rest hsteps hcaching
    obtain ⟨fresh', rest', hhead⟩ := hfirst hcaching
    rw [hhead] at hsteps
    cases (List.cons.inj hsteps).1
    rfl
  cases hwalk with
  | hit info fresh hcaching =>
      have hheld := hfound (some info) fresh [] (List.append_nil _).symm hcaching
      exact .inl ⟨Operation.calls_lookup _ _ _, hcaching, info, hheld⟩
  | failed fresh answer failure hcaching hdeclared =>
      right
      simp [hfound none fresh _ rfl hcaching]
  | broken fresh hcaching =>
      right
      simp [hfound none fresh _ rfl hcaching]
  | settled fresh answer offered kept refreshed hcaching hdeclared =>
      right
      simp [hfound none fresh _ rfl hcaching]
  | asked reply hcaching =>
      right
      simp [hcaching]

end

namespace Job

section

variable (site : Site σ) (s : σ) (job : Job)

theorem sent_keyInfo (config : Config) (key : Code) :
    sent site s ⟨config, .keyInfo key⟩ = asked site s ⟨config, .keyInfo key⟩ key :=
  congrArg calls (Operation.trace_bind_pure _ _ _ _)

theorem asked_cases (key : Code) :
    (job.asked site s key = [] ∧ job.config.caching = true ∧
        ∃ info, (site.cache s).find? key = some info) ∨
      ((∃ call, job.asked site s key = [call] ∧
          call.Carries job.config { key, command := .readKeyInfo }) ∧
        ¬ (job.config.caching = true ∧ ∃ info, (site.cache s).find? key = some info)) := by
  rcases calls_keyInfo_cases site s job.config key with hheld | ⟨⟨reply, hcalls⟩, hmissing⟩
  · exact .inl hheld
  · exact .inr ⟨⟨_, hcalls, Call.carries_mk _ _ reply⟩, hmissing⟩

end

variable {site : Site σ} {s : σ} {job : Job} {key : Code}

theorem calls_course_cases {info : KeyInfo} {op : Operation Response}
    (h : job.Course key info op) :
    (calls (op.trace site s) = [] ∧ ¬ job.request.Reads key) ∨
      ∃ call, calls (op.trace site s) = [call] ∧
        ((job.request.Reads key ∧ call.Carries job.config (readRequest key info)) ∨
          ∃ value, job.request = .write value ∧
            call.Carries job.config (writeRequest value)) := by
  cases h with
  | told hrequest =>
      left
      refine ⟨rfl, ?_⟩
      intro hreads
      rw [hrequest] at hreads
      cases hreads
  | read hreads hfinish =>
      obtain ⟨call, hcalls, hcarries⟩ := exists_carrying site s (readRequest key info) _
      exact .inr ⟨call, hcalls, .inl ⟨hreads, hcarries⟩⟩
  | @write value hrequest hshape finish hfinish =>
      obtain ⟨call, hcalls, hcarries⟩ := exists_carrying site s (writeRequest value) _
      exact .inr ⟨call, hcalls, .inr ⟨value, hrequest, hcarries⟩⟩
  | refuse hrequest hshape =>
      left
      refine ⟨rfl, ?_⟩
      intro hreads
      rw [hrequest] at hreads
      cases hreads

theorem sent_cases (site : Site σ) (s : σ) (hsubject : job.request.subject? = some key) :
    job.sent site s = job.asked site s key ∨
      ∃ call, job.sent site s = job.asked site s key ++ [call] ∧
        ((job.request.Reads key ∧ ∃ info, call.Carries job.config (readRequest key info)) ∨
          ∃ value, job.request = .write value ∧
            call.Carries job.config (writeRequest value)) := by
  by_cases hfound : ∃ info, job.found site s key = .returned (.ok info)
  · obtain ⟨info, hinfo⟩ := hfound
    rw [sent_of_found hsubject hinfo]
    rcases calls_course_cases (course_proceed hsubject info) with
      ⟨hnone, -⟩ | ⟨call, hcall, ⟨hreads, hcarries⟩ | hwrites⟩
    · left
      rw [hnone, List.append_nil]
    · exact .inr ⟨call, by rw [hcall], .inl ⟨hreads, info, hcarries⟩⟩
    · exact .inr ⟨call, by rw [hcall], .inr hwrites⟩
  · exact .inl (sent_of_not_found hsubject fun info hinfo => hfound ⟨info, hinfo⟩)

theorem sent_of_reads (hreads : job.request.Reads key) {info : KeyInfo}
    (hfound : job.found site s key = .returned (.ok info)) :
    ∃ call, job.sent site s = job.asked site s key ++ [call] ∧
      call.Carries job.config { key, command := .readKey, info := { size := info.size } } := by
  rw [sent_of_found hreads.subject?_eq hfound]
  rcases calls_course_cases (course_proceed hreads.subject?_eq info) with
    ⟨-, hnot⟩ | ⟨call, hcall, ⟨-, hcarries⟩ | ⟨value, hwrites, -⟩⟩
  · exact absurd hreads hnot
  · exact ⟨call, by rw [hcall], hcarries⟩
  · rw [hwrites] at hreads
    cases hreads

theorem sent_write_cases (site : Site σ) (s : σ) (config : Config) (value : Value) :
    sent site s ⟨config, .write value⟩ = asked site s ⟨config, .write value⟩ value.key ∨
      ∃ call, sent site s ⟨config, .write value⟩ =
          asked site s ⟨config, .write value⟩ value.key ++ [call] ∧
        call.Carries config
          { key := value.key, command := .writeKey, info := { size := value.size },
            data := value.data } := by
  have hsubject : (Job.mk config (.write value)).request.subject? = some value.key := rfl
  rcases sent_cases site s hsubject with
    hsame | ⟨call, hsent, ⟨hreads, -⟩ | ⟨other, hwrites, hcarries⟩⟩
  · exact .inl hsame
  · cases hreads
  · cases hwrites
    exact .inr ⟨call, hsent, hcarries⟩

theorem sent_keyAt (site : Site σ) (s : σ) (config : Config) (index : UInt32) :
    ∃ call, sent site s ⟨config, .keyAt index⟩ = [call] ∧
      call.Carries config { command := .keyFromIndex, index } := by
  rw [sent, operation_keyAt]
  exact exists_carrying site s (indexRequest index) _

theorem sent_of_unnamed (config : Config) {text : String} {cause : Malformed}
    (h : Code.named text = .error cause) : sent site s ⟨config, .readText text⟩ = [] := by
  rw [sent, operation_of_unnamed config h]
  rfl

theorem commands_asked (site : Site σ) (s : σ) (job : Job) (key : Code) :
    (job.asked site s key).map Call.command = [] ∨
      (job.asked site s key).map Call.command = [.readKeyInfo] := by
  rcases asked_cases site s job key with ⟨hnone, -⟩ | ⟨⟨call, hasked, hcarries⟩, -⟩
  · left
    rw [hnone]
    rfl
  · right
    rw [hasked]
    exact congrArg (fun command => [command]) hcarries.command_eq

theorem commands_sent (site : Site σ) (s : σ) (hsubject : job.request.subject? = some key) :
    ∃ further, (job.sent site s).map Call.command =
        (job.asked site s key).map Call.command ++ further ∧
      (further = [] ∨ further = [.readKey] ∨ further = [.writeKey]) := by
  rcases sent_cases site s hsubject with
    hsame | ⟨call, hsent, ⟨-, info, hcarries⟩ | ⟨value, -, hcarries⟩⟩
  · exact ⟨[], by rw [hsame, List.append_nil], .inl rfl⟩
  · refine ⟨[call.command], by rw [hsent, List.map_append, List.map_singleton], ?_⟩
    rw [hcarries.command_eq]
    exact .inr (.inl rfl)
  · refine ⟨[call.command], by rw [hsent, List.map_append, List.map_singleton], ?_⟩
    rw [hcarries.command_eq]
    exact .inr (.inr rfl)

theorem nodup_commands (site : Site σ) (s : σ) (job : Job) :
    ((job.sent site s).map Call.command).Nodup := by
  cases hsubject : job.request.subject? with
  | some key =>
      obtain ⟨further, hsent, hfurther⟩ := commands_sent site s hsubject
      rw [hsent]
      rcases commands_asked site s job key with hasked | hasked <;>
        rcases hfurther with rfl | rfl | rfl <;> rw [hasked] <;> decide
  | none =>
      obtain ⟨config, request⟩ := job
      cases request with
      | readText text =>
          obtain ⟨cause, hnamed⟩ := Request.subject?_readText_eq_none_iff.mp hsubject
          rw [sent_of_unnamed config hnamed]
          exact List.nodup_nil
      | keyAt index =>
          obtain ⟨call, hsent, -⟩ := sent_keyAt site s config index
          simp [hsent]
      | keyInfo key => cases hsubject
      | read key => cases hsubject
      | readInto key buffer => cases hsubject
      | write value => cases hsubject

end Job

end Client

/-- A question is one call at most, a read or a write goes on with one more, and the first call that
fails is the last one. -/
theorem requests_call_in_order (site : Site σ) (s : σ) (config : Config) :
    (∀ key,
      let asked := Job.sent site s ⟨config, .keyInfo key⟩
      (asked = [] ∨
        ∃ call, asked = [call] ∧ call.Carries config { key, command := .readKeyInfo }) ∧
      (asked = [] ↔ config.caching = true ∧ ∃ info, (site.cache s).find? key = some info)) ∧
    (∀ key request, Request.Reads key request →
      let asked := Job.sent site s ⟨config, .keyInfo key⟩
      let found := ((Client.keyInfo config key).run site s).1
      let sent := Job.sent site s ⟨config, request⟩
      (∀ info, found = .returned (.ok info) →
        ∃ call, sent = asked ++ [call] ∧
          call.Carries config { key, command := .readKey, info := { size := info.size } }) ∧
      ((∀ info, found ≠ .returned (.ok info)) → sent = asked)) ∧
    (∀ value,
      let asked := Job.sent site s ⟨config, .keyInfo value.key⟩
      let sent := Job.sent site s ⟨config, .write value⟩
      sent = asked ∨
        ∃ call, sent = asked ++ [call] ∧
          call.Carries config
            { key := value.key, command := .writeKey, info := { size := value.size },
              data := value.data }) ∧
    (∀ index,
      ∃ call, Job.sent site s ⟨config, .keyAt index⟩ = [call] ∧
        call.Carries config { command := .keyFromIndex, index }) ∧
    (∀ text cause, Code.named text = .error cause →
      Job.sent site s ⟨config, .readText text⟩ = []) ∧
    (∀ request,
      let sent := Job.sent site s ⟨config, request⟩
      (∀ before call after breakdown, sent = before ++ call :: after →
        call.breakdown? = some breakdown →
          after = [] ∧ Job.breakdown? site s ⟨config, request⟩ = some breakdown) ∧
      (sent.map Call.command).Nodup) := by
  simp only [Job.sent_keyInfo]
  refine ⟨?_, ?_, ?_, ?_, ?_, ?_⟩
  · intro key
    rcases Job.asked_cases site s ⟨config, .keyInfo key⟩ key with
      ⟨hnone, hheld⟩ | ⟨⟨call, hasked, hcarries⟩, hmissing⟩
    · exact ⟨.inl hnone, iff_of_true hnone hheld⟩
    · refine ⟨.inr ⟨call, hasked, hcarries⟩, iff_of_false ?_ hmissing⟩
      simp [hasked]
  · intro key request hreads
    have hjob : (Job.mk config request).request.Reads key := hreads
    exact ⟨fun info => Job.sent_of_reads hjob, Job.sent_of_not_found hjob.subject?_eq⟩
  · exact fun value => Job.sent_write_cases site s config value
  · exact fun index => Job.sent_keyAt site s config index
  · exact fun text cause => Job.sent_of_unnamed config
  · intro request
    refine ⟨?_, Job.nodup_commands site s _⟩
    intro before call after breakdown hsent hbroken
    have haccords := Job.accords_operation site s ⟨config, request⟩
    constructor
    · apply haccords.last before call after hsent
      simp [hbroken]
    · rw [haccords.eq_some_iff]
      left
      refine ⟨call, ?_, hbroken⟩
      rw [hsent]
      exact List.mem_append_right _ List.mem_cons_self

end SmcKeys
