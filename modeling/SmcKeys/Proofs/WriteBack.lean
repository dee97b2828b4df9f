import SmcKeys.Proofs.CacheEffect
import SmcKeys.Proofs.LastError
import SmcKeys.Proofs.ReadBuffer

namespace SmcKeys

open Operation (Walk calls notices walk_bind_iff walk_done_iff)

namespace Client

theorem walk_readAfter {config : Config} {key : Code} {found : Except Failure KeyInfo}
    {value : Value} (h : Walk (readAfter config key found) steps (.returned ⟨value, .ok ()⟩)) :
    ∃ info data, found = .ok info ∧ notices steps = [] ∧
      value = { key, size := min info.size 32, type := info.type, data } := by
  cases found with
  | error failure =>
      obtain ⟨-, hend⟩ := walk_done_iff.mp h
      cases hend
  | ok info =>
      have hsilent : Operation.Silent (readAfter config key (.ok info)) :=
        (silent_transact (readRequest_ne_inquiry key info)).bind fun _ => Operation.silent_done _
      have htold := hsilent _ _ h
      obtain ⟨verdict, _, _, -, -, hleft⟩ | ⟨-, hend⟩ := walk_bind_iff.mp h
      · obtain ⟨-, hreading⟩ := walk_done_iff.mp hleft
        cases verdict with
        | error failure => cases hreading
        | ok response =>
            cases hreading
            exact ⟨info, response.data, rfl, htold, rfl⟩
      · cases hend

theorem walk_read {config : Config} {key : Code} {value : Value}
    (h : Walk (read config key) steps (.returned (.ok value))) :
    ∃ info data, value = { key, size := min info.size 32, type := info.type, data } ∧
      Enquiry config key (notices steps) (some info) := by
  obtain ⟨⟨left, result⟩, first, rest, rfl, hread, hrest⟩ | ⟨-, hend⟩ := walk_bind_iff.mp h
  · obtain ⟨rfl, hvalue⟩ := walk_done_iff.mp hrest
    cases result with
    | error failure => cases hvalue
    | ok _ =>
        cases hvalue
        rw [readInto_eq] at hread
        obtain ⟨found, asked, used, rfl, hasked, hused⟩ | ⟨-, hend⟩ := walk_bind_iff.mp hread
        · obtain ⟨info, data, rfl, hsilent, rfl⟩ := walk_readAfter hused
          refine ⟨info, data, rfl, ?_⟩
          rw [List.append_nil, Operation.notices_append, hsilent, List.append_nil]
          exact enquiry_keyInfo hasked
        · cases hend
  · cases hend

end Client

/-- What is sent for a value whose info the cache has: the value itself if it is as large as
declared, and nothing else in any case. -/
structure WritesBack (selector : UInt32) (value : Value) (declared : UInt32)
    (sent : List Call) : Prop where
  not_inquires : ∀ call ∈ sent, Frame.inquiry? call.request = none
  writes_iff : (∃ call ∈ sent, call.IsWrite) ↔ declared ≤ 32
  written : declared ≤ 32 → ∃ request reply, sent = [⟨selector, request, reply⟩] ∧
    Packet.decode request =
      { key := value.key, command := .writeKey, info := { size := value.size },
        data := value.data }
  unsent : 32 < declared → sent = []

theorem writesBack_nil {selector declared : UInt32} {value : Value} (h : 32 < declared) :
    WritesBack selector value declared [] where
  not_inquires _ hcall := by cases hcall
  writes_iff := by simpa using h
  written hle := absurd h (by simpa using hle)
  unsent _ := rfl

theorem writesBack_request {selector declared : UInt32} {value : Value} (h : declared ≤ 32)
    (reply : Outcome Answer) :
    WritesBack selector value declared
      [⟨selector, (Client.writeRequest value).encode, reply⟩] where
  not_inquires call hcall := by
    rw [List.mem_singleton.mp hcall, Frame.inquiry?_encode,
      if_neg (Client.writeRequest_ne_inquiry value)]
  writes_iff := by
    refine iff_of_true ⟨_, List.mem_singleton.mpr rfl, ?_⟩ h
    rw [Call.IsWrite, Packet.decode_encode]
    rfl
  written _ := ⟨_, reply, rfl, Packet.decode_encode _⟩
  unsent hlt := absurd h (by simpa using hlt)

namespace Client

theorem write_of_held {site : Site σ} {config : Config} {value : Value} {info : KeyInfo} {s : σ}
    (hcaching : config.caching = true) (hheld : (site.cache s).find? value.key = some info)
    (hsize : value.size = min info.size 32) (htype : value.type = info.type) :
    WritesBack config.selector value info.size (calls ((write config value).trace site s)) ∧
      (32 < info.size → ((write config value).run site s).1 =
        .returned (.error (.mismatch value.key ⟨info.size, info.type⟩ ⟨32, info.type⟩))) := by
  obtain ⟨hasked, hfound⟩ := keyInfo_of_held hcaching hheld
  by_cases hfits : info.size ≤ 32
  · have hshape : info.toShape = value.toShape := by
      rw [Shape.ext_iff, hsize, htype]
      exact ⟨(if_pos hfits).symm, rfl⟩
    obtain ⟨reply, hsent⟩ := write_of_match hfound hshape
    rw [hsent, hasked]
    exact ⟨writesBack_request hfits reply, fun hlarge => absurd hfits (by simpa using hlarge)⟩
  · have hcut : value.size = 32 := hsize.trans (if_neg hfits)
    have hlarge : 32 < info.size := by simpa using hfits
    have hshape : info.toShape ≠ value.toShape := by
      intro hsame
      rw [Shape.ext_iff, hcut] at hsame
      exact hfits (hsame.1 ▸ Nat.le_refl _)
    obtain ⟨hsent, hrefused⟩ := write_of_mismatch hfound hshape
    rw [hsent, hasked]
    have hactual : value.toShape = ⟨32, info.type⟩ := Shape.ext hcut htype
    refine ⟨writesBack_nil hlarge, fun _ => ?_⟩
    rw [hrefused, hactual]

theorem held_of_read {site : Site σ} (hsite : site.Exclusive) {config : Config} {key : Code}
    {s : σ} {value : Value} (hcaching : config.caching = true)
    (h : ((read config key).run site s).1 = .returned (.ok value)) :
    ∃ info data, value = { key, size := min info.size 32, type := info.type, data } ∧
      (site.cache ((read config key).run site s).2).find? key = some info ∧
      ((site.cache s).find? key = some info ∨
        (site.cache s).find? key = none ∧
          ∃ call ∈ calls ((read config key).trace site s), call.Declares key info) := by
  have hwalk := Operation.walk_trace site (read config key) s
  rw [h] at hwalk
  obtain ⟨info, data, rfl, henquiry⟩ := walk_read hwalk
  have hleads := Operation.leads_of_exclusive hsite (read config key) s
  obtain ⟨notice, hnotice, hdecision⟩ := henquiry.decision_of_caching hcaching
  have hheld := hleads.find?_of_decision hnotice hdecision
  refine ⟨info, data, rfl, hheld, ?_⟩
  obtain ⟨added, hbindings, hadded⟩ := henquiry.exists_added hleads
  rcases Cache.find?_of_added hbindings hheld with hbefore | hnew
  · exact .inl hbefore
  · obtain ⟨-, hmissing, hanswer⟩ := (hadded key info).mp hnew
    exact .inr ⟨hmissing, Operation.answer_mem_notices_iff.mp hanswer⟩

end Client

namespace Foreign

section

variable {service : Service (Process τ)} {number : UInt32} {p : Process τ}

theorem sent_readKey (text : KeyText) (before : Value) :
    Request.sent service p (.readKey (some text) (some before) number) =
      calls ((Client.read {} text.code).trace (site service (.borrowed number)) p.clearError) := by
  rw [Client.calls_read {} text.code (.empty text.code)]
  exact congrArg calls (Operation.trace_bind_pure _ _ _ _)

theorem readKey_of_success {text : KeyText} {before out : Value}
    (h : (Request.perform service p (.readKey (some text) (some before) number)).1 =
      .value ⟨.success, some out⟩) :
    let read := (Client.read {} text.code).run (site service (.borrowed number)) p.clearError
    read.1 = .returned (.ok out.toValue) ∧
      (Request.perform service p (.readKey (some text) (some before) number)).2.cache =
        read.2.cache := by
  intro read
  let job : Client.Job := ⟨{}, .readInto text.code (.empty text.code)⟩
  have hjob : (Request.readKey (some text) (some before) number).job? = some (number, job) := rfl
  have hcache : (Request.perform service p (.readKey (some text) (some before) number)).2.cache =
      (job.operation.run (site service (.borrowed number)) p.clearError).2.cache :=
    congrArg World.cache (Request.toWorld_perform hjob p)
  rw [Client.Job.operation, Operation.snd_run_bind_pure] at hcache
  rcases hleft : (Client.readInto {} text.code (.empty text.code)).run
      (site service (.borrowed number)) p.clearError with ⟨left | _, q⟩
  · have hread : read = _ := Client.run_read (congrArg Prod.fst hleft)
    have hended : (job.operation.run (site service (.borrowed number)) p.clearError).1 =
        .returned (.reading left) :=
      Operation.fst_run_bind_done_of_returned (congrArg Prod.fst hleft)
    rw [hleft] at hread hcache
    simp only [Request.perform, readKey, perform_eq_run, hleft] at h
    injection h with hreply
    injection hreply with hstatus hout
    rw [fst_report] at hstatus
    have hnone : Client.failureOf? left.result = none :=
      (Client.Job.status_eq_success_iff hended).mp hstatus
    rw [hread, hcache]
    cases hresult : left.result with
    | error failure =>
        rw [hresult] at hnone
        cases hnone
    | ok _ =>
        cases hout
        rw [Value.toValue_ofValue]
        exact ⟨rfl, rfl⟩
  · simp only [Request.perform, readKey, perform_eq_run, hleft] at h
    cases h

theorem writeKey_of_failed {value : Value} {failure : Failure}
    (h : ((Client.write {} value.toValue).run (site service (.borrowed number))
      p.clearError).1 = .returned (.error failure)) :
    (Request.perform service p (.writeKey (some value) number)).1 = .status failure.status ∧
      (Request.perform service p (.writeKey (some value) number)).2.lastError =
        sanitized failure.message := by
  simp only [Request.perform, writeKey, perform_eq_run]
  generalize (Client.write {} value.toValue).run (site service (.borrowed number)) p.clearError =
    ended at h ⊢
  obtain ⟨outcome, q⟩ := ended
  cases h
  exact ⟨rfl, rfl⟩

end

end Foreign

def Supplied (cache : Cache) (sent : List Call) (key : Code) (info : KeyInfo) : Prop :=
  cache.find? key = some info ∨
    cache.find? key = none ∧ ∃ call ∈ sent, call.Declares key info

open Client (read write)

/-- A value that was read is written back without another question, and only if no more was declared
than the buffer holds. -/
theorem read_value_writes_back_iff_declared_fits :
    (∀ {σ : Type} (site : Site σ) (config : Config) (key : Code) (s : σ) (value : Value),
      site.Exclusive → config.caching = true →
      ((read config key).run site s).1 = .returned (.ok value) →
      ∃ info, Supplied (site.cache s) (calls ((read config key).trace site s)) key info ∧
        value.key = key ∧
        ∀ {σ' : Type} (site' : Site σ') (s' : σ'),
          site'.cache s' = site.cache ((read config key).run site s).2 →
          WritesBack config.selector value info.size
              (calls ((write config value).trace site' s')) ∧
            (32 < info.size → ((write config value).run site' s').1 =
              .returned (.error (.mismatch key ⟨info.size, info.type⟩ ⟨32, info.type⟩)))) ∧
    (∀ {τ : Type} (service : Service (Foreign.Process τ)) (number : UInt32)
        (text : Foreign.KeyText) (before out : Foreign.Value) (p : Foreign.Process τ),
      let reading := Foreign.Request.readKey (some text) (some before) number
      (Foreign.site service (.borrowed number)).Exclusive →
      (reading.perform service p).1 = .value ⟨.success, some out⟩ →
      ∃ info, Supplied p.cache (reading.sent service p) text.code info ∧
        out.toValue.key = text.code ∧
        ∀ {τ' : Type} (service' : Service (Foreign.Process τ')) (number' : UInt32)
            (p' : Foreign.Process τ'),
          let writing := Foreign.Request.writeKey (some out) number'
          p'.cache = (reading.perform service p).2.cache →
          WritesBack 2 out.toValue info.size (writing.sent service' p') ∧
            (32 < info.size →
              (writing.perform service' p').1 = .status ⟨.badArgument, .dataTypeMismatch⟩ ∧
              (writing.perform service' p').2.lastError = Foreign.sanitized
                (Failure.mismatch text.code ⟨info.size, info.type⟩ ⟨32, info.type⟩).message)) := by
  constructor
  · intro σ site config key s value hsite hcaching hread
    obtain ⟨info, data, rfl, hheld, hsupplied⟩ := Client.held_of_read hsite hcaching hread
    refine ⟨info, hsupplied, rfl, ?_⟩
    intro σ' site' s' hcache
    rw [← hcache] at hheld
    exact Client.write_of_held hcaching hheld rfl rfl
  · intro τ service number text before out p reading hsite hsuccess
    obtain ⟨hread, hafter⟩ := Foreign.readKey_of_success hsuccess
    obtain ⟨info, data, hvalue, hheld, hsupplied⟩ := Client.held_of_read hsite rfl hread
    rw [← Foreign.sent_readKey text before] at hsupplied
    refine ⟨info, hsupplied, congrArg Value.key hvalue, ?_⟩
    intro τ' service' number' p' writing hcache
    have hkept : ((Foreign.site service' (.borrowed number')).cache p'.clearError).find?
        out.toValue.key = some info := by
      change p'.cache.find? _ = _
      rw [hcache, hafter, hvalue]
      exact hheld
    have hcaching : ({} : Config).caching = true := rfl
    obtain ⟨hwrites, hrefused⟩ := Client.write_of_held hcaching hkept
      (congrArg (·.size) hvalue) (congrArg (·.type) hvalue)
    rw [← Foreign.Request.sent_writeKey] at hwrites
    refine ⟨hwrites, fun hlarge => ?_⟩
    have hfailed := Foreign.writeKey_of_failed (hrefused hlarge)
    rw [hvalue] at hfailed
    exact hfailed

/-- A controller that declares 40 bytes for a key of which the buffer holds 32. -/
theorem cut_value_refused :
    let key : Code := ⟨0x54433050⟩
    let site := Site.alone fun _ _ (t : Unit) => (.declaring { size := 40 }, t)
    let reading := (read {} key).run site { controller := () }
    let writing := write {} { key, size := 32, type := .zero }
    reading.1 = .returned (.ok { key, size := 32, type := .zero }) ∧
      calls (writing.trace site reading.2) = [] ∧
      (writing.run site reading.2).1 =
        .returned (.error (.mismatch key ⟨40, .zero⟩ ⟨32, .zero⟩)) := by
  intro key site reading writing
  have hread : reading.1 = .returned (.ok { key, size := 32, type := .zero }) := rfl
  obtain ⟨info, hsupplied, -, hback⟩ := read_value_writes_back_iff_declared_fits.1 site {} key
    { controller := () } _ (Site.exclusive_alone _) rfl hread
  have hdeclared : ∀ call ∈ calls ((read {} key).trace site { controller := () }),
      call.reply.info? = some { size := 40 } := by
    decide +kernel
  obtain rfl : info = { size := 40 } := by
    rcases hsupplied with hheld | ⟨-, call, hcall, -, hinfo⟩
    · cases hheld
    · exact Option.some.inj (hinfo.symm.trans (hdeclared call hcall))
  obtain ⟨hwrites, hrefused⟩ := hback site reading.2 rfl
  exact ⟨hread, hwrites.unsent (by decide), hrefused (by decide)⟩

end SmcKeys
