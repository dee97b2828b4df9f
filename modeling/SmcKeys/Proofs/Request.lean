import SmcKeys.Proofs.Notice

namespace SmcKeys.Client

open Operation (Walk notices Silent silent_done walk_bind_iff walk_done_iff)

inductive Request where
  | keyInfo (key : Code)
  | read (key : Code)
  | readText (text : String)
  | readInto (key : Code) (buffer : Value)
  | write (value : Value)
  | keyAt (index : UInt32)
  deriving DecidableEq

inductive Response where
  | info (result : Except Failure KeyInfo)
  | value (result : Except Failure Value)
  | reading (reading : Reading)
  | done (result : Except Failure Unit)
  | code (result : Except Failure Code)

/-- A request to a client. Clients of one cache and one controller differ in nothing but their
configuration. -/
structure Job where
  config : Config
  request : Request
  deriving DecidableEq

def Job.operation (job : Job) : Operation Response :=
  match job.request with
  | .keyInfo key => do return .info (← keyInfo job.config key)
  | .read key => do return .value (← read job.config key)
  | .readText text => do return .value (← readText job.config text)
  | .readInto key buffer => do return .reading (← readInto job.config key buffer)
  | .write value => do return .done (← write job.config value)
  | .keyAt index => do return .code (← keyAt job.config index)

def Request.subject? : Request → Option Code
  | .keyInfo key => some key
  | .read key => some key
  | .readText text => (Code.named text).toOption
  | .readInto key _ => some key
  | .write value => some value.key
  | .keyAt _ => none

theorem Request.subject?_readText_eq_some_iff {text : String} {key : Code} :
    (readText text).subject? = some key ↔ Code.named text = .ok key := by
  cases hnamed : Code.named text with
  | error cause => simp [subject?, hnamed, Except.toOption]
  | ok named => simp [subject?, hnamed, Except.toOption]

theorem Request.subject?_readText_eq_none_iff {text : String} :
    (readText text).subject? = none ↔ ∃ cause, Code.named text = .error cause := by
  cases hnamed : Code.named text with
  | error cause => simp [subject?, hnamed, Except.toOption]
  | ok named => simp [subject?, hnamed, Except.toOption]

theorem readRequest_ne_inquiry (key : Code) (info : KeyInfo) :
    (readRequest key info).command ≠ .readKeyInfo := by
  change Command.readKey ≠ Command.readKeyInfo
  decide

theorem writeRequest_ne_inquiry (value : Value) :
    (writeRequest value).command ≠ .readKeyInfo := by
  change Command.writeKey ≠ Command.readKeyInfo
  decide

theorem indexRequest_ne_inquiry (index : UInt32) :
    (indexRequest index).command ≠ .readKeyInfo := by
  change Command.keyFromIndex ≠ Command.readKeyInfo
  decide

/-- An operation that asks about one key before anything else. -/
def Enquires (config : Config) (key : Code) (op : Operation α) : Prop :=
  ∀ steps outcome, Walk op steps outcome → ∃ found, Enquiry config key (notices steps) found

theorem enquires_keyInfo (config : Config) (key : Code) :
    Enquires config key (keyInfo config key) :=
  fun _ outcome h => ⟨outcome.success?, enquiry_keyInfo h⟩

theorem Enquires.bind {config : Config} {key : Code} {op : Operation α} {f : α → Operation β}
    (hop : Enquires config key op) (hf : ∀ a, Silent (f a)) :
    Enquires config key (op >>= f) := by
  intro steps outcome h
  obtain ⟨a, first, rest, rfl, hfirst, hrest⟩ | ⟨hpanic, -⟩ := walk_bind_iff.mp h
  · rw [Operation.notices_append, hf a _ _ hrest, List.append_nil]
    exact hop _ _ hfirst
  · exact hop _ _ hpanic

theorem enquires_readInto (config : Config) (key : Code) (buffer : Value) :
    Enquires config key (readInto config key buffer) := by
  apply (enquires_keyInfo config key).bind
  intro found
  cases found with
  | error failure => exact silent_done _
  | ok info =>
      apply (silent_transact (readRequest_ne_inquiry key info)).bind
      intro response
      cases response with
      | error failure => exact silent_done _
      | ok response => exact silent_done _

theorem enquires_read (config : Config) (key : Code) :
    Enquires config key (read config key) :=
  (enquires_readInto config key (.empty key)).bind fun _ => silent_done _

theorem enquires_write (config : Config) (value : Value) :
    Enquires config value.key (write config value) := by
  apply (enquires_keyInfo config value.key).bind
  intro found
  cases found with
  | error failure => exact silent_done _
  | ok info =>
      dsimp only
      split
      case isTrue =>
        apply (silent_transact (writeRequest_ne_inquiry value)).bind
        exact fun _ => silent_done _
      case isFalse => exact (silent_done _).note _

theorem silent_keyAt (config : Config) (index : UInt32) : Silent (keyAt config index) :=
  (silent_transact (indexRequest_ne_inquiry index)).bind fun _ => silent_done _

theorem Job.enquires_operation {job : Job} {key : Code} (h : job.request.subject? = some key) :
    Enquires job.config key job.operation := by
  obtain ⟨config, request⟩ := job
  cases request with
  | keyInfo key =>
      cases h
      exact (enquires_keyInfo config key).bind fun _ => silent_done _
  | read key =>
      cases h
      exact (enquires_read config key).bind fun _ => silent_done _
  | readText text =>
      have hread : Enquires config key (readText config text) := by
        rw [readText, Request.subject?_readText_eq_some_iff.mp h]
        exact enquires_read config key
      exact hread.bind fun _ => silent_done _
  | readInto key buffer =>
      cases h
      exact (enquires_readInto config key buffer).bind fun _ => silent_done _
  | write value =>
      cases h
      exact (enquires_write config value).bind fun _ => silent_done _
  | keyAt index => cases h

theorem Job.silent_operation {job : Job} (h : job.request.subject? = none) :
    Silent job.operation := by
  obtain ⟨config, request⟩ := job
  cases request with
  | readText text =>
      have hread : Silent (readText config text) := by
        obtain ⟨cause, hnamed⟩ := Request.subject?_readText_eq_none_iff.mp h
        rw [readText, hnamed]
        exact silent_done _
      exact hread.bind fun _ => silent_done _
  | keyAt index => exact (silent_keyAt config index).bind fun _ => silent_done _
  | keyInfo key => cases h
  | read key => cases h
  | readInto key buffer => cases h
  | write value => cases h

theorem enquiry_of_info {config : Config} {key : Code} {info : KeyInfo}
    (h : Walk (Job.operation ⟨config, .keyInfo key⟩) steps (.returned (.info (.ok info)))) :
    Enquiry config key (notices steps) (some info) := by
  obtain ⟨result, first, rest, rfl, hfirst, hrest⟩ | ⟨-, hend⟩ := walk_bind_iff.mp h
  · obtain ⟨rfl, hresult⟩ := walk_done_iff.mp hrest
    cases hresult
    rw [List.append_nil]
    exact enquiry_keyInfo hfirst
  · cases hend

end SmcKeys.Client
