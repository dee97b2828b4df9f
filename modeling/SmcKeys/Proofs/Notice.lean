import SmcKeys.Proofs.ClientWalk
import SmcKeys.Proofs.Codec

namespace SmcKeys

open Operation (Step Walk lookupSteps insertSteps walk_bind_iff walk_note_iff walk_done_iff)
open Client (exchangeSteps infoRequest declared verdict)

def Frame.inquiry? (request : Frame) : Option Code :=
  let packet := Packet.decode request
  if packet.command = .readKeyInfo then some packet.key else none

def Answer.info? : Answer → Option KeyInfo
  | .ok frame =>
      let response := Packet.decode frame
      if response.result.isSuccess then some response.info else none
  | .error _ => none

namespace Outcome

def info? : Outcome Answer → Option KeyInfo
  | .returned answer => answer.info?
  | .panicked => none

def declaring (info : KeyInfo) : Outcome Answer :=
  .returned (.ok (Packet.encode { info }))

def success? : Outcome (Except Failure α) → Option α
  | .returned (.ok a) => some a
  | _ => none

theorem success?_returned_eq_some_iff {result : Except Failure α} {a : α} :
    success? (.returned result) = some a ↔ result = .ok a := by
  cases result with
  | ok b => simp [success?]
  | error failure => simp [success?]

end Outcome

/-- A step that has to do with the info of a key: a lookup with or without success, an answer
of the controller, or an insertion with the info that is kept. -/
inductive Notice where
  | hit (key : Code) (info : KeyInfo)
  | miss (key : Code)
  | answer (key : Code) (declared : Option KeyInfo)
  | insertion (key : Code) (offered kept : KeyInfo)
  deriving DecidableEq

namespace Operation

def Step.notice? : Step → Option Notice
  | .consulted key (some info) _ => some (.hit key info)
  | .consulted key none _ => some (.miss key)
  | .retained key offered kept _ => some (.insertion key offered kept.info)
  | .called _ request reply => (Frame.inquiry? request).map fun key => .answer key reply.info?
  | .counted _ => none
  | .noted _ => none

def notices (steps : List Step) : List Notice :=
  steps.filterMap Step.notice?

@[simp] theorem notices_nil : notices [] = [] := rfl

@[simp] theorem notices_append (first rest : List Step) :
    notices (first ++ rest) = notices first ++ notices rest :=
  List.filterMap_append

@[simp] theorem notices_noted (events : List Log.Event) : notices (events.map .noted) = [] :=
  filterMap_noted (fun _ => rfl) events

@[simp] theorem notices_lookup_some (key : Code) (info : KeyInfo) (fresh : Bool) :
    notices (lookupSteps key (some info) fresh) = [.hit key info] := by
  change .hit key info :: notices (List.map _ _ ++ _) = _
  rw [notices_append, notices_noted]
  rfl

@[simp] theorem notices_lookup_none (key : Code) (fresh : Bool) :
    notices (lookupSteps key none fresh) = [.miss key] := by
  change .miss key :: notices (List.map _ _ ++ _) = _
  rw [notices_append, notices_noted]
  rfl

@[simp] theorem notices_insert (key : Code) (offered : KeyInfo) (kept : Cache.Retention)
    (fresh : Bool) :
    notices (insertSteps key offered kept fresh) = [.insertion key offered kept.info] := by
  change .insertion key offered kept.info :: notices (List.map _ _ ++ _) = _
  rw [notices_append, notices_noted]
  change [_] ++ notices (List.map _ _) = _
  rw [notices_noted]
  rfl

def Silent (op : Operation α) : Prop :=
  ∀ steps outcome, Walk op steps outcome → notices steps = []

theorem silent_done (a : α) : Silent (.done a) := by
  intro steps outcome h
  obtain ⟨rfl, -⟩ := walk_done_iff.mp h
  rfl

theorem Silent.note {op : Operation α} (hop : Silent op) (event : Log.Event) :
    Silent (.note event op) := by
  intro steps outcome h
  obtain ⟨rest, rfl, hrest⟩ := walk_note_iff.mp h
  exact hop rest outcome hrest

theorem Silent.bind {op : Operation α} {f : α → Operation β} (hop : Silent op)
    (hf : ∀ a, Silent (f a)) : Silent (op >>= f) := by
  intro steps outcome h
  obtain ⟨a, first, rest, rfl, hfirst, hrest⟩ | ⟨hpanic, -⟩ := walk_bind_iff.mp h
  · rw [notices_append, hop _ _ hfirst, hf a _ _ hrest]
    rfl
  · exact hop _ _ hpanic

end Operation

open Operation (notices Silent)

@[simp] theorem Frame.inquiry?_encode (packet : Packet) :
    Frame.inquiry? packet.encode =
      if packet.command = .readKeyInfo then some packet.key else none := by
  simp [Frame.inquiry?]

namespace Client

theorem inquiry?_infoRequest (key : Code) :
    Frame.inquiry? (infoRequest key).encode = some key := by
  rw [Frame.inquiry?_encode]
  exact if_pos rfl

theorem notices_exchange (config : Config) (request : Packet) (reply : Outcome Answer) :
    notices (exchangeSteps config request reply) =
      if request.command = .readKeyInfo then [.answer request.key reply.info?] else [] := by
  have hrest : notices ((complaints request reply).map .noted) = [] :=
    Operation.notices_noted _
  unfold notices at hrest ⊢
  rw [exchangeSteps, List.filterMap_cons_none (by rfl)]
  by_cases hinquiry : request.command = .readKeyInfo
  · rw [List.filterMap_cons_some (b := .answer request.key reply.info?)
      (by simp [Step.notice?, hinquiry]), hrest, if_pos hinquiry]
  · rw [List.filterMap_cons_none (by simp [Step.notice?, hinquiry]), hrest, if_neg hinquiry]

theorem notices_inquiry (config : Config) (key : Code) (reply : Outcome Answer) :
    notices (exchangeSteps config (infoRequest key) reply) = [.answer key reply.info?] :=
  notices_exchange config (infoRequest key) reply

theorem silent_transact {config : Config} {request : Packet}
    (hrequest : request.command ≠ .readKeyInfo) : Silent (transact config request) := by
  intro steps outcome h
  obtain ⟨reply, rfl, -⟩ := walk_transact h
  rw [notices_exchange, if_neg hrequest]

theorem success?_declared (key : Code) (reply : Outcome Answer) :
    (reply.map (declared key)).success? = reply.info? := by
  cases reply with
  | panicked => rfl
  | returned answer =>
      cases answer with
      | error fault => rfl
      | ok frame =>
          cases hresult : (Packet.decode frame).result.isSuccess <;>
            simp [Outcome.map, Outcome.success?, Outcome.info?, Answer.info?, declared, verdict,
              hresult, Except.map]

theorem info?_of_declared {key : Code} {answer : Answer} {result : Except Failure KeyInfo}
    (h : declared key answer = result) :
    Outcome.info? (.returned answer) = Outcome.success? (.returned result) := by
  rw [← success?_declared key, Outcome.map, h]

/-- What a question about a key gets to know, and which info it ends with. -/
inductive Enquiry (config : Config) (key : Code) : List Notice → Option KeyInfo → Prop where
  | hit (info : KeyInfo) (hcaching : config.caching = true) :
      Enquiry config key [.hit key info] (some info)
  | failed (hcaching : config.caching = true) :
      Enquiry config key [.miss key, .answer key none] none
  | settled (offered kept : KeyInfo) (hcaching : config.caching = true) :
      Enquiry config key
        [.miss key, .answer key (some offered), .insertion key offered kept] (some kept)
  | asked (declared : Option KeyInfo) (hcaching : config.caching = false) :
      Enquiry config key [.answer key declared] declared

theorem enquiry_keyInfo {config : Config} {key : Code}
    (h : Walk (keyInfo config key) steps outcome) :
    Enquiry config key (notices steps) outcome.success? := by
  cases walk_keyInfo h with
  | hit info fresh hcaching =>
      rw [Operation.notices_lookup_some]
      exact .hit info hcaching
  | failed fresh answer failure hcaching hdeclared =>
      rw [Operation.notices_append, Operation.notices_lookup_none, notices_inquiry,
        info?_of_declared hdeclared]
      exact .failed hcaching
  | broken fresh hcaching =>
      rw [Operation.notices_append, Operation.notices_lookup_none, notices_inquiry]
      exact .failed hcaching
  | settled fresh answer offered kept refreshed hcaching hdeclared =>
      rw [Operation.notices_append, Operation.notices_append, Operation.notices_lookup_none,
        notices_inquiry, Operation.notices_insert, info?_of_declared hdeclared]
      exact .settled offered kept.info hcaching
  | asked reply hcaching =>
      rw [notices_inquiry, success?_declared]
      exact .asked _ hcaching

end Client

end SmcKeys
