import SmcKeys.Client
import SmcKeys.Proofs.Walk

namespace SmcKeys

open Operation (Step Walk lookupSteps insertSteps lookup insert walk_bind_iff walk_note_iff
  walk_call_iff walk_done_iff walk_lookup_bind walk_insert_bind)

def Outcome.map (f : α → β) : Outcome α → Outcome β
  | .returned a => .returned (f a)
  | .panicked => .panicked

namespace Client

def infoRequest (key : Code) : Packet :=
  .request key .readKeyInfo

def verdict (request : Packet) : Answer → Except Failure Packet
  | .error fault => .error (.transport fault)
  | .ok frame =>
      let response := Packet.decode frame
      if response.result.isSuccess then .ok response
      else .error (.rejected request.key request.command response.result)

def complaints (request : Packet) : Outcome Answer → List Log.Event
  | .returned (.ok frame) =>
      let response := Packet.decode frame
      if response.result.isSuccess then [] else [.callRejected request.key response.result]
  | _ => []

def declared (key : Code) (answer : Answer) : Except Failure KeyInfo :=
  (verdict (infoRequest key) answer).map (·.info)

def exchangeSteps (config : Config) (request : Packet) (reply : Outcome Answer) : List Step :=
  .noted (.callSent request.key request.command) ::
    .called config.selector request.encode reply :: (complaints request reply).map .noted

inductive KeyInfoWalk (config : Config) (key : Code) :
    List Step → Outcome (Except Failure KeyInfo) → Prop where
  | hit (info : KeyInfo) (fresh : Bool) (hcaching : config.caching = true) :
      KeyInfoWalk config key (lookupSteps key (some info) fresh) (.returned (.ok info))
  | failed (fresh : Bool) (answer : Answer) (failure : Failure)
      (hcaching : config.caching = true) (hdeclared : declared key answer = .error failure) :
      KeyInfoWalk config key
        (lookupSteps key none fresh ++
          exchangeSteps config (infoRequest key) (.returned answer))
        (.returned (.error failure))
  | broken (fresh : Bool) (hcaching : config.caching = true) :
      KeyInfoWalk config key
        (lookupSteps key none fresh ++ exchangeSteps config (infoRequest key) .panicked)
        .panicked
  | settled (fresh : Bool) (answer : Answer) (offered : KeyInfo) (kept : Cache.Retention)
      (refreshed : Bool) (hcaching : config.caching = true)
      (hdeclared : declared key answer = .ok offered) :
      KeyInfoWalk config key
        (lookupSteps key none fresh ++
          (exchangeSteps config (infoRequest key) (.returned answer) ++
            insertSteps key offered kept refreshed))
        (.returned (.ok kept.info))
  | asked (reply : Outcome Answer) (hcaching : config.caching = false) :
      KeyInfoWalk config key (exchangeSteps config (infoRequest key) reply)
        (reply.map (declared key))

theorem walk_transact {config : Config} {request : Packet}
    (h : Walk (transact config request) steps outcome) :
    ∃ reply, steps = exchangeSteps config request reply ∧
      outcome = reply.map (verdict request) := by
  obtain ⟨_, rfl, hcall⟩ := walk_note_iff.mp h
  obtain ⟨answer, rest, rfl, hanswer⟩ | ⟨rfl, rfl⟩ := walk_call_iff.mp hcall
  · refine ⟨.returned answer, ?_⟩
    cases answer with
    | error fault =>
        obtain ⟨rfl, rfl⟩ := walk_done_iff.mp hanswer
        exact ⟨rfl, rfl⟩
    | ok frame =>
        simp only at hanswer
        split at hanswer
        case isTrue hsuccess =>
          obtain ⟨rfl, rfl⟩ := walk_done_iff.mp hanswer
          simp [exchangeSteps, complaints, Outcome.map, verdict, hsuccess]
        case isFalse hfailure =>
          obtain ⟨_, rfl, hdone⟩ := walk_note_iff.mp hanswer
          obtain ⟨rfl, rfl⟩ := walk_done_iff.mp hdone
          simp [exchangeSteps, complaints, Outcome.map, verdict, hfailure]
  · exact ⟨.panicked, rfl, rfl⟩

theorem walk_declaredInfo {config : Config} {key : Code}
    (h : Walk (declaredInfo config key) steps outcome) :
    ∃ reply, steps = exchangeSteps config (infoRequest key) reply ∧
      outcome = reply.map (declared key) := by
  obtain ⟨response, first, rest, rfl, hfirst, hrest⟩ | ⟨hpanic, rfl⟩ := walk_bind_iff.mp h
  · obtain ⟨rfl, rfl⟩ := walk_done_iff.mp hrest
    obtain ⟨reply, rfl, hreply⟩ := walk_transact hfirst
    refine ⟨reply, by simp [infoRequest], ?_⟩
    cases reply with
    | returned answer =>
        cases hreply
        rfl
    | panicked => cases hreply
  · obtain ⟨reply, rfl, hreply⟩ := walk_transact hpanic
    refine ⟨reply, rfl, ?_⟩
    cases reply with
    | returned answer => cases hreply
    | panicked => rfl

theorem walk_declaredInfo_bind {config : Config} {key : Code}
    {f : Except Failure KeyInfo → Operation α}
    (h : Walk (declaredInfo config key >>= f) steps outcome) :
    (∃ answer rest,
      steps = exchangeSteps config (infoRequest key) (.returned answer) ++ rest ∧
        Walk (f (declared key answer)) rest outcome) ∨
    (steps = exchangeSteps config (infoRequest key) .panicked ∧ outcome = .panicked) := by
  obtain ⟨result, first, rest, rfl, hfirst, hrest⟩ | ⟨hpanic, rfl⟩ := walk_bind_iff.mp h
  · obtain ⟨reply, rfl, hreply⟩ := walk_declaredInfo hfirst
    cases reply with
    | returned answer =>
        cases hreply
        exact .inl ⟨answer, rest, rfl, hrest⟩
    | panicked => cases hreply
  · obtain ⟨reply, rfl, hreply⟩ := walk_declaredInfo hpanic
    cases reply with
    | returned answer => cases hreply
    | panicked => exact .inr ⟨rfl, rfl⟩

def keep (key : Code) : Except Failure KeyInfo → Operation (Except Failure KeyInfo)
  | .error failure => .done (.error failure)
  | .ok info => do
      let kept ← insert key info
      return .ok kept

/-- What is left of a question about a key once the cache has been asked. -/
def askUnlessFound (config : Config) (key : Code) :
    Option KeyInfo → Operation (Except Failure KeyInfo)
  | some info => .done (.ok info)
  | none => declaredInfo config key >>= keep key

theorem keyInfo_of_caching {config : Config} (h : config.caching = true) (key : Code) :
    keyInfo config key = lookup key >>= askUnlessFound config key := by
  rw [keyInfo, if_pos h]
  rfl

theorem keyInfo_of_not_caching {config : Config} (h : config.caching = false) (key : Code) :
    keyInfo config key = declaredInfo config key := by
  simp [keyInfo, h]

theorem walk_keep_ok {key : Code} {info : KeyInfo}
    (h : Walk (keep key (.ok info)) steps outcome) :
    ∃ kept fresh, steps = insertSteps key info kept fresh ∧
      outcome = .returned (.ok kept.info) := by
  obtain ⟨kept, fresh, _, rfl, hdone⟩ := walk_insert_bind h
  obtain ⟨rfl, rfl⟩ := walk_done_iff.mp hdone
  exact ⟨kept, fresh, List.append_nil _, rfl⟩

theorem walk_keyInfo {config : Config} {key : Code}
    (h : Walk (keyInfo config key) steps outcome) : KeyInfoWalk config key steps outcome := by
  cases hcaching : config.caching with
  | false =>
      rw [keyInfo_of_not_caching hcaching] at h
      obtain ⟨reply, rfl, rfl⟩ := walk_declaredInfo h
      exact .asked reply hcaching
  | true =>
      rw [keyInfo_of_caching hcaching] at h
      obtain ⟨found, fresh, rest, rfl, hrest⟩ := walk_lookup_bind h
      cases found with
      | some info =>
          obtain ⟨rfl, rfl⟩ := walk_done_iff.mp hrest
          rw [List.append_nil]
          exact .hit info fresh hcaching
      | none =>
          obtain ⟨answer, offer, rfl, hoffer⟩ | ⟨rfl, rfl⟩ := walk_declaredInfo_bind hrest
          · cases hdeclared : declared key answer with
            | error failure =>
                rw [hdeclared] at hoffer
                obtain ⟨rfl, rfl⟩ := walk_done_iff.mp hoffer
                rw [List.append_nil]
                exact .failed fresh answer failure hcaching hdeclared
            | ok offered =>
                rw [hdeclared] at hoffer
                obtain ⟨kept, refreshed, rfl, rfl⟩ := walk_keep_ok hoffer
                exact .settled fresh answer offered kept refreshed hcaching hdeclared
          · exact .broken fresh hcaching

end Client

end SmcKeys
