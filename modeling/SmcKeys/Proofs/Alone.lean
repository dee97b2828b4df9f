import SmcKeys.Proofs.Calls

namespace SmcKeys

open Operation (calls lookup insert trace_bind run_bind run_lookup run_insert)

namespace World

def lookedUp (key : Code) (w : World τ) : World τ :=
  (w.withCache (w.cache.get key).cache).logAll (w.cache.get key).events

def inserted (key : Code) (info : KeyInfo) (w : World τ) : World τ :=
  (w.withCache (w.cache.insert key info).cache).logAll (w.cache.insert key info).events

def settled (key : Code) : Option KeyInfo → World τ → World τ
  | some info, w => w.inserted key info
  | none, w => w

def exchanged (transport : UInt32 → Frame → τ → Outcome Answer × τ) (config : Config)
    (request : Packet) (w : World τ) : World τ :=
  let reply := transport config.selector request.encode w.controller
  { w with
    log := w.log ++ .callSent request.key request.command :: Client.complaints request reply.1
    controller := reply.2 }

@[simp] theorem controller_lookedUp (key : Code) (w : World τ) :
    (w.lookedUp key).controller = w.controller := rfl

@[simp] theorem find?_lookedUp (key other : Code) (w : World τ) :
    (w.lookedUp key).cache.find? other = w.cache.find? other := by
  change Cache.find? other (Cache.count _ _) = _
  rw [Cache.find?_count]
  rfl

@[simp] theorem controller_inserted (key : Code) (info : KeyInfo) (w : World τ) :
    (w.inserted key info).controller = w.controller := rfl

@[simp] theorem controller_settled (key : Code) (found? : Option KeyInfo) (w : World τ) :
    (w.settled key found?).controller = w.controller := by
  cases found? <;> rfl

theorem find?_inserted_self {key : Code} {info : KeyInfo} {w : World τ}
    (h : w.cache.find? key = none) : (w.inserted key info).cache.find? key = some info := by
  change Cache.find? key (Cache.count _ (w.cache.retain key info).cache) = _
  rw [Cache.find?_count, Cache.find?_retain, Cache.retain_of_none h]

theorem find?_inserted_of_ne {key other : Code} (h : other ≠ key) (info : KeyInfo)
    (w : World τ) : (w.inserted key info).cache.find? other = w.cache.find? other := by
  change Cache.find? other (Cache.count _ (w.cache.retain key info).cache) = _
  rw [Cache.find?_count, Cache.find?_retain_of_ne h]

@[simp] theorem cache_exchanged (transport : UInt32 → Frame → τ → Outcome Answer × τ)
    (config : Config) (request : Packet) (w : World τ) :
    (w.exchanged transport config request).cache = w.cache := rfl

@[simp] theorem controller_exchanged (transport : UInt32 → Frame → τ → Outcome Answer × τ)
    (config : Config) (request : Packet) (w : World τ) :
    (w.exchanged transport config request).controller =
      (transport config.selector request.encode w.controller).2 := rfl

end World

namespace Client

section

variable {transport : UInt32 → Frame → τ → Outcome Answer × τ} {config : Config} {key : Code}

theorem run_transact (request : Packet) (w : World τ) :
    (transact config request).run (.alone transport) w =
      ((transport config.selector request.encode w.controller).1.map (verdict request),
        w.exchanged transport config request) := by
  simp only [transact, Operation.run, Site.alone, Site.shared, World.note, World.exchanged]
  obtain ⟨reply, t⟩ := transport config.selector request.encode w.controller
  cases reply with
  | panicked => rfl
  | returned answer =>
      cases answer with
      | error fault => rfl
      | ok frame =>
          cases hresult : (Packet.decode frame).result.isSuccess <;>
            simp [Outcome.map, verdict, complaints, hresult, World.note, Operation.run]

theorem exists_exchanged {request : Packet} {w : World τ} {reply : Outcome Answer} {t : τ}
    (h : transport config.selector request.encode w.controller = (reply, t)) :
    ∃ s, (transact config request).run (.alone transport) w =
        (reply.map (verdict request), s) ∧ s.cache = w.cache ∧ s.controller = t := by
  refine ⟨w.exchanged transport config request, ?_, rfl, ?_⟩
  · rw [run_transact, h]
  · rw [World.controller_exchanged, h]

theorem trace_transact (request : Packet) (w : World τ) :
    (transact config request).trace (.alone transport) w =
      exchangeSteps config request
        (transport config.selector request.encode w.controller).1 := by
  simp only [transact, Operation.trace, Site.alone, Site.shared, World.note]
  obtain ⟨reply, t⟩ := transport config.selector request.encode w.controller
  cases reply with
  | panicked => rfl
  | returned answer =>
      cases answer with
      | error fault => rfl
      | ok frame =>
          cases hresult : (Packet.decode frame).result.isSuccess <;>
            simp [exchangeSteps, complaints, hresult, Operation.trace]

theorem run_declaredInfo (w : World τ) :
    (declaredInfo config key).run (.alone transport) w =
      ((transport config.selector (infoRequest key).encode w.controller).1.map (declared key),
        w.exchanged transport config (infoRequest key)) := by
  change (transact config (infoRequest key) >>= _).run _ w = _
  rw [run_bind, run_transact]
  cases (transport config.selector (infoRequest key).encode w.controller).1 with
  | panicked => rfl
  | returned answer => rfl

theorem calls_declaredInfo (w : World τ) :
    calls ((declaredInfo config key).trace (.alone transport) w) =
      [⟨config.selector, (infoRequest key).encode,
        (transport config.selector (infoRequest key).encode w.controller).1⟩] := by
  change calls ((transact config (infoRequest key) >>= _).trace _ w) = _
  rw [trace_bind, trace_transact, run_transact, Operation.calls_append, calls_exchange]
  cases (transport config.selector (infoRequest key).encode w.controller).1 with
  | panicked => rfl
  | returned answer => rfl

theorem calls_trace_lookup (site : Site σ) (s : σ) : calls ((lookup key).trace site s) = [] := by
  obtain ⟨found, fresh, hsteps, -⟩ := Operation.walk_lookup (Operation.walk_trace site _ s)
  rw [hsteps, Operation.calls_lookup]

theorem calls_trace_insert (info : KeyInfo) (site : Site σ) (s : σ) :
    calls ((insert key info).trace site s) = [] := by
  obtain ⟨kept, fresh, hsteps, -⟩ := Operation.walk_insert (Operation.walk_trace site _ s)
  rw [hsteps, Operation.calls_insert]

theorem run_lookup_alone (w : World τ) :
    (lookup key).run (.alone transport) w =
      (.returned (w.cache.find? key), w.lookedUp key) :=
  run_lookup _ key w

theorem run_insert_of_missing {info : KeyInfo} {w : World τ}
    (h : w.cache.find? key = none) :
    (insert key info).run (.alone transport) w = (.returned info, w.inserted key info) := by
  rw [Site.alone, run_insert]
  simp [Cache.insert, Cache.retain_of_none h, World.inserted]

variable {w : World τ}

theorem run_keyInfo_of_found {info : KeyInfo} (hcaching : config.caching = true)
    (hfound : w.cache.find? key = some info) :
    (keyInfo config key).run (.alone transport) w = (.returned (.ok info), w.lookedUp key) := by
  rw [keyInfo_of_caching hcaching, run_bind, run_lookup_alone, hfound]
  rfl

theorem calls_keyInfo_of_found {info : KeyInfo} (hcaching : config.caching = true)
    (hfound : w.cache.find? key = some info) :
    calls ((keyInfo config key).trace (.alone transport) w) = [] :=
  (keyInfo_of_held hcaching hfound).1

theorem run_keyInfo_of_missing (hcaching : config.caching = true)
    (hmissing : w.cache.find? key = none) :
    (keyInfo config key).run (.alone transport) w =
      ((transport config.selector (infoRequest key).encode w.controller).1.map (declared key),
        ((w.lookedUp key).exchanged transport config (infoRequest key)).settled key
          (transport config.selector (infoRequest key).encode w.controller).1.info?) := by
  have hstill : ((w.lookedUp key).exchanged transport config (infoRequest key)).cache.find? key =
      none := by
    simpa using hmissing
  rw [keyInfo_of_caching hcaching, run_bind, run_lookup_alone, hmissing]
  simp only [askUnlessFound]
  rw [run_bind, run_declaredInfo, World.controller_lookedUp, ← success?_declared key]
  rcases (transport config.selector (infoRequest key).encode w.controller).1.map (declared key)
    with (failure | info) | _
  · rfl
  · simp only [keep]
    rw [run_bind, run_insert_of_missing hstill]
    rfl
  · rfl

theorem calls_keyInfo_of_missing (hcaching : config.caching = true)
    (hmissing : w.cache.find? key = none) :
    calls ((keyInfo config key).trace (.alone transport) w) =
      [⟨config.selector, (infoRequest key).encode,
        (transport config.selector (infoRequest key).encode w.controller).1⟩] := by
  have hkeep : ∀ result (w' : World τ),
      calls ((keep key result).trace (.alone transport) w') = [] := by
    intro result w'
    cases result with
    | error failure => rfl
    | ok info =>
        simp only [keep]
        rw [trace_bind, Operation.calls_append, calls_trace_insert]
        split
        · rfl
        · rfl
  rw [keyInfo_of_caching hcaching, trace_bind, Operation.calls_append, calls_trace_lookup,
    run_lookup_alone, hmissing]
  simp only [askUnlessFound]
  rw [trace_bind, Operation.calls_append, calls_declaredInfo, World.controller_lookedUp]
  split
  · rw [hkeep]
    rfl
  · rfl

end

end Client

end SmcKeys
