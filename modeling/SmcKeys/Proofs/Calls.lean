import SmcKeys.Proofs.Notice

namespace SmcKeys

open Operation (Step lookupSteps insertSteps)

structure Call where
  selector : UInt32
  request : Frame
  reply : Outcome Answer

namespace Operation

def Step.call? : Step → Option Call
  | .called selector request reply => some ⟨selector, request, reply⟩
  | _ => none

def calls (steps : List Step) : List Call :=
  steps.filterMap Step.call?

@[simp] theorem calls_nil : calls [] = [] := rfl

@[simp] theorem calls_append (first rest : List Step) :
    calls (first ++ rest) = calls first ++ calls rest :=
  List.filterMap_append

@[simp] theorem calls_noted (events : List Log.Event) : calls (events.map .noted) = [] :=
  filterMap_noted (fun _ => rfl) events

@[simp] theorem calls_lookup (key : Code) (found : Option KeyInfo) (fresh : Bool) :
    calls (lookupSteps key found fresh) = [] := by
  change calls (List.map _ _ ++ _) = _
  rw [calls_append, calls_noted]
  rfl

@[simp] theorem calls_insert (key : Code) (offered : KeyInfo) (kept : Cache.Retention)
    (fresh : Bool) : calls (insertSteps key offered kept fresh) = [] := by
  change calls (List.map _ _ ++ _) = _
  rw [calls_append, calls_noted]
  change calls (List.map _ _) = _
  rw [calls_noted]

section

variable {site : Site σ} {op : Operation α} {f : α → Operation β} {s : σ}

theorem run_bind_of_returned {a : α} (h : (op.run site s).1 = .returned a) :
    (op >>= f).run site s = (f a).run site (op.run site s).2 := by
  have hrun : op.run site s = (.returned a, (op.run site s).2) := Prod.ext h rfl
  rw [run_bind, hrun]

theorem run_bind_of_panicked (h : (op.run site s).1 = .panicked) :
    (op >>= f).run site s = (.panicked, (op.run site s).2) := by
  have hrun : op.run site s = (.panicked, (op.run site s).2) := Prod.ext h rfl
  rw [run_bind, hrun]

theorem calls_bind_of_returned {a : α} (h : (op.run site s).1 = .returned a) :
    calls ((op >>= f).trace site s) =
      calls (op.trace site s) ++ calls ((f a).trace site (op.run site s).2) := by
  have hrun : op.run site s = (.returned a, (op.run site s).2) := Prod.ext h rfl
  rw [trace_bind, calls_append, hrun]

theorem calls_bind_of_panicked (h : (op.run site s).1 = .panicked) :
    calls ((op >>= f).trace site s) = calls (op.trace site s) := by
  have hrun : op.run site s = (.panicked, (op.run site s).2) := Prod.ext h rfl
  rw [trace_bind, hrun, List.append_nil]

end

end Operation

open Operation (calls)

/-- Something about the states of a site that changes with the calls alone, by one rule. -/
structure Site.Follows {β : Type} (site : Site σ) (f : σ → β) (rule : β → Call → β) : Prop where
  setCache : ∀ cache s, f (site.setCache cache s) = f s
  note : ∀ event s, f (site.note event s) = f s
  call : ∀ selector request s,
    f (site.call selector request s).2 =
      rule (f s) ⟨selector, request, (site.call selector request s).1⟩

namespace Site.Follows

variable {β : Type} {site : Site σ} {f : σ → β}

theorem run {rule : β → Call → β} (h : site.Follows f rule) (op : Operation α) (s : σ) :
    f (op.run site s).2 = (calls (op.trace site s)).foldl rule (f s) := by
  induction op generalizing s with
  | done a => rfl
  | consult key next ih =>
      rw [Operation.run_consult, ih, h.setCache]
      rfl
  | retain key info next ih =>
      rw [Operation.run_retain, ih, h.setCache]
      rfl
  | count tally next ih =>
      rw [Operation.run_count, ih, h.setCache]
      rfl
  | call selector request next ih =>
      have hcall := h.call selector request s
      rw [Operation.run, Operation.trace]
      generalize site.call selector request s = replied at hcall ⊢
      obtain ⟨answer | _, t⟩ := replied
      · change f ((next answer).run site t).2 = _
        rw [ih, hcall]
        rfl
      · exact hcall
  | note event next ih =>
      rw [Operation.run_note, ih, h.note]
      rfl

theorem run_of_idle (h : site.Follows f fun b _ => b) (op : Operation α) (s : σ) :
    f (op.run site s).2 = f s := by
  refine (h.run op s).trans ?_
  induction calls (op.trace site s) with
  | nil => rfl
  | cons call rest ih => exact ih

/-- A list that every call adds to has one more entry for each of them. -/
theorem run_of_append {f : σ → List β} {entry : Call → β}
    (h : site.Follows f fun list call => list ++ [entry call]) (op : Operation α) (s : σ) :
    f (op.run site s).2 = f s ++ (calls (op.trace site s)).map entry := by
  rw [List.map_eq_flatMap, List.flatMap_def, ← List.foldl_append_eq_append]
  exact h.run op s

end Site.Follows

namespace Client

@[simp] theorem calls_exchange (config : Config) (request : Packet) (reply : Outcome Answer) :
    calls (exchangeSteps config request reply) =
      [⟨config.selector, request.encode, reply⟩] := by
  change _ :: calls (List.map _ _) = _
  rw [Operation.calls_noted]

theorem calls_transact (config : Config) (request : Packet) (site : Site σ) (s : σ) :
    ∃ reply, calls ((transact config request).trace site s) =
      [⟨config.selector, request.encode, reply⟩] := by
  obtain ⟨reply, hsteps, -⟩ := walk_transact (Operation.walk_trace site _ s)
  exact ⟨reply, by rw [hsteps, calls_exchange]⟩

theorem KeyInfoWalk.eq_of_mem_calls {config : Config} {key : Code}
    (h : KeyInfoWalk config key steps outcome) {call : Call} (hcall : call ∈ calls steps) :
    call.selector = config.selector ∧ call.request = (infoRequest key).encode := by
  cases h with
  | hit info fresh hcaching => simp at hcall
  | failed fresh answer failure hcaching hdeclared =>
      obtain rfl : call = _ := by simpa using hcall
      exact ⟨rfl, rfl⟩
  | broken fresh hcaching =>
      obtain rfl : call = _ := by simpa using hcall
      exact ⟨rfl, rfl⟩
  | settled fresh answer offered kept refreshed hcaching hdeclared =>
      obtain rfl : call = _ := by simpa using hcall
      exact ⟨rfl, rfl⟩
  | asked reply hcaching =>
      obtain rfl : call = _ := by simpa using hcall
      exact ⟨rfl, rfl⟩

theorem keyInfo_of_held {site : Site σ} {config : Config} {key : Code} {info : KeyInfo} {s : σ}
    (hcaching : config.caching = true) (hheld : (site.cache s).find? key = some info) :
    calls ((keyInfo config key).trace site s) = [] ∧
      ((keyInfo config key).run site s).1 = .returned (.ok info) := by
  have hfirst : ∃ fresh rest,
      (keyInfo config key).trace site s = .consulted key (some info) fresh :: rest := by
    rw [keyInfo_of_caching hcaching, ← hheld]
    exact ⟨_, _, rfl⟩
  have hwalk := walk_keyInfo (Operation.walk_trace site (keyInfo config key) s)
  generalize (keyInfo config key).trace site s = steps at hfirst hwalk ⊢
  generalize ((keyInfo config key).run site s).1 = outcome at hwalk ⊢
  obtain ⟨fresh, rest, rfl⟩ := hfirst
  generalize hsteps : Operation.Step.consulted key (some info) fresh :: rest = steps at hwalk ⊢
  cases hwalk with
  | hit found fresh' =>
      cases hsteps
      exact ⟨Operation.calls_lookup _ _ _, rfl⟩
  | failed fresh' answer failure => cases hsteps
  | broken fresh' => cases hsteps
  | settled fresh' answer offered kept refreshed => cases hsteps
  | asked reply huncached =>
      rw [hcaching] at huncached
      cases huncached

end Client

end SmcKeys
