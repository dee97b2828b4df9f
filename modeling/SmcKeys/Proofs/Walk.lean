import SmcKeys.Operation

/-!
What holds of every walk of an operation holds wherever it runs and whatever happens in between.
-/

namespace SmcKeys

open Log (Event)

namespace Operation

/-- A step that an operation took, with what it got. -/
inductive Step where
  | consulted (key : Code) (found : Option KeyInfo) (fresh : Bool)
  | retained (key : Code) (offered : KeyInfo) (kept : Cache.Retention) (fresh : Bool)
  | counted (tally : Cache.Tally)
  | called (selector : UInt32) (request : Frame) (reply : Outcome Answer)
  | noted (event : Event)

inductive Walk : Operation α → List Step → Outcome α → Prop where
  | done (a : α) : Walk (.done a) [] (.returned a)
  | consult {key : Code} {next : Option KeyInfo → Bool → Operation α}
      {found : Option KeyInfo} {fresh : Bool} (rest : Walk (next found fresh) steps outcome) :
      Walk (.consult key next) (.consulted key found fresh :: steps) outcome
  | retain {key : Code} {info : KeyInfo} {next : Cache.Retention → Bool → Operation α}
      {kept : Cache.Retention} {fresh : Bool} (rest : Walk (next kept fresh) steps outcome) :
      Walk (.retain key info next) (.retained key info kept fresh :: steps) outcome
  | count {tally : Cache.Tally} {next : Operation α} (rest : Walk next steps outcome) :
      Walk (.count tally next) (.counted tally :: steps) outcome
  | call {selector : UInt32} {request : Frame} {next : Answer → Operation α} {answer : Answer}
      (rest : Walk (next answer) steps outcome) :
      Walk (.call selector request next)
        (.called selector request (.returned answer) :: steps) outcome
  | panic {selector : UInt32} {request : Frame} {next : Answer → Operation α} :
      Walk (.call selector request next) [.called selector request .panicked] .panicked
  | note {event : Event} {next : Operation α} (rest : Walk next steps outcome) :
      Walk (.note event next) (.noted event :: steps) outcome

theorem exists_walk (op : Operation α) : ∃ steps outcome, Walk op steps outcome := by
  induction op with
  | done a => exact ⟨_, _, .done a⟩
  | consult key next ih =>
      obtain ⟨steps, outcome, rest⟩ := ih none false
      exact ⟨_, _, .consult rest⟩
  | retain key info next ih =>
      obtain ⟨steps, outcome, rest⟩ := ih ⟨info, true⟩ false
      exact ⟨_, _, .retain rest⟩
  | count tally next ih =>
      obtain ⟨steps, outcome, rest⟩ := ih
      exact ⟨_, _, .count rest⟩
  | call selector request next ih => exact ⟨_, _, .panic⟩
  | note event next ih =>
      obtain ⟨steps, outcome, rest⟩ := ih
      exact ⟨_, _, .note rest⟩

@[simp] theorem walk_done_iff {a : α} :
    Walk (.done a) steps outcome ↔ steps = [] ∧ outcome = .returned a := by
  constructor
  · intro h
    cases h with
    | done => exact ⟨rfl, rfl⟩
  · intro h
    obtain ⟨rfl, rfl⟩ := h
    exact .done a

theorem walk_consult_iff {key : Code} {next : Option KeyInfo → Bool → Operation α} :
    Walk (.consult key next) steps outcome ↔
      ∃ found fresh rest, steps = .consulted key found fresh :: rest ∧
        Walk (next found fresh) rest outcome := by
  constructor
  · intro h
    cases h with
    | consult hrest => exact ⟨_, _, _, rfl, hrest⟩
  · intro h
    obtain ⟨found, fresh, rest, rfl, hrest⟩ := h
    exact .consult hrest

theorem walk_retain_iff {key : Code} {info : KeyInfo}
    {next : Cache.Retention → Bool → Operation α} :
    Walk (.retain key info next) steps outcome ↔
      ∃ kept fresh rest, steps = .retained key info kept fresh :: rest ∧
        Walk (next kept fresh) rest outcome := by
  constructor
  · intro h
    cases h with
    | retain hrest => exact ⟨_, _, _, rfl, hrest⟩
  · intro h
    obtain ⟨kept, fresh, rest, rfl, hrest⟩ := h
    exact .retain hrest

theorem walk_count_iff {tally : Cache.Tally} {next : Operation α} :
    Walk (.count tally next) steps outcome ↔
      ∃ rest, steps = .counted tally :: rest ∧ Walk next rest outcome := by
  constructor
  · intro h
    cases h with
    | count hrest => exact ⟨_, rfl, hrest⟩
  · intro h
    obtain ⟨rest, rfl, hrest⟩ := h
    exact .count hrest

theorem walk_note_iff {event : Event} {next : Operation α} :
    Walk (.note event next) steps outcome ↔
      ∃ rest, steps = .noted event :: rest ∧ Walk next rest outcome := by
  constructor
  · intro h
    cases h with
    | note hrest => exact ⟨_, rfl, hrest⟩
  · intro h
    obtain ⟨rest, rfl, hrest⟩ := h
    exact .note hrest

theorem walk_call_iff {selector : UInt32} {request : Frame} {next : Answer → Operation α} :
    Walk (.call selector request next) steps outcome ↔
      (∃ answer rest, steps = .called selector request (.returned answer) :: rest ∧
        Walk (next answer) rest outcome) ∨
      (steps = [.called selector request .panicked] ∧ outcome = .panicked) := by
  constructor
  · intro h
    cases h with
    | call hrest => exact .inl ⟨_, _, rfl, hrest⟩
    | panic => exact .inr ⟨rfl, rfl⟩
  · intro h
    obtain ⟨answer, rest, rfl, hrest⟩ | ⟨rfl, rfl⟩ := h
    · exact .call hrest
    · exact .panic

theorem Walk.bind_returned {op : Operation α} {f : α → Operation β} {a : α}
    (hop : Walk op first (.returned a)) (hf : Walk (f a) rest outcome) :
    Walk (op >>= f) (first ++ rest) outcome := by
  generalize hend : Outcome.returned a = ending at hop
  induction hop with
  | done b =>
      cases hend
      exact hf
  | consult _ ih => exact .consult (ih hend)
  | retain _ ih => exact .retain (ih hend)
  | count _ ih => exact .count (ih hend)
  | call _ ih => exact .call (ih hend)
  | panic => cases hend
  | note _ ih => exact .note (ih hend)

theorem Walk.bind_panicked {op : Operation α} {f : α → Operation β}
    (hop : Walk op steps .panicked) : Walk (op >>= f) steps .panicked := by
  generalize hend : Outcome.panicked = ending at hop
  induction hop with
  | done b => cases hend
  | consult _ ih => exact .consult (ih hend)
  | retain _ ih => exact .retain (ih hend)
  | count _ ih => exact .count (ih hend)
  | call _ ih => exact .call (ih hend)
  | panic => exact .panic
  | note _ ih => exact .note (ih hend)

theorem walk_bind_iff {op : Operation α} {f : α → Operation β} :
    Walk (op >>= f) steps outcome ↔
      (∃ a first rest, steps = first ++ rest ∧ Walk op first (.returned a) ∧
        Walk (f a) rest outcome) ∨
      (Walk op steps .panicked ∧ outcome = .panicked) := by
  constructor
  · intro h
    induction op generalizing steps with
    | done a => exact .inl ⟨a, [], steps, rfl, .done a, h⟩
    | consult key next ih =>
        obtain ⟨found, fresh, rest, rfl, htail⟩ := walk_consult_iff.mp h
        obtain ⟨a, first, rest, rfl, hop, hf⟩ | ⟨hop, rfl⟩ := ih found fresh htail
        · exact .inl ⟨a, _ :: first, rest, rfl, .consult hop, hf⟩
        · exact .inr ⟨.consult hop, rfl⟩
    | retain key info next ih =>
        obtain ⟨kept, fresh, rest, rfl, htail⟩ := walk_retain_iff.mp h
        obtain ⟨a, first, rest, rfl, hop, hf⟩ | ⟨hop, rfl⟩ := ih kept fresh htail
        · exact .inl ⟨a, _ :: first, rest, rfl, .retain hop, hf⟩
        · exact .inr ⟨.retain hop, rfl⟩
    | count tally next ih =>
        obtain ⟨rest, rfl, htail⟩ := walk_count_iff.mp h
        obtain ⟨a, first, rest, rfl, hop, hf⟩ | ⟨hop, rfl⟩ := ih htail
        · exact .inl ⟨a, _ :: first, rest, rfl, .count hop, hf⟩
        · exact .inr ⟨.count hop, rfl⟩
    | call selector request next ih =>
        obtain ⟨answer, rest, rfl, htail⟩ | ⟨rfl, rfl⟩ := walk_call_iff.mp h
        · obtain ⟨a, first, rest, rfl, hop, hf⟩ | ⟨hop, rfl⟩ := ih answer htail
          · exact .inl ⟨a, _ :: first, rest, rfl, .call hop, hf⟩
          · exact .inr ⟨.call hop, rfl⟩
        -- Of the second part nothing is reached.
        · exact .inr ⟨.panic, rfl⟩
    | note event next ih =>
        obtain ⟨rest, rfl, htail⟩ := walk_note_iff.mp h
        obtain ⟨a, first, rest, rfl, hop, hf⟩ | ⟨hop, rfl⟩ := ih htail
        · exact .inl ⟨a, _ :: first, rest, rfl, .note hop, hf⟩
        · exact .inr ⟨.note hop, rfl⟩
  · intro h
    obtain ⟨a, first, rest, rfl, hop, hf⟩ | ⟨hop, rfl⟩ := h
    · exact hop.bind_returned hf
    · exact hop.bind_panicked

theorem walk_noteAll_iff {events : List Event} :
    Walk (noteAll events) steps outcome ↔
      steps = events.map .noted ∧ outcome = .returned () := by
  induction events generalizing steps with
  | nil => simp [noteAll]
  | cons event rest ih =>
      rw [noteAll, walk_note_iff]
      constructor
      · intro h
        obtain ⟨later, rfl, hlater⟩ := h
        obtain ⟨rfl, rfl⟩ := ih.mp hlater
        exact ⟨rfl, rfl⟩
      · intro h
        obtain ⟨rfl, rfl⟩ := h
        exact ⟨_, rfl, ih.mpr ⟨rfl, rfl⟩⟩

theorem walk_noteAll_bind_iff {events : List Event} {f : Unit → Operation α} :
    Walk (noteAll events >>= f) steps outcome ↔
      ∃ rest, steps = events.map .noted ++ rest ∧ Walk (f ()) rest outcome := by
  rw [walk_bind_iff]
  constructor
  · intro h
    obtain ⟨_, first, rest, rfl, hfirst, hrest⟩ | ⟨hpanic, -⟩ := h
    · obtain ⟨rfl, -⟩ := walk_noteAll_iff.mp hfirst
      exact ⟨rest, rfl, hrest⟩
    · obtain ⟨-, hend⟩ := walk_noteAll_iff.mp hpanic
      cases hend
  · intro h
    obtain ⟨rest, rfl, hrest⟩ := h
    exact .inl ⟨(), _, rest, rfl, walk_noteAll_iff.mpr ⟨rfl, rfl⟩, hrest⟩

def lookupSteps (key : Code) (found : Option KeyInfo) (fresh : Bool) : List Step :=
  .consulted key found fresh :: ((Cache.creation fresh).map .noted ++
    [.counted (Cache.lookupTally found), .noted (Cache.lookupEvent key found)])

def insertSteps (key : Code) (info : KeyInfo) (kept : Cache.Retention) (fresh : Bool) :
    List Step :=
  .retained key info kept fresh :: ((Cache.creation fresh).map .noted ++
    .counted (Cache.retentionTally kept) :: (Cache.conflict key info kept).map .noted)

theorem walk_lookup {key : Code} (h : Walk (lookup key) steps outcome) :
    ∃ found fresh, steps = lookupSteps key found fresh ∧ outcome = .returned found := by
  obtain ⟨found, fresh, _, rfl, hfound⟩ := walk_consult_iff.mp h
  obtain ⟨_, rfl, htally⟩ := walk_noteAll_bind_iff.mp hfound
  obtain ⟨_, rfl, hevent⟩ := walk_count_iff.mp htally
  obtain ⟨_, rfl, hdone⟩ := walk_note_iff.mp hevent
  obtain ⟨rfl, rfl⟩ := walk_done_iff.mp hdone
  exact ⟨found, fresh, rfl, rfl⟩

theorem walk_insert {key : Code} {info : KeyInfo} (h : Walk (insert key info) steps outcome) :
    ∃ kept fresh, steps = insertSteps key info kept fresh ∧ outcome = .returned kept.info := by
  obtain ⟨kept, fresh, _, rfl, hkept⟩ := walk_retain_iff.mp h
  obtain ⟨_, rfl, htally⟩ := walk_noteAll_bind_iff.mp hkept
  obtain ⟨_, rfl, hconflict⟩ := walk_count_iff.mp htally
  obtain ⟨_, rfl, hdone⟩ := walk_noteAll_bind_iff.mp hconflict
  obtain ⟨rfl, rfl⟩ := walk_done_iff.mp hdone
  exact ⟨kept, fresh, by simp [insertSteps], rfl⟩

theorem walk_lookup_bind {key : Code} {f : Option KeyInfo → Operation α}
    (h : Walk (lookup key >>= f) steps outcome) :
    ∃ found fresh rest, steps = lookupSteps key found fresh ++ rest ∧
      Walk (f found) rest outcome := by
  obtain ⟨found, first, rest, rfl, hfirst, hrest⟩ | ⟨hpanic, -⟩ := walk_bind_iff.mp h
  · obtain ⟨_, fresh, rfl, hend⟩ := walk_lookup hfirst
    cases hend
    exact ⟨found, fresh, rest, rfl, hrest⟩
  · obtain ⟨_, _, -, hend⟩ := walk_lookup hpanic
    cases hend

theorem walk_insert_bind {key : Code} {info : KeyInfo} {f : KeyInfo → Operation α}
    (h : Walk (insert key info >>= f) steps outcome) :
    ∃ kept fresh rest, steps = insertSteps key info kept fresh ++ rest ∧
      Walk (f kept.info) rest outcome := by
  obtain ⟨_, first, rest, rfl, hfirst, hrest⟩ | ⟨hpanic, -⟩ := walk_bind_iff.mp h
  · obtain ⟨kept, fresh, rfl, hend⟩ := walk_insert hfirst
    cases hend
    exact ⟨kept, fresh, rest, rfl, hrest⟩
  · obtain ⟨_, _, -, hend⟩ := walk_insert hpanic
    cases hend

theorem filterMap_noted {f : Step → Option β} (h : ∀ event, f (.noted event) = none)
    (events : List Event) : (events.map Step.noted).filterMap f = [] := by
  induction events with
  | nil => rfl
  | cons event rest ih => rw [List.map_cons, List.filterMap_cons_none (h event), ih]

def trace (site : Site σ) : Operation α → σ → List Step
  | .done _, _ => []
  | .consult key next, s =>
      let access := (site.cache s).consult key
      .consulted key access.result access.fresh ::
        (next access.result access.fresh).trace site (site.setCache access.cache s)
  | .retain key info next, s =>
      let access := (site.cache s).retain key info
      .retained key info access.result access.fresh ::
        (next access.result access.fresh).trace site (site.setCache access.cache s)
  | .count tally next, s =>
      .counted tally :: next.trace site (site.setCache ((site.cache s).count tally) s)
  | .call selector request next, s =>
      match site.call selector request s with
      | (.returned answer, s) =>
          .called selector request (.returned answer) :: (next answer).trace site s
      | (.panicked, _) => [.called selector request .panicked]
  | .note event next, s => .noted event :: next.trace site (site.note event s)

/-- Whatever the site does, its run of an operation is one of the walks. -/
theorem walk_trace (site : Site σ) (op : Operation α) (s : σ) :
    Walk op (op.trace site s) (op.run site s).1 := by
  induction op generalizing s with
  | done a => exact .done a
  | consult key next ih => exact .consult (ih _ _ _)
  | retain key info next ih => exact .retain (ih _ _ _)
  | count tally next ih => exact .count (ih _)
  | call selector request next ih =>
      rw [trace, run]
      obtain ⟨reply, s'⟩ := site.call selector request s
      cases reply with
      | returned answer => exact .call (ih answer s')
      | panicked => exact .panic
  | note event next ih => exact .note (ih _)

theorem trace_bind (site : Site σ) (op : Operation α) (f : α → Operation β) (s : σ) :
    (op >>= f).trace site s =
      op.trace site s ++
        match op.run site s with
        | (.returned a, s) => (f a).trace site s
        | (.panicked, _) => [] := by
  induction op generalizing s with
  | done a => rfl
  | consult key next ih =>
      exact congrArg (List.cons _) (ih _ _ _)
  | retain key info next ih =>
      exact congrArg (List.cons _) (ih _ _ _)
  | count tally next ih => exact congrArg (List.cons _) (ih _)
  | call selector request next ih =>
      simp only [call_bind, trace, run]
      obtain ⟨reply, s'⟩ := site.call selector request s
      cases reply with
      | returned answer => exact congrArg (List.cons _) (ih answer s')
      | panicked => rfl
  | note event next ih => exact congrArg (List.cons _) (ih _)

theorem trace_bind_pure (site : Site σ) (op : Operation α) (f : α → β) (s : σ) :
    (op >>= fun a => pure (f a)).trace site s = op.trace site s := by
  rw [trace_bind]
  obtain ⟨outcome, s'⟩ := op.run site s
  cases outcome with
  | returned a => exact List.append_nil _
  | panicked => exact List.append_nil _

theorem snd_run_bind_pure (site : Site σ) (op : Operation α) (f : α → β) (s : σ) :
    ((op >>= fun a => pure (f a)).run site s).2 = (op.run site s).2 := by
  rw [run_bind]
  obtain ⟨outcome, s'⟩ := op.run site s
  cases outcome with
  | returned a => rfl
  | panicked => rfl

end Operation

/-- A map of states under which every step does the same on two sites. -/
structure Site.Maps (f : σ → σ') (site : Site σ) (site' : Site σ') : Prop where
  cache : ∀ s, site'.cache (f s) = site.cache s
  setCache : ∀ c s, site'.setCache c (f s) = f (site.setCache c s)
  note : ∀ event s, site'.note event (f s) = f (site.note event s)
  call : ∀ selector request s,
    site'.call selector request (f s) = (site.call selector request s).map id f

namespace Site.Maps

variable {f : σ → σ'} {site : Site σ} {site' : Site σ'}

theorem run (h : site.Maps f site') (op : Operation α) (s : σ) :
    op.run site' (f s) = (op.run site s).map id f := by
  induction op generalizing s with
  | done a => rfl
  | consult key next ih => simp only [Operation.run_consult, h.cache, h.setCache, ih]
  | retain key info next ih => simp only [Operation.run_retain, h.cache, h.setCache, ih]
  | count tally next ih => simp only [Operation.run_count, h.cache, h.setCache, ih]
  | call selector request next ih =>
      simp only [Operation.run, h.call]
      obtain ⟨reply, t⟩ := site.call selector request s
      cases reply with
      | returned answer => exact ih answer t
      | panicked => rfl
  | note event next ih => simp only [Operation.run_note, h.note, ih]

theorem trace (h : site.Maps f site') (op : Operation α) (s : σ) :
    op.trace site' (f s) = op.trace site s := by
  induction op generalizing s with
  | done a => rfl
  | consult key next ih => simp only [Operation.trace, h.cache, h.setCache, ih]
  | retain key info next ih => simp only [Operation.trace, h.cache, h.setCache, ih]
  | count tally next ih => simp only [Operation.trace, h.cache, h.setCache, ih]
  | call selector request next ih =>
      simp only [Operation.trace, h.call]
      obtain ⟨reply, t⟩ := site.call selector request s
      cases reply with
      | returned answer => exact congrArg (List.cons _) (ih answer t)
      | panicked => rfl
  | note event next ih => simp only [Operation.trace, h.note, ih]

end Site.Maps

end SmcKeys
