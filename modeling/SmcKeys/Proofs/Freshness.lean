import SmcKeys.Proofs.Binding

namespace SmcKeys

open Operation (notices)
open Client (Job Enquiry enquiry_of_info)

theorem prefix_of_three {a b c : Notice} {told : List Notice} (h : told <+: [a, b, c]) :
    told = [] ∨ told = [a] ∨ told = [a, b] ∨ told = [a, b, c] := by
  simp only [List.prefix_cons_iff, List.prefix_nil] at h
  rcases h with rfl | ⟨_, rfl, rfl | ⟨_, rfl, rfl | ⟨_, rfl, rfl⟩⟩⟩
  · exact .inl rfl
  · exact .inr (.inl rfl)
  · exact .inr (.inr (.inl rfl))
  · exact .inr (.inr (.inr rfl))

theorem Cache.Acts.insertion_of_find? (h : Acts c step c') {key : Code} {info : KeyInfo}
    (hbound : c'.find? key = some info) :
    c.find? key = some info ∨ step.notice? = some (.insertion key info info) := by
  have hsame := hbound
  rw [h.find?_eq key, Option.or_eq_some_iff] at hsame
  rcases hsame with hold | ⟨-, hoffer⟩
  · exact .inl hold
  · right
    obtain ⟨notice, hnotice, hoffered⟩ := Option.bind_eq_some_iff.mp hoffer
    cases notice with
    | insertion k offered kept =>
        simp only [Notice.offer?, Option.ite_none_right_eq_some, Option.some.injEq] at hoffered
        obtain ⟨rfl, rfl⟩ := hoffered
        have hkept := h.find?_of_decision hnotice rfl
        rw [hbound, Option.some.injEq] at hkept
        rw [hnotice, ← hkept]
    | hit k found => cases hoffered
    | miss k => cases hoffered
    | answer k declared => cases hoffered

namespace Client.Enquiry

theorem decision_of_caching {config : Config} {key : Code} {info : KeyInfo}
    (h : Enquiry config key told (some info)) (hcaching : config.caching = true) :
    ∃ notice ∈ told, notice.decision? = some (key, info) := by
  cases h with
  | hit found => exact ⟨_, List.mem_singleton.mpr rfl, rfl⟩
  | settled offered kept => exact ⟨.insertion key offered info, by simp, rfl⟩
  | asked declared huncached =>
      rw [hcaching] at huncached
      cases huncached

theorem answer_of_uncached {config : Config} {key : Code} {info : KeyInfo}
    (h : Enquiry config key told (some info)) (huncached : config.caching = false) :
    .answer key (some info) ∈ told := by
  cases h with
  | asked declared => exact List.mem_singleton.mpr rfl
  | hit found hcaching =>
      rw [huncached] at hcaching
      cases hcaching
  | settled offered kept hcaching =>
      rw [huncached] at hcaching
      cases hcaching

end Client.Enquiry

namespace Crew

theorem Advances.insertion_of_find? {crew crew' : Crew} {move : Move} {now : List Occurrence}
    (h : crew.Advances move now crew') {key : Code} {info : KeyInfo}
    (hbound : crew'.cache.find? key = some info) :
    crew.cache.find? key = some info ∨ .insertion key info info ∈ noticed now := by
  cases h with
  | start job => exact .inl hbound
  | pass i reply => exact .inl hbound
  | reset => cases hbound
  | act hthread hfirst =>
      rcases (Operation.acts_of_first hfirst).insertion_of_find? hbound with hold | hnotice
      · exact .inl hold
      · right
        rw [mem_noticed_iff]
        exact ⟨_, mem_heard_iff.mpr ⟨_, List.mem_singleton.mpr rfl, hnotice⟩⟩

theorem insertion_of_find?_run {moves : List Move} {crew : Crew} {key : Code} {info : KeyInfo}
    (hbound : (crew.run moves).cache.find? key = some info) :
    crew.cache.find? key = some info ∨
      .insertion key info info ∈ noticed (crew.trace moves) := by
  induction moves generalizing crew with
  | nil => exact .inl hbound
  | cons move moves ih =>
      rw [trace_cons, noticed_append, List.mem_append]
      rcases ih hbound with hnext | hlater
      · rcases (crew.advances_advance move).insertion_of_find? hnext with hold | hnow
        · exact .inl hold
        · exact .inr (.inl hnow)
      · exact .inr (.inr hlater)

theorem held_or_inserted_of_decision {moves : List Move} {crew : Crew} {key : Code}
    {info : KeyInfo} {i : Nat} (h : notice ∈ heard i (crew.trace moves))
    (hdecision : notice.decision? = some (key, info)) :
    crew.cache.find? key = some info ∨
      .insertion key info info ∈ noticed (crew.trace moves) := by
  obtain ⟨step, hmem, hnotice⟩ := mem_heard_iff.mp h
  obtain ⟨first, move, rest, rfl, hnow⟩ := exists_move_of_mem_trace hmem
  have hbound : (crew.run (first ++ [move])).cache.find? key = some info := by
    rw [run_append]
    exact find?_advance_of_decision hnow hnotice hdecision
  rcases insertion_of_find?_run hbound with hold | hinsertion
  · exact .inl hold
  · right
    rw [List.append_cons, trace_append, noticed_append]
    exact List.mem_append_left _ hinsertion

theorem insertion_of_decision {moves : List Move} {crew : Crew} {key : Code} {info : KeyInfo}
    {i : Nat} (hunbound : crew.cache.find? key = none)
    (h : notice ∈ heard i (crew.trace moves)) (hdecision : notice.decision? = some (key, info)) :
    .insertion key info info ∈ noticed (crew.trace moves) := by
  rcases held_or_inserted_of_decision h hdecision with hold | hinsertion
  · rw [hunbound] at hold
    cases hold
  · exact hinsertion

theorem Accounts.heard_of_insertion {past : List Occurrence} {crew : Crew}
    (hpast : Accounts past crew) {j : Nat} {key : Code} {offered kept : KeyInfo}
    (h : .insertion key offered kept ∈ heard j past) :
    heard j past =
      [.miss key, .answer key (some offered), .insertion key offered kept] := by
  have hsteps : stepsOf j past ≠ [] := by
    intro hnone
    rw [heard, hnone] at h
    cases h
  obtain ⟨thread, rest, outcome, -, hwalk⟩ := hpast.exists_walk hsteps
  have hmem : .insertion key offered kept ∈ notices (stepsOf j past ++ rest) := by
    rw [Operation.notices_append]
    exact List.mem_append_left _ h
  cases hsubject : thread.job.request.subject? with
  | none =>
      rw [Job.silent_operation hsubject _ _ hwalk] at hmem
      cases hmem
  | some subject =>
      obtain ⟨found, henquiry⟩ := Job.enquires_operation hsubject _ _ hwalk
      generalize htold : notices (stepsOf j past ++ rest) = told at hmem henquiry
      cases henquiry with
      | hit info hcaching => simp at hmem
      | failed hcaching => simp at hmem
      | asked declared hcaching => simp at hmem
      | settled offered' kept' hcaching =>
          simp only [List.mem_cons, reduceCtorEq, Notice.insertion.injEq, List.not_mem_nil,
            or_false, false_or] at hmem
          obtain ⟨rfl, rfl, rfl⟩ := hmem
          rw [Operation.notices_append] at htold
          rcases prefix_of_three ⟨notices rest, htold⟩ with hnone | hone | htwo | hall
          · simp [heard, hnone] at h
          · simp [heard, hone] at h
          · simp [heard, htwo] at h
          · exact hall

/-- The answer behind an insertion came after a certain point, or before it and was all that
its request had got to know by then. -/
theorem Accounts.answer_of_insertion {past since : List Occurrence} {crew : Crew} {j : Nat}
    {key : Code} {info : KeyInfo} (h : Accounts (past ++ since) crew)
    (hinsertion : .insertion key info info ∈ heard j since) :
    .answer key (some info) ∈ heard j since ∨
      heard j past = [.miss key, .answer key (some info)] := by
  have hwhole : .insertion key info info ∈ heard j (past ++ since) := by
    rw [heard_append]
    exact List.mem_append_right _ hinsertion
  have hstory := h.heard_of_insertion hwhole
  rw [heard_append] at hstory
  -- A request with an insertion has a miss, an answer and the insertion, cut in two here.
  rcases prefix_of_three ⟨_, hstory⟩ with hnone | hone | htwo | hall
  · left
    rw [hnone, List.nil_append] at hstory
    simp [hstory]
  · left
    rw [hone, List.singleton_append, List.cons.injEq] at hstory
    simp [hstory.2]
  · exact .inr htwo
  · have hend : heard j since = [] := by simpa [hall] using hstory
    rw [hend] at hinsertion
    cases hinsertion

/-- An info that is told after a reset was declared after it, or to a request that had yet to insert
it when the cache was reset. -/
theorem info_declared_since_or_in_flight (cache : Cache) (before after : List Move) (i : Nat)
    (config : Config) (key : Code) (info : KeyInfo)
    (hnew : ((idle cache).run before).threads.length ≤ i)
    (hreturned : ((idle cache).run (before ++ .reset :: after)).Returned i
      ⟨config, .keyInfo key⟩ (.info (.ok info))) :
    let past := (idle cache).trace before
    let since := ((idle cache).run before).trace (.reset :: after)
    .answer key (some info) ∈ noticed since ∨
      ∃ j, heard j past = [.miss key, .answer key (some info)] ∧
        .insertion key info info ∈ heard j since := by
  intro past since
  have haccounts : Accounts (past ++ since) ((idle cache).run (before ++ .reset :: after)) := by
    have h := accounts_trace cache (before ++ .reset :: after)
    rw [trace_append] at h
    exact h
  have hown : heard i (past ++ since) = heard i since := by
    rw [heard_append, heard, (accounts_trace cache before).unborn i hnew]
    rfl
  have henquiry := enquiry_of_info (hreturned.walk haccounts)
  change Enquiry config key (heard i (past ++ since)) (some info) at henquiry
  rw [hown] at henquiry
  cases hcaching : config.caching with
  | false =>
      left
      rw [mem_noticed_iff]
      exact ⟨i, henquiry.answer_of_uncached hcaching⟩
  | true =>
      obtain ⟨notice, hmem, hdecision⟩ := henquiry.decision_of_caching hcaching
      let fresh : Crew :=
        { (idle cache).run before with cache := ((idle cache).run before).cache.drop }
      have hunbound : fresh.cache.find? key = none := Cache.find?_drop key _
      have hinsertion : .insertion key info info ∈ noticed since := by
        change _ ∈ noticed (fresh.trace after)
        exact insertion_of_decision hunbound hmem hdecision
      obtain ⟨j, hj⟩ := mem_noticed_iff.mp hinsertion
      rcases haccounts.answer_of_insertion hj with hanswer | hpast
      · exact .inl (mem_noticed_iff.mpr ⟨j, hanswer⟩)
      · exact .inr ⟨j, hpast, hj⟩

/-- A question that misses its key and is answered, but has yet to insert the answer. -/
def questionInFlight (key : Code) (info : KeyInfo) : List Move :=
  .start ⟨{}, .keyInfo key⟩ :: List.replicate 6 (.step 0 (.declaring info))

/-- That question inserts its answer, and a new question about the key hits it. -/
def answerCarriedOver (key : Code) : List Move :=
  List.replicate 3 (.step 0 .panicked) ++
    .start ⟨{}, .keyInfo key⟩ :: List.replicate 3 (.step 1 .panicked)

theorem info_carried_over_reset :
    ((idle {}).run (questionInFlight ⟨7⟩ { size := 2 })).threads.length ≤ 1 ∧
      ((idle {}).run (questionInFlight ⟨7⟩ { size := 2 } ++
        .reset :: answerCarriedOver ⟨7⟩)).Returned 1 ⟨{}, .keyInfo ⟨7⟩⟩
        (.info (.ok { size := 2 })) ∧
      (.answer ⟨7⟩ (some { size := 2 }) ∈
          noticed (((idle {}).run (questionInFlight ⟨7⟩ { size := 2 })).trace
            (.reset :: answerCarriedOver ⟨7⟩)) ∨
        ∃ j, heard j ((idle {}).trace (questionInFlight ⟨7⟩ { size := 2 })) =
            [.miss ⟨7⟩, .answer ⟨7⟩ (some { size := 2 })] ∧
          .insertion ⟨7⟩ { size := 2 } { size := 2 } ∈
            heard j (((idle {}).run (questionInFlight ⟨7⟩ { size := 2 })).trace
              (.reset :: answerCarriedOver ⟨7⟩))) := by
  have hnew : ((idle {}).run (questionInFlight ⟨7⟩ { size := 2 })).threads.length ≤ 1 := by
    decide
  have hreturned : ((idle {}).run (questionInFlight ⟨7⟩ { size := 2 } ++
      .reset :: answerCarriedOver ⟨7⟩)).Returned 1 ⟨{}, .keyInfo ⟨7⟩⟩
      (.info (.ok { size := 2 })) := rfl
  exact ⟨hnew, hreturned, info_declared_since_or_in_flight {} _ _ 1 {} ⟨7⟩ { size := 2 } hnew
    hreturned⟩

/-- An info may be told after a reset although the controller has declared nothing since. -/
theorem not_every_info_declared_since_reset :
    ¬ ∀ (before after : List Move) (i : Nat) (config : Config) (key : Code) (info : KeyInfo),
      (∀ job, .start job ∈ before ++ .reset :: after →
        job.config.caching = true ∧ ∃ k, job.request = .keyInfo k) →
      ((idle {}).run before).threads.length ≤ i →
      ((idle {}).run (before ++ .reset :: after)).Returned i ⟨config, .keyInfo key⟩
        (.info (.ok info)) →
      .answer key (some info) ∈ noticed (((idle {}).run before).trace (.reset :: after)) := by
  intro hclaim
  have hdeclared := hclaim (questionInFlight ⟨0x54433050⟩ { size := 2 })
    (answerCarriedOver ⟨0x54433050⟩) 1 {} ⟨0x54433050⟩ { size := 2 }
    (by
      intro job hjob
      obtain rfl : job = ⟨{}, .keyInfo ⟨0x54433050⟩⟩ := by
        simpa [questionInFlight, answerCarriedOver] using hjob
      exact ⟨rfl, _, rfl⟩)
    (by decide) rfl
  revert hdeclared
  decide

end Crew

end SmcKeys
