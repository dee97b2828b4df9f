import Mathlib.Algebra.BigOperators.Group.Finset.Piecewise
import SmcKeys.Proofs.History
import SmcKeys.Proofs.Provenance

namespace SmcKeys

open Operation (Step Walk lookupSteps insertSteps calls)
open Client (Job KeyInfoWalk exchangeSteps infoRequest walk_keyInfo)

def Progress.isOver : Progress α → Bool
  | .active (.done _) => true
  | .active _ => false
  | .panicked => true

theorem Progress.walk_nil_of_isOver {progress : Progress α} (h : progress.isOver) :
    ∃ outcome, progress.Walk [] outcome := by
  cases progress with
  | panicked => exact ⟨.panicked, .panicked⟩
  | active rest =>
      cases rest with
      | done a => exact ⟨.returned a, .active (.done a)⟩
      | _ => cases h

def Call.inquires (call : Call) : Bool :=
  (Frame.inquiry? call.request).isSome

def Call.informs (call : Call) : Bool :=
  call.inquires && call.reply.info?.isSome

namespace Operation

def Step.tally? : Step → Option Cache.Tally
  | .counted tally => some tally
  | _ => none

def tallied (steps : List Step) : List Cache.Tally :=
  steps.filterMap Step.tally?

/-- A step that binds a key to the info that it offers. -/
def Step.binds : Step → Bool
  | .retained _ _ kept _ => kept.bound
  | _ => false

@[simp] theorem tallied_nil : tallied [] = [] := rfl

@[simp] theorem tallied_append (first rest : List Step) :
    tallied (first ++ rest) = tallied first ++ tallied rest :=
  List.filterMap_append

@[simp] theorem tallied_noted (events : List Log.Event) : tallied (events.map .noted) = [] :=
  filterMap_noted (fun _ => rfl) events

@[simp] theorem tallied_lookup (key : Code) (found : Option KeyInfo) (fresh : Bool) :
    tallied (lookupSteps key found fresh) = [Cache.lookupTally found] := by
  change tallied (List.map _ _ ++ _) = _
  rw [tallied_append, tallied_noted]
  rfl

@[simp] theorem tallied_insert (key : Code) (offered : KeyInfo) (kept : Cache.Retention)
    (fresh : Bool) :
    tallied (insertSteps key offered kept fresh) = [Cache.retentionTally kept] := by
  change tallied (List.map _ _ ++ _) = _
  rw [tallied_append, tallied_noted]
  change Cache.retentionTally kept :: tallied (List.map _ _) = _
  rw [tallied_noted]

/-- Each call that asks for an info is a miss, each info that arrives is inserted or discarded. -/
structure Balanced (steps : List Step) : Prop where
  miss : (tallied steps).count .miss = (calls steps).countP Call.inquires
  settled : (tallied steps).count .insert + (tallied steps).count .discard =
    (calls steps).countP Call.informs
  hit : (tallied steps).count .hit = if (calls steps).isEmpty then 1 else 0

end Operation

open Operation (tallied Balanced)

namespace Client

@[simp] theorem tallied_exchange (config : Config) (request : Packet) (reply : Outcome Answer) :
    tallied (exchangeSteps config request reply) = [] := by
  change tallied (List.map _ _) = _
  rw [Operation.tallied_noted]

theorem inquires_infoRequest (selector : UInt32) (key : Code) (reply : Outcome Answer) :
    Call.inquires ⟨selector, (infoRequest key).encode, reply⟩ = true := by
  rw [Call.inquires, inquiry?_infoRequest]
  rfl

theorem informs_infoRequest (selector : UInt32) (key : Code) (reply : Outcome Answer) :
    Call.informs ⟨selector, (infoRequest key).encode, reply⟩ = reply.info?.isSome := by
  rw [Call.informs, inquires_infoRequest, Bool.true_and]

theorem KeyInfoWalk.balanced {config : Config} {key : Code}
    (h : KeyInfoWalk config key steps outcome) (hcaching : config.caching = true) :
    Balanced steps := by
  cases h with
  | hit info fresh =>
      constructor <;> simp [Cache.lookupTally]
  | failed fresh answer failure hcaching hdeclared =>
      have hinfo : Outcome.info? (.returned answer) = none := info?_of_declared hdeclared
      constructor <;> simp [Cache.lookupTally, inquires_infoRequest, informs_infoRequest, hinfo]
  | broken fresh hcaching =>
      constructor <;>
        simp [Cache.lookupTally, inquires_infoRequest, informs_infoRequest, Outcome.info?]
  | settled fresh answer offered kept refreshed hcaching hdeclared =>
      have hinfo : Outcome.info? (.returned answer) = some offered := info?_of_declared hdeclared
      constructor <;> cases hbound : kept.bound <;>
        simp [Cache.lookupTally, Cache.retentionTally, inquires_infoRequest, informs_infoRequest,
          hinfo, hbound]
  | asked reply huncached =>
      rw [hcaching] at huncached
      cases huncached

theorem balanced_operation {job : Job} (hcaching : job.config.caching = true) {key : Code}
    (hrequest : job.request = .keyInfo key) (h : Walk job.operation steps outcome) :
    Balanced steps := by
  rw [Job.operation, hrequest] at h
  obtain ⟨result, first, rest, rfl, hfirst, hrest⟩ | ⟨hpanic, -⟩ := Operation.walk_bind_iff.mp h
  · obtain ⟨rfl, -⟩ := Operation.walk_done_iff.mp hrest
    rw [List.append_nil]
    exact (walk_keyInfo hfirst).balanced hcaching
  · exact (walk_keyInfo hpanic).balanced hcaching

end Client

namespace Cache.Acts

theorem counter_eq (h : Acts c step c') (tally : Tally) :
    c'.counter tally = c.counter tally + UInt64.ofNat ((tallied [step]).count tally) := by
  cases h with
  | consult key =>
      change c.create.counter tally = _
      rw [counter_create]
      exact (UInt64.add_zero _).symm
  | retain key info =>
      rw [counter_retain]
      exact (UInt64.add_zero _).symm
  | count counted => exact counter_count c counted tally
  | call selector request reply => exact (UInt64.add_zero _).symm
  | note event => exact (UInt64.add_zero _).symm

theorem size_eq (h : Acts c step c') : c'.size = c.size + [step].countP Step.binds := by
  cases h with
  | consult key => rfl
  | retain key info =>
      rw [size_retain, result_retain]
      cases c.find? key <;> rfl
  | count tally => exact size_count tally c
  | call selector request reply => rfl
  | note event => rfl

end Cache.Acts

theorem countP_filterMap_eq_sum {select : Step → Option β} {p : β → Bool} {n : Nat}
    {past : List Occurrence} (hpast : ∀ o ∈ past, o.thread < n) :
    ((past.map Occurrence.step).filterMap select).countP p =
      ∑ i ∈ Finset.range n, ((stepsOf i past).filterMap select).countP p := by
  induction past with
  | nil => simp
  | cons o past ih =>
      obtain ⟨i, step⟩ := o
      have hi : i ∈ Finset.range n := Finset.mem_range.mpr (hpast _ List.mem_cons_self)
      have hlater := ih fun later hmem => hpast later (List.mem_cons_of_mem _ hmem)
      have hsplit (j : Nat) : stepsOf j (⟨i, step⟩ :: past) =
          stepsOf j [⟨i, step⟩] ++ stepsOf j past := stepsOf_append j [_] past
      simp only [hsplit, List.filterMap_append, List.countP_append, Finset.sum_add_distrib]
      rw [← hlater, Finset.sum_eq_single i]
      · rw [stepsOf_own, ← List.countP_append, ← List.filterMap_append]
        rfl
      · intro j _ hj
        rw [stepsOf_other (Ne.symm hj)]
        rfl
      · exact fun hnot => absurd hi hnot

namespace Crew

theorem Advances.counter_eq {crew crew' : Crew} {move : Move} {now : List Occurrence}
    (h : crew.Advances move now crew') (tally : Cache.Tally) :
    crew'.cache.counter tally = crew.cache.counter tally +
      UInt64.ofNat ((tallied (now.map Occurrence.step)).count tally) := by
  cases h with
  | start job => exact (UInt64.add_zero _).symm
  | act hthread hfirst => exact (Operation.acts_of_first hfirst).counter_eq tally
  | pass i reply => exact (UInt64.add_zero _).symm
  | reset => exact (congrFun (Cache.counter_drop _) tally).trans (UInt64.add_zero _).symm

theorem Advances.size_eq {crew crew' : Crew} {move : Move} {now : List Occurrence}
    (h : crew.Advances move now crew') (hquiet : move ≠ .reset) :
    crew'.cache.size = crew.cache.size + (now.map Occurrence.step).countP Step.binds := by
  cases h with
  | start job => rfl
  | act hthread hfirst => exact (Operation.acts_of_first hfirst).size_eq
  | pass i reply => rfl
  | reset => exact absurd rfl hquiet

/-- Resets leave the counters alone, so they tell of all that was ever counted. -/
theorem counter_run (moves : List Move) (crew : Crew) (tally : Cache.Tally) :
    (crew.run moves).cache.counter tally = crew.cache.counter tally +
      UInt64.ofNat ((tallied ((crew.trace moves).map Occurrence.step)).count tally) := by
  induction moves generalizing crew with
  | nil => exact (UInt64.add_zero _).symm
  | cons move moves ih =>
      rw [run_cons, trace_cons, ih, (crew.advances_advance move).counter_eq, List.map_append,
        Operation.tallied_append, List.count_append, UInt64.ofNat_add, UInt64.add_assoc]

theorem size_run {moves : List Move} (hquiet : .reset ∉ moves) (crew : Crew) :
    (crew.run moves).cache.size =
      crew.cache.size + ((crew.trace moves).map Occurrence.step).countP Step.binds := by
  induction moves generalizing crew with
  | nil => rfl
  | cons move moves ih =>
      rw [List.mem_cons, not_or] at hquiet
      rw [run_cons, trace_cons, ih hquiet.2,
        (crew.advances_advance move).size_eq (Ne.symm hquiet.1), List.map_append,
        List.countP_append, Nat.add_assoc]

theorem Accounts.lt_length {past : List Occurrence} {crew : Crew} (h : Accounts past crew)
    {o : Occurrence} (ho : o ∈ past) : o.thread < crew.threads.length := by
  by_contra hge
  have hmem : o.step ∈ stepsOf o.thread past :=
    List.mem_map_of_mem (List.mem_filter.mpr ⟨ho, by simp⟩)
  rw [h.unborn _ (Nat.le_of_not_lt hge)] at hmem
  cases hmem

theorem Accounts.walk_of_isOver {past : List Occurrence} {crew : Crew} (h : Accounts past crew)
    {i : Nat} {thread : Thread} (hthread : crew.threads[i]? = some thread)
    (hover : thread.progress.isOver) :
    ∃ outcome, Walk thread.job.operation (stepsOf i past) outcome := by
  obtain ⟨outcome, hend⟩ := Progress.walk_nil_of_isOver hover
  have hwalk := h.walks i thread hthread [] outcome hend
  rw [List.append_nil] at hwalk
  exact ⟨outcome, hwalk⟩

theorem Accounts.balanced {past : List Occurrence} {moves : List Move}
    (h : Accounts past ((idle {}).run moves))
    (hjobs : ∀ job, .start job ∈ moves →
      job.config.caching = true ∧ ∃ key, job.request = .keyInfo key)
    (hover : ∀ thread ∈ ((idle {}).run moves).threads, thread.progress.isOver) {i : Nat}
    (hi : i < ((idle {}).run moves).threads.length) : Balanced (stepsOf i past) := by
  have hthread := List.getElem?_eq_getElem hi
  obtain ⟨hcaching, key, hrequest⟩ := hjobs _ (start_mem_of_idle hthread)
  obtain ⟨outcome, hwalk⟩ := h.walk_of_isOver hthread (hover _ (List.getElem_mem hi))
  exact Client.balanced_operation hcaching hrequest hwalk

theorem exists_last_period (moves : List Move) :
    ∃ before period, moves = before ++ period ∧
      (before = [] ∨ ∃ earlier, before = earlier ++ [.reset]) ∧ .reset ∉ period := by
  induction moves using List.reverseRecOn with
  | nil => exact ⟨[], [], rfl, .inl rfl, List.not_mem_nil⟩
  | append_singleton moves move ih =>
      by_cases hreset : move = .reset
      · subst hreset
        exact ⟨moves ++ [.reset], [], (List.append_nil _).symm, .inr ⟨moves, rfl⟩,
          List.not_mem_nil⟩
      · obtain ⟨before, period, rfl, hbefore, hquiet⟩ := ih
        refine ⟨before, period ++ [move], List.append_assoc _ _ _, hbefore, ?_⟩
        simpa [hquiet] using Ne.symm hreset

theorem size_run_idle {before : List Move}
    (h : before = [] ∨ ∃ earlier, before = earlier ++ [.reset]) :
    ((idle {}).run before).cache.size = 0 := by
  obtain rfl | ⟨earlier, rfl⟩ := h
  · rfl
  · rw [run_append]
    rfl

/-- Each call is a miss, each info that arrives is inserted or discarded, and a question without a
call is a hit. -/
theorem counters_account_for_questions {moves : List Move}
    (hjobs : ∀ job, .start job ∈ moves →
      job.config.caching = true ∧ ∃ key, job.request = .keyInfo key)
    (hover : ∀ thread ∈ ((idle {}).run moves).threads, thread.progress.isOver) :
    let crew := (idle {}).run moves
    let past := (idle {}).trace moves
    let told := (sentIn past).countP Call.informs
    crew.cache.misses = UInt64.ofNat ((sentIn past).countP Call.inquires) ∧
      crew.cache.inserts + crew.cache.discarded = UInt64.ofNat told ∧
      crew.cache.hits = UInt64.ofNat ((Finset.range crew.threads.length).filter
        fun i => (calls (stepsOf i past)).isEmpty).card ∧
      crew.cache.discarded = UInt64.ofNat told - crew.cache.inserts ∧
      ∃ before period, moves = before ++ period ∧
        (before = [] ∨ ∃ earlier, before = earlier ++ [.reset]) ∧ .reset ∉ period ∧
        crew.cache.size =
          ((((idle {}).run before).trace period).map Occurrence.step).countP Step.binds := by
  intro crew past told
  have hpast : Accounts past crew := accounts_trace {} moves
  have hthreads : ∀ o ∈ past, o.thread < crew.threads.length := fun o ho => hpast.lt_length ho
  have hbalanced : ∀ i ∈ Finset.range crew.threads.length, Balanced (stepsOf i past) :=
    fun i hi => hpast.balanced hjobs hover (Finset.mem_range.mp hi)
  -- Every counter is a sum over the requests, and for each of them its steps balance.
  have hcounted (tally : Cache.Tally) : crew.cache.counter tally =
      UInt64.ofNat (∑ i ∈ Finset.range crew.threads.length,
        (tallied (stepsOf i past)).count tally) := by
    have hrun := counter_run moves (idle {}) tally
    have hfresh : (idle {}).cache.counter tally = 0 := by cases tally <;> rfl
    rw [hfresh, UInt64.zero_add, List.count, tallied, countP_filterMap_eq_sum hthreads] at hrun
    exact hrun
  have hsent (p : Call → Bool) : (sentIn past).countP p =
      ∑ i ∈ Finset.range crew.threads.length, (calls (stepsOf i past)).countP p :=
    countP_filterMap_eq_sum hthreads
  have hmiss : crew.cache.misses = UInt64.ofNat ((sentIn past).countP Call.inquires) := by
    rw [hsent]
    exact (hcounted .miss).trans
      (congrArg _ (Finset.sum_congr rfl fun i hi => (hbalanced i hi).miss))
  have hsettled : crew.cache.inserts + crew.cache.discarded = UInt64.ofNat told := by
    have hinserts : crew.cache.inserts = _ := hcounted .insert
    have hdiscarded : crew.cache.discarded = _ := hcounted .discard
    rw [hinserts, hdiscarded, ← UInt64.ofNat_add, ← Finset.sum_add_distrib]
    simp only [told, hsent]
    exact congrArg _ (Finset.sum_congr rfl fun i hi => (hbalanced i hi).settled)
  have hhit : crew.cache.hits = UInt64.ofNat ((Finset.range crew.threads.length).filter
      fun i => (calls (stepsOf i past)).isEmpty).card := by
    rw [Finset.card_filter]
    exact (hcounted .hit).trans
      (congrArg _ (Finset.sum_congr rfl fun i hi => (hbalanced i hi).hit))
  refine ⟨hmiss, hsettled, hhit, ?_, ?_⟩
  · rw [← hsettled, UInt64.add_comm, UInt64.add_sub_cancel]
  · obtain ⟨before, period, hmoves, hbefore, hquiet⟩ := exists_last_period moves
    refine ⟨before, period, hmoves, hbefore, hquiet, ?_⟩
    -- Before the last period there is nothing in the map: it has just begun, or was reset.
    have hsize := size_run hquiet ((idle {}).run before)
    rw [size_run_idle hbefore, Nat.zero_add, ← run_append, ← hmoves] at hsize
    exact hsize

/-- Two questions that race, one that finds the key, and after a reset one whose call panics. -/
def questionsAroundReset (key : Code) (first last : KeyInfo) : List Move :=
  racingQuestions key first last ++
    .start ⟨{}, .keyInfo key⟩ :: List.replicate 3 (.step 2 .panicked) ++
    .reset :: .start ⟨{}, .keyInfo key⟩ :: List.replicate 6 (.step 3 .panicked)

theorem questions_around_reset_accounted :
    let moves := questionsAroundReset ⟨0x54433050⟩ { size := 2 } { size := 4 }
    let crew := (idle {}).run moves
    let past := (idle {}).trace moves
    (∀ job, .start job ∈ moves → job.config.caching = true ∧ ∃ key, job.request = .keyInfo key) ∧
      (∀ thread ∈ crew.threads, thread.progress.isOver) ∧
      (sentIn past).countP Call.inquires = 3 ∧ (sentIn past).countP Call.informs = 2 ∧
      crew.cache.misses = UInt64.ofNat 3 ∧ crew.cache.discarded = UInt64.ofNat 2 - 1 ∧
      crew.cache.hits = 1 := by
  intro moves crew past
  have hjobs : ∀ job, .start job ∈ moves →
      job.config.caching = true ∧ ∃ key, job.request = .keyInfo key := by
    simp [moves, questionsAroundReset, racingQuestions]
  have hover : ∀ thread ∈ crew.threads, thread.progress.isOver := by decide +kernel
  have hasked : (sentIn past).countP Call.inquires = 3 := by decide +kernel
  have htold : (sentIn past).countP Call.informs = 2 := by decide +kernel
  have hcrew : (idle {}).run moves = crew := rfl
  have hkept : crew.cache.inserts = 1 := by decide +kernel
  have hsilent : ((Finset.range crew.threads.length).filter
      fun i => (calls (stepsOf i past)).isEmpty).card = 1 := by decide +kernel
  obtain ⟨hmiss, -, hhit, hdiscarded, -⟩ := counters_account_for_questions hjobs hover
  rw [hasked, hcrew] at hmiss
  rw [htold, hcrew, hkept] at hdiscarded
  rw [hcrew, hsilent] at hhit
  exact ⟨hjobs, hover, hasked, htold, hmiss, hdiscarded, hhit⟩

end Crew

end SmcKeys
