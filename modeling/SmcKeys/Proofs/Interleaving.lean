import SmcKeys.Proofs.Calls
import SmcKeys.Proofs.Request

/-!
The schedule says which reply a call gets, so whatever a controller may do, some schedule has it.
-/

namespace SmcKeys

open Operation (Step Walk notices calls)
open Client (Job Response)

inductive Progress (α : Type) where
  | active (rest : Operation α)
  | panicked

inductive Progress.Walk : Progress α → List Step → Outcome α → Prop where
  | active {rest : Operation α} (h : Operation.Walk rest steps outcome) :
      Walk (.active rest) steps outcome
  | panicked : Walk .panicked [] .panicked

def Progress.ended : Outcome α → Progress α
  | .returned a => .active (.done a)
  | .panicked => .panicked

theorem Progress.exists_walk (progress : Progress α) :
    ∃ steps outcome, progress.Walk steps outcome := by
  cases progress with
  | active rest =>
      obtain ⟨steps, outcome, h⟩ := Operation.exists_walk rest
      exact ⟨steps, outcome, .active h⟩
  | panicked => exact ⟨[], .panicked, .panicked⟩

def Operation.first (reply : Outcome Answer) (c : Cache) :
    Operation α → Option (Step × Progress α × Cache)
  | .done _ => none
  | .consult key next =>
      let access := c.consult key
      some (.consulted key access.result access.fresh,
        .active (next access.result access.fresh), access.cache)
  | .retain key info next =>
      let access := c.retain key info
      some (.retained key info access.result access.fresh,
        .active (next access.result access.fresh), access.cache)
  | .count tally next => some (.counted tally, .active next, c.count tally)
  | .call selector request next =>
      match reply with
      | .returned answer => some (.called selector request reply, .active (next answer), c)
      | .panicked => some (.called selector request reply, .panicked, c)
  | .note event next => some (.noted event, .active next, c)

inductive Cache.Acts : Cache → Step → Cache → Prop where
  | consult (c : Cache) (key : Code) :
      Acts c (.consulted key (c.consult key).result (c.consult key).fresh) (c.consult key).cache
  | retain (c : Cache) (key : Code) (info : KeyInfo) :
      Acts c (.retained key info (c.retain key info).result (c.retain key info).fresh)
        (c.retain key info).cache
  | count (c : Cache) (tally : Cache.Tally) : Acts c (.counted tally) (c.count tally)
  | call (c : Cache) (selector : UInt32) (request : Frame) (reply : Outcome Answer) :
      Acts c (.called selector request reply) c
  | note (c : Cache) (event : Log.Event) : Acts c (.noted event) c

namespace Operation

theorem acts_of_first {op : Operation α} (h : op.first reply c = some (step, progress, c')) :
    c.Acts step c' := by
  cases op with
  | done a => cases h
  | consult key next =>
      cases h
      exact .consult c key
  | retain key info next =>
      cases h
      exact .retain c key info
  | count tally next =>
      cases h
      exact .count c tally
  | call selector request next =>
      cases reply with
      | returned answer =>
          cases h
          exact .call c selector request _
      | panicked =>
          cases h
          exact .call c selector request _
  | note event next =>
      cases h
      exact .note c event

theorem walk_of_first {op : Operation α} (h : op.first reply c = some (step, progress, c'))
    (hrest : progress.Walk steps outcome) : Walk op (step :: steps) outcome := by
  cases op with
  | done a => cases h
  | consult key next =>
      cases h
      cases hrest with
      | active hnext => exact .consult hnext
  | retain key info next =>
      cases h
      cases hrest with
      | active hnext => exact .retain hnext
  | count tally next =>
      cases h
      cases hrest with
      | active hnext => exact .count hnext
  | call selector request next =>
      cases reply with
      | returned answer =>
          cases h
          cases hrest with
          | active hnext => exact .call hnext
      | panicked =>
          cases h
          cases hrest
          exact .panic
  | note event next =>
      cases h
      cases hrest with
      | active hnext => exact .note hnext

end Operation

structure Thread where
  job : Job
  progress : Progress Response

structure Crew where
  cache : Cache
  threads : List Thread

inductive Move where
  | start (job : Job)
  | step (thread : Nat) (reply : Outcome Answer)
  | reset

structure Occurrence where
  thread : Nat
  step : Step

namespace Crew

def idle (cache : Cache) : Crew :=
  ⟨cache, []⟩

/-- What a move makes happen, and what comes of it. The step of a request that is at its end, or
that never started, is no step. -/
def advance (crew : Crew) : Move → List Occurrence × Crew
  | .start job =>
      ([], { crew with threads := crew.threads ++ [⟨job, .active job.operation⟩] })
  | .step i reply =>
      match crew.threads[i]? with
      | some ⟨job, .active rest⟩ =>
          match rest.first reply crew.cache with
          | some (step, progress, cache) =>
              ([⟨i, step⟩], ⟨cache, crew.threads.set i ⟨job, progress⟩⟩)
          | none => ([], crew)
      | _ => ([], crew)
  | .reset => ([], { crew with cache := crew.cache.drop })

def run : List Move → Crew → Crew
  | [], crew => crew
  | move :: rest, crew => run rest (crew.advance move).2

def trace : List Move → Crew → List Occurrence
  | [], _ => []
  | move :: rest, crew => (crew.advance move).1 ++ trace rest (crew.advance move).2

def Returned (crew : Crew) (i : Nat) (job : Job) (response : Response) : Prop :=
  crew.threads[i]? = some ⟨job, .active (.done response)⟩

inductive Advances (crew : Crew) : Move → List Occurrence → Crew → Prop where
  | start (job : Job) :
      Advances crew (.start job) []
        { crew with threads := crew.threads ++ [⟨job, .active job.operation⟩] }
  | act {i : Nat} {reply : Outcome Answer} {job : Job} {rest : Operation Response}
      {step : Step} {progress : Progress Response} {cache' : Cache}
      (hthread : crew.threads[i]? = some ⟨job, .active rest⟩)
      (hfirst : rest.first reply crew.cache = some (step, progress, cache')) :
      Advances crew (.step i reply) [⟨i, step⟩]
        ⟨cache', crew.threads.set i ⟨job, progress⟩⟩
  | pass (i : Nat) (reply : Outcome Answer) : Advances crew (.step i reply) [] crew
  | reset : Advances crew .reset [] { crew with cache := crew.cache.drop }

theorem advances_advance (crew : Crew) (move : Move) :
    crew.Advances move (crew.advance move).1 (crew.advance move).2 := by
  cases move with
  | start job => exact .start job
  | reset => exact .reset
  | step i reply =>
      simp only [advance]
      split
      · split
        · exact .act ‹_› ‹_›
        · exact .pass i reply
      · exact .pass i reply

theorem getElem?_set_of_some {threads : List Thread} {i : Nat} {old : Thread}
    (h : threads[i]? = some old) (new : Thread) : (threads.set i new)[i]? = some new :=
  List.getElem?_set_self (List.getElem?_eq_some_iff.mp h).1

@[simp] theorem run_nil (crew : Crew) : crew.run [] = crew := rfl

@[simp] theorem run_cons (move : Move) (rest : List Move) (crew : Crew) :
    crew.run (move :: rest) = (crew.advance move).2.run rest := rfl

@[simp] theorem trace_nil (crew : Crew) : crew.trace [] = [] := rfl

@[simp] theorem trace_cons (move : Move) (rest : List Move) (crew : Crew) :
    crew.trace (move :: rest) = (crew.advance move).1 ++ (crew.advance move).2.trace rest := rfl

theorem run_append (first rest : List Move) (crew : Crew) :
    crew.run (first ++ rest) = (crew.run first).run rest := by
  induction first generalizing crew with
  | nil => rfl
  | cons move first ih => exact ih _

theorem trace_append (first rest : List Move) (crew : Crew) :
    crew.trace (first ++ rest) = crew.trace first ++ (crew.run first).trace rest := by
  induction first generalizing crew with
  | nil => rfl
  | cons move first ih =>
      rw [List.cons_append, trace_cons, trace_cons, run_cons, ih, List.append_assoc]

theorem exists_move_of_mem_trace {occurrence : Occurrence} {moves : List Move} {crew : Crew}
    (h : occurrence ∈ crew.trace moves) :
    ∃ first move rest, moves = first ++ move :: rest ∧
      occurrence ∈ ((crew.run first).advance move).1 := by
  induction moves generalizing crew with
  | nil => cases h
  | cons move moves ih =>
      rw [trace_cons, List.mem_append] at h
      cases h with
      | inl hnow => exact ⟨[], move, moves, rfl, hnow⟩
      | inr hlater =>
          obtain ⟨first, later, rest, rfl, hmem⟩ := ih hlater
          exact ⟨move :: first, later, rest, rfl, hmem⟩

end Crew

def noticed (past : List Occurrence) : List Notice :=
  notices (past.map Occurrence.step)

def stepsOf (i : Nat) (past : List Occurrence) : List Step :=
  (past.filter fun o => o.thread = i).map Occurrence.step

def heard (i : Nat) (past : List Occurrence) : List Notice :=
  notices (stepsOf i past)

theorem noticed_append (first rest : List Occurrence) :
    noticed (first ++ rest) = noticed first ++ noticed rest := by
  rw [noticed, List.map_append, Operation.notices_append]
  rfl

@[simp] theorem stepsOf_nil (i : Nat) : stepsOf i [] = [] := rfl

theorem stepsOf_append (i : Nat) (first rest : List Occurrence) :
    stepsOf i (first ++ rest) = stepsOf i first ++ stepsOf i rest := by
  rw [stepsOf, List.filter_append, List.map_append]
  rfl

@[simp] theorem stepsOf_own (i : Nat) (step : Step) : stepsOf i [⟨i, step⟩] = [step] := by
  simp [stepsOf]

theorem stepsOf_other {i j : Nat} (h : i ≠ j) (step : Step) : stepsOf j [⟨i, step⟩] = [] := by
  simp [stepsOf, h]

theorem heard_append (i : Nat) (first rest : List Occurrence) :
    heard i (first ++ rest) = heard i first ++ heard i rest := by
  rw [heard, stepsOf_append, Operation.notices_append]
  rfl

theorem mem_heard_iff {i : Nat} {notice : Notice} {past : List Occurrence} :
    notice ∈ heard i past ↔ ∃ step, ⟨i, step⟩ ∈ past ∧ step.notice? = some notice := by
  constructor
  · intro h
    obtain ⟨step, hstep, hnotice⟩ := List.mem_filterMap.mp h
    obtain ⟨⟨j, _⟩, hmem, rfl⟩ := List.mem_map.mp hstep
    obtain ⟨hpast, hj⟩ := List.mem_filter.mp hmem
    obtain rfl : j = i := by simpa using hj
    exact ⟨_, hpast, hnotice⟩
  · intro h
    obtain ⟨step, hpast, hnotice⟩ := h
    refine List.mem_filterMap.mpr ⟨step, List.mem_map.mpr ⟨⟨i, step⟩, ?_, rfl⟩, hnotice⟩
    exact List.mem_filter.mpr ⟨hpast, by simp⟩

theorem mem_noticed_iff {notice : Notice} {past : List Occurrence} :
    notice ∈ noticed past ↔ ∃ i, notice ∈ heard i past := by
  constructor
  · intro h
    obtain ⟨_, hstep, hnotice⟩ := List.mem_filterMap.mp h
    obtain ⟨⟨i, step⟩, hpast, rfl⟩ := List.mem_map.mp hstep
    exact ⟨i, mem_heard_iff.mpr ⟨step, hpast, hnotice⟩⟩
  · intro h
    obtain ⟨i, hheard⟩ := h
    obtain ⟨step, hpast, hnotice⟩ := mem_heard_iff.mp hheard
    exact List.mem_filterMap.mpr ⟨step, List.mem_map.mpr ⟨⟨i, step⟩, hpast, rfl⟩, hnotice⟩

def sentIn (past : List Occurrence) : List Call :=
  calls (past.map Occurrence.step)

theorem mem_sentIn_iff {call : Call} {past : List Occurrence} :
    call ∈ sentIn past ↔ ∃ i, call ∈ calls (stepsOf i past) := by
  simp only [sentIn, calls, stepsOf, List.mem_filterMap, List.mem_map, List.mem_filter]
  constructor
  · intro h
    obtain ⟨_, ⟨⟨i, step⟩, hpast, rfl⟩, hcall⟩ := h
    exact ⟨i, step, ⟨⟨i, step⟩, ⟨hpast, by simp⟩, rfl⟩, hcall⟩
  · intro h
    obtain ⟨i, _, ⟨⟨j, step⟩, ⟨hpast, -⟩, rfl⟩, hcall⟩ := h
    exact ⟨step, ⟨⟨j, step⟩, hpast, rfl⟩, hcall⟩

namespace Crew

/-- Whatever a request does from here to its end, together with its steps so far that is a walk of
what it was asked. -/
structure Accounts (past : List Occurrence) (crew : Crew) : Prop where
  walks : ∀ i thread, crew.threads[i]? = some thread → ∀ steps outcome,
    thread.progress.Walk steps outcome →
      Operation.Walk thread.job.operation (stepsOf i past ++ steps) outcome
  unborn : ∀ i, crew.threads.length ≤ i → stepsOf i past = []

theorem accounts_idle (cache : Cache) : Accounts [] (idle cache) where
  walks := by
    intro i thread hthread
    cases hthread
  unborn := fun _ _ => rfl

theorem Accounts.advances {past now : List Occurrence} {crew crew' : Crew} {move : Move}
    (h : Accounts past crew) (hmove : crew.Advances move now crew') :
    Accounts (past ++ now) crew' := by
  cases hmove with
  | reset =>
      rw [List.append_nil]
      exact ⟨h.walks, h.unborn⟩
  | pass i reply =>
      rw [List.append_nil]
      exact h
  | start job =>
      rw [List.append_nil]
      constructor
      · intro i thread hthread steps outcome hwalk
        by_cases hold : i < crew.threads.length
        · rw [List.getElem?_append_left hold] at hthread
          exact h.walks i thread hthread steps outcome hwalk
        · have hnew : i = crew.threads.length := by
            have hlt := (List.getElem?_eq_some_iff.mp hthread).1
            rw [List.length_append, List.length_singleton] at hlt
            omega
          subst hnew
          rw [List.getElem?_concat_length] at hthread
          cases hthread
          -- The new request has taken no step, so all of its walk is ahead of it.
          rw [h.unborn _ (Nat.le_refl _)]
          cases hwalk with
          | active hrest => exact hrest
      · intro i hi
        rw [List.length_append, List.length_singleton] at hi
        exact h.unborn i (by omega)
  | @act i reply job rest step progress cache' hthread hfirst =>
      -- Its step goes over from the walk ahead of the request to its past; the others stand still.
      constructor
      · intro j thread hj steps outcome hwalk
        by_cases hij : i = j
        · subst hij
          rw [getElem?_set_of_some hthread] at hj
          cases hj
          rw [stepsOf_append, stepsOf_own, List.append_assoc]
          exact h.walks i _ hthread _ _ (.active (Operation.walk_of_first hfirst hwalk))
        · rw [List.getElem?_set_ne hij] at hj
          rw [stepsOf_append, stepsOf_other hij, List.append_nil]
          exact h.walks j thread hj steps outcome hwalk
      · intro j hj
        have hlt : i < crew.threads.length := (List.getElem?_eq_some_iff.mp hthread).1
        rw [List.length_set] at hj
        rw [stepsOf_append, h.unborn j hj, stepsOf_other (by omega)]
        rfl

theorem Accounts.run {past : List Occurrence} {crew : Crew} (h : Accounts past crew)
    (moves : List Move) : Accounts (past ++ crew.trace moves) (crew.run moves) := by
  induction moves generalizing past crew with
  | nil =>
      rw [trace_nil, List.append_nil]
      exact h
  | cons move moves ih =>
      rw [trace_cons, run_cons, ← List.append_assoc]
      exact ih (h.advances (crew.advances_advance move))

theorem accounts_trace (cache : Cache) (moves : List Move) :
    Accounts ((idle cache).trace moves) ((idle cache).run moves) :=
  (accounts_idle cache).run moves

theorem Accounts.exists_walk {past : List Occurrence} {crew : Crew} (h : Accounts past crew)
    {i : Nat} (hsteps : stepsOf i past ≠ []) :
    ∃ thread rest outcome, crew.threads[i]? = some thread ∧
      Operation.Walk thread.job.operation (stepsOf i past ++ rest) outcome := by
  cases hthread : crew.threads[i]? with
  | none => exact absurd (h.unborn i (List.getElem?_eq_none_iff.mp hthread)) hsteps
  | some thread =>
      obtain ⟨rest, outcome, hrest⟩ := thread.progress.exists_walk
      exact ⟨thread, rest, outcome, rfl, h.walks i thread hthread rest outcome hrest⟩

theorem Returned.walk {past : List Occurrence} {crew : Crew} {i : Nat} {job : Job}
    {response : Response} (h : crew.Returned i job response) (hpast : Accounts past crew) :
    Operation.Walk job.operation (stepsOf i past) (.returned response) := by
  have hwalk := hpast.walks i _ h [] (.returned response) (.active (.done response))
  rw [List.append_nil] at hwalk
  exact hwalk

theorem Advances.length_le {crew crew' : Crew} {move : Move} {now : List Occurrence}
    (h : crew.Advances move now crew') : crew.threads.length ≤ crew'.threads.length := by
  cases h with
  | start job => simp
  | act hthread hfirst => simp
  | pass i reply => exact Nat.le_refl _
  | reset => exact Nat.le_refl _

theorem length_le_run (crew : Crew) (moves : List Move) :
    crew.threads.length ≤ (crew.run moves).threads.length := by
  induction moves generalizing crew with
  | nil => exact Nat.le_refl _
  | cons move moves ih => exact Nat.le_trans (crew.advances_advance move).length_le (ih _)

theorem length_lt_run_of_start {crew : Crew} {moves : List Move} {job : Job}
    (h : .start job ∈ moves) : crew.threads.length < (crew.run moves).threads.length := by
  obtain ⟨first, rest, rfl⟩ := List.append_of_mem h
  rw [run_append, run_cons]
  calc crew.threads.length
      ≤ (crew.run first).threads.length := crew.length_le_run first
    _ < ((crew.run first).advance (.start job)).2.threads.length := by simp [advance]
    _ ≤ _ := length_le_run _ rest

theorem advance_of_first {crew : Crew} {i : Nat} {job : Job} {op : Operation Response}
    {reply : Outcome Answer} {step : Step} {progress : Progress Response} {cache' : Cache}
    (hthread : crew.threads[i]? = some ⟨job, .active op⟩)
    (hfirst : op.first reply crew.cache = some (step, progress, cache')) :
    crew.advance (.step i reply) =
      ([⟨i, step⟩], ⟨cache', crew.threads.set i ⟨job, progress⟩⟩) := by
  simp only [advance, hthread, hfirst]

/-- A request gets somewhere, through the given steps, while the others stand still. -/
def Gets (crew : Crew) (i : Nat) (job : Job) (steps : List Step) (cache : Cache)
    (progress : Progress Response) : Prop :=
  ∃ moves, crew.trace moves = steps.map (Occurrence.mk i) ∧
    crew.run moves = ⟨cache, crew.threads.set i ⟨job, progress⟩⟩

theorem Gets.of_first {crew : Crew} {i : Nat} {job : Job} {op : Operation Response}
    (reply : Outcome Answer) {step : Step} {next last : Progress Response}
    {cache' cache'' : Cache} (hthread : crew.threads[i]? = some ⟨job, .active op⟩)
    (hfirst : op.first reply crew.cache = some (step, next, cache'))
    (h : Gets ⟨cache', crew.threads.set i ⟨job, next⟩⟩ i job steps cache'' last) :
    Gets crew i job (step :: steps) cache'' last := by
  obtain ⟨moves, htrace, hrun⟩ := h
  have hadvance := advance_of_first hthread hfirst
  refine ⟨.step i reply :: moves, ?_, ?_⟩
  · rw [trace_cons, hadvance, htrace]
    rfl
  · rw [run_cons, hadvance, hrun, List.set_set]

/-- One of the schedules has a request go from beginning to end as it does with nobody else at
work. -/
theorem gets_run (transport : UInt32 → Frame → τ → Outcome Answer × τ) (op : Operation Response)
    {threads : List Thread} {i : Nat} {job : Job} (w : World τ)
    (hthread : threads[i]? = some ⟨job, .active op⟩) :
    Gets ⟨w.cache, threads⟩ i job (op.trace (.alone transport) w)
      (op.run (.alone transport) w).2.cache (.ended (op.run (.alone transport) w).1) := by
  induction op generalizing threads w with
  | done a =>
      obtain ⟨hlt, hget⟩ := List.getElem?_eq_some_iff.mp hthread
      refine ⟨[], rfl, ?_⟩
      change _ = Crew.mk w.cache (threads.set i ⟨job, .active (.done a)⟩)
      rw [← hget, List.set_getElem_self]
      rfl
  | consult key next ih =>
      apply Gets.of_first .panicked hthread rfl
      exact ih _ _ (w.withCache (w.cache.consult key).cache) (getElem?_set_of_some hthread _)
  | retain key info next ih =>
      apply Gets.of_first .panicked hthread rfl
      exact ih _ _ (w.withCache (w.cache.retain key info).cache)
        (getElem?_set_of_some hthread _)
  | count tally next ih =>
      apply Gets.of_first .panicked hthread rfl
      exact ih (w.withCache (w.cache.count tally)) (getElem?_set_of_some hthread _)
  | call selector request next ih =>
      simp only [Operation.run, Operation.trace, Site.alone, Site.shared]
      obtain ⟨reply, t⟩ := transport selector request w.controller
      cases reply with
      | returned answer =>
          apply Gets.of_first (.returned answer) hthread rfl
          exact ih answer { w with controller := t } (getElem?_set_of_some hthread _)
      | panicked =>
          apply Gets.of_first .panicked hthread rfl
          refine ⟨[], rfl, ?_⟩
          rw [List.set_set]
          rfl
  | note event next ih =>
      apply Gets.of_first .panicked hthread rfl
      exact ih (w.note event) (getElem?_set_of_some hthread _)

end Crew

end SmcKeys
