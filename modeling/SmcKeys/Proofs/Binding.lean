import SmcKeys.Proofs.Interleaving

namespace SmcKeys

open Operation (Step)
open Client (Enquiry enquiry_of_info)

def Notice.offer? (key : Code) : Notice → Option KeyInfo
  | .insertion k offered _ => if k = key then some offered else none
  | _ => none

def Notice.decision? : Notice → Option (Code × KeyInfo)
  | .hit key info => some (key, info)
  | .insertion key _ kept => some (key, kept)
  | _ => none

/-- The info of the first insertion for a key. -/
def firstOffer (key : Code) (past : List Occurrence) : Option KeyInfo :=
  (noticed past).findSome? (Notice.offer? key)

theorem firstOffer_nil (key : Code) : firstOffer key [] = none := rfl

theorem firstOffer_append (key : Code) (first rest : List Occurrence) :
    firstOffer key (first ++ rest) = (firstOffer key first).or (firstOffer key rest) := by
  rw [firstOffer, noticed_append, List.findSome?_append]
  rfl

theorem firstOffer_singleton (key : Code) (i : Nat) (step : Step) :
    firstOffer key [⟨i, step⟩] = step.notice?.bind (Notice.offer? key) := by
  cases hnotice : step.notice? with
  | none => simp [firstOffer, noticed, Operation.notices, hnotice]
  | some notice => simp [firstOffer, noticed, Operation.notices, hnotice]

namespace Cache.Acts

theorem find?_eq (h : Acts c step c') (key : Code) :
    c'.find? key = (c.find? key).or (step.notice?.bind (Notice.offer? key)) := by
  cases h with
  | consult k =>
      have hsame : (c.consult k).cache.find? key = c.find? key := Cache.find?_create key c
      rw [hsame]
      cases hfound : (c.consult k).result <;> simp [Step.notice?, Notice.offer?]
  | retain k info =>
      by_cases hkey : k = key
      · subst hkey
        cases hfound : c.find? k with
        | none =>
            rw [Cache.find?_retain, Cache.retain_of_none hfound]
            simp [Step.notice?, Notice.offer?]
        | some kept =>
            rw [Cache.find?_retain, Cache.retain_of_some hfound]
            rfl
      · rw [Cache.find?_retain_of_ne (Ne.symm hkey)]
        simp [Step.notice?, Notice.offer?, hkey]
  | count tally => simp [Step.notice?]
  | call selector request reply =>
      cases hinquiry : Frame.inquiry? request <;> simp [Step.notice?, Notice.offer?, hinquiry]
  | note event => simp [Step.notice?]

theorem find?_of_decision (h : Acts c step c') {key : Code} {info : KeyInfo}
    (hnotice : step.notice? = some notice) (hdecision : notice.decision? = some (key, info)) :
    c'.find? key = some info := by
  cases h with
  | consult k =>
      cases hfound : (c.consult k).result with
      | none =>
          rw [hfound] at hnotice
          cases hnotice
          cases hdecision
      | some found =>
          rw [hfound] at hnotice
          cases hnotice
          cases hdecision
          exact hfound
  | retain k offered =>
      cases hnotice
      cases hdecision
      exact Cache.find?_retain _ offered c
  | count tally => cases hnotice
  | call selector request reply =>
      cases hinquiry : Frame.inquiry? request with
      | none => simp [Step.notice?, hinquiry] at hnotice
      | some asked =>
          simp only [Step.notice?, hinquiry, Option.map_some, Option.some.injEq] at hnotice
          subst hnotice
          cases hdecision
  | note event => cases hnotice

end Cache.Acts

namespace Crew

theorem Advances.find?_eq {crew crew' : Crew} {move : Move} {now : List Occurrence}
    (h : crew.Advances move now crew') (hquiet : move ≠ .reset) (key : Code) :
    crew'.cache.find? key = (crew.cache.find? key).or (firstOffer key now) := by
  cases h with
  | start job => rw [firstOffer_nil, Option.or_none]
  | act hthread hfirst =>
      rw [firstOffer_singleton]
      exact (Operation.acts_of_first hfirst).find?_eq key
  | pass i reply => rw [firstOffer_nil, Option.or_none]
  | reset => exact absurd rfl hquiet

/-- Without a reset, a key is bound to what it was bound to, or else to the first offer. -/
theorem find?_run {moves : List Move} (hquiet : .reset ∉ moves) (crew : Crew) (key : Code) :
    (crew.run moves).cache.find? key =
      (crew.cache.find? key).or (firstOffer key (crew.trace moves)) := by
  induction moves generalizing crew with
  | nil => simp [firstOffer_nil]
  | cons move moves ih =>
      rw [List.mem_cons, not_or] at hquiet
      rw [run_cons, trace_cons, ih hquiet.2,
        (crew.advances_advance move).find?_eq (Ne.symm hquiet.1), firstOffer_append,
        Option.or_assoc]

theorem find?_run_of_some {moves : List Move} (hquiet : .reset ∉ moves) {crew : Crew}
    {key : Code} {info : KeyInfo} (hbound : crew.cache.find? key = some info) :
    (crew.run moves).cache.find? key = some info := by
  rw [find?_run hquiet, hbound]
  rfl

theorem find?_advance_of_decision {crew : Crew} {move : Move} {i : Nat} {step : Step}
    (h : ⟨i, step⟩ ∈ (crew.advance move).1) {key : Code} {info : KeyInfo}
    (hnotice : step.notice? = some notice) (hdecision : notice.decision? = some (key, info)) :
    (crew.advance move).2.cache.find? key = some info := by
  have hmove := crew.advances_advance move
  generalize crew.advance move = result at h hmove
  obtain ⟨now, crew'⟩ := result
  cases hmove with
  | start job => cases h
  | act hthread hfirst =>
      cases List.mem_singleton.mp h
      exact (Operation.acts_of_first hfirst).find?_of_decision hnotice hdecision
  | pass j reply => cases h
  | reset => cases h

theorem find?_run_of_decision {moves : List Move} (hquiet : .reset ∉ moves) {crew : Crew}
    {key : Code} {info : KeyInfo} {i : Nat} (h : notice ∈ heard i (crew.trace moves))
    (hdecision : notice.decision? = some (key, info)) :
    (crew.run moves).cache.find? key = some info := by
  obtain ⟨step, hmem, hnotice⟩ := mem_heard_iff.mp h
  obtain ⟨first, move, rest, rfl, hnow⟩ := exists_move_of_mem_trace hmem
  have hrest : .reset ∉ rest := fun hreset => hquiet (by simp [hreset])
  rw [run_append, run_cons]
  exact find?_run_of_some hrest (find?_advance_of_decision hnow hnotice hdecision)

end Crew

namespace Client.Enquiry

/-- All that a question is told of a key's info is the info that it ends with. -/
theorem decision_eq {config : Config} {key : Code} {info : KeyInfo}
    (h : Enquiry config key told (some info)) (hmem : notice ∈ told)
    (hdecides : notice.decision?.isSome) : notice.decision? = some (key, info) := by
  cases h with
  | hit found hcaching =>
      obtain rfl := List.mem_singleton.mp hmem
      rfl
  | settled offered kept hcaching =>
      simp only [List.mem_cons, List.not_mem_nil, or_false] at hmem
      rcases hmem with rfl | rfl | rfl
      · cases hdecides
      · cases hdecides
      · rfl
  | asked declared hcaching =>
      obtain rfl := List.mem_singleton.mp hmem
      cases hdecides

end Client.Enquiry

namespace Crew

/-- From the first insertion on, whoever asks about the key is told the info that was inserted
first. -/
theorem decided_results_eq_firstOffer (cache : Cache) (before period after : List Move)
    (key : Code)
    (hbegin : (before = [] ∧ cache.find? key = none) ∨ ∃ earlier, before = earlier ++ [.reset])
    (hquiet : .reset ∉ period) :
    let start := (idle cache).run before
    (∀ sofar, sofar <+: period →
      (start.run sofar).cache.find? key = firstOffer key (start.trace sofar)) ∧
    (∀ sofar more info, sofar ++ more <+: period →
      (start.run sofar).cache.find? key = some info →
        (start.run (sofar ++ more)).cache.find? key = some info) ∧
    ∀ i config info,
      ((idle cache).run (before ++ period ++ after)).Returned i ⟨config, .keyInfo key⟩
        (.info (.ok info)) →
      (∃ notice ∈ heard i (start.trace period), notice.decision?.isSome) →
        firstOffer key (start.trace period) = some info := by
  intro start
  have hunbound : start.cache.find? key = none := by
    rcases hbegin with ⟨rfl, hnone⟩ | ⟨earlier, rfl⟩
    · exact hnone
    · simp only [start, run_append]
      exact Cache.find?_drop key _
  have hbound : ∀ sofar, sofar <+: period →
      (start.run sofar).cache.find? key = firstOffer key (start.trace sofar) := by
    intro sofar hsofar
    rw [find?_run (fun hreset => hquiet (hsofar.subset hreset)), hunbound]
    rfl
  refine ⟨hbound, ?_, ?_⟩
  · intro sofar more info hmore hinfo
    have hrest : .reset ∉ more := fun hreset =>
      hquiet (hmore.subset (List.mem_append_right _ hreset))
    rw [run_append]
    exact find?_run_of_some hrest hinfo
  · intro i config info hreturned hdecided
    obtain ⟨notice, hmem, hdecides⟩ := hdecided
    have henquiry := enquiry_of_info (hreturned.walk (accounts_trace cache _))
    have htold : notice ∈ heard i ((idle cache).trace (before ++ period ++ after)) := by
      rw [trace_append, trace_append, heard_append, heard_append]
      exact List.mem_append_left _ (List.mem_append_right _ hmem)
    -- All that the question was told in the period is the info that it ends with.
    have hdecision := henquiry.decision_eq htold hdecides
    rw [← hbound period (List.prefix_refl _)]
    exact find?_run_of_decision hquiet hmem hdecision

/-- Two questions that both miss the key; the one that is answered last inserts first. -/
def racingQuestions (key : Code) (first last : KeyInfo) : List Move :=
  [.start ⟨{}, .keyInfo key⟩, .start ⟨{}, .keyInfo key⟩] ++
    List.replicate 4 (.step 0 .panicked) ++ List.replicate 3 (.step 1 .panicked) ++
    List.replicate 2 (.step 0 (.declaring first)) ++
    List.replicate 4 (.step 1 (.declaring last)) ++ List.replicate 3 (.step 0 .panicked)

theorem racing_question_told_first_insertion :
    let race := racingQuestions ⟨0x54433050⟩ { size := 2 } { size := 4 }
    .reset ∉ race ∧
      ((idle {}).run ([] ++ race ++ [])).Returned 0 ⟨{}, .keyInfo ⟨0x54433050⟩⟩
        (.info (.ok { size := 4 })) ∧
      (∃ notice ∈ heard 0 ((idle {}).trace race), notice.decision?.isSome) ∧
      firstOffer ⟨0x54433050⟩ ((idle {}).trace race) = some { size := 4 } := by
  intro race
  have hquiet : .reset ∉ race := by simp [race, racingQuestions]
  have hreturned : ((idle {}).run ([] ++ race ++ [])).Returned 0 ⟨{}, .keyInfo ⟨0x54433050⟩⟩
      (.info (.ok { size := 4 })) := rfl
  have hdecided : ∃ notice ∈ heard 0 ((idle {}).trace race), notice.decision?.isSome := by
    decide
  exact ⟨hquiet, hreturned, hdecided,
    (decided_results_eq_firstOffer {} [] race [] ⟨0x54433050⟩ (.inl ⟨rfl, rfl⟩) hquiet).2.2
      0 {} { size := 4 } hreturned hdecided⟩

end Crew

end SmcKeys
