import SmcKeys.Proofs.Freshness

namespace SmcKeys

open Client (Enquiry)

namespace Crew

theorem Accounts.answer_of_noticed {past : List Occurrence} {crew : Crew}
    (hpast : Accounts past crew) {key : Code} {offered kept : KeyInfo}
    (h : .insertion key offered kept ∈ noticed past) :
    .answer key (some offered) ∈ noticed past := by
  obtain ⟨j, hj⟩ := mem_noticed_iff.mp h
  rw [mem_noticed_iff]
  refine ⟨j, ?_⟩
  rw [hpast.heard_of_insertion hj]
  simp

/-- An entry was there from the start, or the controller has declared it. -/
theorem held_or_declared_of_find? {cache : Cache} {moves : List Move} {key : Code}
    {info : KeyInfo} (h : ((idle cache).run moves).cache.find? key = some info) :
    cache.find? key = some info ∨
      .answer key (some info) ∈ noticed ((idle cache).trace moves) := by
  rcases insertion_of_find?_run h with hheld | hinsertion
  · exact .inl hheld
  · exact .inr ((accounts_trace cache moves).answer_of_noticed hinsertion)

/-- So was an info that a question about a key ends with, or the controller has declared it. -/
theorem held_or_declared_of_enquiry {cache : Cache} {moves : List Move} {i : Nat}
    {config : Config} {key : Code} {info : KeyInfo} {told : List Notice}
    (h : Enquiry config key told (some info))
    (htold : ∀ notice ∈ told, notice ∈ heard i ((idle cache).trace moves)) :
    cache.find? key = some info ∨
      .answer key (some info) ∈ noticed ((idle cache).trace moves) := by
  cases hcaching : config.caching with
  | false =>
      right
      rw [mem_noticed_iff]
      exact ⟨i, htold _ (h.answer_of_uncached hcaching)⟩
  | true =>
      obtain ⟨notice, hmem, hdecision⟩ := h.decision_of_caching hcaching
      rcases held_or_inserted_of_decision (htold notice hmem) hdecision with hheld | hinsertion
      · exact .inl hheld
      · exact .inr ((accounts_trace cache moves).answer_of_noticed hinsertion)

theorem Advances.started {crew crew' : Crew} {move : Move} {now : List Occurrence}
    (hmove : crew.Advances move now crew') {i : Nat} {thread : Thread}
    (h : crew'.threads[i]? = some thread) :
    (∃ old, crew.threads[i]? = some old ∧ old.job = thread.job) ∨ move = .start thread.job := by
  cases hmove with
  | pass j reply => exact .inl ⟨thread, h, rfl⟩
  | reset => exact .inl ⟨thread, h, rfl⟩
  | start job =>
      by_cases hold : i < crew.threads.length
      · rw [List.getElem?_append_left hold] at h
        exact .inl ⟨thread, h, rfl⟩
      · rw [List.getElem?_append_right (Nat.le_of_not_lt hold), List.getElem?_singleton] at h
        split at h
        · cases h
          exact .inr rfl
        · cases h
  | @act j reply job rest step progress cache' hthread hfirst =>
      left
      by_cases hj : j = i
      · subst hj
        rw [getElem?_set_of_some hthread] at h
        cases h
        exact ⟨_, hthread, rfl⟩
      · rw [List.getElem?_set_ne hj] at h
        exact ⟨thread, h, rfl⟩

theorem started_of_run {crew : Crew} {moves : List Move} {i : Nat} {thread : Thread}
    (h : (crew.run moves).threads[i]? = some thread) :
    (∃ old, crew.threads[i]? = some old ∧ old.job = thread.job) ∨
      .start thread.job ∈ moves := by
  induction moves generalizing crew with
  | nil => exact .inl ⟨thread, h, rfl⟩
  | cons move moves ih =>
      rcases ih h with ⟨next, hnext, hjob⟩ | hlater
      · rcases (crew.advances_advance move).started hnext with ⟨old, hold, hsame⟩ | hnow
        · exact .inl ⟨old, hold, hsame.trans hjob⟩
        · right
          rw [← hjob, hnow]
          exact List.mem_cons_self
      · exact .inr (List.mem_cons_of_mem _ hlater)

theorem start_mem_of_idle {cache : Cache} {moves : List Move} {i : Nat} {thread : Thread}
    (h : ((idle cache).run moves).threads[i]? = some thread) : .start thread.job ∈ moves := by
  rcases started_of_run h with ⟨old, hold, -⟩ | hstart
  · cases hold
  · exact hstart

end Crew

end SmcKeys
