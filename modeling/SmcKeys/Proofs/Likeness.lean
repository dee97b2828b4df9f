import SmcKeys.Proofs.Alone
import SmcKeys.Proofs.Proceeding

/-!
An operation sees the entries of its cache and the controller: not the counters, and not the log.
-/

namespace SmcKeys

open Operation (calls)
open Client (Job transact infoRequest)

structure World.Alike (w v : World τ) : Prop where
  controller : w.controller = v.controller
  find? : ∀ key, w.cache.find? key = v.cache.find? key

namespace World.Alike

variable {w v : World τ}

theorem lookedUp (h : w.Alike v) (key : Code) : (w.lookedUp key).Alike (v.lookedUp key) where
  controller := h.controller
  find? := by simpa using h.find?

theorem exchanged (h : w.Alike v) (transport : UInt32 → Frame → τ → Outcome Answer × τ)
    (config : Config) (request : Packet) :
    (w.exchanged transport config request).Alike (v.exchanged transport config request) where
  controller := by simp [h.controller]
  find? := h.find?

theorem settled (h : w.Alike v) {key : Code} (hmissing : w.cache.find? key = none)
    (found? : Option KeyInfo) : (w.settled key found?).Alike (v.settled key found?) := by
  cases found? with
  | none => exact h
  | some info =>
      refine ⟨h.controller, fun other => ?_⟩
      by_cases hother : other = key
      · subst hother
        have hmissing' : v.cache.find? other = none := (h.find? other).symm.trans hmissing
        exact (find?_inserted_self hmissing).trans (find?_inserted_self hmissing').symm
      · calc
          (w.inserted key info).cache.find? other = w.cache.find? other :=
            find?_inserted_of_ne hother info w
          _ = v.cache.find? other := h.find? other
          _ = (v.inserted key info).cache.find? other :=
            (find?_inserted_of_ne hother info v).symm

end World.Alike

/-- An operation that does not tell alike states apart. -/
def Operation.Blind (transport : UInt32 → Frame → τ → Outcome Answer × τ) (op : Operation α) :
    Prop :=
  ∀ w v : World τ, w.Alike v →
    (op.run (.alone transport) w).1 = (op.run (.alone transport) v).1 ∧
      calls (op.trace (.alone transport) w) = calls (op.trace (.alone transport) v) ∧
      (op.run (.alone transport) w).2.Alike (op.run (.alone transport) v).2

namespace Operation

variable {transport : UInt32 → Frame → τ → Outcome Answer × τ}

theorem blind_done (a : α) : Blind transport (.done a) :=
  fun _ _ h => ⟨rfl, rfl, h⟩

theorem Blind.note {op : Operation α} (h : Blind transport op) (event : Log.Event) :
    Blind transport (.note event op) := by
  intro w v halike
  have hnoted : (w.note event).Alike (v.note event) := ⟨halike.controller, halike.find?⟩
  obtain ⟨houtcome, hcalls, hafter⟩ := h _ _ hnoted
  exact ⟨houtcome, hcalls, hafter⟩

theorem Blind.bind {op : Operation α} {f : α → Operation β} (h : Blind transport op)
    (hnext : ∀ a, Blind transport (f a)) : Blind transport (op >>= f) := by
  intro w v halike
  obtain ⟨houtcome, hcalls, hafter⟩ := h w v halike
  cases hrun : (op.run (.alone transport) v).1 with
  | returned a =>
      obtain ⟨hends, hlater, hlast⟩ := hnext a _ _ hafter
      rw [hrun] at houtcome
      rw [run_bind_of_returned houtcome, run_bind_of_returned hrun,
        calls_bind_of_returned houtcome, calls_bind_of_returned hrun, hcalls, hlater]
      exact ⟨hends, rfl, hlast⟩
  | panicked =>
      rw [hrun] at houtcome
      rw [run_bind_of_panicked houtcome, run_bind_of_panicked hrun,
        calls_bind_of_panicked houtcome, calls_bind_of_panicked hrun]
      exact ⟨rfl, hcalls, hafter⟩

end Operation

open Operation (Blind blind_done)

namespace Client

variable (transport : UInt32 → Frame → τ → Outcome Answer × τ)

theorem blind_transact (config : Config) (request : Packet) :
    Blind transport (transact config request) := by
  intro w v h
  rw [run_transact, run_transact, trace_transact, trace_transact, h.controller]
  exact ⟨rfl, rfl, h.exchanged transport config request⟩

theorem blind_declaredInfo (config : Config) (key : Code) :
    Blind transport (declaredInfo config key) :=
  (blind_transact transport config (infoRequest key)).bind fun _ => blind_done _

theorem blind_keyInfo (config : Config) (key : Code) : Blind transport (keyInfo config key) := by
  cases hcaching : config.caching with
  | false =>
      rw [keyInfo_of_not_caching hcaching]
      exact blind_declaredInfo transport config key
  | true =>
      intro w v h
      -- Both caches have an info of the key, the same one, or neither has.
      cases hfound : v.cache.find? key with
      | some info =>
          have hfound' := (h.find? key).trans hfound
          rw [run_keyInfo_of_found hcaching hfound, run_keyInfo_of_found hcaching hfound',
            calls_keyInfo_of_found hcaching hfound, calls_keyInfo_of_found hcaching hfound']
          exact ⟨rfl, rfl, h.lookedUp key⟩
      | none =>
          have hfound' := (h.find? key).trans hfound
          have hasked := (h.lookedUp key).exchanged transport config (infoRequest key)
          have hstill : ((w.lookedUp key).exchanged transport config
              (infoRequest key)).cache.find? key = none := by
            simpa using hfound'
          rw [run_keyInfo_of_missing hcaching hfound, run_keyInfo_of_missing hcaching hfound',
            calls_keyInfo_of_missing hcaching hfound, calls_keyInfo_of_missing hcaching hfound',
            h.controller]
          exact ⟨rfl, rfl, hasked.settled hstill _⟩

theorem Job.blind_of_course {job : Job} {key : Code} {info : KeyInfo} {op : Operation Response}
    (h : job.Course key info op) : Blind transport op := by
  cases h with
  | told hrequest => exact blind_done _
  | read hrequest hfinish => exact (blind_transact transport _ _).bind fun _ => blind_done _
  | write hrequest hshape hfinish =>
      exact (blind_transact transport _ _).bind fun _ => blind_done _
  | refuse hrequest hshape => exact (blind_done _).note _

theorem Job.blind_operation (job : Job) : Blind transport job.operation := by
  cases hsubject : job.request.subject? with
  | some key =>
      rw [operation_eq hsubject]
      apply (blind_keyInfo transport job.config key).bind
      intro found
      cases found with
      | error failure =>
          obtain ⟨response, hproceed, -⟩ := exists_failed hsubject failure
          rw [hproceed]
          exact blind_done response
      | ok info => exact blind_of_course transport (course_proceed hsubject info)
  | none =>
      obtain ⟨config, request⟩ := job
      cases request with
      | readText text =>
          obtain ⟨cause, hnamed⟩ := Request.subject?_readText_eq_none_iff.mp hsubject
          rw [operation_of_unnamed config hnamed]
          exact blind_done _
      | keyAt index =>
          rw [operation_keyAt]
          exact (blind_transact transport config _).bind fun _ => blind_done _
      | keyInfo key => cases hsubject
      | read key => cases hsubject
      | readInto key buffer => cases hsubject
      | write value => cases hsubject

end Client

end SmcKeys
