import SmcKeys.Proofs.ForeignRun

namespace SmcKeys

open Operation (calls)
open Client (Job)

/-- A controller that keeps a record of its calls and of the connections that they came by. -/
structure Recorder (τ : Type) where
  record : List (UInt32 × Call) := []
  controller : τ

def Service.recording (service : Service τ) : Service (Recorder τ) where
  openNumber r :=
    let (number, controller) := service.openNumber r.controller
    (number, { r with controller })
  closeNumber number r :=
    let (closed, controller) := service.closeNumber number r.controller
    (closed, { r with controller })
  call number selector request r :=
    let (reply, controller) := service.call number selector request r.controller
    (reply, { record := r.record ++ [(number, ⟨selector, request, reply⟩)], controller })
  note event r := { r with controller := service.note event r.controller }

theorem Operation.record_run (service : Service τ) (number : UInt32) (op : Operation α)
    (w : World (Recorder τ)) :
    (op.run (.alone (service.recording.call number)) w).2.controller.record =
      w.controller.record ++
        (calls (op.trace (.alone (service.recording.call number)) w)).map (number, ·) := by
  have hrecord : (Site.alone (service.recording.call number)).Follows
      (fun w => w.controller.record) fun record call => record ++ [(number, call)] :=
    { setCache := fun _ _ => rfl
      note := fun _ _ => rfl
      call := fun _ _ _ => rfl }
  exact hrecord.run_of_append op w

namespace Foreign

/-- A service of a process, which changes nothing of it but the controller. -/
def hosted (service : Service τ) : Service (Process τ) where
  openNumber p :=
    let (number, controller) := service.openNumber p.controller
    (number, { p with controller })
  closeNumber number p :=
    let (closed, controller) := service.closeNumber number p.controller
    (closed, { p with controller })
  call number selector request p :=
    let (reply, controller) := service.call number selector request p.controller
    (reply, { p with controller })
  note event p := { p with controller := service.note event p.controller }

section

variable (service : Service τ)

theorem maps_hosted (connection : Connection) :
    (site (hosted service) connection).Maps Process.toWorld
      (.alone (service.call connection.number)) where
  cache _ := rfl
  setCache _ _ := rfl
  note _ _ := rfl
  call _ _ _ := rfl

theorem run_hosted (number : UInt32) (op : Operation α) (p : Process τ) :
    op.run (.alone (service.call number)) p.toWorld =
      (op.run (site (hosted service) (.borrowed number)) p).map id Process.toWorld :=
  (maps_hosted service (.borrowed number)).run op p

theorem trace_hosted (number : UInt32) (op : Operation α) (p : Process τ) :
    op.trace (site (hosted service) (.borrowed number)) p =
      op.trace (.alone (service.call number)) p.toWorld :=
  ((maps_hosted service (.borrowed number)).trace op p).symm

variable {request : Request} {number : UInt32} {job : Job}

theorem Request.sent_hosted (h : request.job? = some (number, job)) (p : Process τ) :
    request.sent (hosted service) p =
      calls (job.operation.trace (.alone (service.call number)) p.toWorld) := by
  simp only [sent, h, trace_hosted]
  rfl

theorem Request.toWorld_perform_hosted (h : request.job? = some (number, job)) (p : Process τ) :
    (request.perform (hosted service) p).2.toWorld =
      (job.operation.run (.alone (service.call number)) p.toWorld).2 := by
  rw [toWorld_perform h]
  exact (congrArg Prod.snd (run_hosted service number job.operation p.clearError)).symm

end

/-- What neither connections nor errors change. -/
structure Keeps (service : Service (Process τ)) (f : Process τ → β) : Prop where
  opened : ∀ p, f (service.openNumber p).2 = f p
  closed : ∀ number p, f (service.closeNumber number p).2 = f p
  noted : ∀ event p, f (service.note event p) = f p
  told : ∀ lastError p, f { p with lastError } = f p

namespace Keeps

variable {service : Service (Process τ)} {f : Process τ → β}

theorem openConnection (h : Keeps service f) (out : Option UInt32) (p : Process τ) :
    f (openConnection service out p).2 = f p := by
  cases out with
  | none => exact (h.told _ _).trans (h.told _ p)
  | some before =>
      have hkept := (h.opened p.clearError).trans (h.told _ p)
      rw [← hkept, Foreign.openConnection, Connection.acquire]
      rcases service.openNumber p.clearError with ⟨fault | number, q⟩
      · exact h.told _ q
      · exact h.noted _ q

theorem closeConnection (h : Keeps service f) (number : UInt32) (p : Process τ) :
    f (closeConnection service number p).2 = f p := by
  have hkept := (h.closed (Connection.adopted number).number p.clearError).trans (h.told _ p)
  rw [← hkept, Foreign.closeConnection, Connection.close_eq]
  rcases service.closeNumber (Connection.adopted number).number p.clearError with
    ⟨fault | closed, q⟩
  · exact h.told _ q
  · exact h.noted _ q

theorem perform (h : Keeps service f) {request : Request} (hjob : request.job? = none)
    (hkeeps : request ≠ .cleanUp) (p : Process τ) : f (request.perform service p).2 = f p := by
  have hrefused : ∀ message, f (p.clearError.setError message) = f p :=
    fun _ => (h.told _ _).trans (h.told _ p)
  cases request with
  | openConnection out => exact h.openConnection out p
  | closeConnection number => exact h.closeConnection number p
  | readKey key out number =>
      cases key with
      | none => exact hrefused _
      | some key =>
          cases out with
          | none => exact hrefused _
          | some before => cases hjob
  | writeKey value number =>
      cases value with
      | none => exact hrefused _
      | some value => cases hjob
  | keyFromIndex index out number =>
      cases out with
      | none => exact hrefused _
      | some before => cases hjob
  | keyInfo key out number =>
      cases out with
      | none => exact hrefused _
      | some before => cases hjob
  | cleanUp => exact absurd rfl hkeeps
  | codeOfText text => rfl
  | textOfCode code out => rfl

end Keeps

theorem keeps_cache (service : Service τ) : Keeps (hosted service) fun p => p.cache where
  opened _ := rfl
  closed _ _ := rfl
  noted _ _ := rfl
  told _ _ := rfl

theorem keeps_record (service : Service τ) :
    Keeps (hosted service.recording) fun p => p.controller.record where
  opened _ := rfl
  closed _ _ := rfl
  noted _ _ := rfl
  told _ _ := rfl

theorem Request.record_perform (service : Service τ) (request : Request)
    (p : Process (Recorder τ)) :
    (request.perform (hosted service.recording) p).2.controller.record.map Prod.snd =
      p.controller.record.map Prod.snd ++ request.sent (hosted service.recording) p := by
  cases hjob : request.job? with
  | none =>
      have hsent : request.sent (hosted service.recording) p = [] := by simp only [sent, hjob]
      rw [hsent, List.append_nil]
      by_cases hclean : request = .cleanUp
      · subst hclean
        rfl
      · exact congrArg (List.map Prod.snd) ((keeps_record service).perform hjob hclean p)
  | some behind =>
      obtain ⟨number, job⟩ := behind
      have hrecord := Operation.record_run service number job.operation p.toWorld
      rw [← toWorld_perform_hosted _ hjob, ← sent_hosted _ hjob] at hrecord
      rw [hrecord]
      simp [Function.comp_def]

theorem record_run (service : Service τ) (requests : List Request) (p : Process (Recorder τ)) :
    (run (hosted service.recording) requests p).process.controller.record.map Prod.snd =
      p.controller.record.map Prod.snd ++ (run (hosted service.recording) requests p).calls := by
  induction requests generalizing p with
  | nil => exact (List.append_nil _).symm
  | cons request rest ih => simp only [run, ih, Request.record_perform, List.append_assoc]

end Foreign

end SmcKeys
