import SmcKeys.Foreign.Interface
import SmcKeys.Proofs.Calls
import SmcKeys.Proofs.Request

namespace SmcKeys.Foreign

open Operation (calls snd_run_bind_pure trace_bind_pure)
open Client (Job)

inductive Request where
  | openConnection (out : Option UInt32)
  | closeConnection (number : UInt32)
  | readKey (key : Option KeyText) (out : Option Value) (number : UInt32)
  | writeKey (value : Option Value) (number : UInt32)
  | keyFromIndex (index : UInt32) (out : Option KeyText) (number : UInt32)
  | keyInfo (key : UInt32) (out : Option Info) (number : UInt32)
  | cleanUp
  | codeOfText (text : Option KeyText)
  | textOfCode (code : UInt32) (out : Option KeyText)

inductive Response where
  | opened (code : KernelCode) (out : Option UInt32)
  | closed (code : KernelCode)
  | value (reply : Reply (Option Value))
  | status (status : StatusPair)
  | key (reply : Reply (Option KeyText))
  | info (reply : Reply (Option Info))
  | code (code : UInt32)
  | text (text : Option KeyText)
  | nothing

/-- What comes of the calls of a program: the responses, what was sent to the controller for
them, and the process afterwards. -/
structure Run (τ : Type) where
  responses : List Response := []
  calls : List Call := []
  process : Process τ

namespace Request

def perform (service : Service (Process τ)) (p : Process τ) : Request → Response × Process τ
  | .openConnection out =>
      let ((code, out), p) := Foreign.openConnection service out p
      (.opened code out, p)
  | .closeConnection number =>
      let (code, p) := Foreign.closeConnection service number p
      (.closed code, p)
  | .readKey key out number =>
      let (reply, p) := Foreign.readKey service key out number p
      (.value reply, p)
  | .writeKey value number =>
      let (status, p) := Foreign.writeKey service value number p
      (.status status, p)
  | .keyFromIndex index out number =>
      let (reply, p) := Foreign.keyFromIndex service index out number p
      (.key reply, p)
  | .keyInfo key out number =>
      let (reply, p) := Foreign.keyInfo service key out number p
      (.info reply, p)
  | .cleanUp => (.nothing, Foreign.cleanUp p)
  | .codeOfText text => (.code (Foreign.codeOfText text), p)
  | .textOfCode code out => (.text (Foreign.textOfCode code out), p)

/-- The connection and the client's request behind a call. -/
def job? : Request → Option (UInt32 × Job)
  | .readKey (some key) (some _) number =>
      some (number, ⟨{}, .readInto key.code (.empty key.code)⟩)
  | .writeKey (some value) number => some (number, ⟨{}, .write value.toValue⟩)
  | .keyFromIndex index (some _) number => some (number, ⟨{}, .keyAt index⟩)
  | .keyInfo key (some _) number => some (number, ⟨{}, .keyInfo ⟨key⟩⟩)
  | _ => none

def sent (service : Service (Process τ)) (p : Process τ) (request : Request) : List Call :=
  match request.job? with
  | some (number, job) =>
      calls (job.operation.trace (site service (.borrowed number)) p.clearError)
  | none => []

end Request

def run (service : Service (Process τ)) : List Request → Process τ → Run τ
  | [], p => { process := p }
  | request :: rest, p =>
      let first := request.perform service p
      let later := run service rest first.2
      { responses := first.1 :: later.responses
        calls := request.sent service p ++ later.calls
        process := later.process }

section

variable {service : Service (Process τ)}

theorem perform_eq_run (number : UInt32) (operation : Operation α) (p : Process τ) :
    Foreign.perform service number operation p =
      operation.run (site service (.borrowed number)) p := rfl

theorem Request.sent_writeKey (value : Value) (number : UInt32) (p : Process τ) :
    Request.sent service p (.writeKey (some value) number) =
      calls ((Client.write {} value.toValue).trace (site service (.borrowed number))
        p.clearError) := by
  change calls (Operation.trace _ (Client.write {} value.toValue >>= fun result => pure _) _) = _
  rw [trace_bind_pure]

theorem toWorld_report (result : Except Failure α) (p : Process τ) :
    (report result p).2.toWorld = p.toWorld := by
  cases result with
  | ok a => rfl
  | error failure => rfl

theorem toWorld_ask (number : UInt32) (question : Operation (Except Failure α)) (convert : α → β)
    (before : β) (p : Process τ) :
    (ask service number question convert before p).2.toWorld =
      (question.run (site service (.borrowed number)) p).2.toWorld := by
  rw [ask, perform_eq_run]
  obtain ⟨outcome, q⟩ := question.run (site service (.borrowed number)) p
  rcases outcome with (failure | a) | _
  · rfl
  · rfl
  · rfl

theorem Request.toWorld_perform {request : Request} {number : UInt32} {job : Job}
    (h : request.job? = some (number, job)) (p : Process τ) :
    (request.perform service p).2.toWorld =
      (job.operation.run (site service (.borrowed number)) p.clearError).2.toWorld := by
  unfold job? at h
  split at h
  case h_1 key before number =>
    cases h
    simp only [Job.operation, snd_run_bind_pure, perform, Foreign.readKey, perform_eq_run]
    obtain ⟨outcome, q⟩ := (Client.readInto {} key.code (.empty key.code)).run
      (site service (.borrowed number)) p.clearError
    cases outcome with
    | returned reading => exact toWorld_report reading.result q
    | panicked => rfl
  case h_2 value number =>
    cases h
    simp only [Job.operation, snd_run_bind_pure, perform, Foreign.writeKey, perform_eq_run]
    obtain ⟨outcome, q⟩ := (Client.write {} value.toValue).run
      (site service (.borrowed number)) p.clearError
    cases outcome with
    | returned result => exact toWorld_report result q
    | panicked => rfl
  case h_3 index before number =>
    cases h
    simp only [Job.operation, snd_run_bind_pure]
    exact toWorld_ask number _ _ before _
  case h_4 key before number =>
    cases h
    simp only [Job.operation, snd_run_bind_pure]
    exact toWorld_ask number _ _ before _
  case h_5 => cases h

theorem run_append (first rest : List Request) (p : Process τ) :
    run service (first ++ rest) p =
      { responses := (run service first p).responses ++
          (run service rest (run service first p).process).responses
        calls := (run service first p).calls ++
          (run service rest (run service first p).process).calls
        process := (run service rest (run service first p).process).process } := by
  induction first generalizing p with
  | nil => rfl
  | cons request first ih => simp only [List.cons_append, run, ih, List.append_assoc]

theorem length_responses (requests : List Request) (p : Process τ) :
    (run service requests p).responses.length = requests.length := by
  induction requests generalizing p with
  | nil => rfl
  | cons request rest ih => simp only [run, List.length_cons, ih]

theorem getElem?_responses (before : List Request) (request : Request) (later : List Request)
    (p : Process τ) :
    (run service (before ++ request :: later) p).responses[before.length]? =
      some (request.perform service (run service before p).process).1 := by
  rw [run_append, ← length_responses before p, List.getElem?_append_right (Nat.le_refl _),
    Nat.sub_self]
  rfl

theorem mem_calls_run_iff {requests : List Request} {p : Process τ} {call : Call} :
    call ∈ (run service requests p).calls ↔
      ∃ before request after, requests = before ++ request :: after ∧
        call ∈ request.sent service (run service before p).process := by
  induction requests generalizing p with
  | nil => simp [run]
  | cons first rest ih =>
      simp only [run, List.mem_append, ih]
      constructor
      · intro h
        rcases h with hnow | ⟨before, request, after, rfl, hlater⟩
        · exact ⟨[], first, rest, rfl, hnow⟩
        · exact ⟨first :: before, request, after, rfl, hlater⟩
      · intro h
        obtain ⟨before, request, after, hsplit, hsent⟩ := h
        cases before with
        | nil =>
            cases hsplit
            exact .inl hsent
        | cons first' before =>
            cases hsplit
            exact .inr ⟨before, request, after, rfl, hsent⟩

end

end SmcKeys.Foreign
