import SmcKeys.Proofs.LastError
import SmcKeys.Proofs.Ledger

namespace SmcKeys

open Operation (calls)
open Client (Job)

def Demand.closed? : Demand → Option UInt32
  | .closing number => some number
  | _ => none

theorem Demand.closed?_eq_some_iff {demand : Demand} {number : UInt32} :
    demand.closed? = some number ↔ demand = .closing number := by
  cases demand with
  | opening => simp [closed?]
  | calling other call => simp [closed?]
  | closing other => simp [closed?]

namespace Foreign

namespace Process

def audited (demands : List Demand) (p : Process τ) : Process (Ledger τ) where
  toWorld := p.toWorld.audited demands
  lastError := p.lastError

def unaudited (p : Process (Ledger τ)) : Process τ where
  toWorld := p.toWorld.unaudited
  lastError := p.lastError

def audit : Audit (Process τ) (Process (Ledger τ)) where
  audited := audited
  unaudited := unaudited
  demands p := p.controller.demands
  unaudited_audited _ _ := rfl
  demands_audited _ _ := rfl
  audited_unaudited _ := rfl

theorem told_audited (demands : List Demand) (breakdown? : Option Breakdown) (p : Process τ) :
    (p.audited demands).told breakdown? = (p.told breakdown?).audited demands := by
  cases breakdown? with
  | none => rfl
  | some breakdown => rfl

end Process

def audited (service : Service (Process τ)) : Service (Process (Ledger τ)) :=
  Process.audit.service service

def Request.closed? : Request → Option UInt32
  | .closeConnection number => some number
  | _ => none

theorem Request.closed?_eq_some_iff {request : Request} {number : UInt32} :
    request.closed? = some number ↔ request = .closeConnection number := by
  cases request with
  | closeConnection other => simp [closed?]
  | _ => simp [closed?]

def Request.demands (service : Service (Process τ)) (p : Process τ) (request : Request) :
    List Demand :=
  match request with
  | .openConnection (some _) => [.opening]
  | .closeConnection number => [.closing number]
  | request =>
      match request.job? with
      | some (number, _) => (request.sent service p).map (.calling number)
      | none => []

def demands (service : Service (Process τ)) : List Request → Process τ → List Demand
  | [], _ => []
  | request :: rest, p =>
      request.demands service p ++ demands service rest (request.perform service p).2

section

variable {service : Service (Process τ)}

namespace Request

variable {request : Request} {number : UInt32} {job : Job}

theorem demands_of_job? (h : request.job? = some (number, job)) (p : Process τ) :
    request.demands service p = (request.sent service p).map (.calling number) := by
  cases request with
  | openConnection out => cases h
  | closeConnection number => cases h
  | _ => simp only [demands, h]

theorem closed?_of_job? (h : request.job? = some (number, job)) : request.closed? = none := by
  cases request with
  | closeConnection number => cases h
  | _ => rfl

theorem perform_openConnection_audited (before : UInt32) (p : Process (Ledger τ)) :
    perform (audited service) p (.openConnection (some before)) =
      (perform service p.unaudited (.openConnection (some before))).map id
        (Process.audited (p.controller.demands ++ [.opening])) := by
  have hopened : Connection.acquire (audited service) p.clearError =
      (Connection.acquire service p.unaudited.clearError).map id
        (Process.audited (p.controller.demands ++ [.opening])) :=
    Process.audit.acquire service p.clearError
  simp only [perform, Foreign.openConnection, hopened]
  obtain ⟨fault | connection, q⟩ := Connection.acquire service p.unaudited.clearError
  · rfl
  · rfl

theorem perform_opened {before : UInt32} {p : Process τ}
    (h : (service.openNumber p.clearError).1 = .ok number) :
    (perform service p (.openConnection (some before))).1 = .opened .success (some number) := by
  have hopened : service.openNumber p.clearError =
      (.ok number, (service.openNumber p.clearError).2) := Prod.ext h rfl
  simp only [perform, Foreign.openConnection, Connection.acquire]
  rw [hopened]

theorem perform_closeConnection_audited (number : UInt32) (p : Process (Ledger τ)) :
    perform (audited service) p (.closeConnection number) =
      (perform service p.unaudited (.closeConnection number)).map id
        (Process.audited (p.controller.demands ++ [.closing number])) := by
  have hclosed : (Connection.adopted number).close (audited service) p.clearError =
      ((Connection.adopted number).close service p.unaudited.clearError).map id
        (Process.audited (p.controller.demands ++ [.closing number])) :=
    Process.audit.close service p.clearError (.adopted number)
  simp only [perform, Foreign.closeConnection, hclosed]
  obtain ⟨fault | closed, q⟩ := (Connection.adopted number).close service p.unaudited.clearError
  · rfl
  · rfl

theorem perform_eq (h : request.job? = some (number, job)) (p : Process τ) :
    let ended := job.operation.run (site service (.borrowed number)) p.clearError
    request.perform service p =
      (request.image ended.1, ended.2.told (ended.1.breakdown? Client.Response.failure?)) := by
  intro ended
  exact Prod.ext (response_of_job? service h p) (snd_perform h p)

theorem perform_audited_of_job? (h : request.job? = some (number, job))
    (p : Process (Ledger τ)) :
    request.perform (audited service) p =
      (request.perform service p.unaudited).map id
        (Process.audited (p.controller.demands ++ request.demands service p.unaudited)) := by
  have hsent : request.sent service p.unaudited =
      calls (job.operation.trace (site service (.borrowed number)) p.unaudited.clearError) := by
    simp only [sent, h]
  have hrun : job.operation.run (site (audited service) (.borrowed number)) p.clearError = _ :=
    Process.audit.run number (site service (.borrowed number)) job.operation p.clearError
  rw [perform_eq h, perform_eq h, hrun, demands_of_job? h, hsent]
  exact Prod.ext rfl (Process.told_audited _ _ _)

theorem perform_audited_of_complaint? (service : Service (Process τ)) {complaint : String}
    (h : request.complaint? = some complaint) (p : Process (Ledger τ)) :
    request.demands service p.unaudited = [] ∧
      request.perform (audited service) p =
        (request.perform service p.unaudited).map id (Process.audited p.controller.demands) := by
  unfold complaint? at h
  split at h <;> cases h <;> exact ⟨rfl, rfl⟩

theorem perform_audited_of_not_reports (service : Service (Process τ)) (h : ¬request.Reports)
    (p : Process (Ledger τ)) :
    request.demands service p.unaudited = [] ∧
      request.perform (audited service) p =
        (request.perform service p.unaudited).map id (Process.audited p.controller.demands) := by
  cases request with
  | cleanUp => exact ⟨rfl, rfl⟩
  | codeOfText text => exact ⟨rfl, rfl⟩
  | textOfCode code out => exact ⟨rfl, rfl⟩
  | _ => exact absurd trivial h

theorem perform_audited (request : Request) (p : Process (Ledger τ)) :
    request.perform (audited service) p =
      (request.perform service p.unaudited).map id
        (Process.audited (p.controller.demands ++ request.demands service p.unaudited)) := by
  by_cases hreports : request.Reports
  · rcases cases_of_reports hreports with
      ⟨number, job, hjob⟩ | ⟨before, rfl⟩ | ⟨number, rfl⟩ | ⟨complaint, hcomplaint⟩
    · exact perform_audited_of_job? hjob p
    · exact perform_openConnection_audited before p
    · exact perform_closeConnection_audited number p
    · obtain ⟨hnothing, hsame⟩ := perform_audited_of_complaint? service hcomplaint p
      rw [hnothing, List.append_nil, hsame]
  · obtain ⟨hnothing, hsame⟩ := perform_audited_of_not_reports service hreports p
    rw [hnothing, List.append_nil, hsame]

/-- A call demands a closing if and only if it is a call to close, and then one. -/
theorem closings_demands (request : Request) (p : Process τ) :
    (request.demands service p).filterMap Demand.closed? = request.closed?.toList := by
  cases hjob : request.job? with
  | some behind =>
      rw [demands_of_job? hjob, closed?_of_job? hjob, List.filterMap_map]
      exact List.filterMap_eq_nil_iff.mpr fun _ _ => rfl
  | none =>
      cases request with
      | openConnection out => cases out <;> rfl
      | closeConnection number => rfl
      | _ => simp only [demands, hjob]; rfl

end Request

theorem demands_append (first rest : List Request) (p : Process τ) :
    demands service (first ++ rest) p =
      demands service first p ++ demands service rest (run service first p).process := by
  induction first generalizing p with
  | nil => rfl
  | cons request first ih => simp only [List.cons_append, demands, run, ih, List.append_assoc]

theorem closings_demands (requests : List Request) (p : Process τ) :
    (demands service requests p).filterMap Demand.closed? = requests.filterMap Request.closed? := by
  induction requests generalizing p with
  | nil => rfl
  | cons request rest ih =>
      rw [demands, List.filterMap_append, Request.closings_demands, ih]
      cases request with
      | closeConnection number => rfl
      | _ => rfl

theorem closing_mem_demands_iff {requests : List Request} {p : Process τ} {number : UInt32} :
    .closing number ∈ demands service requests p ↔ .closeConnection number ∈ requests := by
  have hdemanded : number ∈ (demands service requests p).filterMap Demand.closed? ↔
      .closing number ∈ demands service requests p := by
    simp [List.mem_filterMap, Demand.closed?_eq_some_iff]
  rw [← hdemanded, closings_demands]
  simp [List.mem_filterMap, Request.closed?_eq_some_iff]

theorem program_audited (service : Service (Process τ)) (requests : List Request) (p : Process τ)
    (before : List Demand) :
    (run (audited service) requests (p.audited before)).responses =
        (run service requests p).responses ∧
      (run (audited service) requests (p.audited before)).process =
        (run service requests p).process.audited (before ++ demands service requests p) := by
  induction requests generalizing p before with
  | nil =>
      rw [demands, List.append_nil]
      exact ⟨rfl, rfl⟩
  | cons request rest ih =>
      have hfirst : request.perform (audited service) (p.audited before) =
          (request.perform service p).map id
            (Process.audited (before ++ request.demands service p)) :=
        request.perform_audited (p.audited before)
      obtain ⟨hresponses, hprocess⟩ :=
        ih (request.perform service p).2 (before ++ request.demands service p)
      simp only [run, hfirst, Prod.map_fst, Prod.map_snd, id_eq, hresponses, hprocess, demands,
        List.append_assoc, and_self]

end

/-- Closings are demanded by calls to close alone, one by each, whatever comes of them and of the
calls between them. -/
theorem closed_by_callers_alone (service : Service (Process τ)) (requests : List Request)
    (p : Process τ) :
    let plain := run service requests p
    let kept := run (audited service) requests (p.audited [])
    kept.responses = plain.responses ∧ kept.process.unaudited = plain.process ∧
      kept.process.controller.demands.filterMap Demand.closed? =
        requests.filterMap Request.closed? ∧
      ∀ before out later number, requests = before ++ .openConnection (some out) :: later →
        (service.openNumber (run service before p).process.clearError).1 = .ok number →
        plain.responses[before.length]? = some (.opened .success (some number)) ∧
          ∃ since,
            kept.process.controller.demands =
              (run (audited service) before (p.audited [])).process.controller.demands ++
                .opening :: since ∧
            (.closing number ∈ since ↔ .closeConnection number ∈ later) := by
  intro plain kept
  obtain ⟨hresponses, hprocess⟩ := program_audited service requests p []
  have hdemands : kept.process.controller.demands = demands service requests p :=
    congrArg (fun p => p.controller.demands) hprocess
  refine ⟨hresponses, congrArg Process.unaudited hprocess, ?_, ?_⟩
  · rw [hdemands, closings_demands]
  · rintro before out later number rfl hopened
    have hbefore : (run (audited service) before (p.audited [])).process.controller.demands =
        demands service before p :=
      congrArg (fun p => p.controller.demands) (program_audited service before p []).2
    refine ⟨?_, demands service later
      ((Request.openConnection (some out)).perform service (run service before p).process).2, ?_,
      closing_mem_demands_iff⟩
    · rw [getElem?_responses, Request.perform_opened hopened]
    · rw [hdemands, hbefore, demands_append]
      rfl

/-- After the panic the connection is still open, and its closing, which is refused, is not tried
again. -/
theorem panicked_read_leaves_connection_open :
    let service : Service (Process Unit) :=
      { Service.absent (fun _ p => p) with
        openNumber := fun p => (.ok 7, p)
        call := fun _ _ _ p => (.panicked, p) }
    let before : Value := .ofValue { key := ⟨7⟩, size := 1, type := ⟨8⟩ }
    let opening : Request := .openConnection (some 0)
    let reading : Request := .readKey (some (.ofCode ⟨0x54433050⟩)) (some before) 7
    let p : Process Unit := { controller := () }
    let left := run (audited service) [opening, reading] (p.audited [])
    let closed := run (audited service) [opening, reading, .closeConnection 7] (p.audited [])
    left.responses =
        [.opened .success (some 7), .value ⟨⟨.badArgument, .error⟩, some before⟩] ∧
      .closing 7 ∉ left.process.controller.demands ∧
      closed.responses = left.responses ++ [.closed .unsupported] ∧
      closed.process.controller.demands.filterMap Demand.closed? = [7] := by
  intro service before opening reading p left closed
  obtain ⟨hleft, -, hnone, hopened⟩ := closed_by_callers_alone service [opening, reading] p
  obtain ⟨hclosed, -, hone, -⟩ :=
    closed_by_callers_alone service [opening, reading, .closeConnection 7] p
  obtain ⟨-, since, hdemands, hsince⟩ := hopened [] 0 [reading] 7 rfl rfl
  refine ⟨hleft.trans rfl, ?_, ?_, hone⟩
  · have hstays : .closing 7 ∉ since := fun hmem => absurd (hsince.mp hmem) (by simp [reading])
    rw [hdemands]
    simpa [audited, run, Process.audited, World.audited] using hstays
  · rw [hclosed, hleft]
    rfl

end Foreign

end SmcKeys
