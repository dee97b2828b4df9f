import SmcKeys.Proofs.Fleet
import SmcKeys.Proofs.Hosting
import SmcKeys.Proofs.Reports

namespace SmcKeys

open Client (Job)

theorem Client.Job.operation_readInto (config : Config) (key : Code) (buffer other : Value) :
    operation ⟨config, .readInto key buffer⟩ = operation ⟨config, .readInto key other⟩ := rfl

namespace Foreign

/-- A call of a C function whose pointers are all there. -/
inductive Errand where
  | readKey (key : KeyText) (out : Value) (number : UInt32)
  | writeKey (value : Value) (number : UInt32)
  | keyFromIndex (index : UInt32) (out : KeyText) (number : UInt32)
  | keyInfo (key : UInt32) (out : Info) (number : UInt32)
  | cleanUp

namespace Errand

def request : Errand → Request
  | .readKey key out number => .readKey (some key) (some out) number
  | .writeKey value number => .writeKey (some value) number
  | .keyFromIndex index out number => .keyFromIndex index (some out) number
  | .keyInfo key out number => .keyInfo key (some out) number
  | .cleanUp => .cleanUp

def onFleet (buffer : SmcKeys.Value) : Errand → Fleet.Errand
  | .readKey key _ number => .request number ⟨{}, .readInto key.code buffer⟩
  | .writeKey value number => .request number ⟨{}, .write value.toValue⟩
  | .keyFromIndex index _ number => .request number ⟨{}, .keyAt index⟩
  | .keyInfo key _ number => .request number ⟨{}, .keyInfo ⟨key⟩⟩
  | .cleanUp => .reset

/-- What the call makes of what came of its errand on the fleet. -/
def image (errand : Errand) : Option (Outcome Client.Response) → Response
  | some outcome => errand.request.image outcome
  | none => .nothing

theorem job?_request (buffer : SmcKeys.Value) (errand : Errand) :
    (∃ number job job', errand.request.job? = some (number, job) ∧
      errand.onFleet buffer = .request number job' ∧ job'.operation = job.operation) ∨
    errand = .cleanUp := by
  cases errand with
  | cleanUp => exact .inr rfl
  | readKey key out number => exact .inl ⟨number, _, _, rfl, rfl, Job.operation_readInto ..⟩
  | writeKey value number => exact .inl ⟨number, _, _, rfl, rfl, rfl⟩
  | keyFromIndex index out number => exact .inl ⟨number, _, _, rfl, rfl, rfl⟩
  | keyInfo key out number => exact .inl ⟨number, _, _, rfl, rfl, rfl⟩

theorem perform_mirrors (service : Service τ) (buffer : SmcKeys.Value) (errand : Errand)
    (p : Process τ) :
    let fleet := Fleet.perform service.call p.toWorld (errand.onFleet buffer)
    (∃ outcome, fleet.outcomes = [outcome] ∧
      (errand.request.perform (hosted service) p).1 = errand.image outcome) ∧
    errand.request.sent (hosted service) p = fleet.calls ∧
    (errand.request.perform (hosted service) p).2.toWorld = fleet.world := by
  rcases job?_request buffer errand with ⟨number, job, job', hjob, hfleet, hsame⟩ | rfl
  -- The call works in the world that its process contains, as the client does.
  · have hrun := run_hosted service number job.operation p.clearError
    simp only [hfleet, Fleet.perform, hsame]
    refine ⟨⟨_, rfl, ?_⟩, ?_, ?_⟩
    · change _ = errand.image (some (job.operation.run _ p.clearError.toWorld).1)
      rw [hrun]
      exact Request.response_of_job? (hosted service) hjob p
    · exact Request.sent_hosted service hjob p
    · exact Request.toWorld_perform_hosted service hjob p
  · exact ⟨⟨none, rfl, rfl⟩, rfl, rfl⟩

theorem run_mirrors (service : Service τ) (buffer : SmcKeys.Value) (errands : List Errand)
    (p : Process τ) :
    let program := Foreign.run (hosted service) (errands.map request) p
    let fleet := Fleet.run service.call (errands.map (onFleet buffer)) p.toWorld
    program.responses = List.zipWith image errands fleet.outcomes ∧
      program.calls = fleet.calls ∧ program.process.toWorld = fleet.world := by
  induction errands generalizing p with
  | nil => exact ⟨rfl, rfl, rfl⟩
  | cons errand rest ih =>
      obtain ⟨⟨outcome, houtcome, himage⟩, hcalls, hworld⟩ :=
        perform_mirrors service buffer errand p
      obtain ⟨hresponses, hlater, hend⟩ := ih (errand.request.perform (hosted service) p).2
      rw [hworld] at hresponses hlater hend
      simp only [List.map_cons, Foreign.run, Fleet.run, houtcome]
      exact ⟨by rw [himage, hresponses]; rfl, by rw [hcalls, hlater], hend⟩

end Errand

end Foreign

/-- A C program without null pointers is the mirror image of clients with the default configuration
that share one cache. -/
theorem functions_mirror_clients (service : Service τ) (buffer : Value)
    (errands : List Foreign.Errand) (p : Foreign.Process (Recorder τ)) :
    let program := fun made : List Foreign.Errand =>
      Foreign.run (Foreign.hosted service.recording) (made.map Foreign.Errand.request) p
    let fleet := fun made : List Foreign.Errand =>
      Fleet.run service.recording.call (made.map (Foreign.Errand.onFleet buffer)) p.toWorld
    (program errands).responses =
        List.zipWith Foreign.Errand.image errands (fleet errands).outcomes ∧
      (program errands).process.controller = (fleet errands).world.controller ∧
      (program errands).process.controller.record.map Prod.snd =
        p.controller.record.map Prod.snd ++ (fleet errands).calls ∧
      ∀ sofar, sofar <+: errands →
        (program sofar).process.cache = (fleet sofar).world.cache := by
  intro program fleet
  have hmirrors := fun made => Foreign.Errand.run_mirrors service.recording buffer made p
  obtain ⟨hresponses, hcalls, hworld⟩ := hmirrors errands
  refine ⟨hresponses, congrArg World.controller hworld, ?_, ?_⟩
  · rw [← hcalls]
    exact Foreign.record_run service (errands.map Foreign.Errand.request) p
  · intro sofar _
    exact congrArg World.cache (hmirrors sofar).2.2

end SmcKeys
