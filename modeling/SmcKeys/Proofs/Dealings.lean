import SmcKeys.Proofs.Alone
import SmcKeys.Proofs.Ledger

namespace SmcKeys.Console

open Operation (calls)

namespace Command

variable {kit : Kit}

theorem eq_version_of_task {command : Command} {report : Report}
    (h : kit.task command = .ok (.immediate report)) : ∃ extended, command = .version extended := by
  cases command with
  | version extended => exact ⟨extended, rfl⟩
  | read text =>
      obtain ⟨key, -, hsteps⟩ := bind_eq_ok h
      cases hsteps
  | write text data =>
      obtain ⟨key, -, hrest⟩ := bind_eq_ok h
      obtain ⟨bytes, -, hsteps⟩ := bind_eq_ok hrest
      cases hsteps
  | info text =>
      obtain ⟨key, -, hsteps⟩ := bind_eq_ok h
      cases hsteps
  | keyAt index => cases h

def begun (number : UInt32) (t : τ) : World τ :=
  { log := [.connectionOpened number], controller := t }

/-- The ways of a command with a controller: its result, its demands, and what it leaves. -/
inductive Deals (kit : Kit) (service : Service τ) (command : Command) (t : τ) :
    Except Trouble Report → List Demand → τ → Prop where
  | unready {trouble : Trouble} (htask : kit.task command = .error trouble) :
      Deals kit service command t (.error trouble) [] t
  | immediate {report : Report} (htask : kit.task command = .ok (.immediate report)) :
      Deals kit service command t (.ok report) [] t
  | unopened {steps : Operation (Except Trouble Report)} {fault : Fault} {left : τ}
      (htask : kit.task command = .ok (.remote steps))
      (hopened : service.openNumber t = (.error fault, left)) :
      Deals kit service command t (.error (.notOpened fault)) [.opening] left
  | worked {steps : Operation (Except Trouble Report)} {number : UInt32} {found : τ}
      (htask : kit.task command = .ok (.remote steps))
      (hopened : service.openNumber t = (.ok number, found)) :
      Deals kit service command t
        (conclude (steps.run (.alone (service.call number)) (begun number found)).1)
        (.opening ::
          (calls (steps.trace (.alone (service.call number)) (begun number found))).map
            (.calling number) ++ [.closing number])
        (service.closeNumber number
          (steps.run (.alone (service.call number)) (begun number found)).2.controller).2

section

variable {service : Service τ} {w : World τ}

theorem acquire_inWorld_of_refused {fault : Fault} {t : τ}
    (h : service.openNumber w.controller = (.error fault, t)) :
    Connection.acquire service.inWorld w = (.error fault, { w with controller := t }) := by
  simp only [Connection.acquire, Service.inWorld, h]

theorem acquire_inWorld_of_opened {number : UInt32} {t : τ}
    (h : service.openNumber w.controller = (.ok number, t)) :
    Connection.acquire service.inWorld w =
      (.ok ⟨number, true⟩, { w with controller := t }.note (.connectionOpened number)) := by
  simp only [Connection.acquire, Service.inWorld, h]

theorem Course.deals {command : Command} {result : Except Trouble Report} {demands : List Demand}
    {left : World τ} (h : command.Course kit service.inWorld w result demands left)
    (hfresh : w.log = []) :
    command.Deals kit service w.controller result demands left.controller := by
  cases h with
  | unready htask => exact .unready htask
  | immediate htask => exact .immediate htask
  | @unopened steps fault left htask hacquire =>
      rcases hopened : service.openNumber w.controller with ⟨met | number, t⟩
      · cases (acquire_inWorld_of_refused hopened).symm.trans hacquire
        exact .unopened htask hopened
      · cases (acquire_inWorld_of_opened hopened).symm.trans hacquire
  | @worked steps number found s htask hacquire hbegun =>
      rcases hopened : service.openNumber w.controller with ⟨met | other, t⟩
      · cases (acquire_inWorld_of_refused hopened).symm.trans hacquire
      · cases (acquire_inWorld_of_opened hopened).symm.trans hacquire
        have hs : begun number t = s := by
          rw [← hbegun]
          simp only [World.note, World.withCache, hfresh]
          rfl
        rw [← hs]
        exact .worked htask hopened

end

end Command

theorem Exit.ofFailure_ne (failure : Failure) :
    ofFailure failure ≠ .success ∧ ofFailure failure ≠ .internal := by
  cases failure with
  | transport fault => rcases ofFault_eq fault with h | h <;> simp [ofFailure, h]
  | rejected key command status =>
      by_cases hstatus : status = .keyNotFound <;> simp [ofFailure, hstatus]
  | _ => simp [ofFailure]

theorem Exit.ofFault_ne (fault : Fault) :
    ofFault fault ≠ .success ∧ ofFault fault ≠ .internal := by
  rcases ofFault_eq fault with h | h <;> simp [h]

/-- The sources of a trouble, each with its exit. -/
inductive Trouble.Stems : Trouble → Exit → Prop where
  | failed {trouble : Trouble} {failure : Failure} (h : trouble.failure? = some failure) :
      Stems trouble (.ofFailure failure)
  | unopened (fault : Fault) : Stems (.notOpened fault) (.ofFault fault)
  | argument {trouble : Trouble} (h : trouble.OfArgument) : Stems trouble .usage
  | oversized (key : Code) (cause : Malformed) : Stems (.badValue key cause) .usage
  | panicked : Stems .panicked .internal

theorem Trouble.stems (trouble : Trouble) : trouble.Stems trouble.complaint.exit := by
  cases hfailure : trouble.failure? with
  | some failure =>
      rw [exit_of_failure? hfailure]
      exact .failed hfailure
  | none =>
      cases trouble with
      | infoFailed | readFailed | writeFailed | indexFailed => cases hfailure
      | badKey text cause => exact .argument (.key text cause)
      | emptyHex => exact .argument .noDigits
      | badHex text flaw => exact .argument (.digits text flaw)
      | badValue key cause => exact .oversized key cause
      | notOpened fault => exact .unopened fault
      | panicked => exact .panicked

theorem Trouble.exit_ne_success (trouble : Trouble) : trouble.complaint.exit ≠ .success := by
  have hstems := trouble.stems
  generalize trouble.complaint.exit = exit at hstems ⊢
  cases hstems with
  | failed => exact (Exit.ofFailure_ne _).1
  | unopened fault => exact (Exit.ofFault_ne fault).1
  | _ => simp

section

variable {kit : Kit} {format : Format} {lines : List String} {result : Except Trouble Report}

theorem Kit.exitCode_transcriptOf_eq_zero_iff :
    (kit.transcriptOf format lines result).exitCode = 0 ↔ ∃ report, result = .ok report := by
  rw [exitCode_transcriptOf]
  cases result with
  | ok report => exact iff_of_true rfl ⟨report, rfl⟩
  | error trouble =>
      refine iff_of_false ?_ (by simp)
      exact fun hzero => trouble.exit_ne_success (Exit.code_inj hzero)

theorem Kit.session_deals {environment : Option String} {arguments : List String}
    {line : CommandLine} (h : kit.Runs environment arguments line) (service : Service τ)
    (w : World τ) :
    let done := kit.session service.inWorld environment arguments w
    ∃ admits result, kit.filterFor environment line.logLevel = .returned admits ∧
      line.command.Deals kit service w.controller result
        (kit.demanded service.inWorld environment arguments w) done.2.controller ∧
      done.1 = kit.transcriptOf (line.format.getD (.default kit.terminal))
        ((done.2.log.filter admits).map (kit.logLine line.logStyle)) result := by
  intro done
  obtain ⟨admits, hfilter, hsession⟩ := h.session_eq service.inWorld w
  obtain ⟨result, left, hcourse, hperformed⟩ := h.exists_course service.inWorld w
  rw [hperformed] at hsession
  refine ⟨admits, result, hfilter, ?_, ?_⟩
  · rw [show done = _ from hsession]
    exact hcourse.deals rfl
  · rw [show done = _ from hsession]

end

end SmcKeys.Console
