import SmcKeys.Console.Program
import SmcKeys.Proofs.Audit
import SmcKeys.Proofs.CommandFailures

namespace SmcKeys

open Operation (calls)

namespace World

def audited (demands : List Demand) (w : World τ) : World (Ledger τ) where
  cache := w.cache
  log := w.log
  controller := ⟨demands, w.controller⟩

def unaudited (w : World (Ledger τ)) : World τ where
  cache := w.cache
  log := w.log
  controller := w.controller.controller

def audit : Audit (World τ) (World (Ledger τ)) where
  audited := audited
  unaudited := unaudited
  demands w := w.controller.demands
  unaudited_audited _ _ := rfl
  demands_audited _ _ := rfl
  audited_unaudited _ := rfl

end World

def Service.inWorld (service : Service τ) : Service (World τ) where
  openNumber w :=
    let (opened, controller) := service.openNumber w.controller
    (opened, { w with controller })
  closeNumber number w :=
    let (closed, controller) := service.closeNumber number w.controller
    (closed, { w with controller })
  call number selector request w :=
    let (reply, controller) := service.call number selector request w.controller
    (reply, { w with controller })
  note event w := w.note event

def Service.audited (service : Service (World τ)) : Service (World (Ledger τ)) :=
  World.audit.service service

namespace Console

def Kit.demanded (kit : Kit) (service : Service (World τ)) (environment : Option String)
    (arguments : List String) (w : World τ) : List Demand :=
  (kit.session service.audited environment arguments (w.audited [])).2.controller.demands

def conclude : Outcome (Except Trouble Report) → Except Trouble Report
  | .returned result => result
  | .panicked => .error .panicked

namespace Command

section

variable {service : Service (World τ)} {steps : Operation (Except Trouble Report)}
  {w s : World τ}

theorem onConnection_of_fault {fault : Fault}
    (h : Connection.acquire service w = (.error fault, s)) :
    onConnection service steps w = (.error (.notOpened fault), s) := by
  rw [onConnection, h]

theorem onConnection_of_acquired {connection : Connection}
    (h : Connection.acquire service w = (.ok connection, s)) :
    onConnection service steps w =
      (conclude (steps.run (site service connection) (s.withCache {})).1,
        connection.drop service (steps.run (site service connection) (s.withCache {})).2) := by
  simp only [onConnection, h]
  obtain ⟨result | _, t⟩ := steps.run (site service connection) (s.withCache {})
  · rfl
  · rfl

theorem run_audited (service : Service (World τ)) (number : UInt32)
    (steps : Operation (Except Trouble Report)) (w : World (Ledger τ)) :
    steps.run (site service.audited ⟨number, true⟩) w =
      ((steps.run (site service ⟨number, true⟩) w.unaudited).1,
        (steps.run (site service ⟨number, true⟩) w.unaudited).2.audited
          (w.controller.demands ++
            (calls (steps.trace (site service ⟨number, true⟩) w.unaudited)).map
              (.calling number))) :=
  World.audit.run number (site service ⟨number, true⟩) steps w

theorem drop_audited (service : Service (World τ)) (number : UInt32) (demands : List Demand)
    (w : World τ) :
    Connection.drop service.audited ⟨number, true⟩ (w.audited demands) =
      (Connection.drop service ⟨number, true⟩ w).audited (demands ++ [.closing number]) :=
  World.audit.drop service (w.audited demands) number

end

/-- The ways of a command, with its result, its demands and what it leaves. -/
inductive Course (kit : Kit) (service : Service (World τ)) (command : Command) (w : World τ) :
    Except Trouble Report → List Demand → World τ → Prop where
  | unready {trouble : Trouble} (htask : kit.task command = .error trouble) :
      Course kit service command w (.error trouble) [] w
  | immediate {report : Report} (htask : kit.task command = .ok (.immediate report)) :
      Course kit service command w (.ok report) [] w
  | unopened {steps : Operation (Except Trouble Report)} {fault : Fault} {left : World τ}
      (htask : kit.task command = .ok (.remote steps))
      (hopened : Connection.acquire service w = (.error fault, left)) :
      Course kit service command w (.error (.notOpened fault)) [.opening] left
  | worked {steps : Operation (Except Trouble Report)} {number : UInt32} {found s : World τ}
      (htask : kit.task command = .ok (.remote steps))
      (hopened : Connection.acquire service w = (.ok ⟨number, true⟩, found))
      (hbegun : found.withCache {} = s) :
      Course kit service command w
        (conclude (steps.run (site service ⟨number, true⟩) s).1)
        (.opening :: (calls (steps.trace (site service ⟨number, true⟩) s)).map (.calling number) ++
          [.closing number])
        (Connection.drop service ⟨number, true⟩ (steps.run (site service ⟨number, true⟩) s).2)

theorem exists_course (kit : Kit) (service : Service (World τ)) (command : Command)
    (w : World (Ledger τ)) :
    ∃ result demands left, command.Course kit service w.unaudited result demands left ∧
      kit.perform service command w.unaudited = (result, left) ∧
      kit.perform service.audited command w =
        (result, left.audited (w.controller.demands ++ demands)) := by
  simp only [Kit.perform]
  cases htask : kit.task command with
  | error trouble => exact ⟨_, [], _, .unready htask, rfl, by rw [List.append_nil]; rfl⟩
  | ok task =>
      cases task with
      | immediate report => exact ⟨_, [], _, .immediate htask, rfl, by rw [List.append_nil]; rfl⟩
      | remote steps =>
          have haudited : Connection.acquire service.audited w = _ :=
            World.audit.acquire service w
          rcases hacquire : Connection.acquire service w.unaudited with ⟨fault | connection, s⟩
          · have hopened := haudited.trans (World.audit.adding_of_eq _ hacquire)
            exact ⟨_, _, _, .unopened htask hacquire, onConnection_of_fault hacquire,
              onConnection_of_fault hopened⟩
          · obtain ⟨number, owned⟩ := connection
            obtain rfl : owned = true := Connection.owned_of_acquire hacquire
            have hopened := haudited.trans (World.audit.adding_of_eq _ hacquire)
            refine ⟨_, _, _, .worked htask hacquire rfl, onConnection_of_acquired hacquire, ?_⟩
            refine (onConnection_of_acquired hopened).trans ?_
            rw [run_audited, drop_audited]
            change (_, World.audited (w.controller.demands ++ [.opening] ++ _ ++ _) _) = _
            simp only [List.append_assoc, List.cons_append, List.nil_append]
            rfl

end Command

def Kit.Runs (kit : Kit) (environment : Option String) (arguments : List String)
    (line : CommandLine) : Prop :=
  kit.parse arguments = .ok line ∧
    ∃ admits, kit.filterFor environment line.logLevel = .returned admits

section

variable {kit : Kit} {environment : Option String} {arguments : List String}
  {line : CommandLine}

theorem Kit.Runs.unique {other : CommandLine} (h : kit.Runs environment arguments line)
    (hother : kit.Runs environment arguments other) : line = other := by
  have hparse := h.1
  rw [hother.1] at hparse
  cases hparse
  rfl

/-- Only a filter of the environment can keep a command line from being run. -/
theorem Kit.runs_of_legible (hparse : kit.parse arguments = .ok line)
    (h : ∀ text, environment = some text → kit.givenFilter text ≠ .panicked) :
    kit.Runs environment arguments line := by
  refine ⟨hparse, ?_⟩
  cases environment with
  | none => exact ⟨_, rfl⟩
  | some text =>
      simp only [filterFor, Option.map_some]
      cases hgiven : kit.givenFilter text with
      | panicked => exact absurd hgiven (h text rfl)
      | returned given => cases given <;> exact ⟨_, rfl⟩

theorem Kit.session_of_panicked (hparse : kit.parse arguments = .ok line) {text : String}
    (h : kit.givenFilter text = .panicked) (service : Service (World σ)) (w : World σ) :
    kit.session service (some text) arguments w = (.aborted, w) := by
  simp only [session, hparse, filterFor, Option.map_some, h]

def exitOf : Except Trouble Report → Exit
  | .ok _ => .success
  | .error trouble => trouble.complaint.exit

theorem Exit.code_inj {exit other : Exit} (h : exit.code = other.code) : exit = other := by
  cases exit <;> cases other <;> first | rfl | cases h

theorem Kit.exitCode_refused_ne (refusal : Refusal) {exit : Exit} (h : exit ≠ .success) :
    (kit.refused refusal).exitCode ≠ exit.code := by
  have hcode : (kit.refused refusal).exitCode = 0 ∨ (kit.refused refusal).exitCode = 2 := by
    cases refusal <;> first | exact .inl rfl | exact .inr rfl
  intro hsame
  rw [hsame] at hcode
  cases exit <;> simp [Exit.code] at h hcode

end

def Kit.transcriptOf (kit : Kit) (format : Format) (lines : List String)
    (result : Except Trouble Report) : Transcript :=
  let ending := kit.ending format result
  { exitCode := ending.exit.code
    printed := ending.printed
    messages := lines ++ ending.complaint.toList
    panics := ending.panics }

section

variable {kit : Kit}

theorem Kit.exitCode_transcriptOf (format : Format) (lines : List String)
    (result : Except Trouble Report) :
    (kit.transcriptOf format lines result).exitCode = (exitOf result).code := by
  cases result <;> rfl

theorem Kit.Runs.session_eq {environment : Option String} {arguments : List String}
    {line : CommandLine} (h : kit.Runs environment arguments line) (service : Service (World σ))
    (w : World σ) :
    let performed := kit.perform service line.command { w with log := [] }
    ∃ admits, kit.filterFor environment line.logLevel = .returned admits ∧
      kit.session service environment arguments w =
        (kit.transcriptOf (line.format.getD (.default kit.terminal))
          ((performed.2.log.filter admits).map (kit.logLine line.logStyle)) performed.1,
          performed.2) := by
  obtain ⟨hparse, admits, hfilter⟩ := h
  refine ⟨admits, hfilter, ?_⟩
  simp only [session, hparse, hfilter, run]
  rfl

/-- A session runs a command line, or ends without doing anything and with no code of a command
that failed. -/
theorem Kit.session_cases (kit : Kit) (environment : Option String) (arguments : List String) :
    ((∀ line, ¬kit.Runs environment arguments line) ∧
      ∀ {σ : Type} (service : Service (World σ)) (w : World σ),
        (kit.session service environment arguments w).2 = w ∧
          ∀ exit : Exit, exit ≠ .success →
            (kit.session service environment arguments w).1.exitCode ≠ exit.code) ∨
      ∃ line, kit.Runs environment arguments line := by
  cases hparse : kit.parse arguments with
  | error refusal =>
      refine .inl ⟨?_, fun service w => ?_⟩
      · intro line hruns
        cases hparse.symm.trans hruns.1
      · simp only [session, hparse, true_and]
        exact fun exit => kit.exitCode_refused_ne refusal
  | ok line =>
      cases hfilter : kit.filterFor environment line.logLevel with
      | panicked =>
          refine .inl ⟨?_, fun service w => ?_⟩
          · intro other hruns
            obtain ⟨hother, admits, hadmitted⟩ := hruns
            cases hparse.symm.trans hother
            cases hfilter.symm.trans hadmitted
          · simp only [session, hparse, hfilter, true_and]
            intro exit _
            cases exit <;> simp [Transcript.aborted, Exit.code]
      | returned admits => exact .inr ⟨line, hparse, admits, hfilter⟩

theorem Kit.Runs.exists_course {environment : Option String} {arguments : List String}
    {line : CommandLine} (h : kit.Runs environment arguments line) (service : Service (World τ))
    (w : World τ) :
    ∃ result left, line.command.Course kit service { w with log := [] } result
        (kit.demanded service environment arguments w) left ∧
      kit.perform service line.command { w with log := [] } = (result, left) := by
  obtain ⟨result, demands, left, hcourse, hplain, haudited⟩ :=
    line.command.exists_course kit service (World.audited [] { w with log := [] })
  obtain ⟨admits, -, hsession⟩ := h.session_eq service.audited (w.audited [])
  have hdemanded : kit.demanded service environment arguments w = demands := by
    rw [demanded, hsession]
    exact congrArg (fun done => done.2.controller.demands) haudited
  rw [hdemanded]
  exact ⟨result, left, hcourse, hplain⟩

theorem Kit.session_course (kit : Kit) (service : Service (World τ)) (environment : Option String)
    (arguments : List String) (w : World τ) :
    let ended := (kit.session service environment arguments w).1
    let demands := kit.demanded service environment arguments w
    ((∀ line, ¬kit.Runs environment arguments line) ∧ demands = [] ∧
        ∀ exit : Exit, exit ≠ .success → ended.exitCode ≠ exit.code) ∨
      ∃ line, kit.Runs environment arguments line ∧ ∃ result left,
        kit.perform service line.command { w with log := [] } = (result, left) ∧
          line.command.Course kit service { w with log := [] } result demands left ∧
          ended.exitCode = (exitOf result).code := by
  intro ended demands
  rcases kit.session_cases environment arguments with ⟨hnone, hidle⟩ | ⟨line, hruns⟩
  · refine .inl ⟨hnone, ?_, (hidle service w).2⟩
    exact congrArg (fun w => w.controller.demands) (hidle service.audited (w.audited [])).1
  · obtain ⟨result, left, hcourse, hperformed⟩ := hruns.exists_course service w
    obtain ⟨admits, -, hsession⟩ := hruns.session_eq service w
    refine .inr ⟨line, hruns, result, left, hperformed, hcourse, ?_⟩
    rw [show ended = _ from congrArg Prod.fst hsession, hperformed, exitCode_transcriptOf]

end

end Console

end SmcKeys
