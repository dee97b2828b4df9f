import SmcKeys.Console.Session
import SmcKeys.Proofs.Bank
import SmcKeys.Proofs.Ledger

namespace SmcKeys.Console

open Operation (calls)
open Bench (Bank)

def Answered (demands : List Demand) (status : ControllerStatus) : Prop :=
  ∃ number call frame, Demand.calling number call ∈ demands ∧
    call.reply = .returned (.ok frame) ∧ (Packet.decode frame).result = status

def Kit.Fails (kit : Kit) (service : Service (World σ)) (environment : Option String)
    (arguments : List String) (w : World σ) (failure : Failure) : Prop :=
  ∃ line, kit.Runs environment arguments line ∧
    resultFailure? (kit.perform service line.command { w with log := [] }).1 = some failure

variable {kit : Kit}

theorem Kit.fails_iff {service : Service (World σ)} {environment : Option String}
    {arguments : List String} {line : CommandLine} (h : kit.Runs environment arguments line)
    (w : World σ) (failure : Failure) :
    kit.Fails service environment arguments w failure ↔
      resultFailure? (kit.perform service line.command { w with log := [] }).1 =
        some failure := by
  constructor
  · intro hfails
    obtain ⟨other, hother, hresult⟩ := hfails
    obtain rfl := h.unique hother
    exact hresult
  · exact fun hresult => ⟨line, h, hresult⟩

theorem exitOf_eq_iff {result : Except Trouble Report} {exit : Exit}
    (h : exit = .dataInvalid ∨ exit = .failure) :
    exitOf result = exit ↔
      ∃ failure, resultFailure? result = some failure ∧ Exit.ofFailure failure = exit := by
  cases result with
  | ok report =>
      refine iff_of_false ?_ (by simp [resultFailure?])
      intro hexit
      subst hexit
      simp [exitOf] at h
  | error trouble =>
      simp only [exitOf, resultFailure?]
      cases hfailure : trouble.failure? with
      | none =>
          obtain ⟨hinvalid, hfailed⟩ := Trouble.exit_of_no_failure hfailure
          refine iff_of_false ?_ (by simp)
          intro hexit
          subst hexit
          exact h.elim hinvalid hfailed
      | some failure => simp [Trouble.exit_of_failure? hfailure]

theorem resultFailure?_conclude {outcome : Outcome (Except Trouble Report)} {failure : Failure} :
    resultFailure? (conclude outcome) = some failure ↔
      outcome.breakdown? resultFailure? = some (.returned failure) := by
  rcases outcome with (trouble | report) | _
  · simp [conclude, Outcome.breakdown?]
  · simp [conclude, Outcome.breakdown?, resultFailure?]
  · simp [conclude, Outcome.breakdown?, resultFailure?, Trouble.failure?]

section

variable {service : Service (World τ)} {command : Command} {w left : World τ}
  {result : Except Trouble Report} {demands : List Demand}

theorem Command.Course.exists_refuses (h : command.Course kit service w result demands left) :
    ∃ refuses : Failure → Prop, (∀ failure, refuses failure → failure.IsMismatch) ∧
      ∀ failure, resultFailure? result = some failure ↔
        (∃ number call, Demand.calling number call ∈ demands ∧
          call.breakdown? = some (.returned failure)) ∨ refuses failure := by
  have hnone : ∀ failure, refusesNone failure → failure.IsMismatch := fun _ => False.elim
  cases h with
  | unready htask =>
      have hfailure := (ofArgument_of_task htask).failure?
      exact ⟨refusesNone, hnone, by simp [refusesNone, resultFailure?, hfailure]⟩
  | immediate htask => exact ⟨refusesNone, hnone, by simp [refusesNone, resultFailure?]⟩
  | unopened htask hopened =>
      exact ⟨refusesNone, hnone, by simp [refusesNone, resultFailure?, Trouble.failure?]⟩
  | @worked steps number found s htask hopened hbegun =>
      let place := site service ⟨number, true⟩
      obtain ⟨refuses, hmismatch, haccords⟩ := (takes_of_task htask).exists_accords place s
      refine ⟨refuses, hmismatch, fun failure => ?_⟩
      have hmade : ∀ other call, Demand.calling other call ∈
          .opening :: (calls (steps.trace place s)).map (.calling number) ++ [.closing number] ↔
            call ∈ calls (steps.trace place s) ∧ number = other := by
        simp
      rw [resultFailure?_conclude, haccords.eq_some_iff]
      apply or_congr
      · constructor
        · intro hbroken
          obtain ⟨call, hcall, hfailure⟩ := hbroken
          exact ⟨number, call, (hmade _ _).mpr ⟨hcall, rfl⟩, hfailure⟩
        · intro hbroken
          obtain ⟨other, call, hcall, hfailure⟩ := hbroken
          exact ⟨call, ((hmade _ _).mp hcall).1, hfailure⟩
      · simp

theorem Command.Course.rejected_iff (h : command.Course kit service w result demands left)
    (status : ControllerStatus) :
    (∃ key command, resultFailure? result = some (.rejected key command status)) ↔
      status ≠ .success ∧ Answered demands status := by
  obtain ⟨refuses, hmismatch, hfailure⟩ := h.exists_refuses
  constructor
  · intro hrejected
    obtain ⟨key, command, hresult⟩ := hrejected
    rcases (hfailure _).mp hresult with ⟨number, call, hcall, hbroken⟩ | hrefused
    · rcases Call.breakdown?_eq_failed_iff.mp hbroken with
        ⟨fault, -, hsame⟩ | ⟨frame, hreply, hstatus, hsame⟩
      · cases hsame
      · cases hsame
        exact ⟨hstatus, number, call, frame, hcall, hreply, rfl⟩
    · obtain ⟨key, expected, actual, -, hsame⟩ := hmismatch _ hrefused
      cases hsame
  · intro hanswered
    obtain ⟨hstatus, number, call, frame, hcall, hreply, rfl⟩ := hanswered
    have hbroken := Call.breakdown?_eq_failed_iff.mpr (.inr ⟨frame, hreply, hstatus, rfl⟩)
    exact ⟨_, _, (hfailure _).mpr (.inl ⟨number, call, hcall, hbroken⟩)⟩

/-- No call is answered with a mismatch of shapes; the shapes of one that is refused differ. -/
theorem Command.Course.isMismatch (h : command.Course kit service w result demands left)
    {key : Code} {expected actual : Shape}
    (hresult : resultFailure? result = some (.mismatch key expected actual)) :
    (Failure.mismatch key expected actual).IsMismatch := by
  obtain ⟨refuses, hmismatch, hfailure⟩ := h.exists_refuses
  rcases (hfailure _).mp hresult with ⟨number, call, hcall, hbroken⟩ | hrefused
  · rcases Call.breakdown?_eq_failed_iff.mp hbroken with ⟨fault, -, hsame⟩ | ⟨frame, -, -, hsame⟩
    · cases hsame
    · cases hsame
  · exact hmismatch _ hrefused

theorem Command.Course.exit_eq_dataInvalid_iff
    (h : command.Course kit service w result demands left) :
    exitOf result = .dataInvalid ↔
      Answered demands .keyNotFound ∨
        ∃ failure, resultFailure? result = some failure ∧ failure.IsMismatch := by
  have hunknown : ControllerStatus.keyNotFound ≠ .success := by decide
  rw [exitOf_eq_iff (.inl rfl)]
  constructor
  · intro hexit
    obtain ⟨failure, hresult, hclass⟩ := hexit
    rcases (Exit.ofFailure_eq_dataInvalid_iff failure).mp hclass with
      ⟨key, command, rfl⟩ | ⟨key, expected, actual, rfl⟩
    · exact .inl ((h.rejected_iff _).mp ⟨key, command, hresult⟩).2
    · exact .inr ⟨_, hresult, h.isMismatch hresult⟩
  · intro hcause
    rcases hcause with hanswered | ⟨failure, hresult, key, expected, actual, -, rfl⟩
    · obtain ⟨key, command, hresult⟩ := (h.rejected_iff _).mpr ⟨hunknown, hanswered⟩
      exact ⟨_, hresult, rfl⟩
    · exact ⟨_, hresult, rfl⟩

theorem Command.Course.exit_eq_failure_iff (h : command.Course kit service w result demands left) :
    exitOf result = .failure ↔
      ∃ status, status ≠ .success ∧ status ≠ .keyNotFound ∧ Answered demands status := by
  rw [exitOf_eq_iff (.inr rfl)]
  constructor
  · intro hexit
    obtain ⟨failure, hresult, hclass⟩ := hexit
    obtain ⟨key, command, status, rfl, hknown⟩ :=
      (Exit.ofFailure_eq_failure_iff failure).mp hclass
    obtain ⟨hstatus, hanswered⟩ := (h.rejected_iff _).mp ⟨key, command, hresult⟩
    exact ⟨status, hstatus, hknown, hanswered⟩
  · intro hcause
    obtain ⟨status, hstatus, hknown, hanswered⟩ := hcause
    obtain ⟨key, command, hresult⟩ := (h.rejected_iff _).mpr ⟨hstatus, hanswered⟩
    exact ⟨_, hresult, (Exit.ofFailure_eq_failure_iff _).mpr ⟨key, command, status, rfl, hknown⟩⟩

end

/-- Two status pairs exit for invalid data, that of an unknown key and that of a refused value. A
mismatch that the controller answers is a plain failure. -/
theorem data_invalid_exit_iff (kit : Kit) (service : Service (World τ))
    (environment : Option String) (arguments : List String) (w : World τ) :
    let ended := (kit.session service environment arguments w).1
    let demands := kit.demanded service environment arguments w
    (ended.exitCode = 60 ↔
      ∃ failure, kit.Fails service environment arguments w failure ∧
        (failure.status = ⟨.success, .keyNotFound⟩ ∨
          failure.status = ⟨.badArgument, .dataTypeMismatch⟩)) ∧
    (ended.exitCode = 60 ↔
      Answered demands .keyNotFound ∨
        ∃ failure, kit.Fails service environment arguments w failure ∧ failure.IsMismatch) ∧
    (ended.exitCode = 1 ↔
      ∃ status, status ≠ .success ∧ status ≠ .keyNotFound ∧ Answered demands status) := by
  intro ended demands
  rcases kit.session_course service environment arguments w with
    ⟨hnone, hdemands, hcode⟩ | ⟨line, hruns, result, left, hperformed, hcourse, hcode⟩
  · have hempty : demands = [] := hdemands
    have hfails : ∀ failure, ¬kit.Fails service environment arguments w failure := by
      intro failure h
      obtain ⟨line, hruns, -⟩ := h
      exact hnone line hruns
    have hanswered : ∀ status, ¬Answered demands status := by
      intro status h
      obtain ⟨number, call, frame, hcall, -⟩ := h
      rw [hempty] at hcall
      cases hcall
    have hinvalid : ended.exitCode ≠ 60 := hcode .dataInvalid (by simp)
    have hfailure : ended.exitCode ≠ 1 := hcode .failure (by simp)
    simp [hfails, hanswered, hinvalid, hfailure]
  · have hexit : ∀ exit : Exit, ended.exitCode = exit.code ↔ exitOf result = exit := by
      intro exit
      rw [hcode]
      exact ⟨Exit.code_inj, congrArg Exit.code⟩
    simp only [Kit.fails_iff hruns, hperformed]
    refine ⟨(hexit .dataInvalid).trans ?_, (hexit .dataInvalid).trans ?_,
      (hexit .failure).trans ?_⟩
    · simp only [exitOf_eq_iff (.inl rfl), Exit.ofFailure_eq_dataInvalid_iff_status]
    · exact hcourse.exit_eq_dataInvalid_iff
    · exact hcourse.exit_eq_failure_iff

/-- The controller answers a read of a key by reporting a mismatch. -/
theorem not_every_mismatch_exits_invalid :
    let kit := Kit.standard false
    ¬∀ (service : Service (World Bank)) (environment : Option String) (arguments : List String)
        (w : World Bank),
      (kit.session service environment arguments w).1.exitCode = 60 ↔
        ∃ failure, kit.Fails service environment arguments w failure ∧
          (failure.status.controller = .keyNotFound ∨
            failure.status.controller = .dataTypeMismatch) := by
  intro kit hclaim
  let answer : Frame := Packet.encode { result := .dataTypeMismatch }
  let service : Service (World Bank) :=
    { Bank.service.inWorld with call := fun _ _ _ w => (.returned (.ok answer), w) }
  let start : World Bank := { controller := [] }
  let line : CommandLine :=
    { format := none, logStyle := .text, logLevel := .warn, command := .read "TC0P" }
  have hparse : kit.parse ["read", "TC0P"] = .ok line := by rfl
  have hfailed : resultFailure? (kit.perform service line.command { start with log := [] }).1 =
      some (.rejected ⟨0x54433050⟩ .readKeyInfo .dataTypeMismatch) := by decide +kernel
  have hexit : (kit.session service none ["read", "TC0P"] start).1.exitCode = 1 := by
    decide +kernel
  have hsixty := (hclaim service none ["read", "TC0P"] start).mpr
    ⟨_, ⟨line, ⟨hparse, _, rfl⟩, hfailed⟩, .inr rfl⟩
  rw [hexit] at hsixty
  cases hsixty

end SmcKeys.Console
