import SmcKeys.Console.Session
import SmcKeys.Proofs.Bank
import SmcKeys.Proofs.Ledger

namespace SmcKeys

open Operation (calls)
open Client (declared infoRequest)
open Bench (Bank)

namespace Client

theorem exists_inquiry {site : Site σ} (config : Config) {key : Code} {s : σ}
    (hcaching : config.caching = true) (hfresh : (site.cache s).find? key = none) :
    ∃ reply, calls ((keyInfo config key).trace site s) =
        [⟨config.selector, (infoRequest key).encode, reply⟩] ∧
      ((∃ info, ((keyInfo config key).run site s).1 = .returned (.ok info)) ↔
        ∃ answer info, reply = .returned answer ∧ declared key answer = .ok info) := by
  have hfirst : ((keyInfo config key).trace site s).head? =
      some (.consulted key ((site.cache s).find? key) (!(site.cache s).isCreated)) := by
    rw [keyInfo_of_caching hcaching]
    rfl
  have hwalk := walk_keyInfo (Operation.walk_trace site (keyInfo config key) s)
  generalize (keyInfo config key).trace site s = steps at hwalk hfirst ⊢
  generalize ((keyInfo config key).run site s).1 = outcome at hwalk ⊢
  cases hwalk with
  | hit info fresh _ =>
      rw [hfresh] at hfirst
      cases hfirst
  | failed fresh answer failure _ hdeclared =>
      refine ⟨.returned answer, by simp, iff_of_false (by simp) ?_⟩
      intro h
      obtain ⟨other, info, hsame, hinfo⟩ := h
      cases hsame
      rw [hdeclared] at hinfo
      cases hinfo
  | broken fresh _ => exact ⟨.panicked, by simp, by simp⟩
  | settled fresh answer offered kept refreshed _ hdeclared =>
      exact ⟨.returned answer, by simp, iff_of_true ⟨_, rfl⟩ ⟨answer, offered, rfl, hdeclared⟩⟩
  | asked reply huncached =>
      rw [hcaching] at huncached
      cases huncached

end Client

namespace Console

section

variable {site : Site σ} {s : σ} {key : Code} {bytes : List UInt8}

theorem Command.calls_writeSteps_of_oversized (h : capacity < bytes.length) :
    calls ((writeSteps key bytes).trace site s) =
      calls ((Client.keyInfo {} key).trace site s) := by
  rw [writeSteps_eq]
  rcases hfound : ((Client.keyInfo {} key).run site s).1 with (failure | info) | _
  · rw [Operation.calls_bind_of_returned hfound]
    exact List.append_nil _
  · rw [Operation.calls_bind_of_returned hfound, writeOn_of_oversized key h]
    exact List.append_nil _
  · exact Operation.calls_bind_of_panicked hfound

theorem Command.run_writeSteps_of_oversized (h : capacity < bytes.length) {info : KeyInfo}
    (hfound : ((Client.keyInfo {} key).run site s).1 = .returned (.ok info)) :
    ((writeSteps key bytes).run site s).1 =
      .returned (.error (.badValue key (.oversized bytes.length capacity))) := by
  rw [writeSteps_eq, Operation.run_bind_of_returned hfound, writeOn_of_oversized key h]
  rfl

end

variable {kit : Kit}

/-- What is wrong with a command that exits with an error of usage, and its demands. -/
inductive Command.Misused (kit : Kit) (command : Command) : List Demand → Prop where
  | argument {trouble : Trouble} (htask : kit.task command = .error trouble) :
      Misused kit command []
  | oversized {key : Code} {bytes : List UInt8} {answer : Answer} {info : KeyInfo}
      (h : command.Oversized kit key bytes) (number : UInt32)
      (hdeclared : declared key answer = .ok info) :
      Misused kit command
        [.opening, .calling number ⟨2, (infoRequest key).encode, .returned answer⟩,
          .closing number]

theorem Command.task_of_oversized {command : Command} {key : Code} {bytes : List UInt8}
    (h : command.Oversized kit key bytes) :
    kit.task command = .ok (.remote (writeSteps key bytes)) ∧ capacity < bytes.length := by
  cases h with
  | write hkey hbytes hsize => exact ⟨task_of_write hkey hbytes, hsize⟩

theorem Command.exists_inquiry (service : Service (World τ)) (number : UInt32) {found s : World τ}
    (hbegun : found.withCache {} = s) (key : Code) :
    ∃ reply, calls ((Client.keyInfo {} key).trace (site service ⟨number, true⟩) s) =
        [⟨2, (infoRequest key).encode, reply⟩] ∧
      ((∃ info, ((Client.keyInfo {} key).run (site service ⟨number, true⟩) s).1 =
          .returned (.ok info)) ↔
        ∃ answer info, reply = .returned answer ∧ declared key answer = .ok info) := by
  have hmissing : ((site service ⟨number, true⟩).cache s).find? key = none := by
    rw [← hbegun]
    rfl
  exact Client.exists_inquiry {} rfl hmissing

section

variable {service : Service (World τ)} {command : Command} {w left : World τ}
  {result : Except Trouble Report} {demands : List Demand}

theorem Command.Course.misused (h : command.Course kit service w result demands left)
    (hexit : exitOf result = .usage) : command.Misused kit demands := by
  cases h with
  | unready htask => exact .argument htask
  | immediate htask => cases hexit
  | @unopened steps fault left htask hopened =>
      exact absurd hexit (Exit.ofFault_ne_usage fault)
  | @worked steps number found s htask hopened hbegun =>
      have htakes := takes_of_task htask
      rcases hrun : (steps.run (site service ⟨number, true⟩) s).1 with
        (trouble | report) | _
      · rw [hrun] at hexit
        rcases htakes.failure_or_oversized hrun with
          ⟨failure, hfailure⟩ | ⟨key, bytes, info, hoversized, rfl, hinfo⟩
        · exact absurd hexit (htakes.exit_ne_usage hrun hfailure)
        · obtain ⟨reply, hcalls, htold⟩ := exists_inquiry service number hbegun key
          obtain ⟨answer, info, rfl, hdeclared⟩ := htold.mp ⟨info, hinfo⟩
          rw [calls_writeSteps_of_oversized (task_of_oversized hoversized).2, hcalls]
          exact .oversized hoversized number hdeclared
      · rw [hrun] at hexit
        cases hexit
      · rw [hrun] at hexit
        cases hexit

theorem Command.Course.exit_of_misused (h : command.Course kit service w result demands left)
    (hmisused : command.Misused kit demands) : exitOf result = .usage := by
  cases h with
  | unready htask => exact (ofArgument_of_task htask).exit
  | immediate htask =>
      cases hmisused with
      | argument hunready => cases htask.symm.trans hunready
  | unopened htask hopened => cases hmisused
  | @worked steps number found s htask hopened hbegun =>
      generalize hdemands : _ ++ [Demand.closing number] = demands at hmisused
      cases hmisused with
      | argument hunready => cases htask.symm.trans hunready
      | @oversized key bytes answer info hoversized other hdeclared =>
          obtain ⟨hsteps, hsize⟩ := task_of_oversized hoversized
          cases htask.symm.trans hsteps
          obtain ⟨reply, hcalls, htold⟩ := exists_inquiry service number hbegun key
          rw [calls_writeSteps_of_oversized hsize, hcalls] at hdemands
          cases hdemands
          obtain ⟨info, hinfo⟩ := htold.mpr ⟨answer, info, rfl, hdeclared⟩
          rw [run_writeSteps_of_oversized hsize hinfo]
          rfl

end

/-- Arguments that are not in order are found out before anything is demanded; bytes that do not
fit, only once the key was asked about. -/
theorem usage_exit_iff (kit : Kit) (service : Service (World τ)) (environment : Option String)
    (arguments : List String) (w : World τ) :
    (kit.session service environment arguments w).1.exitCode = 64 ↔
      ∃ line, kit.Runs environment arguments line ∧
        line.command.Misused kit (kit.demanded service environment arguments w) := by
  rcases kit.session_course service environment arguments w with
    ⟨hnone, -, hcode⟩ | ⟨line, hruns, result, left, -, hcourse, hcode⟩
  · apply iff_of_false (hcode .usage (by simp))
    intro h
    obtain ⟨line, hruns, -⟩ := h
    exact hnone line hruns
  · constructor
    · intro hexit
      exact ⟨line, hruns, hcourse.misused (Exit.code_inj (hcode.symm.trans hexit))⟩
    · intro h
      obtain ⟨other, hother, hmisused⟩ := h
      obtain rfl := hruns.unique hother
      exact hcode.trans (congrArg Exit.code (hcourse.exit_of_misused hmisused))

/-- Thirty-three bytes for a key of two. -/
theorem not_every_usage_error_local :
    let kit := Kit.standard false
    ¬∀ (service : Service (World Bank)) (environment : Option String) (arguments : List String)
        (w : World Bank),
      (kit.session service environment arguments w).1.exitCode = 64 →
        kit.demanded service environment arguments w = [] := by
  intro kit hlocal
  let arguments :=
    ["write", "TC0P", "000000000000000000000000000000000000000000000000000000000000000000"]
  let start : World Bank :=
    { controller := [⟨⟨0x54433050⟩, { size := 2, type := ⟨0x73703738⟩ }, Payload.zero⟩] }
  have hexit : (kit.session Bank.service.inWorld none arguments start).1.exitCode = 64 := by
    decide +kernel
  have hlength : (kit.demanded Bank.service.inWorld none arguments start).length = 3 := by
    decide +kernel
  rw [hlocal _ _ _ _ hexit] at hlength
  cases hlength

end Console

end SmcKeys
