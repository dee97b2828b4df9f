import SmcKeys.Console.Session
import SmcKeys.Proofs.CacheEffect
import SmcKeys.Proofs.Findings
import SmcKeys.Proofs.Printing
import SmcKeys.Proofs.UsageErrors

namespace SmcKeys

open Operation (calls)
open Client (declared failureOf? infoRequest verdict)
open Bench (Bank)

def Call.Succeeds (call : Call) : Prop :=
  ∃ frame, call.reply = .returned (.ok frame) ∧ (Packet.decode frame).result = .success

theorem Call.breakdown?_eq_none_iff {call : Call} : call.breakdown? = none ↔ call.Succeeds := by
  obtain ⟨selector, request, reply⟩ := call
  rcases reply with (fault | frame) | _
  · simp [breakdown?, Succeeds]
  · by_cases hresult : (Packet.decode frame).result = .success <;>
      simp [breakdown?, Succeeds, ControllerStatus.isSuccess_iff, hresult]
  · simp [breakdown?, Succeeds]

theorem Accords.eq_none_iff {sent : List Call} {ending : Option Breakdown}
    (h : Accords refusesNone sent ending) :
    ending = none ↔ ∀ call ∈ sent, call.Succeeds := by
  constructor
  · rintro rfl call hcall
    exact Call.breakdown?_eq_none_iff.mp (h.eq_none_of_mem hcall)
  · intro hsucceeds
    cases hending : ending with
    | none => rfl
    | some breakdown =>
        rcases (h.eq_some_iff breakdown).mp hending with ⟨call, hcall, hbroken⟩ | ⟨_, -, hnone⟩
        · rw [Call.breakdown?_eq_none_iff.mpr (hsucceeds call hcall)] at hbroken
          cases hbroken
        · exact hnone.elim

theorem Call.succeeds_iff_verdict (selector : UInt32) (request : Packet) (answer : Answer) :
    Call.Succeeds ⟨selector, request.encode, .returned answer⟩ ↔
      ∃ response, verdict request answer = .ok response := by
  rw [← Call.breakdown?_eq_none_iff, ← Client.breakdown?_verdict]
  cases hverdict : verdict request answer with
  | ok response => simp [Outcome.map, Outcome.breakdown?, failureOf?, hverdict]
  | error failure => simp [Outcome.map, Outcome.breakdown?, failureOf?, hverdict]

theorem Call.succeeds_iff_declared (selector : UInt32) (key : Code) (answer : Answer) :
    Call.Succeeds ⟨selector, (infoRequest key).encode, .returned answer⟩ ↔
      ∃ info, declared key answer = .ok info := by
  rw [Call.succeeds_iff_verdict, declared]
  cases verdict (infoRequest key) answer with
  | ok response => simp [Except.map]
  | error failure => simp [Except.map]

theorem Call.declares_iff (selector : UInt32) (key : Code) (answer : Answer) (info : KeyInfo) :
    Call.Declares ⟨selector, (infoRequest key).encode, .returned answer⟩ key info ↔
      declared key answer = .ok info := by
  rw [Call.Declares, ← Client.success?_declared key, Outcome.map,
    Outcome.success?_returned_eq_some_iff]
  exact and_iff_right (Client.inquiry?_infoRequest key)

namespace Console

namespace Exit

theorem ofFault_eq_permissionDenied_iff (fault : Fault) :
    ofFault fault = .permissionDenied ↔ fault.code = .notPrivileged := by
  by_cases h : fault.code = .notPrivileged <;> simp [ofFault, h]

theorem ofFault_eq_transport_iff (fault : Fault) :
    ofFault fault = .transport ↔ fault.code ≠ .notPrivileged := by
  by_cases h : fault.code = .notPrivileged <;> simp [ofFault, h]

def OfFault (exit : Exit) : Prop :=
  exit = .permissionDenied ∨ exit = .transport

theorem not_ofFault_ofFailure {failure : Failure} (h : ∀ fault, failure ≠ .transport fault) :
    ¬(ofFailure failure).OfFault := by
  cases failure with
  | transport fault => exact absurd rfl (h fault)
  | rejected key command status =>
      by_cases hstatus : status = .keyNotFound <;> simp [ofFailure, OfFault, hstatus]
  | _ => simp [ofFailure, OfFault]

end Exit

def Trouble.fault? : Trouble → Option Fault
  | .notOpened fault => some fault
  | trouble =>
      match trouble.failure? with
      | some (.transport fault) => some fault
      | _ => none

theorem Trouble.fault?_of_failure? {trouble : Trouble} {failure : Failure}
    (h : trouble.failure? = some failure) (fault : Fault) :
    trouble.fault? = some fault ↔ failure = .transport fault := by
  cases trouble <;> cases h <;> cases failure <;> simp [fault?, failure?]

theorem Trouble.exit_of_fault? {trouble : Trouble} {fault : Fault}
    (h : trouble.fault? = some fault) : trouble.complaint.exit = .ofFault fault := by
  have hstems := trouble.stems
  generalize trouble.complaint.exit = exit at hstems ⊢
  cases hstems with
  | failed hfailure =>
      obtain rfl := (fault?_of_failure? hfailure fault).mp h
      rfl
  | unopened met =>
      cases h
      rfl
  | argument harg => cases harg <;> cases h
  | oversized => cases h
  | panicked => cases h

theorem Trouble.not_ofFault_of_no_fault {trouble : Trouble} (h : trouble.fault? = none) :
    ¬trouble.complaint.exit.OfFault := by
  have hstems := trouble.stems
  generalize trouble.complaint.exit = exit at hstems ⊢
  cases hstems with
  | failed hfailure =>
      apply Exit.not_ofFault_ofFailure
      rintro fault rfl
      rw [(fault?_of_failure? hfailure fault).mpr rfl] at h
      cases h
  | unopened fault => cases h
  | _ => simp [Exit.OfFault]

theorem Trouble.exit_eq_internal_iff (trouble : Trouble) :
    trouble.complaint.exit = .internal ↔ trouble = .panicked := by
  have hstems := trouble.stems
  generalize trouble.complaint.exit = exit at hstems ⊢
  cases hstems with
  | failed hfailure =>
      refine iff_of_false (Exit.ofFailure_ne _).2 ?_
      rintro rfl
      cases hfailure
  | unopened fault => exact iff_of_false (Exit.ofFault_ne fault).2 (by simp)
  | argument harg =>
      refine iff_of_false (by simp) ?_
      rintro rfl
      cases harg
  | oversized => simp
  | panicked => simp

def resultFault? : Except Trouble Report → Option Fault
  | .ok _ => none
  | .error trouble => trouble.fault?

section

variable {result : Except Trouble Report}

theorem exitOf_eq_internal_iff : exitOf result = .internal ↔ result = .error .panicked := by
  cases result with
  | ok report => simp [exitOf]
  | error trouble => simp [exitOf, trouble.exit_eq_internal_iff]

theorem exitOf_eq_iff_fault {exit : Exit} (h : exit.OfFault) :
    exitOf result = exit ↔
      ∃ fault, resultFault? result = some fault ∧ Exit.ofFault fault = exit := by
  cases result with
  | ok report =>
      refine iff_of_false ?_ (by simp [resultFault?])
      rintro rfl
      simp [exitOf, Exit.OfFault] at h
  | error trouble =>
      simp only [exitOf, resultFault?]
      cases hfault : trouble.fault? with
      | some fault => simp [Trouble.exit_of_fault? hfault]
      | none =>
          refine iff_of_false ?_ (by simp)
          rintro rfl
          exact Trouble.not_ofFault_of_no_fault hfault h

end

namespace Command

variable {kit : Kit}

section

variable {command : Command} {steps : Operation (Except Trouble Report)} {site : Site σ} {s : σ}

theorem Takes.trouble_cases {trouble : Trouble} (h : command.Takes kit steps)
    (hrun : (steps.run site s).1 = .returned (.error trouble)) :
    (∃ failure, trouble.failure? = some failure) ∨ ∃ key cause, trouble = .badValue key cause := by
  rcases h.failure_or_oversized hrun with hfailed | ⟨key, bytes, info, hoversized, rfl, hfound⟩
  · exact .inl hfailed
  · rw [run_writeSteps_of_oversized (task_of_oversized hoversized).2 hfound] at hrun
    cases hrun
    exact .inr ⟨_, _, rfl⟩

theorem Takes.panicked_iff (h : command.Takes kit steps) (site : Site σ) (s : σ) :
    conclude (steps.run site s).1 = .error .panicked ↔
      ∃ call ∈ calls (steps.trace site s), call.reply = .panicked := by
  obtain ⟨refuses, -, haccords⟩ := h.exists_accords site s
  rw [← haccords.eq_panicked_iff]
  rcases hrun : (steps.run site s).1 with (trouble | report) | _
  · refine iff_of_false ?_ (by simp)
    intro hpanicked
    cases hpanicked
    rcases h.trouble_cases hrun with ⟨failure, hfailure⟩ | ⟨key, cause, hsame⟩
    · cases hfailure
    · cases hsame
  · simp [conclude]
  · simp [conclude]

theorem Takes.fault_iff (h : command.Takes kit steps) (site : Site σ) (s : σ) (fault : Fault) :
    resultFault? (conclude (steps.run site s).1) = some fault ↔
      ∃ call ∈ calls (steps.trace site s), call.reply = .returned (.error fault) := by
  obtain ⟨refuses, hmismatch, haccords⟩ := h.exists_accords site s
  have hcall : ∀ call : Call, call.breakdown? = some (.returned (.transport fault)) ↔
      call.reply = .returned (.error fault) := by
    intro call
    rw [Call.breakdown?_eq_failed_iff]
    simp
  -- A value that is refused is no fault, so only a call can be to blame.
  have hrefused : ¬refuses (.transport fault) := by
    intro hrefuses
    obtain ⟨key, expected, actual, -, hsame⟩ := hmismatch _ hrefuses
    cases hsame
  have hbroken := haccords.eq_some_iff (.returned (.transport fault))
  simp only [hcall, Outcome.returned.injEq, exists_eq_left', hrefused, or_false] at hbroken
  rw [← hbroken]
  rcases hrun : (steps.run site s).1 with (trouble | report) | _
  · simp only [conclude, resultFault?, Outcome.breakdown?, resultFailure?]
    rcases h.trouble_cases hrun with ⟨failure, hfailure⟩ | ⟨key, cause, rfl⟩
    · simp [Trouble.fault?_of_failure? hfailure, hfailure]
    · simp [Trouble.fault?, Trouble.failure?]
  · simp [conclude, resultFault?, Outcome.breakdown?, resultFailure?]
  · simp [conclude, resultFault?, Outcome.breakdown?, Trouble.fault?, Trouble.failure?]

theorem Finishes.ok_iff {op : Operation (Except Failure α)}
    {finish : Except Failure α → Operation (Except Trouble Report)} {report : α → Report}
    {trouble : Failure → Trouble} (h : Finishes site finish report trouble)
    (hop : Accords refusesNone (Operation.calls (op.trace site s))
      ((op.run site s).1.breakdown? failureOf?)) :
    (∃ made, ((op >>= finish).run site s).1 = .returned (.ok made)) ↔
      ∀ call ∈ Operation.calls ((op >>= finish).trace site s), call.Succeeds := by
  rw [h.fst_run, h.calls_bind, ← hop.eq_none_iff]
  rcases (op.run site s).1 with (failure | a) | _
  · simp [Outcome.map, tell, Outcome.breakdown?, failureOf?]
  · simp [Outcome.map, tell, Outcome.breakdown?, failureOf?]
  · simp [Outcome.map, Outcome.breakdown?]

end

/-- Bytes that are to be written are as many as their key is declared to have, and a buffer has
room for them. -/
def Fits (kit : Kit) (sent : List Call) : Command → Prop
  | .write text data =>
      ∃ key bytes info, keyArgument text = .ok key ∧ kit.bytesArgument data = .ok bytes ∧
        (∃ call ∈ sent, call.Declares key info) ∧
        bytes.length = info.size.toNat ∧ bytes.length ≤ capacity
  | _ => True

theorem Writing.ok_iff {key : Code} {bytes : List UInt8} {sent : List Call}
    {outcome : Outcome (Except Trouble Report)} (h : Writing key bytes sent outcome) :
    (∃ report, outcome = .returned (.ok report)) ↔
      (∀ call ∈ sent, call.Succeeds) ∧
        ∃ info, (∃ call ∈ sent, call.Declares key info) ∧
          bytes.length = info.size.toNat ∧ bytes.length ≤ capacity := by
  cases h with
  | interrupted => simp [Call.Succeeds]
  | unknown hdeclared => simp [Call.succeeds_iff_declared, hdeclared]
  | @oversized answer info hdeclared hsize => simp [Nat.not_le.mpr hsize]
  | @mismatched answer info hdeclared hfits hsize =>
      simp [Call.declares_iff, hdeclared, Ne.symm hsize]
  | @sent answer info hdeclared hfits hsize value hvalue reply =>
      have hasked := (Call.succeeds_iff_declared 2 key answer).mpr ⟨info, hdeclared⟩
      have htold := (Call.declares_iff 2 key answer info).mpr hdeclared
      rcases reply with answer' | _
      · have hsent := Call.succeeds_iff_verdict 2 (Client.writeRequest value) answer'
        cases hverdict : verdict (Client.writeRequest value) answer' with
        | ok response =>
            have hstored := hsent.mpr ⟨response, hverdict⟩
            refine iff_of_true ⟨_, by rw [Outcome.map, hverdict]; rfl⟩
              ⟨by simp [hasked, hstored], ?_⟩
            exact ⟨info, ⟨_, List.mem_cons_self, htold⟩, hsize.symm, hfits⟩
        | error failure =>
            have hrefused : ¬Call.Succeeds _ := fun h => by
              obtain ⟨response, hok⟩ := hsent.mp h
              cases hverdict.symm.trans hok
            exact iff_of_false (by simp [Outcome.map, hverdict, tell]) (by simp [hrefused])
      · exact iff_of_false (by simp [Outcome.map]) (by simp [Call.Succeeds])

theorem Takes.ok_iff {command : Command} {steps : Operation (Except Trouble Report)}
    (h : command.Takes kit steps) (transport : UInt32 → Frame → τ → Outcome Answer × τ)
    {w : World τ} (hfresh : w.cache = {}) :
    (∃ report, conclude (steps.run (.alone transport) w).1 = .ok report) ↔
      (∀ call ∈ calls (steps.trace (.alone transport) w), call.Succeeds) ∧
        command.Fits kit (calls (steps.trace (.alone transport) w)) := by
  have hconclude : ∀ outcome : Outcome (Except Trouble Report),
      (∃ report, conclude outcome = .ok report) ↔ ∃ report, outcome = .returned (.ok report) := by
    intro outcome
    cases outcome <;> simp [conclude]
  rw [hconclude]
  -- A write may fail with every call a success; the other commands have nothing to add.
  cases h with
  | @read text key hkey =>
      rw [readSteps_eq, (finishes_done fun _ => rfl).ok_iff (accords_read key)]
      exact (and_iff_left trivial).symm
  | @info text key hkey =>
      rw [infoSteps_eq, (finishes_done fun _ => rfl).ok_iff (Client.accords_keyInfo _ {} w key)]
      exact (and_iff_left trivial).symm
  | keyAt index =>
      rw [indexSteps_eq, (finishes_done fun _ => rfl).ok_iff (accords_keyAt index)]
      exact (and_iff_left trivial).symm
  | @write text data key bytes hkey hbytes =>
      have hmissing : w.cache.find? key = none := by rw [hfresh]; rfl
      rw [(writing_writeSteps transport hmissing bytes).ok_iff]
      simp [Fits, hkey, hbytes]

def Accepted (kit : Kit) : Command → Prop
  | .read text => ∃ key, keyArgument text = .ok key
  | .info text => ∃ key, keyArgument text = .ok key
  | .write text data =>
      (∃ key, keyArgument text = .ok key) ∧ ∃ bytes, kit.bytesArgument data = .ok bytes
  | _ => True

def Connects : Command → Prop
  | .version _ => False
  | _ => True

theorem not_accepted_of_task {command : Command} {trouble : Trouble}
    (h : kit.task command = .error trouble) : ¬command.Accepted kit := by
  cases command with
  | read text =>
      rcases bind_eq_error h with hkey | ⟨key, -, hsteps⟩
      · simp [Accepted, hkey]
      · cases hsteps
  | write text data =>
      rcases bind_eq_error h with hkey | ⟨key, -, hrest⟩
      · simp [Accepted, hkey]
      · rcases bind_eq_error hrest with hbytes | ⟨bytes, -, hsteps⟩
        · simp [Accepted, hbytes]
        · cases hsteps
  | info text =>
      rcases bind_eq_error h with hkey | ⟨key, -, hsteps⟩
      · simp [Accepted, hkey]
      · cases hsteps
  | keyAt index => cases h
  | version extended => cases h

theorem Takes.accepted {command : Command} {steps : Operation (Except Trouble Report)}
    (h : command.Takes kit steps) : command.Accepted kit ∧ command.Connects := by
  cases h with
  | read hkey => exact ⟨⟨_, hkey⟩, trivial⟩
  | write hkey hbytes => exact ⟨⟨⟨_, hkey⟩, _, hbytes⟩, trivial⟩
  | info hkey => exact ⟨⟨_, hkey⟩, trivial⟩
  | keyAt index => exact ⟨trivial, trivial⟩

end Command

def Demand.call? : Demand → Option Call
  | .calling _ call => some call
  | _ => none

def called (demands : List Demand) : List Call :=
  demands.filterMap Demand.call?

theorem called_worked (number : UInt32) (sent : List Call) :
    called (.opening :: sent.map (.calling number) ++ [.closing number]) = sent := by
  have hall : (sent.map (Demand.calling number)).filterMap Demand.call? = sent := by
    rw [List.filterMap_map]
    exact List.filterMap_some
  change (sent.map (Demand.calling number) ++ [Demand.closing number]).filterMap Demand.call? = _
  rw [List.filterMap_append, hall]
  exact List.append_nil _

/-- A fault that met a command, when it opened its connection or in one of its calls. -/
inductive Faulted (service : Service τ) (t : τ) (demands : List Demand) (fault : Fault) : Prop where
  | opening (hdemanded : .opening ∈ demands) (hopened : (service.openNumber t).1 = .error fault)
  | calling {call : Call} (hcall : call ∈ called demands)
      (hreply : call.reply = .returned (.error fault))

namespace Command.Deals

variable {kit : Kit} {service : Service τ} {command : Command} {t left : τ}
  {result : Except Trouble Report} {demands : List Demand}

theorem exit_eq_internal_iff (h : command.Deals kit service t result demands left) :
    exitOf result = .internal ↔ ∃ call ∈ called demands, call.reply = .panicked := by
  rw [exitOf_eq_internal_iff]
  cases h with
  | unready htask =>
      refine iff_of_false ?_ (by simp [called])
      intro hpanicked
      cases hpanicked
      cases ofArgument_of_task htask
  | immediate htask => simp [called]
  | unopened htask hopened => simp [called, Demand.call?]
  | worked htask hopened => rw [called_worked, (takes_of_task htask).panicked_iff]

theorem fault_iff (h : command.Deals kit service t result demands left) (fault : Fault) :
    resultFault? result = some fault ↔ Faulted service t demands fault := by
  cases h with
  | unready htask =>
      refine iff_of_false ?_ ?_
      · intro hfault
        have harg := ofArgument_of_task htask
        cases harg <;> cases hfault
      · rintro (⟨hdemanded, -⟩ | ⟨hcall, -⟩)
        · cases hdemanded
        · cases hcall
  | immediate htask =>
      refine iff_of_false (by simp [resultFault?]) ?_
      rintro (⟨hdemanded, -⟩ | ⟨hcall, -⟩)
      · cases hdemanded
      · cases hcall
  | @unopened steps met left htask hopened =>
      constructor
      · intro hfault
        cases hfault
        exact .opening List.mem_cons_self (congrArg Prod.fst hopened)
      · rintro (⟨-, hsame⟩ | ⟨hcall, -⟩)
        · rw [hopened] at hsame
          cases hsame
          rfl
        · cases hcall
  | @worked steps number found htask hopened =>
      rw [(takes_of_task htask).fault_iff]
      constructor
      · rintro ⟨call, hcall, hreply⟩
        exact .calling (by rwa [called_worked]) hreply
      · rintro (⟨-, hsame⟩ | ⟨hcall, hreply⟩)
        · rw [hopened] at hsame
          cases hsame
        · rw [called_worked] at hcall
          exact ⟨_, hcall, hreply⟩

theorem ok_iff (h : command.Deals kit service t result demands left) :
    (∃ report, result = .ok report) ↔
      command.Accepted kit ∧
        (command.Connects → ∃ number, (service.openNumber t).1 = .ok number) ∧
        (∀ call ∈ called demands, call.Succeeds) ∧ command.Fits kit (called demands) := by
  cases h with
  | unready htask => simp [not_accepted_of_task htask]
  | immediate htask =>
      obtain ⟨extended, rfl⟩ := eq_version_of_task htask
      simp [Accepted, Connects, called, Fits]
  | unopened htask hopened =>
      have haccepted := (takes_of_task htask).accepted
      simp [haccepted.2, hopened]
  | worked htask hopened =>
      have haccepted := (takes_of_task htask).accepted
      rw [called_worked, (takes_of_task htask).ok_iff _ rfl]
      simp [haccepted.1, hopened]

theorem tells {report : Report} (h : command.Deals kit service t (.ok report) demands left) :
    command.Tells kit (called demands) report := by
  generalize hresult : Except.ok report = result at h
  cases h with
  | unready htask => cases hresult
  | immediate htask =>
      obtain ⟨extended, rfl⟩ := eq_version_of_task htask
      cases hresult
      cases htask
      exact .version extended
  | unopened htask hopened => cases hresult
  | @worked steps number found htask hopened =>
      rw [called_worked]
      cases hrun : (steps.run (.alone (service.call number)) (begun number found)).1 with
      | panicked =>
          rw [hrun] at hresult
          cases hresult
      | returned made =>
          rw [hrun] at hresult
          cases hresult
          exact (takes_of_task htask).tells rfl hrun

end Command.Deals

/-- What the transcript of a command line tells, with log lines in front of its message. -/
structure Transcript.Accounts (ended : Transcript) (kit : Kit) (service : Service τ)
    (line : CommandLine) (t : τ) (demands : List Demand) (lines : List String) : Prop where
  failed : ended.exitCode ≠ 0 → ended.printed.toBytes = [] ∧
    ∃ message, ended.messages = lines ++ ["error: " ++ message]
  succeeded : ended.exitCode = 0 → ended.messages = lines ∧
    ∃ report, line.command.Tells kit (called demands) report ∧
      ended.printed.toBytes = kit.stdout (line.format.getD (.default kit.terminal)) report
  panicked : ended.exitCode = 125 ↔ ∃ call ∈ called demands, call.reply = .panicked
  noticed : ended.panics = if ended.exitCode = 125 then 1 else 0
  denied : ended.exitCode = 50 ↔
    ∃ fault, Faulted service t demands fault ∧ fault.code = .notPrivileged
  faulted : ended.exitCode = 3 ↔
    ∃ fault, Faulted service t demands fault ∧ fault.code ≠ .notPrivileged
  done : ended.exitCode = 0 ↔ line.command.Accepted kit ∧
    (line.command.Connects → ∃ number, (service.openNumber t).1 = .ok number) ∧
    (∀ call ∈ called demands, call.Succeeds) ∧ line.command.Fits kit (called demands)

theorem panics_transcriptOf (kit : Kit) (format : Format) (lines : List String)
    (result : Except Trouble Report) :
    (kit.transcriptOf format lines result).panics =
      if (kit.transcriptOf format lines result).exitCode = 125 then 1 else 0 := by
  rw [Kit.exitCode_transcriptOf]
  cases result with
  | ok report => rfl
  | error trouble =>
      change trouble.panics = _
      by_cases hpanicked : trouble = .panicked
      · subst hpanicked
        rfl
      · have hcode : (exitOf (.error trouble)).code ≠ 125 := fun hcode =>
          hpanicked (trouble.exit_eq_internal_iff.mp (Exit.code_inj hcode))
        rw [if_neg hcode]
        cases trouble with
        | panicked => exact absurd rfl hpanicked
        | _ => rfl

theorem Command.Deals.accounts {kit : Kit} {service : Service τ} {line : CommandLine} {t left : τ}
    {result : Except Trouble Report} {demands : List Demand}
    (h : line.command.Deals kit service t result demands left) (lines : List String) :
    (kit.transcriptOf (line.format.getD (.default kit.terminal)) lines result).Accounts kit
      service line t demands lines := by
  generalize hended :
    kit.transcriptOf (line.format.getD (.default kit.terminal)) lines result = ended
  have hexit : ∀ exit : Exit, ended.exitCode = exit.code ↔ exitOf result = exit := by
    intro exit
    rw [← hended, Kit.exitCode_transcriptOf]
    exact ⟨Exit.code_inj, congrArg Exit.code⟩
  have hsuccess : ended.exitCode = 0 ↔ ∃ report, result = .ok report := by
    rw [← hended, Kit.exitCode_transcriptOf_eq_zero_iff]
  constructor
  case failed =>
    intro hnonzero
    cases result with
    | ok report => exact absurd (hsuccess.mpr ⟨report, rfl⟩) hnonzero
    | error trouble =>
        rw [← hended]
        exact ⟨rfl, _, rfl⟩
  case succeeded =>
    intro hzero
    obtain ⟨report, rfl⟩ := hsuccess.mp hzero
    rw [← hended]
    exact ⟨List.append_nil _, report, h.tells, kit.toBytes_print _ report⟩
  case panicked => exact (hexit .internal).trans h.exit_eq_internal_iff
  case noticed =>
    rw [← hended]
    exact panics_transcriptOf kit _ lines result
  case denied =>
    refine (hexit .permissionDenied).trans ?_
    rw [exitOf_eq_iff_fault (.inl rfl)]
    simp only [h.fault_iff, Exit.ofFault_eq_permissionDenied_iff]
  case faulted =>
    refine (hexit .transport).trans ?_
    rw [exitOf_eq_iff_fault (.inr rfl)]
    simp only [h.fault_iff, Exit.ofFault_eq_transport_iff]
  case done => exact hsuccess.trans h.ok_iff

/-- A filter that makes its reader panic keeps a command line from being run; otherwise the
transcript tells how it went. -/
theorem outcome_tells_what_went_wrong {kit : Kit} {environment : Option String}
    {arguments : List String} {line : CommandLine} (hparse : kit.parse arguments = .ok line)
    (service : Service τ) (w : World τ) :
    let done := kit.session service.inWorld environment arguments w
    let demands := kit.demanded service.inWorld environment arguments w
    ((∃ text, environment = some text ∧ kit.givenFilter text = .panicked) →
      done = (⟨101, .nothing, [], 1⟩, w) ∧ demands = []) ∧
    ((∀ text, environment = some text → kit.givenFilter text ≠ .panicked) →
      ∃ admits, kit.filterFor environment line.logLevel = .returned admits ∧
        done.1.Accounts kit service line w.controller demands
          ((done.2.log.filter admits).map (kit.logLine line.logStyle))) := by
  intro done demands
  constructor
  · rintro ⟨text, rfl, hpanicked⟩
    have haborted : ∀ {σ : Type} (service : Service (World σ)) (w : World σ),
        kit.session service (some text) arguments w = (.aborted, w) :=
      Kit.session_of_panicked hparse hpanicked
    exact ⟨haborted service.inWorld w,
      congrArg (fun done => done.2.controller.demands) (haborted service.inWorld.audited _)⟩
  · intro hlegible
    obtain ⟨admits, result, hfilter, hdeals, htranscript⟩ :=
      Kit.session_deals (Kit.runs_of_legible hparse hlegible) service w
    refine ⟨admits, hfilter, ?_⟩
    rw [show done.1 = _ from htranscript]
    exact hdeals.accounts _

/-- Places are counted without the blank in front, so one of them falls inside its character. -/
theorem readFilter_wide_blank : readFilter "\u3000a=info" = .panicked := by
  have hread : (readFilter "\u3000a=info" matches .panicked) = true := by decide +kernel
  cases hgiven : readFilter "\u3000a=info" with
  | panicked => rfl
  | returned given =>
      rw [hgiven] at hread
      cases hread

/-- The key is there to be read, but the filter cannot be cut. -/
theorem not_every_failure_has_a_message :
    let kit := Kit.standard false
    ¬∀ (environment : Option String) (arguments : List String) (line : CommandLine)
        (w : World Bank), kit.parse arguments = .ok line →
      let ended := (kit.session Bank.service.inWorld environment arguments w).1
      ended.exitCode ≠ 0 → ∃ lines message, ended.messages = lines ++ ["error: " ++ message] := by
  intro kit htold
  let start : World Bank :=
    { controller := [⟨⟨0x54433050⟩, { size := 2, type := ⟨0x73703738⟩ }, Payload.zero⟩] }
  have hparse : kit.parse ["read", "TC0P"] = .ok ⟨none, .text, .warn, .read "TC0P"⟩ := by rfl
  have hgiven : kit.givenFilter "\u3000a=info" = .panicked := readFilter_wide_blank
  have hsession := Kit.session_of_panicked hparse hgiven Bank.service.inWorld start
  have hlost := htold (some "\u3000a=info") ["read", "TC0P"] _ start hparse
  rw [hsession] at hlost
  obtain ⟨lines, message, hmessages⟩ := hlost (by simp [Transcript.aborted])
  simp [Transcript.aborted] at hmessages

/-- Two bytes for a key of two are written, unless there is a filter that cannot be cut. -/
theorem written_key_tells_success :
    let kit := Kit.standard false
    let arguments := ["write", "TC0P", "0x2a80"]
    let start : World Bank :=
      { controller := [⟨⟨0x54433050⟩, { size := 2, type := ⟨0x73703738⟩ }, Payload.zero⟩] }
    let line : CommandLine := ⟨none, .text, .warn, .write "TC0P" "0x2a80"⟩
    kit.parse arguments = .ok line ∧
      (∀ call ∈ called (kit.demanded Bank.service.inWorld none arguments start),
        call.Succeeds) ∧
      (∃ report, line.command.Tells kit
        (called (kit.demanded Bank.service.inWorld none arguments start)) report ∧
        (kit.session Bank.service.inWorld none arguments start).1.printed.toBytes =
          kit.stdout .json report) ∧
      kit.demanded Bank.service.inWorld (some "\u3000a=info") arguments start = [] := by
  intro kit arguments start line
  have hparse : kit.parse arguments = .ok line := by rfl
  have hexit : (kit.session Bank.service.inWorld none arguments start).1.exitCode = 0 := by
    decide +kernel
  have hlegible : ∀ text, (none : Option String) = some text →
      kit.givenFilter text ≠ .panicked := by simp
  have hgiven : kit.givenFilter "\u3000a=info" = .panicked := readFilter_wide_blank
  obtain ⟨admits, -, haccounts⟩ :=
    (outcome_tells_what_went_wrong hparse Bank.service start).2 hlegible
  have haborted := (outcome_tells_what_went_wrong hparse Bank.service start).1 ⟨_, rfl, hgiven⟩
  obtain ⟨-, report, htells, hprinted⟩ := haccounts.succeeded hexit
  have hformat : line.format.getD (.default kit.terminal) = .json := rfl
  rw [hformat] at hprinted
  exact ⟨hparse, (haccounts.done.mp hexit).2.2.1, ⟨report, htells, hprinted⟩, haborted.2⟩

end Console

end SmcKeys
