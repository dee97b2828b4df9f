import SmcKeys.Console.Session
import SmcKeys.Proofs.Dealings
import SmcKeys.Proofs.WriteSteps

namespace SmcKeys

open Operation (calls)
open Client (declared infoRequest verdict writeRequest)

theorem Client.verdict_ne_mismatch (request : Packet) (answer : Answer) (key : Code)
    (expected actual : Shape) :
    verdict request answer ≠ .error (.mismatch key expected actual) := by
  cases answer with
  | error fault => simp [verdict]
  | ok frame =>
      simp only [verdict]
      split <;> simp

theorem Client.declared_ne_mismatch (asked : Code) (answer : Answer) (key : Code)
    (expected actual : Shape) : declared asked answer ≠ .error (.mismatch key expected actual) := by
  have hverdict := verdict_ne_mismatch (infoRequest asked) answer key expected actual
  rw [declared]
  cases hanswer : verdict (infoRequest asked) answer with
  | ok response => simp [Except.map]
  | error failure =>
      rw [hanswer] at hverdict
      simpa [Except.map] using hverdict

namespace Console.Command

/-- The calls of a write: one that asks for the info, and one that sends the bytes if the size that
was told is their number and the buffer has room for them. -/
def AsksThenSends (key : Code) (bytes : List UInt8) (sent : List Call) : Prop :=
  ∃ reply writes, sent = ⟨2, (infoRequest key).encode, reply⟩ :: writes ∧
    (writes ≠ [] ↔ ∃ info, reply.info? = some info ∧ info.size.toNat = bytes.length ∧
      bytes.length ≤ capacity) ∧
    ∀ call ∈ writes, writes = [call] ∧ call.selector = 2 ∧ ∃ size data,
      Packet.decode call.request = { key, command := .writeKey, info := { size }, data } ∧
        size.toNat = bytes.length ∧
        data.toList = bytes ++ List.replicate (capacity - bytes.length) 0

namespace Writing

variable {key : Code} {bytes : List UInt8} {sent : List Call}
  {outcome : Outcome (Except Trouble Report)}

theorem asksThenSends (h : Writing key bytes sent outcome) : AsksThenSends key bytes sent := by
  cases h with
  | interrupted => exact ⟨_, [], rfl, by simp [Outcome.info?], by simp⟩
  | unknown hdeclared =>
      have hinfo := Client.info?_of_declared hdeclared
      exact ⟨_, [], rfl, by simp [hinfo, Outcome.success?], by simp⟩
  | oversized hdeclared hsize =>
      exact ⟨_, [], rfl, by simp [Nat.not_le.mpr hsize], by simp⟩
  | mismatched hdeclared hfits hsize =>
      have hinfo := Client.info?_of_declared hdeclared
      exact ⟨_, [], rfl, by simp [hinfo, Outcome.success?, hsize], by simp⟩
  | @sent answer info hdeclared hfits hsize value hvalue reply =>
      have hinfo := Client.info?_of_declared hdeclared
      refine ⟨_, [⟨2, (writeRequest value).encode, reply⟩], rfl, ?_, ?_⟩
      · refine iff_of_true (by simp) ⟨info, hinfo, hsize, hfits⟩
      · intro call hcall
        rw [List.mem_singleton.mp hcall]
        refine ⟨rfl, rfl, value.size, value.data, ?_, ?_, ?_⟩
        · rw [Packet.decode_encode, hvalue]
          rfl
        · rw [hvalue, Value.toNat_size_ofFitting hfits]
        · rw [hvalue]
          exact Bytes.toList_padded_of_le hfits

theorem mismatch_type (h : Writing key bytes sent outcome) {key' : Code} {expected actual : Shape}
    (hmismatch : resultFailure? (conclude outcome) = some (.mismatch key' expected actual)) :
    expected.type = actual.type := by
  cases h with
  | interrupted => cases hmismatch
  | unknown hdeclared =>
      cases hmismatch
      exact absurd hdeclared (Client.declared_ne_mismatch _ _ _ _ _)
  | oversized hdeclared hsize => cases hmismatch
  | mismatched hdeclared hfits hsize =>
      cases hmismatch
      rfl
  | @sent answer info hdeclared hfits hsize value hvalue reply =>
      cases reply with
      | panicked => cases hmismatch
      | returned written =>
          cases hverdict : verdict (writeRequest value) written with
          | ok response => simp [Outcome.map, conclude, hverdict, tell, resultFailure?] at hmismatch
          | error failure =>
              simp only [Outcome.map, conclude, hverdict, tell] at hmismatch
              cases hmismatch
              exact absurd hverdict (Client.verdict_ne_mismatch _ _ _ _ _)

end Writing

section

variable {kit : Kit} {service : Service τ} {t found left : τ} {number : UInt32}
  {text data : String} {key : Code} {bytes : List UInt8} {result : Except Trouble Report}
  {demands : List Demand}

theorem writing_of_deals (hkey : keyArgument text = .ok key)
    (hbytes : kit.bytesArgument data = .ok bytes)
    (hopened : service.openNumber t = (.ok number, found))
    (h : (Command.write text data).Deals kit service t result demands left) :
    ∃ sent outcome, demands = .opening :: sent.map (.calling number) ++ [.closing number] ∧
      result = conclude outcome ∧ Writing key bytes sent outcome := by
  have hready := task_of_write hkey hbytes
  cases h with
  | unready htask => cases htask.symm.trans hready
  | immediate htask => cases htask.symm.trans hready
  | unopened htask hrefused => cases hrefused.symm.trans hopened
  | worked htask hworked =>
      cases htask.symm.trans hready
      cases hworked.symm.trans hopened
      exact ⟨_, _, rfl, rfl, writing_writeSteps (service.call number) rfl bytes⟩

/-- One question, and one write if the size that was told is the number of the bytes and the buffer
has room for them. -/
theorem write_asks_once_and_sends_what_fits (hkey : keyArgument text = .ok key)
    (hbytes : kit.bytesArgument data = .ok bytes)
    (hopened : service.openNumber t = (.ok number, found)) :
    let command := Command.write text data
    let w : World τ := { controller := t }
    let demands := (kit.perform service.inWorld.audited command (w.audited [])).2.controller.demands
    let result := (kit.perform service.inWorld command w).1
    (∃ sent, demands = .opening :: sent.map (.calling number) ++ [.closing number] ∧
      AsksThenSends key bytes sent) ∧
    (∀ environment arguments line, kit.Runs environment arguments line →
      line.command = command →
      kit.demanded service.inWorld environment arguments w = demands) ∧
    ∀ mismatched expected actual,
      resultFailure? result = some (.mismatch mismatched expected actual) →
      expected.type = actual.type := by
  intro command w demands result
  obtain ⟨ended, made, left, hcourse, hplain, haudited⟩ :=
    command.exists_course kit service.inWorld (w.audited [])
  have hmade : demands = made := congrArg (fun done => done.2.controller.demands) haudited
  obtain ⟨sent, outcome, hdemands, hresult, hwriting⟩ :=
    writing_of_deals hkey hbytes hopened (hcourse.deals rfl)
  refine ⟨⟨sent, hmade.trans hdemands, hwriting.asksThenSends⟩, ?_, ?_⟩
  · intro environment arguments line hruns hcommand
    obtain ⟨admits, -, hsession⟩ := hruns.session_eq service.inWorld.audited (w.audited [])
    rw [Kit.demanded, hsession, hcommand]
    rfl
  · intro mismatched expected actual hmismatch
    rw [show result = ended from congrArg Prod.fst hplain, hresult] at hmismatch
    exact hwriting.mismatch_type hmismatch

end

/-- A controller that declares two bytes when it is asked first, and three when it is asked
again. -/
def fickle : Service Nat where
  openNumber asked := (.ok 7, asked)
  closeNumber _ asked := (.ok (), asked)
  call _ _ _ asked := (.declaring { size := 2 + UInt32.ofNat asked }, asked + 1)
  note _ asked := asked

theorem two_bytes_sent_after_one_question :
    let kit := Kit.standard false
    let w : World Nat := { controller := 0 }
    let demands := (kit.perform fickle.inWorld.audited (.write "TC0P" "0x2A8f")
      (w.audited [])).2.controller.demands
    keyArgument "TC0P" = .ok ⟨0x54433050⟩ ∧ kit.bytesArgument "0x2A8f" = .ok [0x2a, 0x8f] ∧
      fickle.openNumber 0 = (.ok 7, 0) ∧ demands.length = 4 ∧
      ∃ sent, demands = .opening :: sent.map (.calling 7) ++ [.closing 7] ∧
        AsksThenSends ⟨0x54433050⟩ [0x2a, 0x8f] sent := by
  intro kit w demands
  have hkey : keyArgument "TC0P" = .ok ⟨0x54433050⟩ := by rfl
  have hbytes : kit.bytesArgument "0x2A8f" = .ok [0x2a, 0x8f] := by rfl
  have hopened : fickle.openNumber 0 = (.ok 7, 0) := rfl
  have hlength : demands.length = 4 := by decide +kernel
  obtain ⟨⟨sent, hdemands, hsent⟩, -⟩ := write_asks_once_and_sends_what_fits hkey hbytes hopened
  refine ⟨hkey, hbytes, hopened, hlength, sent, ?_, hsent⟩
  rw [← hdemands]

end Console.Command

end SmcKeys
