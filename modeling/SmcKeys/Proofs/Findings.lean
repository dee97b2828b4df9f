import SmcKeys.Proofs.Dealings
import SmcKeys.Proofs.ReadBuffer
import SmcKeys.Proofs.WriteSteps

namespace SmcKeys

open Operation (calls)
open Client (declared indexRequest infoRequest readRequest verdict writeRequest)

theorem Operation.exists_returned_of_bind {site : Site σ} {op : Operation α}
    {f : α → Operation β} {s : σ} {b : β} (h : ((op >>= f).run site s).1 = .returned b) :
    ∃ a, (op.run site s).1 = .returned a ∧
      ((f a).run site (op.run site s).2).1 = .returned b ∧
      calls ((op >>= f).trace site s) =
        calls (op.trace site s) ++ calls ((f a).trace site (op.run site s).2) := by
  cases hop : (op.run site s).1 with
  | returned a =>
      rw [run_bind_of_returned hop] at h
      exact ⟨a, rfl, h, calls_bind_of_returned hop⟩
  | panicked =>
      rw [run_bind_of_panicked hop] at h
      cases h

namespace Client

theorem exists_frame_of_declared {key : Code} {answer : Answer} {info : KeyInfo}
    (h : declared key answer = .ok info) :
    ∃ frame, answer = .ok frame ∧ (Packet.decode frame).info = info := by
  rw [declared] at h
  cases hverdict : verdict (infoRequest key) answer with
  | error failure =>
      rw [hverdict] at h
      cases h
  | ok response =>
      obtain ⟨frame, rfl, rfl⟩ := eq_ok_of_verdict hverdict
      rw [hverdict] at h
      cases h
      exact ⟨frame, rfl, rfl⟩

theorem exists_frame_of_transact {site : Site σ} {config : Config} {request response : Packet}
    {s : σ} (h : ((transact config request).run site s).1 = .returned (.ok response)) :
    ∃ frame, response = .decode frame ∧
      calls ((transact config request).trace site s) =
        [⟨config.selector, request.encode, .returned (.ok frame)⟩] := by
  obtain ⟨reply, hsteps, hend⟩ := walk_transact (Operation.walk_trace site _ s)
  rw [h] at hend
  cases reply with
  | panicked => cases hend
  | returned answer =>
      obtain ⟨frame, rfl, hresponse⟩ := eq_ok_of_verdict (Outcome.returned.inj hend).symm
      exact ⟨frame, hresponse, by rw [hsteps, calls_exchange]⟩

section

variable {transport : UInt32 → Frame → τ → Outcome Answer × τ} {config : Config} {key : Code}
  {w : World τ}

theorem exists_frame_of_keyInfo (hcaching : config.caching = true)
    (hmissing : w.cache.find? key = none) {info : KeyInfo}
    (h : ((keyInfo config key).run (.alone transport) w).1 = .returned (.ok info)) :
    ∃ frame, (Packet.decode frame).info = info ∧
      calls ((keyInfo config key).trace (.alone transport) w) =
        [⟨config.selector, (infoRequest key).encode, .returned (.ok frame)⟩] := by
  rw [run_keyInfo_of_missing hcaching hmissing] at h
  rw [calls_keyInfo_of_missing hcaching hmissing]
  cases hreply : (transport config.selector (infoRequest key).encode w.controller).1 with
  | panicked =>
      rw [hreply] at h
      cases h
  | returned answer =>
      rw [hreply] at h
      obtain ⟨frame, rfl, hinfo⟩ := exists_frame_of_declared (Outcome.returned.inj h)
      exact ⟨frame, hinfo, rfl⟩

theorem exists_frames_of_read (hcaching : config.caching = true)
    (hmissing : w.cache.find? key = none) {value : Value}
    (h : ((read config key).run (.alone transport) w).1 = .returned (.ok value)) :
    ∃ asked found info, (Packet.decode asked).info = info ∧
      value = { key, size := min info.size 32, type := info.type,
                data := (Packet.decode found).data } ∧
      calls ((read config key).trace (.alone transport) w) =
        [⟨config.selector, (infoRequest key).encode, .returned (.ok asked)⟩,
          ⟨config.selector, (readRequest key info).encode, .returned (.ok found)⟩] := by
  obtain ⟨reading, hfilled, hread, -⟩ := Operation.exists_returned_of_bind h
  rw [calls_read config key (.empty key), readInto_eq]
  rw [readInto_eq] at hfilled
  obtain ⟨told, hasked, hafter, hcalls⟩ := Operation.exists_returned_of_bind hfilled
  cases told with
  | error failure =>
      cases hafter
      cases hread
  | ok info =>
      obtain ⟨asked, hinfo, hask⟩ := exists_frame_of_keyInfo hcaching hmissing hasked
      obtain ⟨result, htransact, hreading, hrest⟩ := Operation.exists_returned_of_bind hafter
      cases hreading
      cases result with
      | error failure => cases hread
      | ok response =>
          obtain ⟨found, rfl, hfound⟩ := exists_frame_of_transact htransact
          cases hread
          refine ⟨asked, found, info, hinfo, rfl, ?_⟩
          rw [hcalls, hask, readAfter, hrest, hfound]
          rfl

theorem exists_frame_of_keyAt {site : Site σ} {index : UInt32} {s : σ}
    (h : ((keyAt config index).run site s).1 = .returned (.ok key)) :
    ∃ frame, (Packet.decode frame).key = key ∧
      calls ((keyAt config index).trace site s) =
        [⟨config.selector, (indexRequest index).encode, .returned (.ok frame)⟩] := by
  obtain ⟨result, htransact, hkey, hcalls⟩ := Operation.exists_returned_of_bind h
  cases result with
  | error failure => cases hkey
  | ok response =>
      obtain ⟨frame, rfl, hfound⟩ := exists_frame_of_transact htransact
      cases hkey
      exact ⟨frame, rfl, by rw [keyAt, hcalls, hfound]; rfl⟩

end

end Client

namespace Console

theorem tell_eq_ok {report : α → Report} {trouble : Failure → Trouble} {result : Except Failure α}
    {told : Report} (h : tell report trouble result = .ok told) :
    ∃ a, result = .ok a ∧ told = report a := by
  cases result with
  | error failure => cases h
  | ok a =>
      cases h
      exact ⟨a, rfl, rfl⟩

namespace Command

theorem Finishes.exists_ok {site : Site σ} {s : σ} {op : Operation (Except Failure α)}
    {finish : Except Failure α → Operation (Except Trouble Report)} {report : α → Report}
    {trouble : Failure → Trouble} (h : Finishes site finish report trouble) {told : Report}
    (hrun : ((op >>= finish).run site s).1 = .returned (.ok told)) :
    ∃ a, (op.run site s).1 = .returned (.ok a) ∧ told = report a := by
  obtain ⟨result, hop, hfinish, -⟩ := Operation.exists_returned_of_bind hrun
  rw [h.ends] at hfinish
  obtain ⟨a, rfl, htold⟩ := tell_eq_ok (Outcome.returned.inj hfinish)
  exact ⟨a, hop, htold⟩

/-- The report of a command, by its arguments and by the answers to its calls. -/
inductive Tells (kit : Kit) : Command → List Call → Report → Prop where
  | read {text : String} {key : Code} {asked found : Frame} {info : KeyInfo}
      (hkey : keyArgument text = .ok key) (hinfo : (Packet.decode asked).info = info) :
      Tells kit (.read text)
        [⟨2, (infoRequest key).encode, .returned (.ok asked)⟩,
          ⟨2, (readRequest key info).encode, .returned (.ok found)⟩]
        (.value { key, size := min info.size 32, type := info.type,
                  data := (Packet.decode found).data })
  | write {text data : String} {key : Code} {bytes : List UInt8} {asked stored : Frame}
      {value : Value} (hkey : keyArgument text = .ok key)
      (hbytes : kit.bytesArgument data = .ok bytes)
      (hvalue : value = .ofFitting key (Packet.decode asked).info.type bytes) :
      Tells kit (.write text data)
        [⟨2, (infoRequest key).encode, .returned (.ok asked)⟩,
          ⟨2, (writeRequest value).encode, .returned (.ok stored)⟩]
        (.value value)
  | info {text : String} {key : Code} {asked : Frame} (hkey : keyArgument text = .ok key) :
      Tells kit (.info text) [⟨2, (infoRequest key).encode, .returned (.ok asked)⟩]
        (.info key (Packet.decode asked).info)
  | keyAt (index : UInt32) (found : Frame) :
      Tells kit (.keyAt index) [⟨2, (indexRequest index).encode, .returned (.ok found)⟩]
        (.index index (Packet.decode found).key)
  | version (extended : Bool) : Tells kit (.version extended) [] (.version extended)

variable {kit : Kit} {command : Command}

theorem Writing.tells {text data : String} {key : Code} {bytes : List UInt8} {sent : List Call}
    {outcome : Outcome (Except Trouble Report)} {report : Report}
    (h : Writing key bytes sent outcome) (hkey : keyArgument text = .ok key)
    (hbytes : kit.bytesArgument data = .ok bytes) (hok : outcome = .returned (.ok report)) :
    Tells kit (.write text data) sent report := by
  cases h with
  | interrupted => cases hok
  | unknown hdeclared => cases hok
  | oversized hdeclared hsize => cases hok
  | mismatched hdeclared hfits hsize => cases hok
  | sent hdeclared hfits hsize hvalue reply =>
      obtain ⟨asked, rfl, rfl⟩ := Client.exists_frame_of_declared hdeclared
      cases reply with
      | panicked => cases hok
      | returned answer =>
          obtain ⟨response, hverdict, rfl⟩ := tell_eq_ok (Outcome.returned.inj hok)
          obtain ⟨stored, rfl, -⟩ := Client.eq_ok_of_verdict hverdict
          exact .write hkey hbytes hvalue

theorem Takes.tells {steps : Operation (Except Trouble Report)} (h : command.Takes kit steps)
    {transport : UInt32 → Frame → τ → Outcome Answer × τ} {w : World τ} (hfresh : w.cache = {})
    {report : Report} (hrun : (steps.run (.alone transport) w).1 = .returned (.ok report)) :
    command.Tells kit (calls (steps.trace (.alone transport) w)) report := by
  have hmissing : ∀ key, w.cache.find? key = none := fun key => by rw [hfresh]; rfl
  cases h with
  | @read text key hkey =>
      have hfinishes : Finishes (.alone transport) _ Report.value (.readFailed key) :=
        finishes_done fun _ => rfl
      rw [readSteps_eq] at hrun ⊢
      rw [hfinishes.calls_bind]
      obtain ⟨value, hread, rfl⟩ := hfinishes.exists_ok hrun
      obtain ⟨asked, found, info, hinfo, rfl, hcalls⟩ :=
        Client.exists_frames_of_read rfl (hmissing key) hread
      rw [hcalls]
      exact .read hkey hinfo
  | @info text key hkey =>
      have hfinishes : Finishes (.alone transport) _ (Report.info key) (.infoFailed key) :=
        finishes_done fun _ => rfl
      rw [infoSteps_eq] at hrun ⊢
      rw [hfinishes.calls_bind]
      obtain ⟨info, hasked, rfl⟩ := hfinishes.exists_ok hrun
      obtain ⟨asked, rfl, hcalls⟩ := Client.exists_frame_of_keyInfo rfl (hmissing key) hasked
      rw [hcalls]
      exact .info hkey
  | keyAt index =>
      have hfinishes : Finishes (.alone transport) _ (Report.index index) (.indexFailed index) :=
        finishes_done fun _ => rfl
      rw [indexSteps_eq] at hrun ⊢
      rw [hfinishes.calls_bind]
      obtain ⟨key, hfound, rfl⟩ := hfinishes.exists_ok hrun
      obtain ⟨found, rfl, hcalls⟩ := Client.exists_frame_of_keyAt hfound
      rw [hcalls]
      exact .keyAt index found
  | @write text data key bytes hkey hbytes =>
      exact (writing_writeSteps transport (hmissing key) bytes).tells hkey hbytes hrun

end Command

end Console

end SmcKeys
