import SmcKeys.Bench.Bank
import SmcKeys.Connection
import SmcKeys.Proofs.Session

namespace SmcKeys.Bench.Bank

def service : Service Bank where
  openNumber bank := (.ok 1, bank)
  closeNumber _ bank := (.ok (), bank)
  call _ := transport
  note _ bank := bank

def info? (key : Code) (bank : Bank) : Option KeyInfo :=
  (bank.find? key).map (·.info)

section

variable {key other : Code} {bank : Bank}

theorem key_of_find? {entry : Entry} (h : bank.find? key = some entry) : entry.key = key := by
  simpa using List.find?_some h

theorem find?_store (data : Payload) :
    (bank.store key data).find? other =
      (bank.find? other).map fun entry =>
        if entry.key = key then { entry with data } else entry := by
  unfold find? store
  rw [List.find?_map]
  congr 2
  funext entry
  simp only [Function.comp_apply]
  split <;> rfl

theorem find?_store_self (data : Payload) :
    (bank.store key data).find? key = (bank.find? key).map fun entry => { entry with data } := by
  rw [find?_store]
  cases hfound : bank.find? key with
  | none => rfl
  | some entry => simp [key_of_find? hfound]

theorem find?_store_of_ne (h : other ≠ key) (data : Payload) :
    (bank.store key data).find? other = bank.find? other := by
  rw [find?_store]
  cases hfound : bank.find? other with
  | none => rfl
  | some entry => simp [key_of_find? hfound, h]

theorem info?_eq_some_iff {info : KeyInfo} :
    bank.info? key = some info ↔ ∃ entry, bank.find? key = some entry ∧ entry.info = info :=
  Option.map_eq_some_iff

theorem info?_store (key other : Code) (data : Payload) (bank : Bank) :
    (bank.store other data).info? key = bank.info? key := by
  unfold info?
  rw [find?_store, Option.map_map]
  congr 1
  funext entry
  simp only [Function.comp_apply]
  split <;> rfl

end

theorem info?_serve (key : Code) (request : Packet) (entry : Entry) (bank : Bank) :
    (bank.serve request entry).2.info? key = bank.info? key := by
  unfold serve
  split
  · rfl
  split
  · split <;> rfl
  split
  · split
    · exact info?_store key request.key request.data bank
    · rfl
  · rfl

theorem info?_respond (key : Code) (request : Packet) (bank : Bank) :
    (bank.respond request).2.info? key = bank.info? key := by
  unfold respond
  split
  · split <;> rfl
  · split
    · exact info?_serve key request _ bank
    · rfl

theorem transport_two (request : Frame) (bank : Bank) :
    transport 2 request bank =
      (.returned (.ok (bank.respond (.decode request)).1.encode),
        (bank.respond (.decode request)).2) := rfl

def announce : Option KeyInfo → Packet
  | some info => { info }
  | none => failed .keyNotFound

theorem respond_infoRequest (key : Code) (bank : Bank) :
    bank.respond (Client.infoRequest key) = (announce (bank.info? key), bank) := by
  have hcommand : (Client.infoRequest key).command ≠ .keyFromIndex := by
    change Command.readKeyInfo ≠ Command.keyFromIndex
    decide
  have hkey : (Client.infoRequest key).key = key := rfl
  unfold respond
  rw [if_neg hcommand, hkey]
  cases hfound : bank.find? key with
  | none => simp [info?, hfound, announce]
  | some entry =>
      simp only [info?, hfound]
      exact if_pos rfl

theorem info?_of_reachable {bank t : Bank} (h : Reachable transport 2 bank t) (key : Code) :
    t.info? key = bank.info? key := by
  induction h with
  | start => rfl
  | call _ request ih => rw [transport_two, info?_respond, ih]

theorem stable (bank : Bank) : Stable transport 2 bank := by
  intro t ht key
  rw [declaration, transport_two, transport_two, Packet.decode_encode, respond_infoRequest,
    respond_infoRequest, info?_of_reachable ht]

theorem transport_of_ne {selector : UInt32} (h : selector ≠ 2) (request : Frame) (bank : Bank) :
    transport selector request bank =
      (.returned (.error (.callFailed selector .badArgument)), bank) := by
  simp [transport, answer, h]

section

variable {request : Packet} {entry : Entry} {bank : Bank}

theorem respond_of_read (hcommand : request.command = .readKey)
    (hfound : bank.find? request.key = some entry)
    (hsize : request.info.size = entry.info.size) :
    bank.respond request = ({ data := entry.data }, bank) := by
  have hindex : Command.readKey ≠ .keyFromIndex := by decide
  have hinfo : Command.readKey ≠ .readKeyInfo := by decide
  rw [respond, hcommand, if_neg hindex, hfound]
  simp only [serve, hcommand, hsize, if_neg hinfo, if_true]

theorem respond_of_write (hcommand : request.command = .writeKey)
    (hfound : bank.find? request.key = some entry)
    (hsize : request.info.size = entry.info.size) :
    bank.respond request = ({}, bank.store request.key request.data) := by
  have hindex : Command.writeKey ≠ .keyFromIndex := by decide
  have hinfo : Command.writeKey ≠ .readKeyInfo := by decide
  have hread : Command.writeKey ≠ .readKey := by decide
  rw [respond, hcommand, if_neg hindex, hfound]
  simp only [serve, hcommand, hsize, if_neg hinfo, if_neg hread, if_true]

end

end SmcKeys.Bench.Bank
