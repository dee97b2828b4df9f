import SmcKeys.Console.Session
import SmcKeys.Proofs.Dealings
import SmcKeys.Proofs.HexDigits
import SmcKeys.Proofs.ReadBack
import SmcKeys.Proofs.WriteSteps

namespace SmcKeys

open Bench (Bank Entry)

namespace Value

variable {key type : Code} {bytes : List UInt8}

theorem significant_ofFitting (h : bytes.length ≤ capacity) :
    (ofFitting key type bytes).significant = bytes := by
  rw [significant, toNat_size_ofFitting h]
  change (Bytes.padded capacity bytes).toList.take bytes.length = bytes
  rw [Bytes.toList_padded_of_le h, List.take_left]

theorem eq_ofFitting {info : KeyInfo} (hfits : bytes.length ≤ capacity)
    (hsize : info.size.toNat = bytes.length) :
    { key, size := min info.size 32, type := info.type, data := Bytes.padded capacity bytes } =
      ofFitting key info.type bytes := by
  have hcut : min info.size 32 = (ofFitting key info.type bytes).size := by
    apply UInt32.toNat_inj.mp
    rw [toNat_min, hsize, toNat_size_ofFitting hfits]
    exact Nat.min_eq_left hfits
  rw [hcut]
  rfl

end Value

def Bench.Bank.attached (opening : Except Fault UInt32) (closing : Except Fault Unit) :
    Service Bank where
  openNumber bank := (opening, bank)
  closeNumber _ bank := (closing, bank)
  call _ := Bank.transport
  note _ bank := bank

namespace Console

/-- There is nothing against a write to a bank: its arguments are in order, the bank can be
reached, and it has the key in the size of the bytes, for which a buffer has room. -/
structure Storable (kit : Kit) (opening : Except Fault UInt32) (text data : String) (bank : Bank)
    (key : Code) (bytes : List UInt8) (entry : Entry) : Prop where
  named : keyArgument text = .ok key
  decoded : kit.bytesArgument data = .ok bytes
  opened : ∃ number, opening = .ok number
  found : bank.find? key = some entry
  sized : entry.info.size.toNat = bytes.length
  fits : bytes.length ≤ capacity

namespace Command

/-- How a write of bytes to a bank ends: with a value of them stored, or with the bank as it was. -/
inductive Stores (key : Code) (bytes : List UInt8) (before after : Bank) :
    Except Trouble Report → Prop where
  | stored {entry : Entry} (hentry : before.find? key = some entry)
      (hfits : bytes.length ≤ capacity) (hsize : entry.info.size.toNat = bytes.length)
      (hbank : after = before.store key (Bytes.padded capacity bytes)) :
      Stores key bytes before after (.ok (.value (.ofFitting key entry.info.type bytes)))
  | refused (trouble : Trouble)
      (hreason : ∀ entry, before.find? key = some entry → bytes.length ≤ capacity →
        entry.info.size.toNat ≠ bytes.length)
      (hbank : after = before) : Stores key bytes before after (.error trouble)

section

variable {key : Code} {w : World Bank}

theorem exists_stores (bytes : List UInt8) (h : w.cache.Agrees w.controller) :
    ∃ result s, (writeSteps key bytes).run (.alone Bank.transport) w = (.returned result, s) ∧
      Stores key bytes w.controller s.controller result := by
  obtain ⟨found, s, hasked, htold⟩ := Client.exists_told {} key h
  rw [writeSteps_eq, Operation.run_bind, hasked]
  cases found with
  | error failure =>
      refine ⟨_, s, rfl, .refused _ ?_ htold.controller⟩
      intro entry hentry
      cases htold.complete rfl entry.info (Bank.info?_eq_some_iff.mpr ⟨entry, hentry, rfl⟩)
  | ok info =>
      obtain ⟨entry, hentry, rfl⟩ := Bank.info?_eq_some_iff.mp (htold.sound info rfl)
      by_cases hsize : capacity < bytes.length
      · simp only [writeOn_of_oversized key hsize]
        refine ⟨_, s, rfl, .refused _ ?_ htold.controller⟩
        exact fun _ _ hfits => absurd hsize (Nat.not_lt.mpr hfits)
      · have hfits := Nat.not_lt.mp hsize
        have hshape := Value.toShape_ofFitting_iff hfits key entry.info
        -- The question left the bank alone, so the write finds the entry that it was told of.
        obtain ⟨result, t, hwrite, -, hwrote⟩ :=
          Client.exists_wrote {} (Value.ofFitting key entry.info.type bytes) htold.agrees
        rw [htold.controller] at hwrote
        simp only [writeOn, Value.ofBytes_of_fits hfits, Operation.run_bind, hwrite]
        cases hwrote with
        | refused failure hreason hbank =>
            refine ⟨_, t, rfl, .refused _ ?_ hbank⟩
            intro other hother _ hsame
            obtain rfl : entry = other := Option.some.inj (hentry.symm.trans hother)
            exact hreason rfl entry hentry (hshape.mpr hsame)
        | stored other hselector hother hsame hbank =>
            obtain rfl : entry = other := Option.some.inj (hentry.symm.trans hother)
            exact ⟨_, _, rfl, .stored hentry hfits (hshape.mp hsame) hbank⟩

theorem run_readSteps_of_entry {entry : Entry} (h : w.cache.Agrees w.controller)
    (hentry : w.controller.find? key = some entry) :
    ((readSteps key).run (.alone Bank.transport) w).1 =
      .returned (.ok (.value
        { key, size := min entry.info.size 32, type := entry.info.type, data := entry.data })) := by
  obtain ⟨s, hread, -⟩ := @Client.exists_read {} key w entry h rfl hentry
  rw [readSteps_eq, Operation.run_bind, hread]
  rfl

end

section

variable {kit : Kit} {opening : Except Fault UInt32} {closing : Except Fault Unit}
  {text data : String} {bank left : Bank} {result : Except Trouble Report} {demands : List Demand}

theorem agrees_begun (number : UInt32) (bank : Bank) :
    (begun number bank).cache.Agrees (begun number bank).controller := by
  intro key info hfound
  cases hfound

theorem stored_or_refused
    (h : (Command.write text data).Deals kit (Bank.attached opening closing) bank result demands
      left) :
    (∃ key bytes entry, Storable kit opening text data bank key bytes entry ∧
        result = .ok (.value (.ofFitting key entry.info.type bytes)) ∧
        left = bank.store key (Bytes.padded capacity bytes)) ∨
      (∀ key bytes entry, ¬Storable kit opening text data bank key bytes entry) ∧
        (∃ trouble, result = .error trouble) ∧ left = bank := by
  cases h with
  | unready htask =>
      refine .inr ⟨?_, ⟨_, rfl⟩, rfl⟩
      intro key bytes entry hstorable
      cases htask.symm.trans (task_of_write hstorable.named hstorable.decoded)
  | immediate htask =>
      obtain ⟨extended, hversion⟩ := eq_version_of_task htask
      cases hversion
  | unopened htask hopened =>
      cases hopened
      refine .inr ⟨?_, ⟨_, rfl⟩, rfl⟩
      intro key bytes entry hstorable
      obtain ⟨number, hnumber⟩ := hstorable.opened
      cases hnumber
  | @worked steps number found htask hopened =>
      cases hopened
      cases takes_of_task htask with
      | @write text data key bytes hkey hbytes =>
          obtain ⟨result, s, hrun, hstores⟩ := exists_stores bytes (agrees_begun number bank)
          have hdone : (writeSteps key bytes).run
              (.alone ((Bank.attached (.ok number) closing).call number)) (begun number bank) =
                (.returned result, s) := hrun
          rw [hdone]
          cases hstores with
          | @stored entry hentry hfits hsize hbank =>
              exact .inl ⟨key, bytes, entry, ⟨hkey, hbytes, ⟨number, rfl⟩, hentry, hsize, hfits⟩,
                rfl, hbank⟩
          | refused trouble hreason hbank =>
              refine .inr ⟨?_, ⟨trouble, rfl⟩, hbank⟩
              intro key' bytes' entry hstorable
              obtain rfl : key = key' := Except.ok.inj (hkey.symm.trans hstorable.named)
              obtain rfl : bytes = bytes' := Except.ok.inj (hbytes.symm.trans hstorable.decoded)
              exact hreason entry hstorable.found hstorable.fits hstorable.sized

theorem eq_value_of_deals {key : Code} {number : UInt32} {entry : Entry}
    (h : (Command.read text).Deals kit (Bank.attached (.ok number) closing) bank result demands
      left)
    (hkey : keyArgument text = .ok key) (hentry : bank.find? key = some entry) :
    result = .ok (.value
      { key, size := min entry.info.size 32, type := entry.info.type, data := entry.data }) := by
  cases h with
  | unready htask =>
      rw [Kit.task, hkey] at htask
      cases htask
  | immediate htask =>
      obtain ⟨extended, hversion⟩ := eq_version_of_task htask
      cases hversion
  | unopened htask hopened => cases hopened
  | @worked steps number found htask hopened =>
      cases hopened
      cases takes_of_task htask with
      | @read text other hother =>
          obtain rfl : key = other := Except.ok.inj (hkey.symm.trans hother)
          have hdone : ((readSteps key).run
              (.alone ((Bank.attached (.ok number) closing).call number)) (begun number bank)).1 =
                _ := run_readSteps_of_entry (agrees_begun number bank) hentry
          rw [hdone]
          rfl

theorem eq_value_of_stored {key : Code} {bytes : List UInt8} {entry : Entry}
    (h : Storable kit opening text data bank key bytes entry)
    (hdeals : (Command.read text).Deals kit (Bank.attached opening closing)
      (bank.store key (Bytes.padded capacity bytes)) result demands left) :
    (bank.store key (Bytes.padded capacity bytes)).find? key =
        some { entry with data := Bytes.padded capacity bytes } ∧
      result = .ok (.value (.ofFitting key entry.info.type bytes)) := by
  obtain ⟨number, rfl⟩ := h.opened
  have hstored : (bank.store key (Bytes.padded capacity bytes)).find? key =
      some { entry with data := Bytes.padded capacity bytes } := by
    rw [Bank.find?_store_self, h.found]
    rfl
  refine ⟨hstored, ?_⟩
  rw [eq_value_of_deals hdeals h.named hstored, Value.eq_ofFitting h.fits h.sized]

end

end Command

def process (kit : Kit) (service : Service τ) (environment : Option String)
    (arguments : List String) (t : τ) : Transcript × τ :=
  let done := kit.session service.inWorld environment arguments { controller := t }
  (done.1, done.2.controller)

theorem process_of_panicked {kit : Kit} {text : String} {arguments : List String}
    {line : CommandLine} (hparse : kit.parse arguments = .ok line)
    (hpanicked : kit.givenFilter text = .panicked) (service : Service τ) (t : τ) :
    process kit service (some text) arguments t = (.aborted, t) := by
  simp only [process, Kit.session_of_panicked hparse hpanicked]

theorem process_deals {kit : Kit} {environment : Option String} {arguments : List String}
    {line : CommandLine} (hruns : kit.Runs environment arguments line) (service : Service τ)
    (t : τ) :
    let done := process kit service environment arguments t
    ∃ result demands lines, line.command.Deals kit service t result demands done.2 ∧
      done.1 = kit.transcriptOf (line.format.getD (.default kit.terminal)) lines result := by
  obtain ⟨admits, result, -, hdeals, htranscript⟩ :=
    Kit.session_deals hruns service { controller := t }
  exact ⟨result, _, _, hdeals, htranscript⟩

/-- What the standard output has in each format of a key, a type and bytes with these digits. -/
def Kit.shown (kit : Kit) (key type : Code) (bytes : List UInt8) (digits : String) :
    Format → List UInt8
  | .json => Text.utf8 <| kit.object
      [("key", .string key.text), ("data_type", .string type.text),
        ("data_size", .number bytes.length), ("bytes", .string digits)] ++ "\n"
  | .table => Text.utf8 <| kit.grid
      [⟨"KEY", key.text⟩, ⟨"TYPE", type.text⟩, ⟨"SIZE", toString bytes.length⟩,
        ⟨"BYTES", digits⟩] ++ "\n"
  | .pretty => Text.utf8 <|
      "key=" ++ key.text ++ " type=" ++ type.text ++ " size=" ++ toString bytes.length ++
        " bytes=" ++ digits ++ "\n"
  | .raw => bytes

theorem Kit.toBytes_print_ofFitting (kit : Kit) {bytes : List UInt8}
    (hfits : bytes.length ≤ capacity) (key type : Code) (format : Format) :
    (kit.print format (.value (.ofFitting key type bytes))).toBytes =
      kit.shown key type bytes (kit.writeHex bytes) format := by
  have hbytes := @Value.significant_ofFitting key type bytes hfits
  have hsize := Value.toNat_size_ofFitting hfits key type
  cases format with
  | raw => exact hbytes
  | _ =>
      simp only [print, showValue, hbytes, hsize]
      rfl

end Console

end SmcKeys
