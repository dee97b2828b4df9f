import SmcKeys.Proofs.Alone
import SmcKeys.Proofs.Bank
import SmcKeys.Proofs.Proceeding

namespace SmcKeys

open Bench (Bank)

theorem toNat_min (m n : UInt32) : (min m n).toNat = min m.toNat n.toNat := by
  change UInt32.toNat (if m ≤ n then m else n) = _
  split
  case isTrue h => exact (Nat.min_eq_left h).symm
  case isFalse h => exact (Nat.min_eq_right (Nat.le_of_not_le h)).symm

theorem Value.significant_of_min {v w : Value} (hdata : w.data = v.data)
    (hsize : w.size = min v.size 32) : w.significant = v.significant := by
  have hlength : v.data.toList.length = 32 := v.data.length_toList
  have hcut : w.size.toNat = min v.size.toNat 32 := by
    rw [hsize, toNat_min]
    rfl
  rw [significant, significant, hdata, List.take_eq_take_iff, hlength, hcut]
  omega

/-- Whether a cache has nothing but what a bank declares. -/
def Cache.Agrees (cache : Cache) (bank : Bank) : Prop :=
  ∀ key info, cache.find? key = some info → bank.info? key = some info

namespace Client

structure Told (config : Config) (key : Code) (w s : World Bank)
    (found : Except Failure KeyInfo) : Prop where
  controller : s.controller = w.controller
  agrees : s.cache.Agrees s.controller
  sound : ∀ info, found = .ok info → w.controller.info? key = some info
  complete : config.selector = 2 → ∀ info, w.controller.info? key = some info → found = .ok info

section

variable {config : Config} {key : Code} {w : World Bank}

theorem verdict_encode {request response : Packet} (h : response.result = .success) :
    verdict request (.ok response.encode) = .ok response := by
  simp only [verdict, Packet.decode_encode, h]
  rfl

theorem declared_announce (found : Option KeyInfo) (info : KeyInfo) :
    declared key (.ok (Bank.announce found).encode) = .ok info ↔ found = some info := by
  rw [declared, verdict]
  simp only [Packet.decode_encode]
  cases found with
  | none => simp [Bank.announce, Bank.failed, ControllerStatus.isSuccess,
      ControllerStatus.keyNotFound, Except.map]
  | some info => simp [Bank.announce, ControllerStatus.isSuccess, ControllerStatus.success,
      Except.map]

theorem transport_inquiry (selector : UInt32) (key : Code) (bank : Bank) :
    ∃ answer, Bank.transport selector (infoRequest key).encode bank = (.returned answer, bank) ∧
      (∀ info, declared key answer = .ok info → bank.info? key = some info) ∧
      (selector = 2 → ∀ info, bank.info? key = some info → declared key answer = .ok info) := by
  by_cases hselector : selector = 2
  · subst hselector
    refine ⟨.ok (Bank.announce (bank.info? key)).encode, ?_, ?_, ?_⟩
    · rw [Bank.transport_two, Packet.decode_encode, Bank.respond_infoRequest]
    · exact fun info => (declared_announce _ info).mp
    · exact fun _ info => (declared_announce _ info).mpr
  · refine ⟨_, Bank.transport_of_ne hselector _ bank, ?_, ?_⟩
    · intro info h
      cases h
    · exact fun h => absurd h hselector

theorem agrees_settled {s : World Bank} {found? : Option KeyInfo}
    (h : s.cache.Agrees s.controller) (hmissing : s.cache.find? key = none)
    (hsound : ∀ info, found? = some info → s.controller.info? key = some info) :
    (s.settled key found?).cache.Agrees (s.settled key found?).controller := by
  cases found? with
  | none => exact h
  | some info =>
      intro other info' hother
      by_cases hkey : other = key
      · subst hkey
        rw [World.settled, World.find?_inserted_self hmissing] at hother
        exact hsound info' hother
      · rw [World.settled, World.find?_inserted_of_ne hkey] at hother
        exact h other info' hother

theorem exists_told (config : Config) (key : Code) (h : w.cache.Agrees w.controller) :
    ∃ found s, (keyInfo config key).run (.alone Bank.transport) w = (.returned found, s) ∧
      Told config key w s found := by
  obtain ⟨answer, hanswer, hsound, hcomplete⟩ :=
    transport_inquiry config.selector key w.controller
  cases hcaching : config.caching with
  | false =>
      rw [keyInfo_of_not_caching hcaching, run_declaredInfo, hanswer]
      have hbank : (w.exchanged Bank.transport config (infoRequest key)).controller =
          w.controller := by
        rw [World.controller_exchanged, hanswer]
      exact ⟨_, _, rfl, hbank, by rwa [hbank], hsound, hcomplete⟩
  | true =>
      cases hfound : w.cache.find? key with
      | some info =>
          refine ⟨_, _, run_keyInfo_of_found hcaching hfound, rfl, ?_, ?_, ?_⟩
          · intro other info' hother
            rw [World.find?_lookedUp] at hother
            exact h other info' hother
          · rintro info' ⟨⟩
            exact h key info hfound
          · intro _ info' hinfo'
            rw [h key info hfound] at hinfo'
            cases hinfo'
            rfl
      | none =>
          -- The bank stays as it is, so the cache agrees with it again once it has the answer.
          rw [run_keyInfo_of_missing hcaching hfound, hanswer, ← success?_declared key]
          let asked := (w.lookedUp key).exchanged Bank.transport config (infoRequest key)
          have hbank : asked.controller = w.controller := by
            rw [World.controller_exchanged, World.controller_lookedUp, hanswer]
          have hcache : ∀ other, asked.cache.find? other = w.cache.find? other := by
            simp [asked]
          have hagrees : asked.cache.Agrees asked.controller := by
            intro other info hother
            rw [hcache] at hother
            rw [hbank]
            exact h other info hother
          refine ⟨_, _, rfl, ?_, agrees_settled hagrees ?_ ?_, hsound, hcomplete⟩
          · rw [World.controller_settled, hbank]
          · rw [hcache, hfound]
          · intro info hinfo
            rw [hbank]
            exact hsound info (Outcome.success?_returned_eq_some_iff.mp hinfo)

/-- How a write to a bank ends: with the value stored under its key, whose shape it has, or with
nothing changed. -/
inductive Wrote (config : Config) (value : Value) (before after : Bank) :
    Except Failure Unit → Prop where
  | stored (entry : Bench.Entry) (hselector : config.selector = 2)
      (hentry : before.find? value.key = some entry)
      (hshape : entry.info.toShape = value.toShape)
      (hbank : after = before.store value.key value.data) :
      Wrote config value before after (.ok ())
  | refused (failure : Failure)
      (hreason : config.selector = 2 → ∀ entry, before.find? value.key = some entry →
        entry.info.toShape ≠ value.toShape)
      (hbank : after = before) : Wrote config value before after (.error failure)

theorem exists_sent {value : Value} {entry : Bench.Entry} (h : w.cache.Agrees w.controller)
    (hentry : w.controller.find? value.key = some entry)
    (hshape : entry.info.toShape = value.toShape) :
    ∃ result s, (writeAfter config value (.ok entry.info)).run (.alone Bank.transport) w =
        (.returned result, s) ∧
      s.cache.Agrees s.controller ∧ Wrote config value w.controller s.controller result := by
  simp only [writeAfter, if_pos hshape, Operation.run_bind]
  by_cases hselector : config.selector = 2
  · have hsize : value.size = entry.info.size := congrArg Shape.size hshape.symm
    have hresponse : w.controller.respond (writeRequest value) =
        ({}, w.controller.store value.key value.data) := Bank.respond_of_write rfl hentry hsize
    have hstored : Bank.transport config.selector (writeRequest value).encode w.controller =
        (.returned (.ok (Packet.encode {})), w.controller.store value.key value.data) := by
      rw [hselector, Bank.transport_two, Packet.decode_encode, hresponse]
    obtain ⟨s, hrun, hcache, hbank⟩ := exists_exchanged hstored
    rw [hrun, Outcome.map, verdict_encode rfl]
    refine ⟨_, s, rfl, ?_, .stored entry hselector hentry hshape hbank⟩
    intro key info hfound
    rw [hcache] at hfound
    rw [hbank, Bank.info?_store]
    exact h key info hfound
  · obtain ⟨s, hrun, hcache, hbank⟩ := exists_exchanged
      (Bank.transport_of_ne hselector (writeRequest value).encode w.controller)
    rw [hrun]
    refine ⟨_, s, rfl, ?_, .refused _ (fun hsame => absurd hsame hselector) hbank⟩
    rw [hcache, hbank]
    exact h

theorem exists_wrote (config : Config) (value : Value) (h : w.cache.Agrees w.controller) :
    ∃ result s, (write config value).run (.alone Bank.transport) w = (.returned result, s) ∧
      s.cache.Agrees s.controller ∧ Wrote config value w.controller s.controller result := by
  obtain ⟨found, s, hrun, htold⟩ := exists_told config value.key h
  rw [write_eq, Operation.run_bind, hrun]
  cases found with
  | error failure =>
      refine ⟨.error failure, s, rfl, htold.agrees, .refused failure ?_ htold.controller⟩
      intro hselector entry hentry
      have hinfo := Bank.info?_eq_some_iff.mpr ⟨entry, hentry, rfl⟩
      cases htold.complete hselector entry.info hinfo
  | ok info =>
      obtain ⟨entry, hentry, rfl⟩ := Bank.info?_eq_some_iff.mp (htold.sound info rfl)
      by_cases hshape : entry.info.toShape = value.toShape
      · rw [← htold.controller] at hentry ⊢
        exact exists_sent htold.agrees hentry hshape
      · simp only [writeAfter, if_neg hshape]
        refine ⟨_, _, rfl, htold.agrees, .refused _ ?_ htold.controller⟩
        intro _ entry' hentry'
        rw [hentry] at hentry'
        cases hentry'
        exact hshape

theorem exists_read {entry : Bench.Entry} (h : w.cache.Agrees w.controller)
    (hselector : config.selector = 2) (hentry : w.controller.find? key = some entry) :
    ∃ s, (read config key).run (.alone Bank.transport) w =
        (.returned (.ok
          { key, size := min entry.info.size 32, type := entry.info.type, data := entry.data }),
          s) ∧
      s.controller = w.controller := by
  obtain ⟨found, s, hrun, htold⟩ := exists_told config key h
  have hinfo : w.controller.info? key = some entry.info :=
    Bank.info?_eq_some_iff.mpr ⟨entry, hentry, rfl⟩
  obtain rfl := htold.complete hselector entry.info hinfo
  rw [← htold.controller] at hentry
  have hresponse : s.controller.respond (readRequest key entry.info) =
      ({ data := entry.data }, s.controller) := Bank.respond_of_read rfl hentry rfl
  have hread : Bank.transport config.selector (readRequest key entry.info).encode s.controller =
      (.returned (.ok (Packet.encode { data := entry.data })), s.controller) := by
    rw [hselector, Bank.transport_two, Packet.decode_encode, hresponse]
  obtain ⟨t, ht, -, hbank⟩ := exists_exchanged hread
  refine ⟨t, ?_, hbank.trans htold.controller⟩
  simp only [read, readInto_eq, readAfter, Operation.run_bind, hrun, ht, Outcome.map,
    verdict_encode]
  rfl

end

end Client

/-- A write to a bank succeeds if and only if the bank has the key in the shape of the value; then
the next read gives the value back, and nothing else has changed. -/
theorem written_value_reads_back (config : Config) (value : Value) (w : World Bank)
    (h : w.cache.Agrees w.controller) :
    let site := Site.alone Bank.transport
    let written := (Client.write config value).run site w
    let back := (Client.read config value.key).run site written.2
    ∃ result, written.1 = .returned result ∧
      (result = .ok () ↔ config.selector = 2 ∧
        ∃ entry, w.controller.find? value.key = some entry ∧
          entry.info.toShape = value.toShape) ∧
      (result = .ok () →
        (∃ v, back.1 = .returned (.ok v) ∧ v.key = value.key ∧ v.type = value.type ∧
          v.data = value.data ∧ v.size = min value.size 32 ∧
          v.significant = value.significant) ∧
        ∀ other, other ≠ value.key →
          written.2.controller.find? other = w.controller.find? other) ∧
      ∀ failure, result = .error failure → written.2.controller = w.controller := by
  intro site written back
  obtain ⟨result, s, hrun, hagrees, hwrote⟩ := Client.exists_wrote config value h
  have hwritten : written = (.returned result, s) := hrun
  simp only [back, hwritten]
  refine ⟨result, rfl, ?_⟩
  cases hwrote with
  | stored entry hselector hentry hshape hbank =>
      have hstored : s.controller.find? value.key = some { entry with data := value.data } := by
        rw [hbank, Bank.find?_store_self, hentry]
        rfl
      obtain ⟨t, hread, -⟩ := Client.exists_read hagrees hselector hstored
      have hsize : min entry.info.size 32 = min value.size 32 := by rw [hshape]
      have htype : entry.info.type = value.type := by rw [hshape]
      refine ⟨iff_of_true rfl ⟨hselector, entry, hentry, hshape⟩, ?_, by simp⟩
      intro _
      constructor
      · exact ⟨_, congrArg Prod.fst hread, rfl, htype, rfl, hsize,
          Value.significant_of_min rfl hsize⟩
      · intro other hother
        rw [hbank, Bank.find?_store_of_ne hother]
  | refused failure hreason hbank =>
      refine ⟨iff_of_false (by simp) ?_, by simp, fun _ _ => hbank⟩
      rintro ⟨hselector, entry, hentry, hshape⟩
      exact hreason hselector entry hentry hshape

/-- A value that says it has twice the bytes of its buffer comes back whole. -/
theorem oversized_value_reads_back :
    let key : Code := ⟨0x54433050⟩
    let info : KeyInfo := { size := 64, type := ⟨0x73703738⟩ }
    let value : Value := { info with key, data := Vector.replicate 32 7 }
    let w : World Bank :=
      { cache := { entries := some [(key, info)] }, controller := [⟨key, info, Payload.zero⟩] }
    w.cache.Agrees w.controller ∧
      ∃ s v, (Client.write {} value).run (.alone Bank.transport) w = (.returned (.ok ()), s) ∧
        ((Client.read {} key).run (.alone Bank.transport) s).1 = .returned (.ok v) ∧
        v.size = 32 ∧ v.data = value.data ∧ v.significant = value.significant := by
  intro key info value w
  have hagrees : w.cache.Agrees w.controller := by
    intro other declared hfound
    by_cases hother : other = key
    · subst hother
      simpa [w, Cache.find?, Cache.bindings, Bank.info?, Bank.find?] using hfound
    · have hbeq : (other == key) = false := by simpa using hother
      simp [w, Cache.find?, Cache.bindings, List.lookup_cons, hbeq] at hfound
  have hentry : w.controller.find? value.key = some ⟨key, info, Payload.zero⟩ := by
    simp [w, value, Bank.find?]
  -- Three facts about the value and the world are computed; the runs are not, so they are general.
  have hall : ∀ (value : Value) (w : World Bank) (entry : Bench.Entry),
      w.cache.Agrees w.controller → w.controller.find? value.key = some entry →
      entry.info.toShape = value.toShape →
      ∃ s v, (Client.write {} value).run (.alone Bank.transport) w = (.returned (.ok ()), s) ∧
        ((Client.read {} value.key).run (.alone Bank.transport) s).1 = .returned (.ok v) ∧
        v.size = min value.size 32 ∧ v.data = value.data ∧
        v.significant = value.significant := by
    intro value w entry hagrees hentry hshape
    obtain ⟨result, hresult, hiff, hback, -⟩ := written_value_reads_back {} value w hagrees
    obtain rfl := hiff.mpr ⟨rfl, entry, hentry, hshape⟩
    obtain ⟨⟨v, hv, -, -, hdata, hsize, hsignificant⟩, -⟩ := hback rfl
    exact ⟨_, v, Prod.ext hresult rfl, hv, hsize, hdata, hsignificant⟩
  obtain ⟨s, v, hwritten, hread, hsize, hback⟩ := hall value w _ hagrees hentry rfl
  have hcut : min (64 : UInt32) 32 = 32 := by decide
  exact ⟨hagrees, s, v, hwritten, hread, hsize.trans hcut, hback⟩

end SmcKeys
