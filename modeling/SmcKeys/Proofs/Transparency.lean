import SmcKeys.Proofs.Alone
import SmcKeys.Proofs.Bank
import SmcKeys.Proofs.Session

namespace SmcKeys

open Operation (trace_bind run_bind)
open Client (Job Request infoRequest declared transact keyInfo)

section

variable {τ : Type} (transport : UInt32 → Frame → τ → Outcome Answer × τ) (selector : UInt32)
  (start : τ)

/-- The controller is the same, and the cache has the info of each key that is known. -/
structure Tracks (known : List Code) (fast plain : World τ) : Prop where
  controller : fast.controller = plain.controller
  reachable : Reachable transport selector start plain.controller
  mem_known : ∀ key, key ∈ known ↔ (fast.cache.find? key).isSome
  declared : ∀ key info, fast.cache.find? key = some info →
    (declaration transport selector key start).info? = some info

/-- Two operations that come to the same from states that go together, and whose states go
together afterwards. -/
structure Agree (known : List Code) (fast plain : Operation α) (w w' : World τ) : Prop where
  outcome : (fast.run (.alone transport) w).1 = (plain.run (.alone transport) w').1
  marks : fast.marks transport w = Mark.prune known (plain.marks transport w')
  tracks : Tracks transport selector start (Mark.learned known (plain.marks transport w'))
    (fast.run (.alone transport) w).2 (plain.run (.alone transport) w').2

structure Session.Agree (known : List Code) (fast plain : Session τ) : Prop where
  outcomes : fast.outcomes = plain.outcomes
  marks : fast.marks = Mark.prune known plain.marks
  tracks : Tracks transport selector start (Mark.learned known plain.marks)
    fast.world plain.world

def Simulates (fast plain : Operation α) : Prop :=
  ∀ known w w', Tracks transport selector start known w w' →
    Agree transport selector start known fast plain w w'

end

section

variable {τ : Type} {transport : UInt32 → Frame → τ → Outcome Answer × τ} {selector : UInt32}
  {start : τ}

theorem Tracks.exchanged {known : List Code} {w w' : World τ}
    (h : Tracks transport selector start known w w') (request : Packet) :
    Tracks transport selector start known
      (w.exchanged transport { selector, caching := true } request)
      (w'.exchanged transport { selector, caching := false } request) where
  controller := by simp [h.controller]
  reachable := h.reachable.call request.encode
  mem_known := h.mem_known
  declared := h.declared

theorem Tracks.idle {w : World τ} (h : w.cache.bindings = []) :
    Tracks transport selector w.controller [] w w where
  controller := rfl
  reachable := .start
  mem_known := by simp [Cache.find?, h]
  declared := by simp [Cache.find?, h]

theorem Tracks.reset {known : List Code} {w w' : World τ}
    (h : Tracks transport selector start known w w') :
    Tracks transport selector start []
      ((w.withCache w.cache.reset.cache).logAll w.cache.reset.events)
      ((w'.withCache w'.cache.reset.cache).logAll w'.cache.reset.events) where
  controller := h.controller
  reachable := h.reachable
  mem_known := by simp [World.withCache, World.logAll, Cache.reset]
  declared := by simp [World.withCache, World.logAll, Cache.reset]

theorem Tracks.lookedUp {known : List Code} {w w' : World τ}
    (h : Tracks transport selector start known w w') (key : Code) :
    Tracks transport selector start known (w.lookedUp key) w' where
  controller := h.controller
  reachable := h.reachable
  mem_known := by simpa using h.mem_known
  declared := by simpa using h.declared

theorem Operation.marks_bind_of_returned {op : Operation α} {f : α → Operation β} {a : α}
    {w w' : World τ} (h : op.run (.alone transport) w = (.returned a, w')) :
    (op >>= f).marks transport w = op.marks transport w ++ (f a).marks transport w' := by
  rw [Operation.marks, trace_bind, Operation.calls_append, List.map_append, h]
  rfl

theorem Operation.marks_bind_of_panicked {op : Operation α} {f : α → Operation β}
    {w w' : World τ} (h : op.run (.alone transport) w = (.panicked, w')) :
    (op >>= f).marks transport w = op.marks transport w := by
  rw [Operation.marks, trace_bind, Operation.calls_append, List.map_append, h]
  exact List.append_nil _

theorem simulates_done (a : α) :
    Simulates transport selector start (.done a) (.done a) :=
  fun _ _ _ h => ⟨rfl, rfl, h⟩

theorem Simulates.note {fast plain : Operation α}
    (h : Simulates transport selector start fast plain) (event : Log.Event) :
    Simulates transport selector start (.note event fast) (.note event plain) := by
  intro known w w' htracks
  have hnoted : Tracks transport selector start known (w.note event) (w'.note event) :=
    ⟨htracks.controller, htracks.reachable, htracks.mem_known, htracks.declared⟩
  obtain ⟨houtcome, hmarks, hafter⟩ := h known _ _ hnoted
  exact ⟨houtcome, hmarks, hafter⟩

theorem Simulates.bind {fast plain : Operation α} {f g : α → Operation β}
    (h : Simulates transport selector start fast plain)
    (hnext : ∀ a, Simulates transport selector start (f a) (g a)) :
    Simulates transport selector start (fast >>= f) (plain >>= g) := by
  intro known w w' htracks
  obtain ⟨houtcome, hmarks, hafter⟩ := h known w w' htracks
  rcases hfast : fast.run (.alone transport) w with ⟨outcome, v⟩
  rcases hplain : plain.run (.alone transport) w' with ⟨outcome', v'⟩
  rw [hfast, hplain] at houtcome hafter
  obtain rfl : outcome = outcome' := houtcome
  cases outcome with
  | returned a =>
      obtain ⟨hends, hrest, hlast⟩ := hnext a _ _ _ hafter
      constructor
      · rw [run_bind, run_bind, hfast, hplain]
        exact hends
      · rw [Operation.marks_bind_of_returned hfast, Operation.marks_bind_of_returned hplain,
          Mark.prune_append, hmarks, hrest]
      · rw [Operation.marks_bind_of_returned hplain, Mark.learned_append, run_bind, run_bind,
          hfast, hplain]
        exact hlast
  | panicked =>
      constructor
      · rw [run_bind, run_bind, hfast, hplain]
      · rw [Operation.marks_bind_of_panicked hfast, Operation.marks_bind_of_panicked hplain,
          hmarks]
      · rw [Operation.marks_bind_of_panicked hplain, run_bind, run_bind, hfast, hplain]
        exact hafter

theorem simulates_transact {request : Packet} (hrequest : request.command ≠ .readKeyInfo) :
    Simulates transport selector start
      (transact { selector, caching := true } request)
      (transact { selector, caching := false } request) := by
  intro known w w' h
  have hcall : ∀ (caching : Bool) (v : World τ),
      (transact { selector, caching } request).marks transport v =
        [.sent ⟨selector, request.encode,
          (transport selector request.encode v.controller).1⟩] := by
    intro caching v
    rw [Operation.marks, Client.trace_transact, Client.calls_exchange]
    rfl
  have hinquiry : Frame.inquiry? request.encode = none := by
    rw [Frame.inquiry?_encode, if_neg hrequest]
  constructor
  · rw [Client.run_transact, Client.run_transact, h.controller]
  · rw [hcall, hcall, h.controller, Mark.prune_of_not_inquiry hinquiry]
  · rw [hcall, Mark.learned_sent, Mark.learn_of_not_inquiry hinquiry, Client.run_transact,
      Client.run_transact]
    exact h.exchanged request

theorem Tracks.learned {known : List Code} {w w' v v' : World τ} {key : Code} {info : KeyInfo}
    (h : Tracks transport selector start known w w')
    (hinfo : (declaration transport selector key start).info? = some info)
    (hcontroller : v.controller = w.controller) (hcontroller' : v'.controller = w'.controller)
    (hkey : v.cache.find? key = some info)
    (hother : ∀ other, other ≠ key → v.cache.find? other = w.cache.find? other) :
    Tracks transport selector start (key :: known) v v' where
  controller := by rw [hcontroller, hcontroller', h.controller]
  reachable := hcontroller' ▸ h.reachable
  mem_known := by
    intro other
    by_cases hsame : other = key
    · simp [hsame, hkey]
    · simp [hsame, hother other hsame, h.mem_known]
  declared := by
    intro other found hfound
    by_cases hsame : other = key
    · rw [hsame, hkey] at hfound
      rw [hsame, hinfo, hfound]
    · rw [hother other hsame] at hfound
      exact h.declared other found hfound

theorem returned_of_info? {key : Code} {reply : Outcome Answer} {info : KeyInfo}
    (h : reply.info? = some info) : reply.map (declared key) = .returned (.ok info) := by
  rw [← Client.success?_declared key] at h
  rcases hend : reply.map (declared key) with (failure | found) | _
  · simp [hend, Outcome.success?] at h
  · simpa [hend, Outcome.success?] using h
  · simp [hend, Outcome.success?] at h

section

variable {known : List Code} {key : Code} {w w' : World τ}

theorem Tracks.answer (h : Tracks transport selector start known w w')
    (hstable : Stable transport selector start) (key : Code) :
    transport selector (infoRequest key).encode w.controller =
      (declaration transport selector key start, w'.controller) := by
  rw [h.controller]
  exact hstable _ h.reachable key

theorem Tracks.run_plain (h : Tracks transport selector start known w w')
    (hstable : Stable transport selector start) :
    (keyInfo { selector, caching := false } key).run (.alone transport) w' =
      ((declaration transport selector key start).map (Client.declared key),
        w'.exchanged transport { selector, caching := false } (infoRequest key)) := by
  rw [Client.keyInfo_of_not_caching rfl, Client.run_declaredInfo, ← h.controller,
    h.answer hstable]

theorem Tracks.marks_plain (h : Tracks transport selector start known w w')
    (hstable : Stable transport selector start) :
    (keyInfo { selector, caching := false } key).marks transport w' =
      [.sent ⟨selector, (infoRequest key).encode,
        declaration transport selector key start⟩] := by
  rw [Operation.marks, Client.keyInfo_of_not_caching rfl, Client.calls_declaredInfo,
    ← h.controller, h.answer hstable]
  rfl

/-- A hit gives what the controller would have declared. -/
theorem agree_keyInfo_of_found (h : Tracks transport selector start known w w')
    (hstable : Stable transport selector start) {info : KeyInfo}
    (hfound : w.cache.find? key = some info) :
    Agree transport selector start known
      (keyInfo { selector, caching := true } key)
      (keyInfo { selector, caching := false } key) w w' := by
  have hinquiry := Client.inquiry?_infoRequest key
  have hinfo := h.declared key info hfound
  have hknown : key ∈ known := by
    rw [h.mem_known, hfound]
    rfl
  constructor
  · rw [Client.run_keyInfo_of_found rfl hfound, h.run_plain hstable, returned_of_info? hinfo]
  · rw [h.marks_plain hstable, Mark.prune_of_known hinquiry hknown, Operation.marks,
      Client.calls_keyInfo_of_found rfl hfound]
    rfl
  · rw [h.marks_plain hstable, Mark.learned_sent, Mark.learn_of_declared hinquiry hinfo,
      Client.run_keyInfo_of_found rfl hfound, h.run_plain hstable]
    apply h.learned hinfo
    · rfl
    -- The plain session has asked again, which left the controller as it is.
    · rw [World.controller_exchanged, ← h.controller, h.answer hstable, h.controller]
    · rw [World.find?_lookedUp, hfound]
    · intro other hother
      exact World.find?_lookedUp key other w

theorem agree_keyInfo_of_missing (h : Tracks transport selector start known w w')
    (hstable : Stable transport selector start) (hmissing : w.cache.find? key = none) :
    Agree transport selector start known
      (keyInfo { selector, caching := true } key)
      (keyInfo { selector, caching := false } key) w w' := by
  have hinquiry := Client.inquiry?_infoRequest key
  have hunknown : key ∉ known := by
    rw [h.mem_known, hmissing]
    simp
  constructor
  · rw [Client.run_keyInfo_of_missing rfl hmissing, h.run_plain hstable, h.answer hstable]
  · rw [h.marks_plain hstable, Mark.prune_of_unknown hinquiry hunknown, Operation.marks,
      Client.calls_keyInfo_of_missing rfl hmissing, h.answer hstable]
    rfl
  · rw [h.marks_plain hstable, Mark.learned_sent, Client.run_keyInfo_of_missing rfl hmissing,
      h.run_plain hstable, h.answer hstable]
    have hasked := (h.lookedUp key).exchanged (infoRequest key)
    cases hinfo : (declaration transport selector key start).info? with
    | none =>
        rw [Mark.learn_of_not_declared hinfo]
        exact hasked
    | some info =>
        rw [Mark.learn_of_declared hinquiry hinfo]
        apply hasked.learned hinfo
        · exact World.controller_inserted key info _
        · rfl
        · apply World.find?_inserted_self
          rw [World.cache_exchanged, World.find?_lookedUp, hmissing]
        · intro other hother
          exact World.find?_inserted_of_ne hother info _

end

theorem simulates_keyInfo (hstable : Stable transport selector start) (key : Code) :
    Simulates transport selector start
      (keyInfo { selector, caching := true } key)
      (keyInfo { selector, caching := false } key) := by
  intro known w w' h
  cases hfound : w.cache.find? key with
  | some info => exact agree_keyInfo_of_found h hstable hfound
  | none => exact agree_keyInfo_of_missing h hstable hfound

theorem simulates_readInto (hstable : Stable transport selector start) (key : Code)
    (buffer : Value) :
    Simulates transport selector start
      (Client.readInto { selector, caching := true } key buffer)
      (Client.readInto { selector, caching := false } key buffer) := by
  apply (simulates_keyInfo hstable key).bind
  intro found
  cases found with
  | error failure => exact simulates_done _
  | ok info =>
      apply (simulates_transact (Client.readRequest_ne_inquiry key info)).bind
      intro response
      cases response with
      | error failure => exact simulates_done _
      | ok response => exact simulates_done _

theorem simulates_read (hstable : Stable transport selector start) (key : Code) :
    Simulates transport selector start
      (Client.read { selector, caching := true } key)
      (Client.read { selector, caching := false } key) :=
  (simulates_readInto hstable key (.empty key)).bind fun _ => simulates_done _

theorem simulates_readText (hstable : Stable transport selector start) (text : String) :
    Simulates transport selector start
      (Client.readText { selector, caching := true } text)
      (Client.readText { selector, caching := false } text) := by
  unfold Client.readText
  cases Code.named text with
  | error cause => exact simulates_done _
  | ok key => exact simulates_read hstable key

theorem simulates_write (hstable : Stable transport selector start) (value : Value) :
    Simulates transport selector start
      (Client.write { selector, caching := true } value)
      (Client.write { selector, caching := false } value) := by
  apply (simulates_keyInfo hstable value.key).bind
  intro found
  cases found with
  | error failure => exact simulates_done _
  | ok info =>
      dsimp only
      split
      case isTrue =>
        apply (simulates_transact (Client.writeRequest_ne_inquiry value)).bind
        exact fun _ => simulates_done _
      case isFalse => exact (simulates_done _).note _

theorem simulates_keyAt (index : UInt32) :
    Simulates transport selector start
      (Client.keyAt { selector, caching := true } index)
      (Client.keyAt { selector, caching := false } index) :=
  (simulates_transact (Client.indexRequest_ne_inquiry index)).bind fun _ => simulates_done _

theorem simulates_operation (hstable : Stable transport selector start) (request : Request) :
    Simulates transport selector start
      (Job.operation ⟨{ selector, caching := true }, request⟩)
      (Job.operation ⟨{ selector, caching := false }, request⟩) := by
  cases request with
  | keyInfo key => exact (simulates_keyInfo hstable key).bind fun _ => simulates_done _
  | read key => exact (simulates_read hstable key).bind fun _ => simulates_done _
  | readText text => exact (simulates_readText hstable text).bind fun _ => simulates_done _
  | readInto key buffer =>
      exact (simulates_readInto hstable key buffer).bind fun _ => simulates_done _
  | write value => exact (simulates_write hstable value).bind fun _ => simulates_done _
  | keyAt index => exact (simulates_keyAt index).bind fun _ => simulates_done _

theorem Tracks.perform {known : List Code} {w w' : World τ}
    (h : Tracks transport selector start known w w')
    (hstable : Stable transport selector start) {task : Task}
    (htask : ∀ job, task = .request job → job.config.selector = selector) :
    Session.Agree transport selector start known
      (Session.perform transport w (task.withCaching true))
      (Session.perform transport w' (task.withCaching false)) := by
  cases task with
  | request job =>
      obtain ⟨⟨_, caching⟩, request⟩ := job
      obtain rfl := htask _ rfl
      obtain ⟨houtcome, hmarks, hafter⟩ := simulates_operation hstable request known w w' h
      refine ⟨?_, hmarks, hafter⟩
      exact congrArg (fun outcome => [outcome]) houtcome
  | reset => exact ⟨rfl, rfl, h.reset⟩

theorem Tracks.run {known : List Code} {w w' : World τ}
    (h : Tracks transport selector start known w w')
    (hstable : Stable transport selector start) {tasks : List Task}
    (htasks : ∀ job, .request job ∈ tasks → job.config.selector = selector) :
    Session.Agree transport selector start known
      (Session.run transport (tasks.map (.withCaching true)) w)
      (Session.run transport (tasks.map (.withCaching false)) w') := by
  induction tasks generalizing known w w' with
  | nil => exact ⟨rfl, rfl, h⟩
  | cons task rest ih =>
      obtain ⟨houtcomes, hmarks, hafter⟩ := h.perform hstable
        fun job hjob => htasks job (hjob ▸ List.mem_cons_self)
      obtain ⟨hothers, hlater, hlast⟩ := ih hafter
        fun job hjob => htasks job (List.mem_cons_of_mem _ hjob)
      simp only [List.map_cons, Session.run]
      constructor
      · rw [houtcomes, hothers]
      · rw [hmarks, hlater, Mark.prune_append]
      · rw [Mark.learned_append]
        exact hlast

/-- Caching leaves out the questions about keys that were looked up since the last reset, and
changes nothing else. -/
theorem Session.caching_transparent {w : World τ}
    (hstable : Stable transport selector w.controller) (hempty : w.cache.bindings = [])
    {tasks : List Task}
    (htasks : ∀ job, .request job ∈ tasks → job.config.selector = selector) :
    let cached := Session.run transport (tasks.map (.withCaching true)) w
    let direct := Session.run transport (tasks.map (.withCaching false)) w
    cached.outcomes = direct.outcomes ∧
      cached.world.controller = direct.world.controller ∧
      cached.marks = Mark.prune [] direct.marks := by
  obtain ⟨houtcomes, hmarks, hlast⟩ := (Tracks.idle hempty).run hstable htasks
  exact ⟨houtcomes, hlast.controller, hmarks⟩

end

/-- A key is asked about and read, one that there is not is read twice, and after a reset the
first one is read again and written. -/
def errands : List Task :=
  [.request ⟨{}, .keyInfo ⟨7⟩⟩, .request ⟨{}, .read ⟨7⟩⟩, .request ⟨{}, .read ⟨8⟩⟩,
    .request ⟨{}, .read ⟨8⟩⟩, .reset, .request ⟨{}, .read ⟨7⟩⟩, .request ⟨{}, .keyAt 0⟩,
    .request ⟨{}, .write { key := ⟨7⟩, size := 2 }⟩]

theorem errands_caching_transparent :
    let bank : Bench.Bank := [⟨⟨7⟩, { size := 2 }, Payload.zero⟩]
    let cached := Session.run Bench.Bank.transport (errands.map (.withCaching true))
      { controller := bank }
    let direct := Session.run Bench.Bank.transport (errands.map (.withCaching false))
      { controller := bank }
    (cached.marks.length = 9 ∧ direct.marks.length = 11) ∧
      cached.outcomes = direct.outcomes ∧
      cached.world.controller = direct.world.controller ∧
      cached.marks = Mark.prune [] direct.marks := by
  intro bank cached direct
  have hselector : ∀ job, .request job ∈ errands → job.config.selector = 2 := by
    intro job hjob
    simp only [errands, List.mem_cons, Task.request.injEq, reduceCtorEq, List.not_mem_nil,
      or_false, false_or] at hjob
    rcases hjob with rfl | rfl | rfl | rfl | rfl | rfl | rfl <;> rfl
  refine ⟨?_, Session.caching_transparent (Bench.Bank.stable bank) rfl hselector⟩
  decide +kernel

end SmcKeys
