import SmcKeys.Cache
import SmcKeys.Packet.Wire

/-!
Where the steps of an operation act, and what happens between them, is up to the site it runs on.
-/

namespace SmcKeys

open Log (Event)

inductive Outcome (α : Type) where
  | returned (result : α)
  | panicked
  deriving DecidableEq

abbrev Answer := Except Fault Frame

inductive Operation (α : Type) where
  | done (result : α)
  | consult (key : Code) (next : Option KeyInfo → Bool → Operation α)
  | retain (key : Code) (info : KeyInfo) (next : Cache.Retention → Bool → Operation α)
  | count (tally : Cache.Tally) (next : Operation α)
  | call (selector : UInt32) (request : Frame) (next : Answer → Operation α)
  | note (event : Event) (next : Operation α)

/-- A state with a cache, a log and a way to the controller. A call may change all of it, as other
operations may run before it is answered. -/
structure Site (σ : Type) where
  cache : σ → Cache
  setCache : Cache → σ → σ
  note : Event → σ → σ
  call : UInt32 → Frame → σ → Outcome Answer × σ

namespace Operation

def bind : Operation α → (α → Operation β) → Operation β
  | .done result, f => f result
  | .consult key next, f => .consult key fun found fresh => (next found fresh).bind f
  | .retain key info next, f => .retain key info fun kept fresh => (next kept fresh).bind f
  | .count tally next, f => .count tally (next.bind f)
  | .call selector request next, f => .call selector request fun answer => (next answer).bind f
  | .note event next, f => .note event (next.bind f)

instance : Monad Operation where
  pure := .done
  bind := bind

/-- Runs the steps one after the other; a call that panics ends the run where it stands. -/
def run (site : Site σ) : Operation α → σ → Outcome α × σ
  | .done result, s => (.returned result, s)
  | .consult key next, s =>
      let access := (site.cache s).consult key
      (next access.result access.fresh).run site (site.setCache access.cache s)
  | .retain key info next, s =>
      let access := (site.cache s).retain key info
      (next access.result access.fresh).run site (site.setCache access.cache s)
  | .count tally next, s => next.run site (site.setCache ((site.cache s).count tally) s)
  | .call selector request next, s =>
      match site.call selector request s with
      | (.returned answer, s) => (next answer).run site s
      | (.panicked, s) => (.panicked, s)
  | .note event next, s => next.run site (site.note event s)

def noteAll : List Event → Operation Unit
  | [] => .done ()
  | event :: rest => .note event (noteAll rest)

def lookup (key : Code) : Operation (Option KeyInfo) :=
  .consult key fun found fresh => do
    noteAll (Cache.creation fresh)
    .count (Cache.lookupTally found) <|
      .note (Cache.lookupEvent key found) <|
      .done found

def insert (key : Code) (info : KeyInfo) : Operation KeyInfo :=
  .retain key info fun kept fresh => do
    noteAll (Cache.creation fresh)
    .count (Cache.retentionTally kept) <| do
      noteAll (Cache.conflict key info kept)
      return kept.info

@[simp] theorem pure_eq_done (a : α) : (pure a : Operation α) = .done a := rfl

@[simp] theorem done_bind (a : α) (f : α → Operation β) : (Operation.done a >>= f) = f a := rfl

@[simp] theorem consult_bind (key : Code) (next : Option KeyInfo → Bool → Operation α)
    (f : α → Operation β) :
    (Operation.consult key next >>= f) = .consult key fun found fresh => next found fresh >>= f :=
  rfl

@[simp] theorem retain_bind (key : Code) (info : KeyInfo)
    (next : Cache.Retention → Bool → Operation α) (f : α → Operation β) :
    (Operation.retain key info next >>= f) =
      .retain key info fun kept fresh => next kept fresh >>= f := rfl

@[simp] theorem count_bind (tally : Cache.Tally) (next : Operation α) (f : α → Operation β) :
    (Operation.count tally next >>= f) = .count tally (next >>= f) := rfl

@[simp] theorem call_bind (selector : UInt32) (request : Frame) (next : Answer → Operation α)
    (f : α → Operation β) :
    (Operation.call selector request next >>= f) =
      .call selector request fun answer => next answer >>= f := rfl

@[simp] theorem note_bind (event : Event) (next : Operation α) (f : α → Operation β) :
    (Operation.note event next >>= f) = .note event (next >>= f) := rfl

@[simp] theorem run_done (site : Site σ) (a : α) (s : σ) :
    (Operation.done a).run site s = (.returned a, s) := rfl

@[simp] theorem run_consult (site : Site σ) (key : Code)
    (next : Option KeyInfo → Bool → Operation α) (s : σ) :
    (Operation.consult key next).run site s =
      (next ((site.cache s).consult key).result ((site.cache s).consult key).fresh).run site
        (site.setCache ((site.cache s).consult key).cache s) := rfl

@[simp] theorem run_retain (site : Site σ) (key : Code) (info : KeyInfo)
    (next : Cache.Retention → Bool → Operation α) (s : σ) :
    (Operation.retain key info next).run site s =
      (next ((site.cache s).retain key info).result
        ((site.cache s).retain key info).fresh).run site
        (site.setCache ((site.cache s).retain key info).cache s) := rfl

@[simp] theorem run_count (site : Site σ) (tally : Cache.Tally) (next : Operation α) (s : σ) :
    (Operation.count tally next).run site s =
      next.run site (site.setCache ((site.cache s).count tally) s) := rfl

@[simp] theorem run_note (site : Site σ) (event : Event) (next : Operation α) (s : σ) :
    (Operation.note event next).run site s = next.run site (site.note event s) := rfl

theorem run_bind (site : Site σ) (op : Operation α) (f : α → Operation β) (s : σ) :
    (op >>= f).run site s =
      match op.run site s with
      | (.returned a, s) => (f a).run site s
      | (.panicked, s) => (.panicked, s) := by
  induction op generalizing s with
  | done a => rfl
  | consult key next ih => exact ih _ _ _
  | retain key info next ih => exact ih _ _ _
  | count tally next ih => exact ih _
  | call selector request next ih =>
      simp only [call_bind, run]
      cases site.call selector request s with
      | mk outcome s =>
          cases outcome with
          | returned answer => exact ih answer s
          | panicked => rfl
  | note event next ih => exact ih _

end Operation

@[ext] structure World (τ : Type) where
  cache : Cache := {}
  log : List Event := []
  controller : τ

namespace World

def withCache (cache : Cache) (w : World τ) : World τ := { w with cache }

def note (event : Event) (w : World τ) : World τ := { w with log := w.log ++ [event] }

def logAll (events : List Event) (w : World τ) : World τ := { w with log := w.log ++ events }

end World

/-- A site whose calls may do anything to the state. -/
def Site.shared (call : UInt32 → Frame → World τ → Outcome Answer × World τ) :
    Site (World τ) where
  cache := World.cache
  setCache := World.withCache
  note := World.note
  call := call

/-- A site whose calls change nothing but the controller. -/
def Site.alone (transport : UInt32 → Frame → τ → Outcome Answer × τ) : Site (World τ) :=
  .shared fun selector request w =>
    let reply := transport selector request w.controller
    (reply.1, { w with controller := reply.2 })

namespace Operation

theorem run_noteAll (call : UInt32 → Frame → World τ → Outcome Answer × World τ)
    (events : List Event) (w : World τ) :
    (noteAll events).run (.shared call) w = (.returned (), w.logAll events) := by
  induction events generalizing w with
  | nil => simp [noteAll, World.logAll]
  | cons event rest ih =>
      rw [noteAll, run_note, ih]
      simp [Site.shared, World.note, World.logAll]

theorem run_lookup (call : UInt32 → Frame → World τ → Outcome Answer × World τ) (key : Code)
    (w : World τ) :
    (lookup key).run (.shared call) w =
      (.returned (w.cache.get key).result,
        (w.withCache (w.cache.get key).cache).logAll (w.cache.get key).events) := by
  rw [lookup, run_consult, run_bind, run_noteAll]
  simp [Site.shared, World.withCache, World.note, World.logAll, Cache.get]

theorem run_insert (call : UInt32 → Frame → World τ → Outcome Answer × World τ) (key : Code)
    (info : KeyInfo) (w : World τ) :
    (insert key info).run (.shared call) w =
      (.returned (w.cache.insert key info).result,
        (w.withCache (w.cache.insert key info).cache).logAll
          (w.cache.insert key info).events) := by
  rw [insert, run_retain, run_bind, run_noteAll]
  simp only [run_count, run_bind, run_noteAll]
  simp [Site.shared, World.withCache, World.logAll, Cache.insert]

end Operation

end SmcKeys
