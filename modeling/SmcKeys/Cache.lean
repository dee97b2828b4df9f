import SmcKeys.Log.Event

/-!
Callers that share a cache take turns on the map and on each counter, but not on both together, so
a use of the cache is a sequence of separate steps.
-/

namespace SmcKeys

open Log (Event)

@[ext] structure Cache where
  entries : Option (List (Code × KeyInfo)) := none
  hits : UInt64 := 0
  misses : UInt64 := 0
  inserts : UInt64 := 0
  discarded : UInt64 := 0
  deriving DecidableEq

namespace Cache

inductive Tally where
  | hit
  | miss
  | insert
  | discard
  deriving DecidableEq

/-- What a step on the map yields: a result, whether the map was created for it, the cache. -/
structure Access (α : Type) where
  result : α
  fresh : Bool
  cache : Cache

/-- The info kept for a key, and whether it is the one that was offered. -/
structure Retention where
  info : KeyInfo
  bound : Bool
  deriving DecidableEq

/-- A use of the cache by one caller with nobody in between. -/
structure Use (α : Type) where
  result : α
  cache : Cache
  events : List Event

def bindings (c : Cache) : List (Code × KeyInfo) :=
  c.entries.getD []

def find? (key : Code) (c : Cache) : Option KeyInfo :=
  c.bindings.lookup key

def size (c : Cache) : Nat :=
  c.bindings.length

def isCreated (c : Cache) : Bool :=
  c.entries.isSome

def create (c : Cache) : Cache :=
  { c with entries := some c.bindings }

def consult (key : Code) (c : Cache) : Access (Option KeyInfo) :=
  ⟨c.find? key, !c.isCreated, c.create⟩

def retain (key : Code) (info : KeyInfo) (c : Cache) : Access Retention :=
  match c.find? key with
  | some kept => ⟨⟨kept, false⟩, !c.isCreated, c.create⟩
  | none =>
      ⟨⟨info, true⟩, !c.isCreated, { c with entries := some ((key, info) :: c.bindings) }⟩

def count (tally : Tally) (c : Cache) : Cache :=
  match tally with
  | .hit => { c with hits := c.hits + 1 }
  | .miss => { c with misses := c.misses + 1 }
  | .insert => { c with inserts := c.inserts + 1 }
  | .discard => { c with discarded := c.discarded + 1 }

def drop (c : Cache) : Cache :=
  { c with entries := none }

def creation (fresh : Bool) : List Event :=
  if fresh then [.cacheCreated] else []

def lookupEvent (key : Code) : Option KeyInfo → Event
  | some _ => .cacheHit key
  | none => .cacheMiss key

def lookupTally : Option KeyInfo → Tally
  | some _ => .hit
  | none => .miss

def retentionTally (r : Retention) : Tally :=
  if r.bound then .insert else .discard

def conflict (key : Code) (offered : KeyInfo) (r : Retention) : List Event :=
  if r.info = offered then [] else [.infoDiscarded key r.info offered]

def get (key : Code) (c : Cache) : Use (Option KeyInfo) :=
  let access := c.consult key
  { result := access.result
    cache := access.cache.count (lookupTally access.result)
    events := creation access.fresh ++ [lookupEvent key access.result] }

def insert (key : Code) (info : KeyInfo) (c : Cache) : Use KeyInfo :=
  let access := c.retain key info
  { result := access.result.info
    cache := access.cache.count (retentionTally access.result)
    events := creation access.fresh ++ conflict key info access.result }

def reset (c : Cache) : Use Unit :=
  { result := ()
    cache := c.drop
    events := [.cacheReset c.size] }

@[simp] theorem bindings_create (c : Cache) : c.create.bindings = c.bindings := rfl

@[simp] theorem find?_create (key : Code) (c : Cache) : c.create.find? key = c.find? key := rfl

@[simp] theorem entries_count (tally : Tally) (c : Cache) :
    (c.count tally).entries = c.entries := by
  cases tally <;> rfl

@[simp] theorem find?_count (key : Code) (tally : Tally) (c : Cache) :
    (c.count tally).find? key = c.find? key := by
  cases tally <;> rfl

@[simp] theorem size_count (tally : Tally) (c : Cache) : (c.count tally).size = c.size := by
  cases tally <;> rfl

@[simp] theorem isCreated_count (tally : Tally) (c : Cache) :
    (c.count tally).isCreated = c.isCreated := by
  cases tally <;> rfl

@[simp] theorem find?_drop (key : Code) (c : Cache) : c.drop.find? key = none := rfl

theorem retain_of_some {key : Code} {info kept : KeyInfo} {c : Cache}
    (h : c.find? key = some kept) :
    c.retain key info = ⟨⟨kept, false⟩, !c.isCreated, c.create⟩ := by
  simp [retain, h]

theorem retain_of_none {key : Code} {info : KeyInfo} {c : Cache} (h : c.find? key = none) :
    c.retain key info =
      ⟨⟨info, true⟩, !c.isCreated,
        { c with entries := some ((key, info) :: c.bindings) }⟩ := by
  simp [retain, h]

theorem size_retain (key : Code) (info : KeyInfo) (c : Cache) :
    (c.retain key info).cache.size =
      if (c.find? key).isSome then c.size else c.size + 1 := by
  cases h : c.find? key with
  | none => rw [retain_of_none h]; rfl
  | some kept => rw [retain_of_some h]; rfl

theorem isCreated_retain (key : Code) (info : KeyInfo) (c : Cache) :
    (c.retain key info).cache.isCreated = true := by
  cases h : c.find? key with
  | none => rw [retain_of_none h]; rfl
  | some kept => rw [retain_of_some h]; rfl

theorem fresh_retain (key : Code) (info : KeyInfo) (c : Cache) :
    (c.retain key info).fresh = !c.isCreated := by
  cases h : c.find? key with
  | none => rw [retain_of_none h]
  | some kept => rw [retain_of_some h]

theorem result_retain (key : Code) (info : KeyInfo) (c : Cache) :
    (c.retain key info).result = ⟨(c.find? key).getD info, (c.find? key).isNone⟩ := by
  cases h : c.find? key with
  | none => rw [retain_of_none h]; rfl
  | some kept => rw [retain_of_some h]; rfl

/-- Whatever was offered, the cache afterwards answers with the info it handed back. -/
theorem find?_retain (key : Code) (info : KeyInfo) (c : Cache) :
    (c.retain key info).cache.find? key = some (c.retain key info).result.info := by
  cases h : c.find? key with
  | none => simp [retain_of_none h, find?, bindings]
  | some kept => rw [retain_of_some h, find?_create, h]

theorem find?_retain_of_ne {key other : Code} (h : other ≠ key) (info : KeyInfo) (c : Cache) :
    (c.retain key info).cache.find? other = c.find? other := by
  cases hfound : c.find? key with
  | none =>
      have hbeq : (other == key) = false := by simpa using h
      simp [retain_of_none hfound, find?, bindings, List.lookup_cons, hbeq]
  | some kept => rw [retain_of_some hfound, find?_create]

end Cache

end SmcKeys
