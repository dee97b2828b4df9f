import Mathlib.Data.Finset.Card
import Mathlib.Data.List.DropRight
import SmcKeys.Cache

namespace SmcKeys.Cache

open Log (Event)

inductive Turn where
  | get (key : Code)
  | insert (key : Code) (info : KeyInfo)
  | reset
  deriving DecidableEq

namespace Turn

def use (c : Cache) : Turn → Use (Option KeyInfo)
  | .get key => c.get key
  | .insert key info =>
      let use := c.insert key info
      ⟨some use.result, use.cache, use.events⟩
  | .reset =>
      let use := c.reset
      ⟨none, use.cache, use.events⟩

def offer? (key : Code) : Turn → Option KeyInfo
  | .insert k info => if k = key then some info else none
  | _ => none

def inserted? : Turn → Option Code
  | .insert key _ => some key
  | _ => none

end Turn

def replay (history : List Turn) (c : Cache) : Cache :=
  history.foldl (fun c turn => (turn.use c).cache) c

def logOf : List Turn → Cache → List Event
  | [], _ => []
  | turn :: rest, c => (turn.use c).events ++ logOf rest (turn.use c).cache

def sinceReset (history : List Turn) : List Turn :=
  history.rtakeWhile (· ≠ .reset)

def firstInserted? (key : Code) (turns : List Turn) : Option KeyInfo :=
  turns.findSome? (Turn.offer? key)

def insertedKeys (turns : List Turn) : Finset Code :=
  (turns.filterMap Turn.inserted?).toFinset

/-- What a turn counts as, after the turns since the last reset. -/
def Turn.tally? (period : List Turn) : Turn → Option Tally
  | .get key => if (firstInserted? key period).isSome then some .hit else some .miss
  | .insert key _ => if (firstInserted? key period).isSome then some .discard else some .insert
  | .reset => none

def tallies : List Turn → List Turn → List Tally
  | _, [] => []
  | past, turn :: rest =>
      (turn.tally? (sinceReset past)).toList ++ tallies (past ++ [turn]) rest

def counter (c : Cache) : Tally → UInt64
  | .hit => c.hits
  | .miss => c.misses
  | .insert => c.inserts
  | .discard => c.discarded

theorem counter_create (c : Cache) : c.create.counter = c.counter := by
  funext tally
  cases tally <;> rfl

theorem counter_drop (c : Cache) : c.drop.counter = c.counter := by
  funext tally
  cases tally <;> rfl

theorem counter_retain (key : Code) (info : KeyInfo) (c : Cache) :
    (c.retain key info).cache.counter = c.counter := by
  funext tally
  cases h : c.find? key with
  | none => rw [retain_of_none h]; cases tally <;> rfl
  | some kept => rw [retain_of_some h, counter_create]

theorem counter_count (c : Cache) (counted tally : Tally) :
    (c.count counted).counter tally = c.counter tally + UInt64.ofNat ([counted].count tally) := by
  cases counted <;> cases tally <;> simp [count, counter]

theorem replay_concat (history : List Turn) (turn : Turn) (c : Cache) :
    replay (history ++ [turn]) c = (turn.use (replay history c)).cache := by
  rw [replay, List.foldl_append]
  rfl

theorem sinceReset_concat_reset (history : List Turn) : sinceReset (history ++ [.reset]) = [] :=
  List.rtakeWhile_concat_neg _ _ _ (by simp)

theorem sinceReset_concat {turn : Turn} (h : turn ≠ .reset) (history : List Turn) :
    sinceReset (history ++ [turn]) = sinceReset history ++ [turn] :=
  List.rtakeWhile_concat_pos _ _ _ (by simpa using h)

theorem tallies_concat (past rest : List Turn) (turn : Turn) :
    tallies past (rest ++ [turn]) =
      tallies past rest ++ (turn.tally? (sinceReset (past ++ rest))).toList := by
  induction rest generalizing past with
  | nil => simp [tallies]
  | cons next rest ih => simp [tallies, ih]

theorem firstInserted?_concat (key : Code) (turns : List Turn) (turn : Turn) :
    firstInserted? key (turns ++ [turn]) = (firstInserted? key turns).or (turn.offer? key) := by
  rw [firstInserted?, List.findSome?_append]
  simp [firstInserted?]

theorem insertedKeys_concat_get (turns : List Turn) (key : Code) :
    insertedKeys (turns ++ [.get key]) = insertedKeys turns := by
  ext other
  simp [insertedKeys, Turn.inserted?]

theorem insertedKeys_concat_insert (turns : List Turn) (key : Code) (info : KeyInfo) :
    insertedKeys (turns ++ [.insert key info]) =
      Insert.insert key (insertedKeys turns) := by
  ext other
  simp [insertedKeys, Turn.inserted?]

theorem isSome_offer?_iff (turn : Turn) (key : Code) :
    (turn.offer? key).isSome ↔ turn.inserted? = some key := by
  cases turn with
  | get k => simp [Turn.offer?, Turn.inserted?]
  | insert k info => by_cases h : k = key <;> simp [Turn.offer?, Turn.inserted?, h]
  | reset => simp [Turn.offer?, Turn.inserted?]

theorem isSome_firstInserted?_iff (key : Code) (turns : List Turn) :
    (firstInserted? key turns).isSome ↔ key ∈ insertedKeys turns := by
  rw [firstInserted?, List.findSome?_isSome_iff, insertedKeys, List.mem_toFinset,
    List.mem_filterMap]
  simp [isSome_offer?_iff]

/-- A cache that is as its history says. -/
structure Reflects (history : List Turn) (c : Cache) : Prop where
  find? : ∀ key, c.find? key = firstInserted? key (sinceReset history)
  size : c.size = (insertedKeys (sinceReset history)).card
  isCreated : c.isCreated = !(sinceReset history).isEmpty
  counter : ∀ tally, c.counter tally = UInt64.ofNat ((tallies [] history).count tally)

theorem reflects_nil : Reflects [] {} where
  find? _ := rfl
  size := rfl
  isCreated := rfl
  counter tally := by cases tally <;> rfl

namespace Reflects

theorem counter_use {history : List Turn} {c : Cache} (h : Reflects history c) (turn : Turn)
    (tally : Tally) :
    (turn.use c).cache.counter tally =
      UInt64.ofNat ((tallies [] (history ++ [turn])).count tally) := by
  rw [tallies_concat, List.count_append, UInt64.ofNat_add, ← h.counter, List.nil_append]
  cases turn with
  | get key =>
      change ((c.create).count (lookupTally (c.find? key))).counter tally = _
      rw [counter_count, counter_create, h.find?]
      cases hfirst : firstInserted? key (sinceReset history) <;>
        simp [Turn.tally?, lookupTally, hfirst]
  | insert key info =>
      change ((c.retain key info).cache.count
        (retentionTally (c.retain key info).result)).counter tally = _
      rw [counter_count, counter_retain, result_retain, h.find?]
      cases hfirst : firstInserted? key (sinceReset history) <;>
        simp [Turn.tally?, retentionTally, hfirst]
  | reset =>
      change c.drop.counter tally = _
      rw [counter_drop]
      simp [Turn.tally?]

theorem use {history : List Turn} {c : Cache} (h : Reflects history c) (turn : Turn) :
    Reflects (history ++ [turn]) (turn.use c).cache := by
  cases turn with
  | get key =>
      have hsince : sinceReset (history ++ [.get key]) = sinceReset history ++ [.get key] :=
        sinceReset_concat (by simp) history
      refine ⟨fun other => ?_, ?_, ?_, h.counter_use _⟩
      · rw [hsince, firstInserted?_concat, ← h.find?]
        simp [Turn.use, get, consult, Turn.offer?]
      · rw [hsince, insertedKeys_concat_get, ← h.size]
        exact size_count _ c.create
      · rw [hsince, List.isEmpty_eq_false_iff.mpr (by simp)]
        exact isCreated_count _ c.create
  | insert key info =>
      have hsince : sinceReset (history ++ [.insert key info]) =
          sinceReset history ++ [.insert key info] :=
        sinceReset_concat (by simp) history
      refine ⟨fun other => ?_, ?_, ?_, h.counter_use _⟩
      · rw [hsince, firstInserted?_concat, ← h.find?]
        -- Only the key of the turn may be bound to something new, and only if it was unbound.
        by_cases hkey : key = other
        · subst hkey
          simp only [Turn.use, insert, find?_count, find?_retain, result_retain]
          cases c.find? key <;> simp [Turn.offer?]
        · simp [Turn.use, insert, find?_retain_of_ne (Ne.symm hkey), Turn.offer?, hkey]
      · rw [hsince, insertedKeys_concat_insert]
        change ((c.retain key info).cache.count _).size = _
        rw [size_count, size_retain, h.find?, h.size]
        by_cases hmem : key ∈ insertedKeys (sinceReset history)
        · rw [if_pos ((isSome_firstInserted?_iff _ _).mpr hmem), Finset.insert_eq_of_mem hmem]
        · rw [if_neg (mt (isSome_firstInserted?_iff _ _).mp hmem),
            Finset.card_insert_of_notMem hmem]
      · rw [hsince, List.isEmpty_eq_false_iff.mpr (by simp)]
        exact (isCreated_count _ _).trans (isCreated_retain key info c)
  | reset =>
      refine ⟨fun other => ?_, ?_, ?_, h.counter_use _⟩ <;>
        rw [sinceReset_concat_reset] <;> rfl

end Reflects

theorem reflects_replay (history : List Turn) : Reflects history (replay history {}) := by
  induction history using List.reverseRecOn with
  | nil => exact reflects_nil
  | append_singleton history turn ih =>
      rw [replay_concat]
      exact ih.use turn

theorem isCreated_use {turn : Turn} (h : turn ≠ .reset) (c : Cache) :
    (turn.use c).cache.isCreated = true := by
  cases turn with
  | get key => exact isCreated_count _ c.create
  | insert key info => exact (isCreated_count _ _).trans (isCreated_retain key info c)
  | reset => exact absurd rfl h

theorem count_cacheCreated_use {turn : Turn} (h : turn ≠ .reset) (c : Cache) :
    (turn.use c).events.count .cacheCreated = if c.isCreated then 0 else 1 := by
  cases turn with
  | get key =>
      simp only [Turn.use, get, consult, List.count_append]
      cases c.isCreated <;> cases c.find? key <;> rfl
  | insert key info =>
      have hconflict (r : Retention) : (conflict key info r).count .cacheCreated = 0 := by
        rw [conflict]
        split <;> rfl
      simp only [Turn.use, insert, List.count_append, hconflict, fresh_retain]
      cases c.isCreated <;> rfl
  | reset => exact absurd rfl h

theorem count_cacheCreated_logOf {turns : List Turn} (h : .reset ∉ turns) (c : Cache) :
    (logOf turns c).count .cacheCreated = if c.isCreated ∨ turns = [] then 0 else 1 := by
  induction turns generalizing c with
  | nil => simp [logOf]
  | cons turn turns ih =>
      rw [List.mem_cons, not_or] at h
      have hturn := Ne.symm h.1
      rw [logOf, List.count_append, count_cacheCreated_use hturn, ih h.2, isCreated_use hturn]
      simp

/-- All that a cache tells, logs and counts is told from the turns that were taken on it. -/
theorem told_from_history (history : List Turn) :
    let c := replay history {}
    let period := sinceReset history
    (∀ key, (c.get key).result = firstInserted? key period) ∧
      (∀ key info, (c.insert key info).result = (firstInserted? key period).getD info) ∧
      c.size = (insertedKeys period).card ∧
      c.reset.events = [.cacheReset (insertedKeys period).card] ∧
      (c.isCreated ↔ period ≠ []) ∧
      (∀ key, (c.get key).events =
        creation period.isEmpty ++ [lookupEvent key (firstInserted? key period)]) ∧
      (∀ key info, (c.insert key info).events =
        creation period.isEmpty ++
          if (c.insert key info).result = info then []
          else [.infoDiscarded key (c.insert key info).result info]) ∧
      (period = [] → ∀ turns, .reset ∉ turns →
        (logOf turns c).count .cacheCreated = if turns = [] then 0 else 1) ∧
      ∀ tally, c.counter tally = UInt64.ofNat ((tallies [] history).count tally) := by
  intro c period
  have h : Reflects history c := reflects_replay history
  have hfresh : (!c.isCreated) = period.isEmpty := by rw [h.isCreated, Bool.not_not]
  refine ⟨h.find?, fun key info => ?_, h.size, ?_, ?_, fun key => ?_, fun key info => ?_, ?_,
    h.counter⟩
  · rw [← h.find?]
    exact congrArg Retention.info (result_retain key info c)
  · rw [← h.size]
    rfl
  · simp [h.isCreated, period]
  · rw [← hfresh, ← h.find?]
    rfl
  · rw [← hfresh, ← fresh_retain key info]
    rfl
  · intro hperiod turns hturns
    have hempty : c.isCreated = false := by
      rw [h.isCreated, show sinceReset history = [] from hperiod]
      rfl
    simp [count_cacheCreated_logOf hturns, hempty]

example : tallies [] [.get ⟨1⟩, .insert ⟨1⟩ { size := 2 }, .insert ⟨1⟩ { size := 4 }, .get ⟨1⟩,
    .reset, .get ⟨1⟩] = [.miss, .insert, .discard, .hit, .miss] := by
  decide

end SmcKeys.Cache
