import SmcKeys.Proofs.Calls
import SmcKeys.Proofs.Request

namespace SmcKeys

open Operation (calls)
open Client (Job Response)

inductive Task where
  | request (job : Job)
  | reset
  deriving DecidableEq

def Task.withCaching (caching : Bool) : Task → Task
  | .request job => .request { job with config := { job.config with caching } }
  | .reset => .reset

inductive Mark where
  | sent (call : Call)
  | reset

def Operation.marks (transport : UInt32 → Frame → τ → Outcome Answer × τ) (op : Operation α)
    (w : World τ) : List Mark :=
  (calls (op.trace (.alone transport) w)).map .sent

structure Session (τ : Type) where
  outcomes : List (Outcome Response) := []
  marks : List Mark := []
  world : World τ

namespace Session

def perform (transport : UInt32 → Frame → τ → Outcome Answer × τ) (w : World τ) :
    Task → Session τ
  | .request job =>
      let run := job.operation.run (.alone transport) w
      { outcomes := [run.1]
        marks := job.operation.marks transport w
        world := run.2 }
  | .reset =>
      let use := w.cache.reset
      { marks := [.reset]
        world := (w.withCache use.cache).logAll use.events }

/-- Performs the tasks in order. A request that panicked does not keep the next ones from being
performed. -/
def run (transport : UInt32 → Frame → τ → Outcome Answer × τ) : List Task → World τ → Session τ
  | [], w => { world := w }
  | task :: rest, w =>
      let first := perform transport w task
      let later := run transport rest first.world
      { outcomes := first.outcomes ++ later.outcomes
        marks := first.marks ++ later.marks
        world := later.world }

end Session

namespace Mark

def inquiry? : Mark → Option Code
  | .sent call => Frame.inquiry? call.request
  | .reset => none

def learn (known : List Code) : Mark → List Code
  | .reset => []
  | .sent call =>
      match Frame.inquiry? call.request, call.reply.info? with
      | some key, some _ => key :: known
      | _, _ => known

def learned (known : List Code) (marks : List Mark) : List Code :=
  marks.foldl learn known

/-- A call that asks about a key which has been looked up with success since the last reset. -/
def isRepeated (known : List Code) (mark : Mark) : Bool :=
  mark.inquiry?.any fun key => key ∈ known

def prune (known : List Code) : List Mark → List Mark
  | [] => []
  | mark :: rest =>
      if mark.isRepeated known then prune (mark.learn known) rest
      else mark :: prune (mark.learn known) rest

theorem learned_append (known : List Code) (first rest : List Mark) :
    learned known (first ++ rest) = learned (learned known first) rest :=
  List.foldl_append

theorem prune_append (known : List Code) (first rest : List Mark) :
    prune known (first ++ rest) = prune known first ++ prune (learned known first) rest := by
  induction first generalizing known with
  | nil => rfl
  | cons mark first ih =>
      simp only [List.cons_append, prune, ih]
      split
      · rfl
      · rfl

@[simp] theorem learned_sent (known : List Code) (call : Call) :
    learned known [.sent call] = learn known (.sent call) := rfl

section

variable {known : List Code} {selector : UInt32} {request : Frame} {reply : Outcome Answer}

theorem learn_of_not_inquiry (h : Frame.inquiry? request = none) :
    learn known (.sent ⟨selector, request, reply⟩) = known := by
  simp only [learn, h]

theorem prune_of_not_inquiry (h : Frame.inquiry? request = none) :
    prune known [.sent ⟨selector, request, reply⟩] = [.sent ⟨selector, request, reply⟩] := by
  have hmark : isRepeated known (.sent ⟨selector, request, reply⟩) = false := by
    simp [isRepeated, inquiry?, h]
  simp [prune, hmark]

variable {key : Code}

theorem learn_of_declared {info : KeyInfo} (h : Frame.inquiry? request = some key)
    (hinfo : reply.info? = some info) :
    learn known (.sent ⟨selector, request, reply⟩) = key :: known := by
  simp only [learn, h, hinfo]

theorem learn_of_not_declared (h : reply.info? = none) :
    learn known (.sent ⟨selector, request, reply⟩) = known := by
  cases hrequest : Frame.inquiry? request with
  | none => exact learn_of_not_inquiry hrequest
  | some key => simp only [learn, h, hrequest]

theorem prune_of_known (h : Frame.inquiry? request = some key) (hkey : key ∈ known) :
    prune known [.sent ⟨selector, request, reply⟩] = [] := by
  have hmark : isRepeated known (.sent ⟨selector, request, reply⟩) = true := by
    simp [isRepeated, inquiry?, h, hkey]
  simp [prune, hmark]

theorem prune_of_unknown (h : Frame.inquiry? request = some key) (hkey : key ∉ known) :
    prune known [.sent ⟨selector, request, reply⟩] = [.sent ⟨selector, request, reply⟩] := by
  have hmark : isRepeated known (.sent ⟨selector, request, reply⟩) = false := by
    simp [isRepeated, inquiry?, h, hkey]
  simp [prune, hmark]

end

end Mark

section

variable {τ : Type} (transport : UInt32 → Frame → τ → Outcome Answer × τ) (selector : UInt32)

/-- The states that a controller can get to by calls to one selector. -/
inductive Reachable (start : τ) : τ → Prop where
  | start : Reachable start start
  | call {t : τ} (h : Reachable start t) (request : Frame) :
      Reachable start (transport selector request t).2

def declaration (key : Code) (t : τ) : Outcome Answer :=
  (transport selector (Client.infoRequest key).encode t).1

/-- A controller that questions about keys leave as it is, and that has the same answer to each
of them whatever it was asked before. -/
def Stable (start : τ) : Prop :=
  ∀ t, Reachable transport selector start t → ∀ key,
    transport selector (Client.infoRequest key).encode t =
      (declaration transport selector key start, t)

end

end SmcKeys
