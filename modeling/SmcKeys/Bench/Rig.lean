import SmcKeys.Bench.Bank
import SmcKeys.Connection

/-! A bank with a script: each call takes the next reply off a queue, after what that asks for. -/

namespace SmcKeys.Bench

inductive Response where
  | panic
  | fault (fault : Fault)
  | frame (frame : Frame)
  | table

structure Reply (α : Type) where
  before : List α
  response : Response

structure CallRecord where
  connection : UInt32
  selector : UInt32
  request : Frame
  deriving DecidableEq

structure Rig (α : Type) where
  bank : Bank := []
  queue : List (Reply α) := []
  calls : List CallRecord := []
  opens : Nat := 0
  opening : Except Fault UInt32 := .ok 1
  closing : Except Fault Unit := .ok ()

/-- Where a state keeps its rig. -/
structure Mount (α σ : Type) where
  rig : σ → Rig α
  setRig : Rig α → σ → σ

namespace Rig

def respond (response : Response) (selector : UInt32) (request : Frame) (rig : Rig α) :
    Outcome Answer × Rig α :=
  match response with
  | .panic => (.panicked, rig)
  | .fault fault => (.returned (.error fault), rig)
  | .frame frame => (.returned (.ok frame), rig)
  | .table =>
      let (answer, bank) := rig.bank.answer selector request
      (.returned answer, { rig with bank })

def next (rig : Rig α) : Reply α × Rig α :=
  match rig.queue with
  | [] => (⟨[], .table⟩, rig)
  | reply :: queue => (reply, { rig with queue })

def push (replies : List (Reply α)) (rig : Rig α) : Rig α :=
  { rig with queue := rig.queue ++ replies }

def actAll (act : α → σ → Outcome Unit × σ) : List α → σ → Outcome Unit × σ
  | [], s => (.returned (), s)
  | action :: rest, s =>
      match act action s with
      | (.returned (), s) => actAll act rest s
      | (.panicked, s) => (.panicked, s)

/-- Answers a call to the rig of a state. -/
def call (mount : Mount α σ) (act : α → σ → Outcome Unit × σ) (connection : UInt32)
    (selector : UInt32) (request : Frame) (s : σ) : Outcome Answer × σ :=
  let (reply, rig) := (mount.rig s).next
  let record := { rig with calls := rig.calls ++ [⟨connection, selector, request⟩] }
  match actAll act reply.before (mount.setRig record s) with
  | (.panicked, s) => (.panicked, s)
  | (.returned (), s) =>
      let (answer, rig) := (mount.rig s).respond reply.response selector request
      (answer, mount.setRig rig s)

/-- A service that goes to the rig of a state, and tells nobody about its connections. -/
def service (mount : Mount α σ) (act : α → σ → Outcome Unit × σ) : Service σ where
  openNumber s :=
    let rig := mount.rig s
    (rig.opening, mount.setRig { rig with opens := rig.opens + 1 } s)
  closeNumber _ s := ((mount.rig s).closing, s)
  call := call mount act
  note _ s := s

end Rig

def worldMount : Mount α (World (Rig α)) where
  rig w := w.controller
  setRig rig w := { w with controller := rig }

end SmcKeys.Bench
