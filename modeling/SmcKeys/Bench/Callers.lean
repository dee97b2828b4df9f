import SmcKeys.Bench.Rig
import SmcKeys.Foreign.Interface

namespace SmcKeys.Bench

open Foreign (KeyText Process)

inductive CallerWork where
  | openConnection (out : Option UInt32)
  | closeConnection (number : UInt32)
  | readKey (key : Option KeyText) (out : Option Foreign.Value) (number : UInt32)
  | writeKey (value : Option Foreign.Value) (number : UInt32)
  | keyFromIndex (index : UInt32) (out : Option KeyText) (number : UInt32)
  | keyInfo (key : UInt32) (out : Option Foreign.Info) (number : UInt32)
  | cleanUp
  | codeOfText (text : Option KeyText)
  | textOfCode (code : UInt32) (out : Option KeyText)
  | putEntry (entry : Entry)
  | look

inductive CallerStep where
  | work (work : CallerWork)
  | push (replies : List (Reply CallerStep))

inductive CallerResult where
  | opened (code : KernelCode) (out : Option UInt32)
  | closed (code : KernelCode)
  | value (reply : Foreign.Reply (Option Foreign.Value))
  | status (status : StatusPair)
  | key (reply : Foreign.Reply (Option KeyText))
  | info (reply : Foreign.Reply (Option Foreign.Info))
  | code (code : UInt32)
  | text (text : Option KeyText)
  | nothing

instance : Inhabited CallerStep := ⟨.work .look⟩

namespace CallerStep

mutual

def replies : CallerStep → Nat
  | .work _ => 0
  | .push rs => repliesOfList rs

def repliesOfList : List (Reply CallerStep) → Nat
  | [] => 0
  | r :: rest => repliesOfReply r + repliesOfList rest

def repliesOfReply : Reply CallerStep → Nat
  | ⟨before, _⟩ => 1 + repliesOfSteps before

def repliesOfSteps : List CallerStep → Nat
  | [] => 0
  | step :: rest => replies step + repliesOfSteps rest

end

end CallerStep

abbrev Caller := Process (Rig CallerStep)

namespace Caller

def mount : Mount CallerStep Caller where
  rig p := p.controller
  setRig rig p := { p with controller := rig }

def work (service : Service Caller) (w : CallerWork) (p : Caller) : CallerResult × Caller :=
  match w with
  | .openConnection out =>
      let ((code, out), p) := Foreign.openConnection service out p
      (.opened code out, p)
  | .closeConnection number =>
      let (code, p) := Foreign.closeConnection service number p
      (.closed code, p)
  | .readKey key out number =>
      let (reply, p) := Foreign.readKey service key out number p
      (.value reply, p)
  | .writeKey value number =>
      let (status, p) := Foreign.writeKey service value number p
      (.status status, p)
  | .keyFromIndex index out number =>
      let (reply, p) := Foreign.keyFromIndex service index out number p
      (.key reply, p)
  | .keyInfo key out number =>
      let (reply, p) := Foreign.keyInfo service key out number p
      (.info reply, p)
  | .cleanUp => (.nothing, Foreign.cleanUp p)
  | .codeOfText text => (.code (Foreign.codeOfText text), p)
  | .textOfCode code out => (.text (Foreign.textOfCode code out), p)
  | .putEntry entry =>
      (.nothing,
        { p with controller := { p.controller with bank := p.controller.bank.put entry } })
  | .look => (.nothing, p)

def stepWith (service : Service Caller) (step : CallerStep) (p : Caller) :
    CallerResult × Caller :=
  match step with
  | .work w => work service w p
  | .push replies => (.nothing, { p with controller := p.controller.push replies })

/-- Each level of nesting uses up a reply of the queue, so their number is a depth that is never
reached. -/
def step : Nat → CallerStep → Caller → CallerResult × Caller
  | 0 => stepWith (Rig.service mount fun _ p => (.returned (), p))
  | depth + 1 => stepWith (Rig.service mount fun inner p => (.returned (), (step depth inner p).2))

/-- What is seen of a step: its result, the last error after it, and the calls it caused. -/
structure Observation where
  result : CallerResult
  lastError : String
  calls : List CallRecord

def observeAll (act : CallerStep → Caller → CallerResult × Caller) :
    List CallerStep → Caller → List Observation
  | [], _ => []
  | s :: rest, p =>
      let (result, p) := act s { p with controller := { p.controller with calls := [] } }
      ⟨result, p.lastError, p.controller.calls⟩ :: observeAll act rest p

def run (rig : Rig CallerStep) (steps : List CallerStep) : List Observation :=
  observeAll
    (step (CallerStep.repliesOfList rig.queue + CallerStep.repliesOfSteps steps)) steps
    { controller := rig }

def runWithout (steps : List CallerStep) : List Observation :=
  observeAll (stepWith (.absent Process.note)) steps { controller := {} }

end Caller

end SmcKeys.Bench
