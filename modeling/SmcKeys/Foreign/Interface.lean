import SmcKeys.Client
import SmcKeys.Connection
import SmcKeys.Foreign.Data

/-!
An argument of the form `Option α` is a pointer, which may be null; a function answers with the
contents of its output pointer after the call.
-/

namespace SmcKeys.Foreign

open Log (Event)

@[ext] structure Process (τ : Type) extends World τ where
  lastError : String := ""

namespace Process

def setError (message : String) (p : Process τ) : Process τ :=
  { p with lastError := message.map fun c => if c = '\x00' then '?' else c }

def clearError (p : Process τ) : Process τ :=
  { p with lastError := "" }

def note (event : Event) (p : Process τ) : Process τ :=
  { p with log := p.log ++ [event] }

end Process

/-- A status pair and what the output pointer holds. -/
structure Reply (α : Type) where
  status : StatusPair
  out : α
  deriving DecidableEq

def badArgument : StatusPair := ⟨.badArgument, .error⟩

def panicMessage : String := "panic across FFI boundary"

def site (service : Service (Process τ)) (connection : Connection) : Site (Process τ) where
  cache p := p.cache
  setCache cache p := { p with cache }
  note := Process.note
  call := service.call connection.number

def perform (service : Service (Process τ)) (number : UInt32) (operation : Operation α)
    (p : Process τ) : Outcome α × Process τ :=
  let connection := Connection.borrowed number
  let (outcome, p) := operation.run (site service connection) p
  (outcome, connection.drop service p)

def report (result : Except Failure α) (p : Process τ) : StatusPair × Process τ :=
  match result with
  | .ok _ => (.success, p)
  | .error failure => (failure.status, p.setError failure.message)

def openConnection (service : Service (Process τ)) (out : Option UInt32) (p : Process τ) :
    (KernelCode × Option UInt32) × Process τ :=
  let p := p.clearError
  match out with
  | none => ((.badArgument, none), p.setError "conn cannot be null")
  | some before =>
      match Connection.acquire service p with
      | (.ok connection, p) =>
          ((.success, some connection.number), connection.released.drop service p)
      | (.error fault, p) => ((fault.code, some before), p.setError fault.message)

def closeConnection (service : Service (Process τ)) (number : UInt32) (p : Process τ) :
    KernelCode × Process τ :=
  match (Connection.adopted number).close service p.clearError with
  | (.ok (), p) => (.success, p)
  | (.error fault, p) => (fault.code, p.setError fault.message)

/-- Reads a key. The output holds what the read left in its buffer, on success and on failure,
but a panic leaves it as it was. -/
def readKey (service : Service (Process τ)) (key : Option KeyText) (out : Option Value)
    (number : UInt32) (p : Process τ) : Reply (Option Value) × Process τ :=
  let p := p.clearError
  match key, out with
  | some key, some before =>
      match perform service number (Client.readInto {} key.code (.empty key.code)) p with
      | (.returned reading, p) =>
          let (status, p) := report reading.result p
          (⟨status, some (.ofValue reading.value)⟩, p)
      | (.panicked, p) => (⟨badArgument, some before⟩, p.setError panicMessage)
  | _, out => (⟨badArgument, out⟩, p.setError "key and val cannot be null")

def writeKey (service : Service (Process τ)) (value : Option Value) (number : UInt32)
    (p : Process τ) : StatusPair × Process τ :=
  let p := p.clearError
  match value with
  | none => (badArgument, p.setError "val cannot be null")
  | some value =>
      match perform service number (Client.write {} value.toValue) p with
      | (.returned result, p) => report result p
      | (.panicked, p) => (badArgument, p.setError panicMessage)

/-- Runs a question whose answer goes to the output; a failure or a panic leaves it as it was. -/
def ask (service : Service (Process τ)) (number : UInt32)
    (question : Operation (Except Failure α)) (convert : α → β) (before : β) (p : Process τ) :
    Reply (Option β) × Process τ :=
  match perform service number question p with
  | (.returned (.ok answer), p) => (⟨.success, some (convert answer)⟩, p)
  | (.returned (.error failure), p) =>
      (⟨failure.status, some before⟩, p.setError failure.message)
  | (.panicked, p) => (⟨badArgument, some before⟩, p.setError panicMessage)

def keyFromIndex (service : Service (Process τ)) (index : UInt32) (out : Option KeyText)
    (number : UInt32) (p : Process τ) : Reply (Option KeyText) × Process τ :=
  let p := p.clearError
  match out with
  | none => (⟨badArgument, none⟩, p.setError "key cannot be null")
  | some before => ask service number (Client.keyAt {} index) KeyText.ofCode before p

def keyInfo (service : Service (Process τ)) (key : UInt32) (out : Option Info)
    (number : UInt32) (p : Process τ) : Reply (Option Info) × Process τ :=
  let p := p.clearError
  match out with
  | none => (⟨badArgument, none⟩, p.setError "info cannot be null")
  | some before => ask service number (Client.keyInfo {} ⟨key⟩) Info.ofInfo before p

def cleanUp (p : Process τ) : Process τ :=
  let use := p.cache.reset
  { p with cache := use.cache, log := p.log ++ use.events }

def codeOfText : Option KeyText → UInt32
  | none => 0
  | some text => text.code.number

/-- The text of a code, unless there is nowhere to put it. -/
def textOfCode (code : UInt32) (out : Option KeyText) : Option KeyText :=
  out.map fun _ => .ofCode ⟨code⟩

end SmcKeys.Foreign
