import SmcKeys.Operation

/-! A stand-in for the controller: a table of keys that answers requests. -/

namespace SmcKeys.Bench

structure Entry where
  key : Code
  info : KeyInfo
  data : Payload
  deriving DecidableEq

abbrev Bank := List Entry

namespace Bank

def find? (key : Code) (bank : Bank) : Option Entry :=
  List.find? (fun e => e.key = key) bank

/-- Replaces the entry of the same key, or adds one at the end. -/
def put (entry : Entry) : Bank → Bank
  | [] => [entry]
  | e :: rest => if e.key = entry.key then entry :: rest else e :: put entry rest

def remove (key : Code) (bank : Bank) : Bank :=
  bank.filter fun e => e.key ≠ key

def store (key : Code) (data : Payload) (bank : Bank) : Bank :=
  bank.map fun e => if e.key = key then { e with data } else e

def failed (status : ControllerStatus) : Packet :=
  { result := status }

/-- The response to a request about an entry. -/
def serve (request : Packet) (entry : Entry) (bank : Bank) : Packet × Bank :=
  if request.command = .readKeyInfo then ({ info := entry.info }, bank)
  else if request.command = .readKey then
    if request.info.size = entry.info.size then ({ data := entry.data }, bank)
    else (failed .error, bank)
  else if request.command = .writeKey then
    if request.info.size = entry.info.size then ({}, bank.store request.key request.data)
    else (failed .dataTypeMismatch, bank)
  else (failed .error, bank)

def respond (request : Packet) (bank : Bank) : Packet × Bank :=
  if request.command = .keyFromIndex then
    match bank[request.index.toNat]? with
    | some entry => ({ key := entry.key }, bank)
    | none => (failed .error, bank)
  else
    match bank.find? request.key with
    | some entry => bank.serve request entry
    | none => (failed .keyNotFound, bank)

def answer (selector : UInt32) (request : Frame) (bank : Bank) : Answer × Bank :=
  if selector = 2 then
    let (response, bank) := bank.respond (.decode request)
    (.ok response.encode, bank)
  else (.error (.callFailed selector .badArgument), bank)

def transport (selector : UInt32) (request : Frame) (bank : Bank) : Outcome Answer × Bank :=
  let (answer, bank) := bank.answer selector request
  (.returned answer, bank)

end Bank

end SmcKeys.Bench
