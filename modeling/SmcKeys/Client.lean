import SmcKeys.Failure
import SmcKeys.Operation
import SmcKeys.Value

namespace SmcKeys

structure Config where
  selector : UInt32 := 2
  /-- Without it, every question about a key goes to the controller. -/
  caching : Bool := true
  deriving DecidableEq

def Config.text (config : Config) : String :=
  "ClientConfig \x7b kernel_index: " ++ toString config.selector.toNat ++ ", cache_key_info: " ++
    toString config.caching ++ " \x7d"

/-- What a read leaves in its buffer, and how it ended. -/
structure Reading where
  value : Value
  result : Except Failure Unit

namespace Client

open Operation (lookup insert)

def transact (config : Config) (request : Packet) : Operation (Except Failure Packet) :=
  .note (.callSent request.key request.command) <|
  .call config.selector request.encode fun
    | .error fault => .done (.error (.transport fault))
    | .ok frame =>
        let response := Packet.decode frame
        if response.result.isSuccess then .done (.ok response)
        else
          .note (.callRejected request.key response.result) <|
          .done (.error (.rejected request.key request.command response.result))

def declaredInfo (config : Config) (key : Code) : Operation (Except Failure KeyInfo) := do
  let response ← transact config (.request key .readKeyInfo)
  return response.map (·.info)

/-- What is known about a key. An info that the cache has is not asked for again, and an info
that was asked for gives way to one that the cache got meanwhile. -/
def keyInfo (config : Config) (key : Code) : Operation (Except Failure KeyInfo) := do
  if config.caching then
    match ← lookup key with
    | some info => return .ok info
    | none =>
        match ← declaredInfo config key with
        | .error failure => return .error failure
        | .ok info =>
            let kept ← insert key info
            return .ok kept
  else
    declaredInfo config key

def readRequest (key : Code) (info : KeyInfo) : Packet :=
  { Packet.request key .readKey with info := { size := info.size } }

def writeRequest (value : Value) : Packet :=
  { Packet.request value.key .writeKey with info := { size := value.size }, data := value.data }

def indexRequest (index : UInt32) : Packet :=
  { Packet.request .zero .keyFromIndex with index }

/-- The buffer gets the key whatever happens, size and type once they are known, the size cut to its
room, and data from a success alone. -/
def readInto (config : Config) (key : Code) (buffer : Value) : Operation Reading := do
  let buffer := { buffer with key, size := 0, type := .zero, data := Payload.zero }
  match ← keyInfo config key with
  | .error failure => return ⟨buffer, .error failure⟩
  | .ok info =>
      let buffer := { buffer with size := min info.size 32, type := info.type }
      match ← transact config (readRequest key info) with
      | .error failure => return ⟨buffer, .error failure⟩
      | .ok response => return ⟨{ buffer with data := response.data }, .ok ()⟩

def read (config : Config) (key : Code) : Operation (Except Failure Value) := do
  let reading ← readInto config key (.empty key)
  return reading.result.map fun _ => reading.value

def readText (config : Config) (text : String) : Operation (Except Failure Value) :=
  match Code.named text with
  | .error cause => .done (.error (.malformed cause))
  | .ok key => read config key

/-- Writes a value whose shape is the declared one, and refuses any other without a call. -/
def write (config : Config) (value : Value) : Operation (Except Failure Unit) := do
  match ← keyInfo config value.key with
  | .error failure => return .error failure
  | .ok info =>
      if info.toShape = value.toShape then
        let response ← transact config (writeRequest value)
        return response.map fun _ => ()
      else
        .note (.writeRefused value.key info.toShape value.toShape) <|
        .done (.error (.mismatch value.key info.toShape value.toShape))

def keyAt (config : Config) (index : UInt32) : Operation (Except Failure Code) := do
  let response ← transact config (indexRequest index)
  return response.map (·.key)

def text (config : Config) (cache : Cache) : String :=
  "SmcClient \x7b config: " ++ config.text ++ ", cached_keys: " ++ toString cache.size ++ " \x7d"

end Client

end SmcKeys
