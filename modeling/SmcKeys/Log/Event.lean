import SmcKeys.Fault
import SmcKeys.Packet.Basic

namespace SmcKeys.Log

inductive Level where
  | error
  | warn
  | info
  | debug
  | trace
  deriving DecidableEq

namespace Level

/-- How much detail a level stands for. -/
def rank : Level → Nat
  | .error => 1
  | .warn => 2
  | .info => 3
  | .debug => 4
  | .trace => 5

def name : Level → String
  | .error => "ERROR"
  | .warn => "WARN"
  | .info => "INFO"
  | .debug => "DEBUG"
  | .trace => "TRACE"

end Level

inductive Style where
  | text
  | json
  deriving DecidableEq

/-- The value of a field: a number, a text that lines show in quotes, or one they show bare. -/
inductive Datum where
  | number (n : Nat)
  | quoted (text : String)
  | bare (text : String)
  deriving DecidableEq

inductive Event where
  | cacheCreated
  | cacheHit (key : Code)
  | cacheMiss (key : Code)
  | infoDiscarded (key : Code) (retained discarded : KeyInfo)
  | cacheReset (dropped : Nat)
  | callSent (key : Code) (command : Command)
  | callRejected (key : Code) (status : ControllerStatus)
  | writeRefused (key : Code) (expected actual : Shape)
  | connectionOpened (connection : UInt32)
  | connectionClosed (connection : UInt32)
  | closeFailed (connection : UInt32) (code : KernelCode)
  | nothingToClose (connection : UInt32) (fault : Fault)
  | keyWritten (key : Code) (size : UInt32)
  deriving DecidableEq

def infoText (info : KeyInfo) : String :=
  "KeyInfo \x7b data_size: " ++ toString info.size.toNat ++
    ", data_type: FourCharCode(" ++ toString info.type.number.toNat ++
    "), attributes: " ++ toString info.attributes.toNat ++ " \x7d"

namespace Event

def level : Event → Level
  | .infoDiscarded _ _ _ => .warn
  | .writeRefused _ _ _ => .warn
  | .closeFailed _ _ => .warn
  | .keyWritten _ _ => .info
  | _ => .debug

def target : Event → String
  | .cacheCreated => "smcprims_client::cache"
  | .cacheHit _ => "smcprims_client::cache"
  | .cacheMiss _ => "smcprims_client::cache"
  | .infoDiscarded _ _ _ => "smcprims_client::cache"
  | .cacheReset _ => "smcprims_client::cache"
  | .callSent _ _ => "smcprims_client::client"
  | .callRejected _ _ => "smcprims_client::client"
  | .writeRefused _ _ _ => "smcprims_client::client"
  | .connectionOpened _ => "smcprims_transport::connection"
  | .connectionClosed _ => "smcprims_transport::connection"
  | .closeFailed _ _ => "smcprims_transport::connection"
  | .nothingToClose _ _ => "smcprims_transport::connection"
  | .keyWritten _ _ => "smcprims::cmd::write"

def message : Event → String
  | .cacheCreated => "key info cache initialized"
  | .cacheHit _ => "key info cache hit"
  | .cacheMiss _ => "key info cache miss"
  | .infoDiscarded _ _ _ => "conflicting key info discarded"
  | .cacheReset _ => "key info cache reset"
  | .callSent _ _ => "controller call"
  | .callRejected _ _ => "controller rejected call"
  | .writeRefused _ _ _ => "refusing write with mismatched size or type"
  | .connectionOpened _ => "opened AppleSMC connection"
  | .connectionClosed _ => "closed AppleSMC connection"
  | .closeFailed _ _ => "failed to close AppleSMC connection"
  | .nothingToClose _ _ => "no connection to close"
  | .keyWritten _ _ => "key written"

def fields : Event → List (String × Datum)
  | .cacheCreated => []
  | .cacheHit key => [("key", .bare key.text)]
  | .cacheMiss key => [("key", .bare key.text)]
  | .infoDiscarded key retained discarded =>
      [("key", .bare key.text), ("retained", .bare (infoText retained)),
        ("discarded", .bare (infoText discarded))]
  | .cacheReset dropped => [("dropped", .number dropped)]
  | .callSent key command => [("key", .bare key.text), ("command", .quoted command.name)]
  | .callRejected key status => [("key", .bare key.text), ("status", .bare status.text)]
  | .writeRefused key expected actual =>
      [("key", .bare key.text), ("expected_size", .number expected.size.toNat),
        ("expected_type", .bare expected.type.text), ("actual_size", .number actual.size.toNat),
        ("actual_type", .bare actual.type.text)]
  | .connectionOpened connection => [("conn", .number connection.toNat)]
  | .connectionClosed connection => [("conn", .number connection.toNat)]
  | .closeFailed connection code =>
      [("conn", .number connection.toNat), ("code", .bare code.text)]
  | .nothingToClose connection fault =>
      [("conn", .number connection.toNat), ("err", .bare fault.message)]
  | .keyWritten key size => [("key", .bare key.text), ("size", .number size.toNat)]

end Event

end SmcKeys.Log
