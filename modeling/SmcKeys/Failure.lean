import SmcKeys.Fault
import SmcKeys.Malformed
import SmcKeys.Packet.Basic

/-!
A failure of the transport leaves the controller's status at a plain error; an answer of the
controller leaves the kernel's at success.
-/

namespace SmcKeys

inductive Failure where
  | invalidArgument (text : String)
  | transport (fault : Fault)
  | rejected (key : Code) (command : Command) (status : ControllerStatus)
  | mismatch (key : Code) (expected actual : Shape)
  | malformed (cause : Malformed)
  deriving DecidableEq

namespace Failure

def status : Failure → StatusPair
  | .invalidArgument _ => ⟨.badArgument, .error⟩
  | .malformed _ => ⟨.badArgument, .error⟩
  | .transport fault => ⟨fault.code, .error⟩
  | .rejected _ _ status => ⟨.success, status⟩
  | .mismatch _ _ _ => ⟨.badArgument, .dataTypeMismatch⟩

def isUnknownKey : Failure → Bool
  | .rejected _ _ status => decide (status = .keyNotFound)
  | _ => false

def shapeText (s : Shape) : String :=
  s.type.text ++ " (" ++ toString s.size.toNat ++ " bytes)"

def message : Failure → String
  | .invalidArgument text => "invalid argument: " ++ text
  | .transport fault => "transport error: " ++ fault.message
  | .rejected key command status =>
      command.name ++ " on key " ++ key.text ++ " failed: " ++ status.text
  | .mismatch key expected actual =>
      "data type mismatch on key " ++ key.text ++ ": expected " ++ shapeText expected ++
        ", got " ++ shapeText actual
  | .malformed cause => "frame error: " ++ cause.message

end Failure

/-- The status pair of an operation's result. -/
def StatusPair.ofResult : Except Failure α → StatusPair
  | .ok _ => .success
  | .error failure => failure.status

end SmcKeys
