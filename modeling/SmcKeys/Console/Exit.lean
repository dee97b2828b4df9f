import SmcKeys.Failure

namespace SmcKeys.Console

inductive Exit where
  | success
  | failure
  | transport
  | permissionDenied
  | dataInvalid
  | usage
  | internal
  deriving DecidableEq

def Exit.code : Exit → Nat
  | .success => 0
  | .failure => 1
  | .transport => 3
  | .permissionDenied => 50
  | .dataInvalid => 60
  | .usage => 64
  | .internal => 125

def Exit.ofFault (fault : Fault) : Exit :=
  if fault.code = .notPrivileged then .permissionDenied else .transport

def Exit.ofFailure : Failure → Exit
  | .transport fault => .ofFault fault
  | .mismatch _ _ _ => .dataInvalid
  | .rejected _ _ status => if status = .keyNotFound then .dataInvalid else .failure
  | .invalidArgument _ => .usage
  | .malformed _ => .usage

structure Complaint where
  exit : Exit
  message : String
  deriving DecidableEq

namespace Complaint

def ofFault (context : String) (fault : Fault) : Complaint :=
  ⟨.ofFault fault, context ++ ": " ++ fault.message⟩

/-- A fault of the transport is told without naming the operation's own layer. -/
def ofFailure (context : String) (failure : Failure) : Complaint :=
  match failure with
  | .transport fault => ofFault context fault
  | failure => ⟨.ofFailure failure, context ++ ": " ++ failure.message⟩

end Complaint

end SmcKeys.Console
