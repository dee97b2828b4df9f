import SmcKeys.Status

namespace SmcKeys

inductive Fault where
  | serviceMissing
  | openFailed (code : KernelCode)
  | closeFailed (code : KernelCode)
  | callFailed (selector : UInt32) (code : KernelCode)
  | unsupported
  deriving DecidableEq

namespace Fault

/-- The kernel status that stands for the fault. -/
def code : Fault → KernelCode
  | .serviceMissing => .notFound
  | .openFailed code => code
  | .closeFailed code => code
  | .callFailed _ code => code
  | .unsupported => .unsupported

def message : Fault → String
  | .serviceMissing => "AppleSMC service not found"
  | .openFailed code => "failed to open AppleSMC connection: " ++ code.text
  | .closeFailed code => "failed to close AppleSMC connection: " ++ code.text
  | .callFailed selector code =>
      "struct method " ++ toString selector.toNat ++ " failed: " ++ code.text
  | .unsupported => "AppleSMC transport is only available on macOS"

end Fault

end SmcKeys
