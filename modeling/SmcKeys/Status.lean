import SmcKeys.Text.Hex

namespace SmcKeys

/-- A kernel status, as the bit pattern that the system headers give it. -/
@[ext] structure KernelCode where
  bits : UInt32
  deriving DecidableEq, Inhabited

namespace KernelCode

def success : KernelCode := ⟨0⟩
def error : KernelCode := ⟨0xe00002bc⟩
def notPrivileged : KernelCode := ⟨0xe00002c1⟩
def badArgument : KernelCode := ⟨0xe00002c2⟩
def unsupported : KernelCode := ⟨0xe00002c7⟩
def notOpen : KernelCode := ⟨0xe00002cd⟩
def notFound : KernelCode := ⟨0xe00002f0⟩

def isSuccess (k : KernelCode) : Bool :=
  k.bits == 0

/-- The code with the given signed value. -/
def ofInt (i : Int) : KernelCode :=
  ⟨UInt32.ofInt i⟩

def toInt (k : KernelCode) : Int :=
  k.bits.toInt32.toInt

def name? (k : KernelCode) : Option String :=
  if k = success then some "kIOReturnSuccess"
  else if k = error then some "kIOReturnError"
  else if k = notPrivileged then some "kIOReturnNotPrivileged"
  else if k = badArgument then some "kIOReturnBadArgument"
  else if k = unsupported then some "kIOReturnUnsupported"
  else if k = notOpen then some "kIOReturnNotOpen"
  else if k = notFound then some "kIOReturnNotFound"
  else none

def text (k : KernelCode) : String :=
  let pattern := Text.Hex.number 4 k.bits.toNat
  match k.name? with
  | some name => name ++ " (" ++ pattern ++ ")"
  | none => pattern

end KernelCode

@[ext] structure ControllerStatus where
  byte : UInt8
  deriving DecidableEq, Inhabited

namespace ControllerStatus

def success : ControllerStatus := ⟨0⟩
def error : ControllerStatus := ⟨1⟩
def keyNotFound : ControllerStatus := ⟨132⟩
def dataTypeMismatch : ControllerStatus := ⟨140⟩

def isSuccess (s : ControllerStatus) : Bool :=
  s.byte == 0

def name (s : ControllerStatus) : String :=
  if s = success then "success"
  else if s = error then "error"
  else if s = keyNotFound then "key not found"
  else if s = dataTypeMismatch then "data type mismatch"
  else "unknown"

def text (s : ControllerStatus) : String :=
  s.name ++ " (" ++ toString s.byte.toNat ++ ")"

end ControllerStatus

@[ext] structure StatusPair where
  kernel : KernelCode
  controller : ControllerStatus
  deriving DecidableEq, Inhabited

namespace StatusPair

def success : StatusPair := ⟨.success, .success⟩

def isSuccess (p : StatusPair) : Bool :=
  p.kernel.isSuccess && p.controller.isSuccess

def text (p : StatusPair) : String :=
  "kern=" ++ p.kernel.text ++ " smc=" ++ p.controller.text

end StatusPair

end SmcKeys
