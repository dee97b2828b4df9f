import SmcKeys.Code.Text
import SmcKeys.Status

namespace SmcKeys

def capacity : Nat := 32

abbrev Payload := Vector UInt8 capacity

def Payload.zero : Payload := Vector.replicate capacity 0

@[ext] structure Command where
  number : UInt8
  deriving DecidableEq, Inhabited

namespace Command

def readKey : Command := ⟨5⟩
def writeKey : Command := ⟨6⟩
def keyFromIndex : Command := ⟨8⟩
def readKeyInfo : Command := ⟨9⟩
def readPowerLimit : Command := ⟨11⟩
def readVersion : Command := ⟨12⟩

def name (c : Command) : String :=
  if c = readKey then "READ_KEY"
  else if c = writeKey then "WRITE_KEY"
  else if c = keyFromIndex then "GET_KEY_FROM_INDEX"
  else if c = readKeyInfo then "READ_KEY_INFO"
  else if c = readPowerLimit then "READ_POWER_LIMIT"
  else if c = readVersion then "READ_VERSION"
  else "UNKNOWN"

end Command

/-- Firmware version of the controller, passed through as it is. -/
@[ext] structure Firmware where
  major : UInt8 := 0
  minor : UInt8 := 0
  build : UInt8 := 0
  reserved : UInt8 := 0
  release : UInt16 := 0
  deriving DecidableEq, Inhabited

/-- Power limits, passed through as they are. -/
@[ext] structure PowerLimits where
  version : UInt16 := 0
  length : UInt16 := 0
  cpu : UInt32 := 0
  gpu : UInt32 := 0
  memory : UInt32 := 0
  deriving DecidableEq, Inhabited

@[ext] structure Shape where
  size : UInt32 := 0
  type : Code := .zero
  deriving DecidableEq, Inhabited

@[ext] structure KeyInfo extends Shape where
  attributes : UInt8 := 0
  deriving DecidableEq, Inhabited

@[ext] structure Packet where
  key : Code := .zero
  firmware : Firmware := {}
  limits : PowerLimits := {}
  info : KeyInfo := {}
  result : ControllerStatus := .success
  status : UInt8 := 0
  command : Command := ⟨0⟩
  index : UInt32 := 0
  data : Payload := Payload.zero
  deriving DecidableEq

namespace Packet

def request (key : Code) (command : Command) : Packet :=
  { key, command }

end Packet

end SmcKeys
