import SmcKeys.Malformed
import SmcKeys.Packet.Basic

namespace SmcKeys

@[ext] structure Value extends Shape where
  key : Code
  data : Payload := Payload.zero
  deriving DecidableEq

namespace Value

def empty (key : Code) : Value := { key }

def ofBytes (key type : Code) (bytes : List UInt8) : Except Malformed Value :=
  if capacity < bytes.length then .error (.oversized bytes.length capacity)
  else
    .ok
      { key
        size := UInt32.ofNat bytes.length
        type
        data := Bytes.padded capacity bytes }

/-- The bytes that count: as many as the size says, at most the whole buffer. -/
def significant (v : Value) : List UInt8 :=
  v.data.toList.take v.size.toNat

end Value

end SmcKeys
