import SmcKeys.Value

namespace SmcKeys.Foreign

@[ext] structure KeyText where
  bytes : Vector UInt8 5
  deriving DecidableEq

namespace KeyText

def code (t : KeyText) : Code :=
  .ofBytes (t.bytes.toList.take 4)

def ofCode (c : Code) : KeyText :=
  ⟨Bytes.padded 5 c.toTerminated⟩

@[simp] theorem code_ofCode (c : Code) : (ofCode c).code = c := by
  have hlength : c.toTerminated.length = 5 := by simp [Code.toTerminated]
  rw [code, ofCode, Bytes.toList_padded hlength, Code.toTerminated,
    List.take_left' c.length_toBytes, Code.ofBytes_toBytes]

end KeyText

@[ext] structure Value where
  key : KeyText
  size : UInt32
  type : KeyText
  data : Payload
  deriving DecidableEq

namespace Value

def ofValue (v : SmcKeys.Value) : Value :=
  { key := .ofCode v.key, size := v.size, type := .ofCode v.type, data := v.data }

def toValue (v : Value) : SmcKeys.Value :=
  { key := v.key.code, size := v.size, type := v.type.code, data := v.data }

@[simp] theorem toValue_ofValue (v : SmcKeys.Value) : (ofValue v).toValue = v := by
  simp [toValue, ofValue]

end Value

@[ext] structure Info where
  size : UInt32
  type : UInt32
  attributes : UInt8
  deriving DecidableEq

def Info.ofInfo (info : KeyInfo) : Info :=
  { size := info.size, type := info.type.number, attributes := info.attributes }

end SmcKeys.Foreign
