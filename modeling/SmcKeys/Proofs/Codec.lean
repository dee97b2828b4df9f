import SmcKeys.Packet.Wire
import SmcKeys.Proofs.Layout

namespace SmcKeys

namespace Packet

/-- The number that a field holds. The data count as one number, whose lowest digit is their
first byte. -/
def number (p : Packet) : Field → Nat
  | .key => p.key.number.toNat
  | .major => p.firmware.major.toNat
  | .minor => p.firmware.minor.toNat
  | .build => p.firmware.build.toNat
  | .reserved => p.firmware.reserved.toNat
  | .release => p.firmware.release.toNat
  | .limitVersion => p.limits.version.toNat
  | .limitLength => p.limits.length.toNat
  | .cpuLimit => p.limits.cpu.toNat
  | .gpuLimit => p.limits.gpu.toNat
  | .memoryLimit => p.limits.memory.toNat
  | .dataSize => p.info.size.toNat
  | .dataType => p.info.type.number.toNat
  | .attributes => p.info.attributes.toNat
  | .result => p.result.byte.toNat
  | .status => p.status.toNat
  | .command => p.command.number.toNat
  | .index => p.index.toNat
  | .data => Bytes.value p.data.toList

def ofNumbers (n : Field → Nat) : Packet where
  key := ⟨UInt32.ofNat (n .key)⟩
  firmware :=
    { major := UInt8.ofNat (n .major)
      minor := UInt8.ofNat (n .minor)
      build := UInt8.ofNat (n .build)
      reserved := UInt8.ofNat (n .reserved)
      release := UInt16.ofNat (n .release) }
  limits :=
    { version := UInt16.ofNat (n .limitVersion)
      length := UInt16.ofNat (n .limitLength)
      cpu := UInt32.ofNat (n .cpuLimit)
      gpu := UInt32.ofNat (n .gpuLimit)
      memory := UInt32.ofNat (n .memoryLimit) }
  info :=
    { size := UInt32.ofNat (n .dataSize)
      type := ⟨UInt32.ofNat (n .dataType)⟩
      attributes := UInt8.ofNat (n .attributes) }
  result := ⟨UInt8.ofNat (n .result)⟩
  status := UInt8.ofNat (n .status)
  command := ⟨UInt8.ofNat (n .command)⟩
  index := UInt32.ofNat (n .index)
  data := Bytes.padded capacity (Bytes.digits capacity (n .data))

theorem digits_number_data (p : Packet) :
    Bytes.digits capacity (p.number .data) = p.data.toList := by
  have hdigits := Bytes.digits_value p.data.toList
  rwa [Vector.length_toList] at hdigits

theorem padded_digits_number_data (p : Packet) :
    Bytes.padded capacity (Bytes.digits capacity (p.number .data)) = p.data := by
  rw [digits_number_data]
  apply Vector.toList_inj.mp
  exact Bytes.toList_padded p.data.length_toList

theorem ofNumbers_number (p : Packet) : ofNumbers p.number = p := by
  simp only [ofNumbers, padded_digits_number_data]
  simp only [number, UInt8.ofNat_toNat, UInt16.ofNat_toNat, UInt32.ofNat_toNat]

theorem number_lt (p : Packet) (f : Field) : p.number f < Bytes.limit f.width := by
  cases f with
  | data =>
      have hlt := Bytes.value_lt p.data.toList
      rwa [Vector.length_toList] at hlt
  | major | minor | build | reserved | attributes | result | status | command =>
      exact UInt8.toNat_lt _
  | release | limitVersion | limitLength => exact UInt16.toNat_lt _
  | _ => exact UInt32.toNat_lt _

def content (p : Packet) (f : Field) : List UInt8 :=
  Bytes.digits f.width (p.number f)

@[simp] theorem length_content (p : Packet) (f : Field) : (p.content f).length = f.width :=
  Bytes.length_digits _ _

open Bytes (putAll putByte putHalf putNumber putWord putZeros) in
theorem written_eq (p : Packet) : p.written = frameParts.flatMap (Part.bytes p.content) := by
  simp only [written, putAll, putByte, putHalf, putNumber, putWord, putZeros, frameParts,
    List.flatMap_cons, List.flatMap_nil, Part.bytes, content, List.append_assoc, List.nil_append,
    List.append_nil, Field.width, digits_number_data]
  rfl

end Packet

namespace Frame

def content (r : Frame) (f : Field) : List UInt8 :=
  (r.toList.drop f.offset).take f.width

def number (r : Frame) (f : Field) : Nat :=
  Bytes.value (r.content f)

@[simp] theorem length_content (r : Frame) (f : Field) : (content r f).length = f.width := by
  have hfits := f.offset_add_width_le
  rw [content, List.length_take, List.length_drop, Vector.length_toList]
  omega

theorem getElem?_content (r : Frame) {f : Field} {j : Nat} (h : j < f.width) :
    (content r f)[j]? = r[f.offset + j]? := by
  rw [content, List.getElem?_take_of_lt h, List.getElem?_drop, Vector.getElem?_toList]

end Frame

namespace Packet

theorem getElem?_encode (p : Packet) {i : Nat} (h : i < frameSize) :
    p.encode[i]? =
      match Field.at? i with
      | some (f, j) => (p.content f)[j]?
      | none => some 0 := by
  rw [← Vector.getElem?_toList]
  change p.written[i]? = _
  rw [written_eq]
  exact Part.getElem?_flatMap_bytes p.length_content (by rwa [total_frameParts])

end Packet

namespace Frame

theorem content_encode (p : Packet) (f : Field) : content p.encode f = p.content f := by
  have hfits := f.offset_add_width_le
  apply List.ext_getElem?
  intro j
  by_cases hj : j < f.width
  · rw [getElem?_content _ hj, Packet.getElem?_encode p (by omega), Field.at?_offset_add f j hj]
  · rw [List.getElem?_eq_none (by simpa using hj), List.getElem?_eq_none (by simpa using hj)]

theorem number_encode (p : Packet) (f : Field) : number p.encode f = p.number f := by
  rw [number, content_encode, Packet.content, Bytes.value_digits,
    Nat.mod_eq_of_lt (p.number_lt f)]

theorem digits_number (r : Frame) (f : Field) :
    Bytes.digits f.width (number r f) = content r f := by
  have hdigits := Bytes.digits_value (content r f)
  rwa [length_content] at hdigits

end Frame

namespace Packet

open Reader (takes_buffer takes_byte takes_half takes_skip takes_word) in
/-- The reading cursor finds each field at its own place, and comes to the end of the frame. -/
theorem run_reader (r : Frame) :
    reader.run r.toList = some (ofNumbers (Frame.number r), []) := by
  have hlength : r.toList.length = 80 := r.length_toList
  have hdata : Bytes.digits capacity (Frame.number r .data) = Frame.content r .data :=
    Frame.digits_number r .data
  simp only [reader, takes_byte.run_bind, takes_half.run_bind, takes_word.run_bind,
    (takes_skip _).run_bind, (takes_buffer _).run_bind, Layout.limits, Layout.firmware,
    Layout.result, Layout.info, Layout.index, Layout.command, capacity, hlength, List.length_drop,
    List.drop_drop, Nat.reduceAdd, Nat.reduceSub, Nat.reduceLeDiff, Nat.le_refl, StateT.run_pure,
    Option.pure_def, Option.some.injEq, Prod.mk.injEq, List.drop_eq_nil_iff, and_true]
  rw [ofNumbers, hdata]
  rfl

theorem decode_eq (r : Frame) : decode r = ofNumbers (Frame.number r) := by
  simp only [decode, run_reader, Option.get_some]

@[simp] theorem decode_encode (p : Packet) : decode p.encode = p := by
  rw [decode_eq, funext (Frame.number_encode p), ofNumbers_number]

end Packet

end SmcKeys
