import SmcKeys.Packet.Cursor
import SmcKeys.Packet.Layout

namespace SmcKeys.Packet

open Bytes (putAll putByte putHalf putNumber putWord putZeros)
open Reader (takes_buffer takes_byte takes_half takes_skip takes_word)

def written (p : Packet) : List UInt8 :=
  []
    |> putWord p.key.number
    |> putByte p.firmware.major
    |> putByte p.firmware.minor
    |> putByte p.firmware.build
    |> putByte p.firmware.reserved
    |> putHalf p.firmware.release
    |> putZeros (Layout.limits - Layout.firmware - 6)
    |> putHalf p.limits.version
    |> putHalf p.limits.length
    |> putWord p.limits.cpu
    |> putWord p.limits.gpu
    |> putWord p.limits.memory
    |> putWord p.info.size
    |> putWord p.info.type.number
    |> putByte p.info.attributes
    |> putZeros (Layout.result - Layout.info - 9)
    |> putByte p.result.byte
    |> putByte p.status
    |> putByte p.command.number
    |> putZeros (Layout.index - Layout.command - 1)
    |> putWord p.index
    |> putAll p.data.toList

theorem length_written (p : Packet) : p.written.length = frameSize := by
  simp [written, putAll, putByte, putHalf, putNumber, putWord, putZeros]
  rfl

def encode (p : Packet) : Frame :=
  ⟨p.written.toArray, p.length_written⟩

def reader : Reader Packet := do
  let key ← Reader.word
  let major ← Reader.byte
  let minor ← Reader.byte
  let build ← Reader.byte
  let reserved ← Reader.byte
  let release ← Reader.half
  Reader.skip (Layout.limits - Layout.firmware - 6)
  let version ← Reader.half
  let length ← Reader.half
  let cpu ← Reader.word
  let gpu ← Reader.word
  let memory ← Reader.word
  let size ← Reader.word
  let type ← Reader.word
  let attributes ← Reader.byte
  Reader.skip (Layout.result - Layout.info - 9)
  let result ← Reader.byte
  let status ← Reader.byte
  let command ← Reader.byte
  Reader.skip (Layout.index - Layout.command - 1)
  let index ← Reader.word
  let data ← Reader.buffer capacity
  return {
    key := ⟨key⟩
    firmware := { major, minor, build, reserved, release }
    limits := { version, length, cpu, gpu, memory }
    info := { size, type := ⟨type⟩, attributes }
    result := ⟨result⟩
    status
    command := ⟨command⟩
    index
    data }

theorem isSome_reader (r : Frame) : (reader.run r.toList).isSome := by
  have hlength : r.toList.length = 80 := r.length_toList
  simp only [reader, takes_byte.run_bind, takes_half.run_bind, takes_word.run_bind,
    (takes_skip _).run_bind, (takes_buffer _).run_bind, Layout.limits, Layout.firmware,
    Layout.result, Layout.info, Layout.index, Layout.command, capacity, hlength, List.length_drop,
    List.drop_drop, Nat.reduceAdd, Nat.reduceSub, Nat.reduceLeDiff, Nat.le_refl, StateT.run_pure,
    Option.pure_def, Option.isSome_some]

def decode (r : Frame) : Packet :=
  ((reader.run r.toList).get (isSome_reader r)).1

end SmcKeys.Packet
