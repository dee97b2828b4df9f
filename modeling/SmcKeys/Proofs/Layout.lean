import SmcKeys.Packet.Layout

namespace SmcKeys

inductive Field where
  | key
  | major
  | minor
  | build
  | reserved
  | release
  | limitVersion
  | limitLength
  | cpuLimit
  | gpuLimit
  | memoryLimit
  | dataSize
  | dataType
  | attributes
  | result
  | status
  | command
  | index
  | data
  deriving DecidableEq

namespace Field

def all : List Field :=
  [.key, .major, .minor, .build, .reserved, .release, .limitVersion, .limitLength, .cpuLimit,
    .gpuLimit, .memoryLimit, .dataSize, .dataType, .attributes, .result, .status, .command,
    .index, .data]

def width : Field → Nat
  | .key | .cpuLimit | .gpuLimit | .memoryLimit | .dataSize | .dataType | .index => 4
  | .release | .limitVersion | .limitLength => 2
  | .major | .minor | .build | .reserved | .attributes | .result | .status | .command => 1
  | .data => capacity

theorem mem_all (f : Field) : f ∈ all := by
  cases f <;> decide

end Field

inductive Part where
  | field (f : Field)
  | gap (size : Nat)

namespace Part

def field? : Part → Option Field
  | .field f => some f
  | .gap _ => none

def width : Part → Nat
  | .field f => f.width
  | .gap size => size

def bytes (content : Field → List UInt8) : Part → List UInt8
  | .field f => content f
  | .gap size => List.replicate size 0

def total : List Part → Nat
  | [] => 0
  | part :: rest => part.width + total rest

def before (f : Field) : List Part → Nat
  | [] => 0
  | part :: rest => if part.field? = some f then 0 else part.width + before f rest

def find? : List Part → Nat → Option (Field × Nat)
  | [], _ => none
  | part :: rest, i =>
      if i < part.width then part.field?.map (·, i) else find? rest (i - part.width)

section

variable {content : Field → List UInt8}

theorem length_bytes (hcontent : ∀ f, (content f).length = f.width) (part : Part) :
    (part.bytes content).length = part.width := by
  cases part with
  | field f => exact hcontent f
  | gap size => exact List.length_replicate

theorem getElem?_flatMap_bytes (hcontent : ∀ f, (content f).length = f.width) {parts : List Part}
    {i : Nat} (h : i < total parts) :
    (parts.flatMap (bytes content))[i]? =
      match find? parts i with
      | some (f, j) => (content f)[j]?
      | none => some 0 := by
  induction parts generalizing i with
  | nil => exact absurd h (Nat.not_lt_zero i)
  | cons part rest ih =>
      rw [List.flatMap_cons, find?]
      -- A place behind the first part is counted from the end of that part.
      by_cases hi : i < part.width
      · rw [List.getElem?_append_left (by rwa [length_bytes hcontent]), if_pos hi]
        cases part with
        | field f => rfl
        | gap size => exact List.getElem?_replicate_of_lt hi
      · rw [List.getElem?_append_right (by rw [length_bytes hcontent]; omega),
          length_bytes hcontent, if_neg hi]
        apply ih
        rw [total] at h
        omega

end

end Part

def frameParts : List Part :=
  [.field .key, .field .major, .field .minor, .field .build, .field .reserved, .field .release,
    .gap 2, .field .limitVersion, .field .limitLength, .field .cpuLimit, .field .gpuLimit,
    .field .memoryLimit, .field .dataSize, .field .dataType, .field .attributes, .gap 3,
    .field .result, .field .status, .field .command, .gap 1, .field .index, .field .data]

theorem total_frameParts : Part.total frameParts = frameSize := by decide

namespace Field

def offset (f : Field) : Nat := Part.before f frameParts

def at? (i : Nat) : Option (Field × Nat) := Part.find? frameParts i

theorem offset_add_width_le (f : Field) : f.offset + f.width ≤ frameSize := by
  cases f <;> decide

/-- No two fields share a byte. -/
theorem at?_offset_add (f : Field) : ∀ j < f.width, at? (f.offset + j) = some (f, j) := by
  cases f <;> decide

theorem of_mem_at? : ∀ i < frameSize, ∀ p ∈ at? i, i = p.1.offset + p.2 ∧ p.2 < p.1.width := by
  decide

section

variable {f : Field} {i : Nat}

theorem at?_of_covers (hfrom : f.offset ≤ i) (hto : i < f.offset + f.width) :
    at? i = some (f, i - f.offset) := by
  have hplace := at?_offset_add f (i - f.offset) (by omega)
  rwa [Nat.add_sub_cancel' hfrom] at hplace

theorem at?_eq_none_iff (hi : i < frameSize) :
    at? i = none ↔ ∀ f : Field, ¬(f.offset ≤ i ∧ i < f.offset + f.width) := by
  constructor
  · intro hnone f hcovers
    rw [at?_of_covers hcovers.1 hcovers.2] at hnone
    cases hnone
  · intro hfree
    rw [Option.eq_none_iff_forall_not_mem]
    intro p hp
    obtain ⟨hplace, hwidth⟩ := of_mem_at? i hi p hp
    exact hfree p.1 (by omega)

end

end Field

end SmcKeys
