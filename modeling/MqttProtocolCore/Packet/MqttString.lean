import MqttProtocolCore.Packet.Basic

namespace MqttProtocolCore.Packet

open General

def isUtf8Tail (b : UInt8) : Bool := 0x80 ≤ b && b ≤ 0xBF

/-- `core::str::from_utf8(bytes).is_ok()`: the well-formed byte sequences of UTF-8. -/
def utf8Valid : Bytes → Bool
  | [] => true
  | b₀ :: bytes =>
    if b₀ ≤ 0x7F then utf8Valid bytes
    else match bytes with
    | [] => false
    | b₁ :: bytes =>
      if 0xC2 ≤ b₀ && b₀ ≤ 0xDF then isUtf8Tail b₁ && utf8Valid bytes
      else match bytes with
      | [] => false
      | b₂ :: bytes =>
        if b₀ = 0xE0 then 0xA0 ≤ b₁ && b₁ ≤ 0xBF && isUtf8Tail b₂ && utf8Valid bytes
        else if b₀ = 0xED then 0x80 ≤ b₁ && b₁ ≤ 0x9F && isUtf8Tail b₂ && utf8Valid bytes
        else if 0xE1 ≤ b₀ && b₀ ≤ 0xEF then isUtf8Tail b₁ && isUtf8Tail b₂ && utf8Valid bytes
        else match bytes with
        | [] => false
        | b₃ :: bytes =>
          let tail := isUtf8Tail b₂ && isUtf8Tail b₃ && utf8Valid bytes
          if b₀ = 0xF0 then 0x90 ≤ b₁ && b₁ ≤ 0xBF && tail
          else if b₀ = 0xF4 then 0x80 ≤ b₁ && b₁ ≤ 0x8F && tail
          else if 0xF1 ≤ b₀ && b₀ ≤ 0xF3 then isUtf8Tail b₁ && tail
          else false

structure Utf8String where
  bytes : Bytes
  valid : utf8Valid bytes
deriving DecidableEq

namespace Utf8String

def empty : Utf8String := ⟨[], rfl⟩

def len (s : Utf8String) : ℕ := s.bytes.length

def isEmpty (s : Utf8String) : Bool := s.len = 0

/-- `contains` for a character below `0x80`: in UTF-8 it is its own byte and no other's part. -/
def containsAscii (s : Utf8String) (c : UInt8) : Bool := s.bytes.contains c

@[ext] theorem ext {s t : Utf8String} (h : s.bytes = t.bytes) : s = t := by
  cases s
  cases t
  cases h
  rfl

end Utf8String

structure MqttString where
  str : Utf8String
  short : str.len ≤ 65535
deriving DecidableEq

namespace MqttString

def new (s : Utf8String) : Except MqttError MqttString :=
  if h : s.len > 65535 then .error .malformedPacket else .ok ⟨s, by omega⟩

def asBytes (s : MqttString) : Bytes := toBeBytes 2 s.str.len ++ s.str.bytes

def asStr (s : MqttString) : Utf8String := s.str

def len (s : MqttString) : ℕ := s.str.len

def isEmpty (s : MqttString) : Bool := s.len = 0

def size (s : MqttString) : ℕ := 2 + s.str.len

def default : MqttString := ⟨.empty, by simp [Utf8String.empty, Utf8String.len]⟩

def decode (data : Bytes) : Fallible MqttError (MqttString × ℕ) := do
  .require (2 ≤ data.length) .malformedPacket
  let b₀ ← index data 0
  let b₁ ← index data 1
  let stringLen := U16.fromBeBytes b₀ b₁
  .require (2 + stringLen ≤ data.length) .malformedPacket
  let bytes ← slice data 2 (2 + stringLen)
  if h : utf8Valid bytes.val then
    return (⟨⟨bytes, h⟩, by simp [Utf8String.len, bytes.property]; omega⟩, 2 + stringLen)
  else .err .malformedPacket

end MqttString

structure MqttBinary where
  data : Bytes
  short : data.length ≤ 65535
deriving DecidableEq

namespace MqttBinary

def new (data : Bytes) : Except MqttError MqttBinary :=
  if h : data.length > 65535 then .error .malformedPacket else .ok ⟨data, by omega⟩

def asBytes (b : MqttBinary) : Bytes := toBeBytes 2 b.data.length ++ b.data

def size (b : MqttBinary) : ℕ := 2 + b.data.length

def default : MqttBinary := ⟨[], by simp⟩

def decode (data : Bytes) : Fallible MqttError (MqttBinary × ℕ) := do
  .require (2 ≤ data.length) .malformedPacket
  let b₀ ← index data 0
  let b₁ ← index data 1
  let dataLen := U16.fromBeBytes b₀ b₁
  .require (2 + dataLen ≤ data.length) .malformedPacket
  let bytes ← slice data 2 (2 + dataLen)
  return (⟨bytes, by have := bytes.property; omega⟩, 2 + dataLen)

end MqttBinary

theorem MqttString.size_le (s : MqttString) : s.size ≤ 65537 := by
  have hshort := s.short
  rw [size, Utf8String.len] at *
  omega

theorem MqttBinary.size_le (b : MqttBinary) : b.size ≤ 65537 := by
  have hshort := b.short
  rw [size]
  omega

/-- A parser that does not panic, consumes no more than it was given and consumes at least the
size of what it returns. -/
def Parses {α : Type} (size : α → ℕ) (data : Bytes) (x : Fallible MqttError (α × ℕ)) : Prop :=
  x.Yields fun r ↦ size r.1 ≤ r.2 ∧ r.2 ≤ data.length

theorem MqttString.parses_decode (data : Bytes) :
    Parses MqttString.size data (MqttString.decode data) := by
  refine Fallible.yields_require.bind fun _ h ↦ ?_
  refine (yields_index (by omega)).bind fun b₀ _ ↦ (yields_index (by omega)).bind fun b₁ _ ↦ ?_
  refine Fallible.yields_require.bind fun _ hlen ↦ ?_
  refine (yields_slice (by omega) hlen).bind fun bytes _ ↦ ?_
  split
  · refine ⟨?_, hlen⟩
    simp [MqttString.size, Utf8String.len, bytes.property]
  · trivial

theorem MqttBinary.parses_decode (data : Bytes) :
    Parses MqttBinary.size data (MqttBinary.decode data) := by
  refine Fallible.yields_require.bind fun _ h ↦ ?_
  refine (yields_index (by omega)).bind fun b₀ _ ↦ (yields_index (by omega)).bind fun b₁ _ ↦ ?_
  refine Fallible.yields_require.bind fun _ hlen ↦ ?_
  refine (yields_slice (by omega) hlen).bind fun bytes _ ↦ ⟨?_, hlen⟩
  simp [MqttBinary.size, bytes.property]

end MqttProtocolCore.Packet
