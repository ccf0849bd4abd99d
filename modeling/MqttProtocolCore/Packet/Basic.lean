import Mathlib.Data.Fin.Basic
import MqttProtocolCore.General.Slice
import MqttProtocolCore.Packet.ResultCode

namespace MqttProtocolCore.Packet

open General

abbrev Bytes := List UInt8

abbrev U16 := Fin (65535 + 1)

abbrev U32 := Fin (4294967295 + 1)

instance (priority := high) U16.neZero : @NeZero ℕ Zero.ofOfNat0 (65535 + 1) := ⟨by decide⟩

instance (priority := high) U32.neZero : @NeZero ℕ Zero.ofOfNat0 (4294967295 + 1) :=
  ⟨by decide⟩

def ofBeBytes (bytes : Bytes) : ℕ := bytes.foldl (fun n b ↦ n * 256 + b.toNat) 0

/-- The `n` bytes of a value, most significant first. -/
def toBeBytes : ℕ → ℕ → Bytes
  | 0, _ => []
  | n + 1, value => toBeBytes n (value / 256) ++ [UInt8.ofNat value]

def U16.fromBeBytes (b₀ b₁ : UInt8) : U16 :=
  ⟨b₀.toNat * 256 + b₁.toNat, by have := b₀.toNat_lt; have := b₁.toNat_lt; omega⟩

def U32.fromBeBytes (b₀ b₁ b₂ b₃ : UInt8) : U32 :=
  ⟨((b₀.toNat * 256 + b₁.toNat) * 256 + b₂.toNat) * 256 + b₃.toNat, by
    have := b₀.toNat_lt; have := b₁.toNat_lt; have := b₂.toNat_lt; have := b₃.toNat_lt; omega⟩

abbrev IsNonZero {m : ℕ} (v : Fin (m + 1)) : Prop := v ≠ 0

abbrev NonZero (m : ℕ) := {v : Fin (m + 1) // IsNonZero v}

theorem U16.isNonZero_one : IsNonZero (1 : U16) := by decide

/-- The integer type of a packet identifier. -/
inductive IdWidth where
  | u16 | u32
deriving DecidableEq

def IdWidth.max : IdWidth → ℕ
  | .u16 => 65535
  | .u32 => 4294967295

def IdWidth.bufferSize : IdWidth → ℕ
  | .u16 => 2
  | .u32 => 4

instance (priority := high) IdWidth.neZero (w : IdWidth) : @NeZero ℕ Zero.ofOfNat0 (w.max + 1) :=
  ⟨w.max.succ_ne_zero⟩

abbrev PacketId (w : IdWidth) := Fin (w.max + 1)

variable {w : IdWidth}

def PacketId.toBuffer (id : PacketId w) : Bytes := toBeBytes w.bufferSize id

/-- The identifier in the first bytes of a buffer; 0 when the buffer is too short. -/
def PacketId.fromBuffer (w : IdWidth) (buf : Bytes) : PacketId w :=
  if w.bufferSize ≤ buf.length then Fin.ofNat _ (ofBeBytes (buf.take w.bufferSize)) else 0

theorem IdWidth.one_le_max : 1 ≤ w.max := by cases w <;> simp [IdWidth.max]

inductive Qos where
  | atMostOnce | atLeastOnce | exactlyOnce
deriving DecidableEq

def Qos.toU8 : Qos → UInt8
  | .atMostOnce => 0
  | .atLeastOnce => 1
  | .exactlyOnce => 2

def Qos.tryFrom (value : UInt8) : Option Qos :=
  match value.toNat with
  | 0 => some .atMostOnce
  | 1 => some .atLeastOnce
  | 2 => some .exactlyOnce
  | _ => none

inductive Version where
  | undetermined | v311 | v50
deriving DecidableEq

inductive PacketType where
  | connect | connack | publish | puback | pubrec | pubrel | pubcomp | subscribe | suback
  | unsubscribe | unsuback | pingreq | pingresp | disconnect | auth
deriving DecidableEq

def PacketType.toFixedHeader : PacketType → UInt8
  | .connect => 0x10
  | .connack => 0x20
  | .publish => 0x30
  | .puback => 0x40
  | .pubrec => 0x50
  | .pubrel => 0x62
  | .pubcomp => 0x70
  | .subscribe => 0x82
  | .suback => 0x90
  | .unsubscribe => 0xa2
  | .unsuback => 0xb0
  | .pingreq => 0xc0
  | .pingresp => 0xd0
  | .disconnect => 0xe0
  | .auth => 0xf0

end MqttProtocolCore.Packet
