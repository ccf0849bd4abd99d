import MqttProtocolCore.Packet.Inline

namespace MqttProtocolCore.Packet

open General

namespace Inline

def payloadBufferSize (f : Features) : ℕ :=
  if f.ssoLv20 then 255
  else if f.ssoLv10 then 127
  else if f.ssoMin64bit then 31
  else if f.ssoMin32bit then 15
  else 0

def InlinesPayload (f : Features) (len : ℕ) : Prop := f.sso ∧ len ≤ payloadBufferSize f

instance (f : Features) (len : ℕ) : Decidable (InlinesPayload f len) :=
  inferInstanceAs (Decidable (_ ∧ _))

/-- A payload: a copy with its length in a byte, or a range of shared data. -/
inductive ArcPayload (f : Features) where
  | small (buffer : Block UInt8 (payloadBufferSize f)) (length : UInt8)
  | large (data : Bytes) (start length : ℕ)

variable {f : Features} {data bytes : Bytes} {start length n : ℕ}

theorem payloadBufferSize_le : payloadBufferSize f ≤ 255 := by
  unfold payloadBufferSize
  split
  · omega
  split
  · omega
  split
  · omega
  split <;> omega

namespace ArcPayload

def IsSmall : ArcPayload f → Prop
  | small _ _ => True
  | large _ _ _ => False

/-- A buffer of zeros gets the bytes of a payload, and their number is cut to a byte. -/
def fill (f : Features) (bytes : Bytes) : Fallible MqttError (ArcPayload f) := do
  let buffer ← (Block.replicate (payloadBufferSize f) 0).copyFrom 0 bytes.length bytes
  return small buffer (UInt8.ofNat bytes.length)

def new (f : Features) (data : Bytes) (start length : ℕ) : Fallible MqttError (ArcPayload f) := do
  .assert (start + length ≤ data.length)
  if InlinesPayload f length then
    let bytes ← slice data start (start + length)
    fill f bytes.val
  else return large data start length

def asSlice : ArcPayload f → Fallible MqttError Bytes
  | large data start length => do return (← slice data start (start + length)).val
  | small buffer length => do return (← slice buffer.val 0 length.toNat).val

def len : ArcPayload f → ℕ
  | large _ _ length => length
  | small _ length => length.toNat

def isEmpty (p : ArcPayload f) : Bool := p.len = 0

def arcData : ArcPayload f → Option Bytes
  | large data _ _ => some data
  | small _ _ => none

def eq (p q : ArcPayload f) : Fallible MqttError Bool := do
  return decide ((← p.asSlice) = (← q.asSlice))

def default (f : Features) : ArcPayload f :=
  if f.sso then small (Block.replicate (payloadBufferSize f) 0) 0 else large [] 0 0

def ofBytes (f : Features) (bytes : Bytes) : Fallible MqttError (ArcPayload f) :=
  if InlinesPayload f bytes.length then fill f bytes else return large bytes 0 bytes.length

end ArcPayload

class IntoPayload (f : Features) (α : Type) where
  intoPayload : α → Fallible MqttError (ArcPayload f)

namespace IntoPayload

instance : IntoPayload f Utf8String := ⟨fun s ↦ ArcPayload.ofBytes f s.bytes⟩

instance : IntoPayload f Bytes := ⟨ArcPayload.ofBytes f⟩

instance : IntoPayload f (Block UInt8 n) := ⟨fun s ↦ ArcPayload.ofBytes f s.val⟩

instance : IntoPayload f Unit := ⟨fun _ ↦ return ArcPayload.default f⟩

instance : IntoPayload f (ArcPayload f) := ⟨fun p ↦ return p⟩

end IntoPayload

namespace ArcPayload

open IntoPayload

variable {p q : ArcPayload f}

structure Shows (p : ArcPayload f) (bytes : Bytes) : Prop where
  asSlice : p.asSlice = .ok bytes
  len : p.len = bytes.length
  isEmpty : p.isEmpty = decide (bytes.length = 0)

theorem fill_spec (h : InlinesPayload f bytes.length) :
    ∃ p, fill f bytes = .ok p ∧ p.IsSmall ∧ p.Shows bytes := by
  have hsize := @payloadBufferSize_le f
  have hle := h.2
  have hcopy : 0 ≤ bytes.length ∧ bytes.length ≤ payloadBufferSize f ∧
      bytes.length = bytes.length - 0 := ⟨Nat.zero_le _, h.2, rfl⟩
  -- the length is not cut: the capacity is at most the maximum of a byte
  have hlen : (UInt8.ofNat bytes.length).toNat = bytes.length := by
    rw [UInt8.toNat_ofNat']
    omega
  have hfill : fill f bytes = .ok (small ⟨_, Block.length_copy
      (Block.replicate (payloadBufferSize f) 0) hcopy⟩ (UInt8.ofNat bytes.length)) := by
    rw [fill, Block.copyFrom_eq hcopy]
    rfl
  refine ⟨_, hfill, trivial, ?_, hlen, ?_⟩
  · rw [asSlice, hlen, slice_eq (Nat.zero_le _)]
    · simp
    · simp
  · rw [isEmpty, len, hlen]

theorem length_range (h : start + length ≤ data.length) :
    ((data.drop start).take length).length = length := by
  rw [List.length_take, List.length_drop]
  omega

theorem slice_range (h : start + length ≤ data.length) :
    (slice data start (start + length) : Fallible MqttError _) =
      .ok ⟨(data.drop start).take length,
        (length_range h).trans (Nat.add_sub_cancel_left start length).symm⟩ := by
  rw [slice_eq (Nat.le_add_right ..) h]
  congr 2
  rw [List.drop_take, Nat.add_sub_cancel_left]

theorem large_shows (h : start + length ≤ data.length) :
    (large data start length : ArcPayload f).Shows ((data.drop start).take length) := by
  refine ⟨?_, (length_range h).symm, ?_⟩
  · rw [asSlice, slice_range h]
    rfl
  · rw [length_range h]
    rfl

theorem new_spec (h : start + length ≤ data.length) :
    ∃ p, new f data start length = .ok p ∧ (p.IsSmall ↔ InlinesPayload f length) ∧
      p.Shows ((data.drop start).take length) := by
  unfold new Fallible.assert
  rw [if_pos h, Fallible.ok_bind]
  split
  · rename_i hin
    rw [slice_range h, Fallible.ok_bind]
    obtain ⟨p, hp, hsmall, hshows⟩ := fill_spec ((length_range h).symm ▸ hin)
    exact ⟨p, hp, iff_of_true hsmall hin, hshows⟩
  · rename_i hout
    exact ⟨_, rfl, iff_of_false not_false hout, large_shows h⟩

theorem ofBytes_spec (f : Features) (bytes : Bytes) :
    ∃ p, ofBytes f bytes = .ok p ∧ (p.IsSmall ↔ InlinesPayload f bytes.length) ∧
      p.Shows bytes := by
  unfold ofBytes
  split
  · rename_i hin
    obtain ⟨p, hp, hsmall, hshows⟩ := fill_spec hin
    exact ⟨p, hp, iff_of_true hsmall hin, hshows⟩
  · rename_i hout
    have hshows := @large_shows f bytes 0 bytes.length (Nat.zero_add _).le
    rw [List.drop_zero, List.take_length] at hshows
    exact ⟨_, rfl, iff_of_false not_false hout, hshows⟩

theorem default_shows (f : Features) : (default f).Shows [] := by
  unfold default
  split
  · refine ⟨?_, rfl, rfl⟩
    have hzero : (0 : UInt8).toNat = 0 := rfl
    rw [asSlice, hzero, slice_eq (Nat.le_refl 0) (Nat.zero_le _)]
    rfl
  · exact @large_shows f [] 0 0 (Nat.le_refl 0)

theorem eq_spec {bytes' : Bytes} (h : p.Shows bytes) (h' : q.Shows bytes') :
    p.eq q = .ok (decide (bytes = bytes')) := by
  rw [eq, h.asSlice, Fallible.ok_bind, h'.asSlice]
  rfl

/-- Whether a payload is kept inline or shares its data cannot be seen. -/
structure Agrees (f : Features) : Prop where
  built : ∀ data start length, start + length ≤ data.length →
    ∃ p, new f data start length = .ok p ∧ (p.IsSmall ↔ InlinesPayload f length) ∧
      p.Shows ((data.drop start).take length)
  ofStr : ∀ s : Utf8String, ∃ p, (intoPayload s : Fallible MqttError (ArcPayload f)) = .ok p ∧
    (p.IsSmall ↔ InlinesPayload f s.len) ∧ p.Shows s.bytes
  ofSlice : ∀ bytes : Bytes, ∃ p, (intoPayload bytes : Fallible MqttError (ArcPayload f)) = .ok p ∧
    (p.IsSmall ↔ InlinesPayload f bytes.length) ∧ p.Shows bytes
  ofArray : ∀ (n : ℕ) (array : Block UInt8 n),
    ∃ p, (intoPayload array : Fallible MqttError (ArcPayload f)) = .ok p ∧
      (p.IsSmall ↔ InlinesPayload f n) ∧ p.Shows array.val
  ofUnit : ∃ p, (intoPayload () : Fallible MqttError (ArcPayload f)) = .ok p ∧
    p.eq (default f) = .ok true ∧ p.Shows []
  equal : ∀ (p q : ArcPayload f) (bytes bytes' : Bytes), p.Shows bytes → q.Shows bytes' →
    p.eq q = .ok (decide (bytes = bytes'))

theorem agrees (f : Features) : Agrees f where
  built _ _ _ h := new_spec h
  ofStr s := ofBytes_spec f s.bytes
  ofSlice := ofBytes_spec f
  ofArray n array := by
    obtain ⟨p, hp, hsmall, hshows⟩ := ofBytes_spec f array.val
    rw [array.property] at hsmall
    exact ⟨p, hp, hsmall, hshows⟩
  ofUnit := ⟨_, rfl, eq_spec (default_shows f) (default_shows f), default_shows f⟩
  equal _ _ _ _ h h' := eq_spec h h'

end ArcPayload

/-- In every build, a string, a binary and a payload show the same, however they are kept: their
content alone decides what is seen, encoded, compared and read back. -/
theorem representations_agree (f : Features) :
    MqttString.Agrees f ∧ MqttBinary.Agrees f ∧ ArcPayload.Agrees f :=
  ⟨MqttString.agrees f, MqttBinary.agrees f, ArcPayload.agrees f⟩

end Inline

end MqttProtocolCore.Packet
