import MqttProtocolCore.General.Block
import MqttProtocolCore.Packet.Codec.Primitives

namespace MqttProtocolCore.Packet

open General

/-- The features of the crate that put short data into inline buffers. -/
structure Features where
  ssoMin32bit : Bool
  ssoMin64bit : Bool
  ssoLv10 : Bool
  ssoLv20 : Bool
deriving DecidableEq

namespace Features

def sso (f : Features) : Bool := f.ssoMin32bit || f.ssoMin64bit || f.ssoLv10 || f.ssoLv20

def ssoBufferSize (f : Features) : ℕ :=
  if f.ssoLv20 then 48
  else if f.ssoLv10 || f.ssoMin64bit then 24
  else if f.ssoMin32bit then 12
  else 0

def ssoDataThreshold (f : Features) : ℕ := f.ssoBufferSize - 2

def Inlines (f : Features) (len : ℕ) : Prop := f.sso ∧ len ≤ f.ssoDataThreshold

instance (f : Features) (len : ℕ) : Decidable (f.Inlines len) := inferInstanceAs (Decidable (_ ∧ _))

theorem Inlines.fits {f : Features} {len : ℕ} (h : f.Inlines len) : 2 + len ≤ f.ssoBufferSize := by
  obtain ⟨hsso, hlen⟩ := h
  have hsize : 2 ≤ f.ssoBufferSize := by
    unfold sso at hsso
    unfold ssoBufferSize
    split
    · omega
    split
    · omega
    split
    · omega
    · simp_all
  unfold ssoDataThreshold at hlen
  omega

end Features

/-- Bytes behind their length in two bytes, in an inline buffer or on the heap. -/
inductive LengthPrefixed (f : Features) where
  | small (buffer : Block UInt8 f.ssoBufferSize)
  | large (encoded : Bytes)
deriving DecidableEq

namespace LengthPrefixed

variable {f : Features}

def IsSmall : LengthPrefixed f → Prop
  | small _ => True
  | large _ => False

/-- A buffer of zeros gets two bytes of length and the data behind them. -/
def fill (n : ℕ) (b₀ b₁ : UInt8) (data : Bytes) : Fallible MqttError (Block UInt8 n) := do
  let buffer ← (Block.replicate n 0).store 0 b₀
  let buffer ← buffer.store 1 b₁
  buffer.copyFrom 2 (2 + data.length) data

def new (f : Features) (data : Bytes) : Fallible MqttError (LengthPrefixed f) := do
  .require (¬ data.length > 65535) .malformedPacket
  if f.Inlines data.length then
    let buffer ← fill f.ssoBufferSize (UInt8.ofNat (data.length / 256)) (UInt8.ofNat data.length) data
    return .small buffer
  else
    return .large (UInt8.ofNat (data.length / 256) :: UInt8.ofNat data.length :: data)

def smallLen (buffer : Block UInt8 f.ssoBufferSize) : Fallible MqttError ℕ := do
  return U16.fromBeBytes (← index buffer.val 0) (← index buffer.val 1)

def asBytes : LengthPrefixed f → Fallible MqttError Bytes
  | small buffer => do
    let len ← smallLen buffer
    return (← slice buffer.val 0 (2 + len)).val
  | large encoded => return encoded

def asSlice : LengthPrefixed f → Fallible MqttError Bytes
  | small buffer => do
    let len ← smallLen buffer
    return (← slice buffer.val 2 (2 + len)).val
  | large encoded => sliceFrom encoded 2

/-- The subtraction panics on overflow. -/
def len : LengthPrefixed f → Fallible MqttError ℕ
  | small buffer => smallLen buffer
  | large encoded => if 2 ≤ encoded.length then .ok (encoded.length - 2) else .panic

def isEmpty (v : LengthPrefixed f) : Fallible MqttError Bool := do return decide ((← v.len) = 0)

def size : LengthPrefixed f → Fallible MqttError ℕ
  | small buffer => do return 2 + (← smallLen buffer)
  | large encoded => return encoded.length

def toBuffers : LengthPrefixed f → Fallible MqttError (List Bytes)
  | small buffer => do
    let len ← smallLen buffer
    return [(← slice buffer.val 0 (2 + len)).val]
  | large encoded => return [encoded]

def toContinuousBuffer (v : LengthPrefixed f) : Fallible MqttError Bytes := v.asBytes

/-- Bytes are read when they pass the check of the type. -/
def decode (f : Features) (valid : Bytes → Bool) (data : Bytes) :
    Fallible MqttError (LengthPrefixed f × ℕ) := do
  .require (2 ≤ data.length) .malformedPacket
  let b₀ ← index data 0
  let b₁ ← index data 1
  let len := U16.fromBeBytes b₀ b₁
  .require (2 + len ≤ data.length) .malformedPacket
  let payload ← slice data 2 (2 + len)
  .require (valid payload.val) .malformedPacket
  if f.Inlines len then
    let buffer ← fill f.ssoBufferSize b₀ b₁ payload.val
    return (.small buffer, 2 + len)
  else
    let encoded ← slice data 0 (2 + len)
    return (.large encoded.val, 2 + len)

theorem length_filled {n : ℕ} {data : Bytes} (b₀ b₁ : UInt8) (h : 2 + data.length ≤ n) :
    (b₀ :: b₁ :: (data ++ List.replicate (n - (2 + data.length)) 0)).length = n := by
  simp only [List.length_cons, List.length_append, List.length_replicate]
  omega

def holding (f : Features) (b₀ b₁ : UInt8) (data : Bytes) : LengthPrefixed f :=
  if h : f.Inlines data.length then .small ⟨_, length_filled b₀ b₁ h.fits⟩
  else .large (b₀ :: b₁ :: data)

variable {n : ℕ} {b₀ b₁ : UInt8} {data rest : Bytes} {valid : Bytes → Bool}

theorem fill_eq (h : 2 + data.length ≤ n) :
    fill n b₀ b₁ data = .ok ⟨_, length_filled b₀ b₁ h⟩ := by
  obtain ⟨k, rfl⟩ : ∃ k, n = k + 1 + 1 := ⟨n - 2, by omega⟩
  unfold fill
  rw [Block.store_eq (by omega), Fallible.ok_bind, Block.store_eq (by omega), Fallible.ok_bind,
    Block.copyFrom_eq ⟨by omega, h, by omega⟩]
  congr 2
  simp [Block.replicate, List.replicate_succ, Nat.add_comm 2]

theorem new_long (h : ¬ data.length ≤ 65535) : new f data = .err .malformedPacket := by
  unfold new Fallible.require
  rw [if_neg (by omega), Fallible.err_bind]

theorem slice_encoded : slice (ε := MqttError) (b₀ :: b₁ :: (data ++ rest)) 0
    (2 + data.length) = .ok ⟨b₀ :: b₁ :: data, Nat.add_comm data.length 2⟩ := by
  rw [slice_eq (Nat.zero_le _) (by simp only [List.length_cons, List.length_append]; omega)]
  congr 2
  rw [List.drop_zero, Nat.add_comm, List.take_succ_cons, List.take_succ_cons, List.take_left]

theorem slice_data : slice (ε := MqttError) (b₀ :: b₁ :: (data ++ rest)) 2
    (2 + data.length) = .ok ⟨data, (Nat.add_sub_cancel_left ..).symm⟩ := by
  rw [slice_eq (Nat.le_add_right ..) (by simp only [List.length_cons, List.length_append]; omega)]
  congr 2
  rw [Nat.add_comm, List.take_succ_cons, List.take_succ_cons, List.take_left]
  rfl

theorem decode_eq (h : data.length = (U16.fromBeBytes b₀ b₁).val) :
    decode f valid (b₀ :: b₁ :: (data ++ rest)) =
      if valid data then .ok (holding f b₀ b₁ data, 2 + data.length)
      else .err .malformedPacket := by
  have hlen : 2 + data.length ≤ (b₀ :: b₁ :: (data ++ rest)).length := by
    simp only [List.length_cons, List.length_append]
    omega
  rw [decode, Fallible.require, if_pos (by simp only [List.length_cons]; omega)]
  simp only [Fallible.ok_bind, index, List.getElem?_cons_zero, List.getElem?_cons_succ,
    Fallible.require]
  rw [← h]
  simp only [hlen, if_true, Fallible.ok_bind, slice_data, slice_encoded]
  split
  · unfold holding
    split
    · rename_i hin
      rw [fill_eq hin.fits]
      rfl
    · rfl
  · rfl

theorem decode_short (h : ¬ (U16.fromBeBytes b₀ b₁).val ≤ data.length) :
    decode f valid (b₀ :: b₁ :: data) = .err .malformedPacket := by
  have hlen : ¬ 2 + (U16.fromBeBytes b₀ b₁).val ≤ (b₀ :: b₁ :: data).length := by
    simp only [List.length_cons]
    omega
  rw [decode, Fallible.require, if_pos (by simp only [List.length_cons]; omega)]
  simp only [Fallible.ok_bind, index, List.getElem?_cons_zero, List.getElem?_cons_succ,
    Fallible.require, hlen, if_false, Fallible.err_bind]

structure Shows (v : LengthPrefixed f) (data : Bytes) : Prop where
  asBytes : v.asBytes = .ok (toBeBytes 2 data.length ++ data)
  asSlice : v.asSlice = .ok data
  len : v.len = .ok data.length
  isEmpty : v.isEmpty = .ok (decide (data.length = 0))
  size : v.size = .ok (2 + data.length)
  toBuffers : v.toBuffers = .ok [toBeBytes 2 data.length ++ data]
  toContinuousBuffer : v.toContinuousBuffer = .ok (toBeBytes 2 data.length ++ data)

section Small

variable {zeros : Bytes} {hn : (b₀ :: b₁ :: (data ++ zeros)).length = f.ssoBufferSize}

theorem smallLen_eq (h : data.length = (U16.fromBeBytes b₀ b₁).val) :
    smallLen (f := f) ⟨b₀ :: b₁ :: (data ++ zeros), hn⟩ = .ok data.length := by
  rw [h]
  rfl

theorem shows_small (h : data.length = (U16.fromBeBytes b₀ b₁).val)
    (hbytes : toBeBytes 2 data.length = [b₀, b₁]) :
    Shows (f := f) (.small ⟨b₀ :: b₁ :: (data ++ zeros), hn⟩) data := by
  have hlen := @smallLen_eq f b₀ b₁ data zeros hn h
  refine ⟨?_, ?_, hlen, ?_, ?_, ?_, ?_⟩
  · rw [asBytes, hlen, Fallible.ok_bind, slice_encoded, hbytes]
    rfl
  · rw [asSlice, hlen, Fallible.ok_bind, slice_data]
    rfl
  · rw [isEmpty, len, hlen]
    rfl
  · rw [size, hlen]
    rfl
  · rw [toBuffers, hlen, Fallible.ok_bind, slice_encoded, hbytes]
    rfl
  · rw [toContinuousBuffer, asBytes, hlen, Fallible.ok_bind, slice_encoded, hbytes]
    rfl

end Small

theorem shows_large (hbytes : toBeBytes 2 data.length = [b₀, b₁]) :
    Shows (f := f) (.large (b₀ :: b₁ :: data)) data := by
  have hlen : (large (b₀ :: b₁ :: data) : LengthPrefixed f).len = .ok data.length := by
    have hle : 2 ≤ (b₀ :: b₁ :: data).length := Nat.le_add_left 2 data.length
    rw [len, if_pos hle]
    rfl
  refine ⟨?_, ?_, hlen, ?_, ?_, ?_, ?_⟩
  · rw [hbytes]
    rfl
  · exact sliceFrom_eq (Nat.le_add_left 2 data.length)
  · rw [isEmpty, hlen]
    rfl
  · exact congrArg Fallible.ok (Nat.add_comm data.length 2)
  · rw [hbytes]
    rfl
  · rw [hbytes]
    rfl

theorem shows_holding (h : data.length = (U16.fromBeBytes b₀ b₁).val) :
    (holding f b₀ b₁ data).Shows data := by
  have hbytes : toBeBytes 2 data.length = [b₀, b₁] := by
    rw [h]
    exact U16.toBeBytes_fromBeBytes b₀ b₁
  unfold holding
  split
  · exact shows_small h hbytes
  · exact shows_large hbytes

def of (f : Features) (data : Bytes) : LengthPrefixed f :=
  holding f (UInt8.ofNat (data.length / 256)) (UInt8.ofNat data.length) data

theorem isSmall_of : (of f data).IsSmall ↔ f.Inlines data.length := by
  unfold of holding
  split
  · exact iff_of_true trivial ‹_›
  · exact iff_of_false not_false ‹_›

theorem holding_eq_of (h : data.length = (U16.fromBeBytes b₀ b₁).val) :
    holding f b₀ b₁ data = of f data := by
  have hbytes : [UInt8.ofNat (data.length / 256), UInt8.ofNat data.length] = [b₀, b₁] := by
    have hheader := U16.toBeBytes_fromBeBytes b₀ b₁
    rwa [U16.toBeBytes, ← h] at hheader
  obtain ⟨h₀, h₁⟩ := List.cons.inj hbytes
  rw [of, h₀, (List.cons.inj h₁).1]

theorem exists_header (h : data.length ≤ 65535) : ∃ b₀ b₁, toBeBytes 2 data.length = [b₀, b₁] ∧
    data.length = (U16.fromBeBytes b₀ b₁).val := by
  obtain ⟨b₀, b₁, hbytes, hv⟩ := U16.exists_toBeBytes ⟨data.length, Nat.lt_succ_of_le h⟩
  exact ⟨b₀, b₁, hbytes, congrArg Fin.val hv.symm⟩

theorem shows_of (h : data.length ≤ 65535) : (of f data).Shows data := by
  obtain ⟨b₀, b₁, -, hv⟩ := exists_header h
  rw [← holding_eq_of hv]
  exact shows_holding hv

theorem of_inj {data' : Bytes} (h : data.length ≤ 65535) (h' : data'.length ≤ 65535) :
    of f data = of f data' ↔ data = data' := by
  refine ⟨fun heq ↦ ?_, congrArg _⟩
  have hslice := (@shows_of f data h).asSlice
  rw [heq, (shows_of h').asSlice] at hslice
  exact (Fallible.ok.inj hslice).symm

theorem new_eq (h : data.length ≤ 65535) : new f data = .ok (of f data) := by
  unfold new of holding Fallible.require
  rw [if_pos (by omega), Fallible.ok_bind]
  split
  · rename_i hin
    rw [fill_eq hin.fits]
    rfl
  · rfl

/-- Whatever follows the encoding of data, they are read into the representation that `new` gives
them. -/
theorem decode_of (h : data.length ≤ 65535) (hv : valid data) (rest : Bytes) :
    decode f valid (toBeBytes 2 data.length ++ data ++ rest) = .ok (of f data, 2 + data.length) := by
  obtain ⟨b₀, b₁, hbytes, hlen⟩ := exists_header h
  have heq : toBeBytes 2 data.length ++ data ++ rest = b₀ :: b₁ :: (data ++ rest) := by
    rw [hbytes]
    rfl
  rw [heq, decode_eq hlen, if_pos hv, holding_eq_of hlen]

/-- The decoder reads what is read without the representation, and represents that. -/
theorem decode_refines {α : Type}
    {finish : ∀ bytes : Bytes, bytes.length < 65536 → Fallible MqttError α}
    {represent : α → Fallible MqttError (LengthPrefixed f)}
    (hfinish : ∀ bytes short, finish bytes short >>= represent =
      if valid bytes then .ok (of f bytes) else .err .malformedPacket) (data : Bytes) :
    decode f valid data =
      decodeAnnounced finish data >>= fun r ↦ represent r.1 >>= fun v ↦ .ok (v, r.2) := by
  match data with
  | [] => rfl
  | [_] => rfl
  | b₀ :: b₁ :: tail =>
    by_cases hlen : (U16.fromBeBytes b₀ b₁).val ≤ tail.length
    · obtain ⟨bytes, rest, rfl, hb⟩ := exists_append_of_le hlen
      have hshort : bytes.length ≤ 65535 := by omega
      rw [decode_eq hb, decodeAnnounced_eq rest hb hshort, holding_eq_of hb, bind_assoc]
      simp only [Fallible.ok_bind]
      rw [← bind_assoc, hfinish]
      split
      · rfl
      · rfl
    · rw [decode_short hlen, decodeAnnounced_short hlen]
      rfl

end LengthPrefixed

end MqttProtocolCore.Packet
