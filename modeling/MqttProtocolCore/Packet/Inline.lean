import MqttProtocolCore.Packet.InlineBuffer

namespace MqttProtocolCore.Packet

open General

namespace Inline

variable {f : Features}

abbrev MqttString (f : Features) := LengthPrefixed f

abbrev MqttBinary (f : Features) := LengthPrefixed f

namespace MqttString

def new (f : Features) (s : Utf8String) : Fallible MqttError (MqttString f) :=
  LengthPrefixed.new f s.bytes

def asBytes (v : MqttString f) : Fallible MqttError Bytes := LengthPrefixed.asBytes v

/-- The bytes are not checked again; a panic stands for what other bytes than UTF-8 would do. -/
def asStr (v : MqttString f) : Fallible MqttError Utf8String := do
  let data ← LengthPrefixed.asSlice v
  if h : utf8Valid data then return ⟨data, h⟩ else .panic

def len (v : MqttString f) : Fallible MqttError ℕ := LengthPrefixed.len v

def isEmpty (v : MqttString f) : Fallible MqttError Bool := LengthPrefixed.isEmpty v

def size (v : MqttString f) : Fallible MqttError ℕ := LengthPrefixed.size v

def toBuffers (v : MqttString f) : Fallible MqttError (List Bytes) := LengthPrefixed.toBuffers v

def toContinuousBuffer (v : MqttString f) : Fallible MqttError Bytes :=
  LengthPrefixed.toContinuousBuffer v

def decode (f : Features) (data : Bytes) : Fallible MqttError (MqttString f × ℕ) :=
  LengthPrefixed.decode f utf8Valid data

def eq (v u : MqttString f) : Bool := decide (v = u)

def eqStr (v : MqttString f) (s : Utf8String) : Fallible MqttError Bool := do
  return decide ((← asStr v) = s)

def default (f : Features) : Outcome (MqttString f) := (new f .empty).unwrap

end MqttString

namespace MqttBinary

def new (f : Features) (data : Bytes) : Fallible MqttError (MqttBinary f) :=
  LengthPrefixed.new f data

def asBytes (v : MqttBinary f) : Fallible MqttError Bytes := LengthPrefixed.asBytes v

def asSlice (v : MqttBinary f) : Fallible MqttError Bytes := LengthPrefixed.asSlice v

def len (v : MqttBinary f) : Fallible MqttError ℕ := LengthPrefixed.len v

def isEmpty (v : MqttBinary f) : Fallible MqttError Bool := LengthPrefixed.isEmpty v

def size (v : MqttBinary f) : Fallible MqttError ℕ := LengthPrefixed.size v

def toBuffers (v : MqttBinary f) : Fallible MqttError (List Bytes) := LengthPrefixed.toBuffers v

def toContinuousBuffer (v : MqttBinary f) : Fallible MqttError Bytes :=
  LengthPrefixed.toContinuousBuffer v

def decode (f : Features) (data : Bytes) : Fallible MqttError (MqttBinary f × ℕ) :=
  LengthPrefixed.decode f (fun _ ↦ true) data

def eq (v u : MqttBinary f) : Bool := decide (v = u)

def default (f : Features) : Outcome (MqttBinary f) := (new f []).unwrap

end MqttBinary

namespace MqttString

def represent (f : Features) (r : Packet.MqttString × ℕ) :
    Fallible MqttError (MqttString f × ℕ) := do
  return (← new f r.1.str, r.2)

/-- Whether a string is kept inline or on the heap cannot be seen. -/
structure Agrees (f : Features) : Prop where
  long : ∀ s : Utf8String, ¬ s.len ≤ 65535 → new f s = .err .malformedPacket
  built : ∀ s : Packet.MqttString, ∃ v, new f s.str = .ok v ∧ (v.IsSmall ↔ f.Inlines s.len) ∧
    asBytes v = .ok s.asBytes ∧ asStr v = .ok s.asStr ∧ len v = .ok s.len ∧
    isEmpty v = .ok s.isEmpty ∧ size v = .ok s.size ∧ toBuffers v = .ok s.toBuffers ∧
    toContinuousBuffer v = .ok s.toContinuousBuffer ∧
    ∀ rest, decode f (s.asBytes ++ rest) = .ok (v, s.size)
  equal : ∀ (s t : Packet.MqttString) v u, new f s.str = .ok v → new f t.str = .ok u →
    eq v u = decide (s = t) ∧ eqStr v t.str = .ok (decide (s = t))
  read : ∀ data, decode f data = Packet.MqttString.decode data >>= represent f

variable {s t : Packet.MqttString} {data : Bytes}

theorem new_str (s : Packet.MqttString) : new f s.str = .ok (.of f s.str.bytes) :=
  LengthPrefixed.new_eq s.short

theorem asStr_of (s : Packet.MqttString) : asStr (.of f s.str.bytes) = .ok s.asStr := by
  have hslice := (@LengthPrefixed.shows_of f s.str.bytes s.short).asSlice
  rw [asStr, hslice, Fallible.ok_bind, dif_pos s.str.valid]
  rfl

theorem of_eq_of : (LengthPrefixed.of f s.str.bytes = .of f t.str.bytes) ↔ s = t := by
  rw [LengthPrefixed.of_inj s.short t.short]
  constructor
  · intro h
    cases s
    cases t
    congr 1
    exact Utf8String.ext h
  · intro h
    rw [h]

theorem decode_refines (f : Features) (data : Bytes) :
    decode f data = Packet.MqttString.decode data >>= represent f := by
  rw [Packet.MqttString.decode_eq_announced]
  refine @LengthPrefixed.decode_refines f utf8Valid Packet.MqttString _
    (fun s ↦ new f s.str) ?_ data
  intro bytes short
  rw [Packet.MqttString.checked_bind]
  split
  · exact new_str _
  · rfl

theorem agrees (f : Features) : Agrees f where
  long _ h := LengthPrefixed.new_long h
  built s := by
    have hshows := @LengthPrefixed.shows_of f s.str.bytes s.short
    refine ⟨_, new_str s, LengthPrefixed.isSmall_of, hshows.asBytes, asStr_of s, hshows.len,
      hshows.isEmpty, hshows.size, hshows.toBuffers, hshows.toContinuousBuffer, ?_⟩
    intro rest
    exact LengthPrefixed.decode_of s.short s.str.valid rest
  equal s t v u hv hu := by
    obtain rfl := Fallible.ok.inj ((new_str s).symm.trans hv)
    obtain rfl := Fallible.ok.inj ((new_str t).symm.trans hu)
    refine ⟨decide_eq_decide.mpr of_eq_of, ?_⟩
    rw [eqStr, asStr_of, Fallible.ok_bind]
    refine congrArg Fallible.ok (decide_eq_decide.mpr ?_)
    rw [← of_eq_of (f := f), LengthPrefixed.of_inj s.short t.short]
    exact ⟨congrArg _, Utf8String.ext⟩
  read := decode_refines f

end MqttString

namespace MqttBinary

def represent (f : Features) (r : Packet.MqttBinary × ℕ) :
    Fallible MqttError (MqttBinary f × ℕ) := do
  return (← new f r.1.data, r.2)

structure Agrees (f : Features) : Prop where
  long : ∀ data : Bytes, ¬ data.length ≤ 65535 → new f data = .err .malformedPacket
  built : ∀ b : Packet.MqttBinary, ∃ v, new f b.data = .ok v ∧
    (v.IsSmall ↔ f.Inlines b.data.length) ∧ asBytes v = .ok b.asBytes ∧ asSlice v = .ok b.data ∧
    len v = .ok b.data.length ∧ isEmpty v = .ok (decide (b.data.length = 0)) ∧
    size v = .ok b.size ∧ toBuffers v = .ok b.toBuffers ∧
    toContinuousBuffer v = .ok b.toContinuousBuffer ∧
    ∀ rest, decode f (b.asBytes ++ rest) = .ok (v, b.size)
  equal : ∀ (b c : Packet.MqttBinary) v u, new f b.data = .ok v → new f c.data = .ok u →
    eq v u = decide (b = c)
  read : ∀ data, decode f data = Packet.MqttBinary.decode data >>= represent f

theorem new_data (b : Packet.MqttBinary) : new f b.data = .ok (.of f b.data) :=
  LengthPrefixed.new_eq b.short

theorem decode_refines (f : Features) (data : Bytes) :
    decode f data = Packet.MqttBinary.decode data >>= represent f := by
  rw [Packet.MqttBinary.decode_eq_announced]
  refine @LengthPrefixed.decode_refines f (fun _ ↦ true) Packet.MqttBinary _
    (fun b ↦ new f b.data) ?_ data
  intro bytes short
  exact new_data ⟨bytes, Nat.le_of_lt_succ short⟩

theorem agrees (f : Features) : Agrees f where
  long _ h := LengthPrefixed.new_long h
  built b := by
    have hshows := @LengthPrefixed.shows_of f b.data b.short
    refine ⟨_, new_data b, LengthPrefixed.isSmall_of, hshows.asBytes, hshows.asSlice, hshows.len,
      hshows.isEmpty, hshows.size, hshows.toBuffers, hshows.toContinuousBuffer, ?_⟩
    intro rest
    exact LengthPrefixed.decode_of b.short rfl rest
  equal b c v u hv hu := by
    obtain rfl := Fallible.ok.inj ((new_data b).symm.trans hv)
    obtain rfl := Fallible.ok.inj ((new_data c).symm.trans hu)
    refine decide_eq_decide.mpr ?_
    rw [LengthPrefixed.of_inj b.short c.short]
    cases b
    cases c
    simp
  read := decode_refines f

end MqttBinary

end Inline

end MqttProtocolCore.Packet
