import MqttProtocolCore.Packet.Codec.Lengths

namespace MqttProtocolCore.Packet

open General

variable {w : IdWidth}

/-- What is built is written with the right lengths and parses back, and a body that was parsed to
its end is written again, each exactly when it is `short` and `plain`. -/
structure Faithful {B P : Type} [GenericPacketTrait P] (build : B → Fallible MqttError P)
    (parse : Bytes → Fallible MqttError (P × ℕ)) (short : B → Prop) (plain : Bytes → Prop) :
    Prop where
  built (b : B) (p : P) : build b = .ok p → (LengthsAgree p ∧ RoundTrips parse p ↔ short b)
  parsed (data : Bytes) (p : P) : parse data = .ok (p, data.length) →
    (LengthsAgree p ∧ frameBody (GenericPacketTrait.toContinuousBuffer p) = data ↔ plain data)

section Faithful

variable {B P : Type} [GenericPacketTrait P] {build : B → Fallible MqttError P}
  {parse : Bytes → Fallible MqttError (P × ℕ)} {short short' : B → Prop} {plain plain' : Bytes → Prop}
  {valid : P → Prop} {body : P → Bytes} {remainingLength : P → VariableByteInteger}

theorem Faithful.congr (h : Faithful build parse short plain)
    (hshort : ∀ b p, build b = .ok p → (short b ↔ short' b))
    (hplain : ∀ data p, parse data = .ok (p, data.length) → (plain data ↔ plain' data)) :
    Faithful build parse short' plain' where
  built b p hb := (h.built b p hb).trans (hshort b p hb)
  parsed data p hp := (h.parsed data p hp).trans (hplain data p hp)

/-- A format with one code for each value: only a body that is too long to count is not faithful. -/
theorem Framed.faithful
    (h : Framed parse (fun code p ↦ code = body p ∧ valid p) valid body remainingLength)
    (hbuild : ∀ b p, build b = .ok p → valid p ∧ lengthOf (body p).length = .ok (remainingLength p)) :
    Faithful build parse (fun b ↦ ∀ p, build b = .ok p → (body p).length < 4294967296)
      (fun data ↦ data.length < 4294967296) where
  built b p hb := by
    obtain ⟨hv, hr⟩ := hbuild b p hb
    have hcode : body p = body p ∧ valid p := ⟨rfl, hv⟩
    rw [h.forwards_iff hcode hr]
    constructor
    · rintro ⟨-, hlt⟩ p' hb'
      rw [hb] at hb'
      cases hb'
      exact hlt
    · intro hlt
      exact ⟨rfl, hlt p hb⟩
  parsed data p hp := by
    obtain ⟨code, rest, rfl, hlen, ⟨rfl, hv⟩, hr⟩ := h.sound hp
    have hrest : rest = [] := by
      rw [List.length_append] at hlen
      exact List.length_eq_zero_iff.mp (by omega)
    subst hrest
    obtain ⟨header, hlaid⟩ := h.laidOut p
    rw [hlaid.frameBody, List.append_nil, h.lengthsAgree_iff]
    have hmod := lengthOf_eq_ok.mp hr
    constructor
    · rintro ⟨hl, -⟩
      omega
    · intro hlt
      exact ⟨by omega, rfl⟩

end Faithful

namespace V50

theorem Connack.built {b : ConnackBuilder} {p : Connack} (h : b.build = .ok p) :
    p.ackFlags = (if b.1 then 1 else 0) ∧ p.reasonCode = b.2.1 ∧ p.props = b.2.2 ∧
      validateConnackProperties p.props = .ok () ∧ lengthOf p.props.size = .ok p.propertyLength ∧
      lengthOf p.bodyBytes.length = .ok p.remainingLength := by
  obtain ⟨⟨⟩, hv, h⟩ := Fallible.bind_eq_ok.mp h
  obtain ⟨l, hl, h⟩ := Fallible.bind_eq_ok.mp h
  obtain ⟨r, hr, h⟩ := Fallible.bind_eq_ok.mp h
  cases h
  refine ⟨rfl, rfl, rfl, hv, hl, ?_⟩
  rw [Connack.bodyBytes, List.length_append, length_sectionBytes, ← hr]
  simp [Nat.add_assoc]

/-- A CONNACK parses back exactly when the length of its properties did not wrap. -/
theorem Connack.roundTrips_of_build {b : ConnackBuilder} {p : Connack} (h : b.build = .ok p) :
    RoundTrips Connack.parse p ↔ b.2.2.size < 4294967296 := by
  obtain ⟨-, -, hps, hv, hl, hr⟩ := Connack.built h
  rw [Connack.framed.roundTrips_iff, ← hps, ← toU32_eq_iff_of_lengthOf hl]
  constructor
  · intro hboth
    exact hboth.1.2
  · intro heq
    exact ⟨⟨hv, heq⟩, hr⟩

end V50

namespace V311

structure ConnackBuilder where
  sessionPresent : Option Bool
  returnCode : Option ConnectReturnCode

def ConnackBuilder.build (b : ConnackBuilder) : Fallible MqttError Connack :=
  match b.sessionPresent, b.returnCode with
  | some sessionPresent, some returnCode => Connack.build sessionPresent returnCode
  | _, _ => .err .malformedPacket

namespace Connack

def ackFlags (p : Connack) : UInt8 := if p.sessionPresent then 1 else 0

def toBuffers (p : Connack) : List Bytes :=
  [[PacketType.connack.toFixedHeader], p.remainingLength.asBytes, [p.ackFlags],
    [p.returnCode.toU8]]

def toContinuousBuffer (p : Connack) : Bytes :=
  [PacketType.connack.toFixedHeader] ++ p.remainingLength.asBytes ++ [p.ackFlags] ++
    [p.returnCode.toU8]

instance : GenericPacketTrait Connack := ⟨size, toBuffers, toContinuousBuffer⟩

def bodyBytes (p : Connack) : Bytes := [p.ackFlags, p.returnCode.toU8]

theorem laidOut (p : Connack) :
    LaidOut p PacketType.connack.toFixedHeader p.remainingLength p.bodyBytes where
  size := rfl
  flatten := by
    change p.toBuffers.flatten = p.toContinuousBuffer
    simp only [toBuffers, toContinuousBuffer, List.flatten_cons, List.flatten_nil, List.append_nil,
      List.append_assoc]
  bytes := by
    change p.toContinuousBuffer = _
    simp only [toContinuousBuffer, bodyBytes, List.append_assoc, List.cons_append, List.nil_append]

theorem parse_eq_ok {data : Bytes} {p : Connack} {n : ℕ} : parse data = .ok (p, n) ↔
    ∃ flags rest, data = [flags, p.returnCode.toU8] ++ rest ∧ n = 2 ∧
      p.sessionPresent = decide (flags &&& 0x01 ≠ 0) ∧ lengthOf 2 = .ok p.remainingLength := by
  constructor
  · intro h
    match data with
    | [] => cases h
    | [_] => cases h
    | flags :: code :: rest =>
      cases hc : ConnectReturnCode.tryFrom code with
      | none => simp [parse, Fallible.require, index, hc] at h
      | some returnCode =>
        obtain rfl := ConnectReturnCode.tryFrom_eq_some.mp hc
        simp only [parse, Fallible.require, index, List.length_cons, List.getElem?_cons_zero,
          List.getElem?_cons_succ, Fallible.ok_bind, hc] at h
        rw [if_pos (by omega), Fallible.ok_bind] at h
        obtain ⟨q, hq, h⟩ := Fallible.bind_eq_ok.mp h
        obtain ⟨r, hr, hq⟩ := Fallible.bind_eq_ok.mp hq
        cases hq
        cases h
        exact ⟨flags, rest, rfl, rfl, rfl, hr⟩
  · rintro ⟨flags, rest, rfl, rfl, hs, hr⟩
    obtain ⟨r, present, code⟩ := p
    dsimp only at hs hr ⊢
    subst hs
    simp only [parse, Fallible.require, index, List.cons_append, List.nil_append, List.length_cons,
      List.getElem?_cons_zero, List.getElem?_cons_succ, Fallible.ok_bind,
      ConnectReturnCode.tryFrom_eq_some.mpr rfl]
    rw [if_pos (by omega), Fallible.ok_bind, build, hr]
    rfl

theorem ackFlags_and_one (p : Connack) : p.ackFlags &&& 0x01 ≠ 0 ↔ p.sessionPresent := by
  obtain ⟨r, present, code⟩ := p
  cases present <;> simp [ackFlags]

theorem lengthsAgree_iff (p : Connack) : LengthsAgree p ↔ p.remainingLength.toU32 = 2 :=
  p.laidOut.lengthsAgree_iff

theorem ackFlags_eq_iff {flags : UInt8} {p : Connack}
    (h : p.sessionPresent = decide (flags &&& 0x01 ≠ 0)) : p.ackFlags = flags ↔ flags ≤ 1 := by
  have hall : ∀ n : Fin 256, (if decide (UInt8.ofNat n &&& 0x01 ≠ 0) then (1 : UInt8) else 0) =
      UInt8.ofNat n ↔ UInt8.ofNat n ≤ 1 := by decide +kernel
  have hflags := hall ⟨flags.toNat, flags.toNat_lt⟩
  rw [UInt8.ofNat_toNat] at hflags
  rw [ackFlags, h]
  exact hflags

theorem faithful : Faithful ConnackBuilder.build parse (fun _ ↦ True) (fun data ↦ data.headD 0 ≤ 1) where
  built b p h := by
    obtain ⟨present, code⟩ := b
    cases present with
    | none => cases h
    | some present =>
      cases code with
      | none => cases h
      | some code =>
        obtain ⟨r, hr, h⟩ := Fallible.bind_eq_ok.mp h
        cases h
        refine iff_true_intro ⟨?_, ?_⟩
        · rw [lengthsAgree_iff]
          exact lengthOf_eq_ok.mp hr
        · rw [(Connack.laidOut _).roundTrips_iff]
          refine parse_eq_ok.mpr ⟨_, [], rfl, rfl, ?_, hr⟩
          simp only [ackFlags_and_one, Bool.decide_eq_true]
  parsed data p h := by
    obtain ⟨flags, rest, rfl, hlen, hs, hr⟩ := parse_eq_ok.mp h
    have hrest : rest = [] := by
      rw [List.length_append] at hlen
      exact List.length_eq_zero_iff.mp (by simpa using hlen)
    subst hrest
    rw [lengthsAgree_iff, p.laidOut.frameBody]
    have hflags := ackFlags_eq_iff hs
    constructor
    · rintro ⟨-, hbody⟩
      exact hflags.mp (List.cons.inj hbody).1
    · intro hle
      refine ⟨lengthOf_eq_ok.mp hr, ?_⟩
      rw [bodyBytes, hflags.mpr hle]
      rfl

end Connack

structure AckBuilder (w : IdWidth) (C : Type) where
  packetId : Option (PacketId w)
  reasonCode : Option C

def AckBuilder.build {C : Type} (b : AckBuilder w C) : Fallible MqttError (Ack w C) :=
  match b.packetId with
  | some id => Ack.build id b.reasonCode
  | none => .err .malformedPacket

namespace Ack

variable {C : Type} [V50.AckCode C]

def codeBytes (reasonCode : Option C) : Bytes := reasonCode.elim [] fun c ↦ [EncodedCode.toU8 c]

def toBuffers (p : Ack w C) : List Bytes :=
  [[(V50.AckCode.packetType C).toFixedHeader], p.remainingLength.asBytes,
    PacketId.toBuffer p.packetId] ++ bufferOf (codeBytes p.reasonCode)

def toContinuousBuffer (p : Ack w C) : Bytes :=
  [(V50.AckCode.packetType C).toFixedHeader] ++ p.remainingLength.asBytes ++
    PacketId.toBuffer p.packetId ++ codeBytes p.reasonCode

instance : GenericPacketTrait (Ack w C) := ⟨size, toBuffers, toContinuousBuffer⟩

def bodyBytes (p : Ack w C) : Bytes := PacketId.toBuffer p.packetId ++ codeBytes p.reasonCode

theorem length_bodyBytes (p : Ack w C) : p.bodyBytes.length = remainingSize w p.reasonCode := by
  obtain ⟨r, id, code⟩ := p
  rw [bodyBytes, List.length_append, PacketId.length_toBuffer, remainingSize]
  cases code <;> rfl

theorem laidOut (p : Ack w C) :
    LaidOut p (V50.AckCode.packetType C).toFixedHeader p.remainingLength p.bodyBytes where
  size := rfl
  flatten := by
    change p.toBuffers.flatten = p.toContinuousBuffer
    simp only [toBuffers, toContinuousBuffer, List.flatten_append, List.flatten_cons,
      List.flatten_nil, flatten_bufferOf, List.append_nil, List.append_assoc]
  bytes := by
    change p.toContinuousBuffer = _
    simp only [toContinuousBuffer, bodyBytes, List.append_assoc, List.cons_append, List.nil_append]

theorem parseReasonCode_eq_ok {data tail : Bytes} {cursor : ℕ} (hat : At data cursor tail)
    {r : Option C} {n : ℕ} : parseReasonCode C data cursor = .ok (r, n) ↔
      ∃ rest, tail = codeBytes r ++ rest ∧ n = cursor + (codeBytes r).length ∧
        (r = none → rest = []) := by
  cases tail with
  | nil =>
    rw [parseReasonCode_nil hat]
    constructor
    · intro h
      cases h
      exact ⟨[], rfl, rfl, fun _ ↦ rfl⟩
    · rintro ⟨rest, htail, rfl, -⟩
      cases r with
      | none => rfl
      | some c => cases htail
  | cons b tail =>
    rw [parseReasonCode_cons hat]
    constructor
    · rintro ⟨c, rfl, rfl, rfl⟩
      exact ⟨tail, rfl, rfl, by simp⟩
    · rintro ⟨rest, htail, rfl, hend⟩
      cases r with
      | none =>
        rw [hend rfl] at htail
        cases htail
      | some c =>
        obtain ⟨rfl, -⟩ := List.cons.inj htail
        exact ⟨c, rfl, rfl, rfl⟩

theorem parse_eq_ok {data : Bytes} {p : Ack w C} {n : ℕ} : parse data = .ok (p, n) ↔
    ∃ rest, data = p.bodyBytes ++ rest ∧ n = p.bodyBytes.length ∧ (p.reasonCode = none → rest = []) ∧
      lengthOf p.bodyBytes.length = .ok p.remainingLength := by
  constructor
  · intro h
    obtain ⟨⟨id, c⟩, hid, h⟩ := Fallible.bind_eq_ok.mp h
    obtain ⟨_, tail, rfl, rfl, rfl⟩ := accepts_parseNonZeroPacketId.iff.mp hid
    have hat := (At.start (PacketId.toBuffer id.val ++ tail)).next
    rw [Nat.zero_add] at hat
    obtain ⟨⟨code, m⟩, hc, h⟩ := Fallible.bind_eq_ok.mp h
    obtain ⟨rest, rfl, rfl, hend⟩ := (parseReasonCode_eq_ok hat).mp hc
    obtain ⟨r, hr, h⟩ := Fallible.bind_eq_ok.mp h
    cases h
    refine ⟨rest, ?_, ?_, hend, ?_⟩
    · exact (List.append_assoc _ _ _).symm
    · exact List.length_append.symm
    · rw [length_bodyBytes]
      exact hr
  · rintro ⟨rest, rfl, rfl, hend, hr⟩
    rw [length_bodyBytes] at hr
    obtain ⟨r, id, code⟩ := p
    rw [bodyBytes, List.append_assoc, List.length_append]
    have hat := (At.start (PacketId.toBuffer id.val ++ (codeBytes code ++ rest))).next
    rw [Nat.zero_add] at hat
    have hid := accepts_parseNonZeroPacketId.complete (a := id) rfl (codeBytes code ++ rest)
    change Ack.parse (PacketId.toBuffer id.val ++ (codeBytes code ++ rest)) = _
    rw [parse, hid, Fallible.ok_bind]
    dsimp only
    rw [(parseReasonCode_eq_ok hat).mpr ⟨rest, rfl, rfl, hend⟩, Fallible.ok_bind]
    dsimp only at hr ⊢
    rw [hr]
    rfl

theorem framed : Framed parse (fun code (p : Ack w C) ↦ code = p.bodyBytes ∧ True) (fun _ ↦ True)
    bodyBytes remainingLength where
  laidOut p := ⟨_, p.laidOut⟩
  sound h := by
    obtain ⟨rest, hdata, hn, -, hr⟩ := parse_eq_ok.mp h
    exact ⟨_, rest, hdata, hn, ⟨rfl, trivial⟩, hr⟩
  complete h hr := by
    obtain ⟨rfl, -⟩ := h
    exact parse_eq_ok.mpr ⟨[], (List.append_nil _).symm, rfl, fun _ ↦ rfl, hr⟩
  shortest := .exactly_valid _
  excess h := by
    rw [h.1]
    omega

theorem length_bodyBytes_lt (p : Ack w C) : p.bodyBytes.length < 4294967296 := by
  have hle := Ack.remainingSize_le (w := w) p.reasonCode
  rw [VariableByteInteger.max] at hle
  rw [length_bodyBytes]
  omega

theorem faithful :
    Faithful (AckBuilder.build (w := w) (C := C)) parse (fun _ ↦ True) (fun _ ↦ True) := by
  refine (framed.faithful fun b p h ↦ ⟨trivial, ?_⟩).congr ?_ ?_
  · obtain ⟨id, code⟩ := b
    cases id with
    | none => cases h
    | some id =>
      change Ack.build id code = .ok p at h
      rw [Ack.build] at h
      split at h
      · obtain ⟨r, hr, h⟩ := Fallible.bind_eq_ok.mp h
        cases h
        rw [length_bodyBytes]
        exact hr
      · cases h
  · intro b p h
    exact iff_true_intro fun p _ ↦ p.length_bodyBytes_lt
  · intro data p h
    obtain ⟨rest, hdata, hn, -, -⟩ := parse_eq_ok.mp h
    have hlt := p.length_bodyBytes_lt
    exact iff_true_intro (by omega)

end Ack

namespace Listing

variable {α : Type} [ListingEntry α]

theorem framed : Framed parseListing
    (fun code (p : Listing w α) ↦ code = p.bodyBytes ∧ p.entries ≠ []) (fun p ↦ p.entries ≠ [])
    bodyBytes remainingLength where
  laidOut p := ⟨_, p.laidOut⟩
  sound {data p n} h := by
    obtain ⟨hn, hG, hr⟩ := parse_eq_ok.mp h
    exact ⟨data, [], (List.append_nil _).symm, hn, hG, hr⟩
  complete hG hr := parse_eq_ok.mpr ⟨rfl, hG, hr⟩
  shortest := .exactly_valid _
  excess h := by
    rw [h.1]
    omega

theorem faithful : Faithful (build (w := w) (α := α)) parseListing
    (fun b ↦ w.bufferSize + entriesSize ListingEntry.size (b.entries.getD []) < 4294967296)
    (fun data ↦ data.length < 4294967296) := by
  refine (framed.faithful fun b p h ↦ ?_).congr ?_ fun _ _ _ ↦ Iff.rfl
  · obtain ⟨-, -, -, hne, hr⟩ := build_eq_ok.mp h
    exact ⟨hne, hr⟩
  · intro b p h
    have hlen (q : Listing w α) (hq : build b = .ok q) : q.bodyBytes.length =
        w.bufferSize + entriesSize ListingEntry.size (b.entries.getD []) := by
      obtain ⟨-, -, hes, -⟩ := build_eq_ok.mp hq
      rw [length_bodyBytes, hes]
    constructor
    · intro hlt
      rw [← hlen p h]
      exact hlt p h
    · intro hlt q hq
      rw [hlen q hq]
      exact hlt

end Listing

namespace Unsuback

def build (packetId : Option (PacketId w)) : Fallible MqttError (Unsuback w) :=
  match packetId with
  | none => .err .malformedPacket
  | some packetId => do
    .require (packetId ≠ 0) .malformedPacket
    return ⟨← lengthOf 2, packetId⟩

def toBuffers (p : Unsuback w) : List Bytes :=
  [[PacketType.unsuback.toFixedHeader], p.remainingLength.asBytes, PacketId.toBuffer p.packetId]

def toContinuousBuffer (p : Unsuback w) : Bytes :=
  [PacketType.unsuback.toFixedHeader] ++ p.remainingLength.asBytes ++ PacketId.toBuffer p.packetId

instance : GenericPacketTrait (Unsuback w) := ⟨size, toBuffers, toContinuousBuffer⟩

def bodyBytes (p : Unsuback w) : Bytes := PacketId.toBuffer p.packetId

theorem length_bodyBytes (p : Unsuback w) : p.bodyBytes.length = w.bufferSize :=
  PacketId.length_toBuffer _

theorem laidOut (p : Unsuback w) :
    LaidOut p PacketType.unsuback.toFixedHeader p.remainingLength p.bodyBytes where
  size := rfl
  flatten := by
    change p.toBuffers.flatten = p.toContinuousBuffer
    simp only [toBuffers, toContinuousBuffer, List.flatten_cons, List.flatten_nil, List.append_nil,
      List.append_assoc]
  bytes := by
    change p.toContinuousBuffer = _
    simp only [toContinuousBuffer, bodyBytes, List.cons_append, List.nil_append]

theorem parse_eq_ok {data : Bytes} {p : Unsuback w} {n : ℕ} : parse data = .ok (p, n) ↔
    ∃ rest, data = p.bodyBytes ++ rest ∧ n = p.bodyBytes.length ∧
      lengthOf p.bodyBytes.length = .ok p.remainingLength := by
  constructor
  · intro h
    obtain ⟨⟨id, c⟩, hid, h⟩ := Fallible.bind_eq_ok.mp h
    obtain ⟨_, rest, rfl, rfl, rfl⟩ := accepts_parsePacketId.iff.mp hid
    obtain ⟨r, hr, h⟩ := Fallible.bind_eq_ok.mp h
    cases h
    refine ⟨rest, rfl, rfl, ?_⟩
    rw [length_bodyBytes]
    exact hr
  · rintro ⟨rest, rfl, rfl, hr⟩
    rw [length_bodyBytes] at hr
    obtain ⟨r, id⟩ := p
    rw [bodyBytes, parse, accepts_parsePacketId.complete (a := id) rfl, Fallible.ok_bind]
    dsimp only at hr ⊢
    rw [hr]
    rfl

theorem framed : Framed parse (fun code (p : Unsuback w) ↦ code = p.bodyBytes ∧ True) (fun _ ↦ True)
    bodyBytes remainingLength where
  laidOut p := ⟨_, p.laidOut⟩
  sound h := by
    obtain ⟨rest, hdata, hn, hr⟩ := parse_eq_ok.mp h
    exact ⟨_, rest, hdata, hn, ⟨rfl, trivial⟩, hr⟩
  complete h hr := by
    obtain ⟨rfl, -⟩ := h
    exact parse_eq_ok.mpr ⟨[], (List.append_nil _).symm, rfl, hr⟩
  shortest := .exactly_valid _
  excess h := by
    rw [h.1]
    omega

theorem bufferSize_eq_two_iff : w.bufferSize = 2 ↔ w = .u16 := by cases w <;> simp [IdWidth.bufferSize]

theorem faithful : Faithful (build (w := w)) parse (fun _ ↦ w = .u16) (fun _ ↦ True) where
  built b p h := by
    cases b with
    | none => cases h
    | some id =>
      obtain ⟨⟨⟩, -, h⟩ := Fallible.bind_eq_ok.mp h
      obtain ⟨r, hr, h⟩ := Fallible.bind_eq_ok.mp h
      cases h
      have htwo : r.toU32 = 2 := lengthOf_eq_ok.mp hr
      rw [framed.lengthsAgree_iff, framed.roundTrips_iff, length_bodyBytes, ← bufferSize_eq_two_iff]
      dsimp only
      constructor
      · rintro ⟨hl, -⟩
        omega
      · intro hw
        rw [hw]
        exact ⟨htwo, trivial, hr⟩
  parsed data p h := by
    obtain ⟨rest, rfl, hn, hr⟩ := parse_eq_ok.mp h
    have hrest : rest = [] := by
      rw [List.length_append] at hn
      exact List.length_eq_zero_iff.mp (by omega)
    subst hrest
    rw [framed.lengthsAgree_iff, p.laidOut.frameBody, List.append_nil]
    refine iff_true_intro ⟨?_, rfl⟩
    rw [lengthOf_eq_ok.mp hr, length_bodyBytes]
    cases w <;> rfl

end Unsuback

namespace Empty

def toBuffers (type : PacketType) (p : Empty) : List Bytes :=
  [[type.toFixedHeader], p.remainingLength.asBytes]

def toContinuousBuffer (type : PacketType) (p : Empty) : Bytes :=
  [type.toFixedHeader] ++ p.remainingLength.asBytes

/-- The packets without a body differ in their type alone. -/
@[reducible] def written (type : PacketType) : GenericPacketTrait Empty :=
  ⟨size, toBuffers type, toContinuousBuffer type⟩

theorem laidOut (type : PacketType) (p : Empty) :
    @LaidOut Empty (written type) p type.toFixedHeader p.remainingLength [] := by
  let _ := written type
  constructor
  · rfl
  · change (toBuffers type p).flatten = toContinuousBuffer type p
    simp only [toBuffers, toContinuousBuffer, List.flatten_cons, List.flatten_nil, List.append_nil]
  · change toContinuousBuffer type p = _
    simp only [toContinuousBuffer, List.cons_append, List.nil_append, List.append_nil]

theorem new_eq_ok {p : Empty} : new = .ok p ↔ p.remainingLength = .zero := by
  obtain ⟨r⟩ := p
  constructor
  · intro h
    cases h
    rfl
  · rintro ⟨⟩
    rfl

theorem parse_eq_ok {data : Bytes} {p : Empty} {n : ℕ} :
    parse data = .ok (p, n) ↔ new = .ok p ∧ n = 0 := by
  constructor
  · intro h
    obtain ⟨q, hq, h⟩ := Fallible.bind_eq_ok.mp h
    cases h
    exact ⟨hq, rfl⟩
  · rintro ⟨hp, rfl⟩
    rw [parse, hp]
    rfl

theorem faithful (type : PacketType) : @Faithful Unit Empty (written type) (fun _ ↦ new) parse
    (fun _ ↦ True) (fun _ ↦ True) := by
  let _ := written type
  have hagree (p : Empty) (h : new = .ok p) : LengthsAgree p := by
    rw [(laidOut type p).lengthsAgree_iff, new_eq_ok.mp h]
    rfl
  constructor
  · intro b p h
    refine iff_true_intro ⟨hagree p h, ?_⟩
    rw [(laidOut type p).roundTrips_iff]
    exact parse_eq_ok.mpr ⟨h, rfl⟩
  · intro data p h
    obtain ⟨hp, hlen⟩ := parse_eq_ok.mp h
    refine iff_true_intro ⟨hagree p hp, ?_⟩
    rw [(laidOut type p).frameBody, List.length_eq_zero_iff.mp hlen]

end Empty

/-- The packets of version 3.1.1 other than CONNECT and PUBLISH: what is built parses back, and what
was received is written as it came, but for the reserved flags of a CONNACK, lists that are too long
to count, and an UNSUBACK that is built with an identifier of four bytes. -/
theorem replies_round_trip (w : IdWidth) :
    Faithful ConnackBuilder.build Connack.parse (fun _ ↦ True) (fun data ↦ data.headD 0 ≤ 1) ∧
    Faithful (AckBuilder.build (w := w) (C := PubackReasonCode)) Ack.parse (fun _ ↦ True)
      (fun _ ↦ True) ∧
    Faithful (AckBuilder.build (w := w) (C := PubrecReasonCode)) Ack.parse (fun _ ↦ True)
      (fun _ ↦ True) ∧
    Faithful (AckBuilder.build (w := w) (C := PubrelReasonCode)) Ack.parse (fun _ ↦ True)
      (fun _ ↦ True) ∧
    Faithful (AckBuilder.build (w := w) (C := PubcompReasonCode)) Ack.parse (fun _ ↦ True)
      (fun _ ↦ True) ∧
    Faithful (Listing.build (w := w) (α := SubEntry)) Subscribe.parse
      (fun b ↦ w.bufferSize + entriesSize SubEntry.size (b.entries.getD []) < 4294967296)
      (fun data ↦ data.length < 4294967296) ∧
    Faithful (Listing.build (w := w) (α := SubackReturnCode)) Suback.parse
      (fun b ↦ w.bufferSize + entriesSize (fun _ ↦ 1) (b.entries.getD []) < 4294967296)
      (fun data ↦ data.length < 4294967296) ∧
    Faithful (Listing.build (w := w) (α := MqttString)) Unsubscribe.parse
      (fun b ↦ w.bufferSize + entriesSize MqttString.size (b.entries.getD []) < 4294967296)
      (fun data ↦ data.length < 4294967296) ∧
    Faithful (Unsuback.build (w := w)) Unsuback.parse (fun _ ↦ w = .u16) (fun _ ↦ True) ∧
    ∀ type, @Faithful Unit Empty (Empty.written type) (fun _ ↦ Empty.new) Empty.parse
      (fun _ ↦ True) (fun _ ↦ True) :=
  ⟨Connack.faithful, Ack.faithful, Ack.faithful, Ack.faithful, Ack.faithful, Listing.faithful,
    Listing.faithful, Listing.faithful, Unsuback.faithful, Empty.faithful⟩

end V311

end MqttProtocolCore.Packet
