import MqttProtocolCore.Packet.Codec.Wire
import MqttProtocolCore.Packet.V50.Ack

namespace MqttProtocolCore.Packet.V50

open General

class AckCode (C : Type) extends EncodedCode C where
  packetType : PacketType

instance : AckCode PubackReasonCode := ⟨.puback⟩

instance : AckCode PubrecReasonCode := ⟨.pubrec⟩

instance : AckCode PubrelReasonCode := ⟨.pubrel⟩

instance : AckCode PubcompReasonCode := ⟨.pubcomp⟩

variable {w : IdWidth}

def ShortProps (props : Option Properties) : Prop := ∀ ps ∈ props, ps.size < 4294967296

section Reason

variable {C : Type} {validate : Properties → Fallible MqttError Unit}

/-- The reason code and the properties of a packet that was built. -/
theorem buildProperties_eq_ok {props : Option Properties}
    {properties : Option (VariableByteInteger × Properties)} :
    buildProperties validate props = .ok properties ↔ properties.map Prod.snd = props ∧
      ∀ s ∈ properties, validate s.2 = .ok () ∧ s.1.toU32 = s.2.size % 4294967296 := by
  cases props with
  | none => cases properties <;> simp [buildProperties]
  | some ps =>
    constructor
    · intro h
      obtain ⟨⟨⟩, hv, h⟩ := Fallible.bind_eq_ok.mp h
      obtain ⟨l, hl, h⟩ := Fallible.bind_eq_ok.mp h
      cases h
      refine ⟨rfl, fun s hs ↦ ?_⟩
      cases hs
      exact ⟨hv, lengthOf_eq_ok.mp hl⟩
    · rintro ⟨hmap, h⟩
      cases properties with
      | none => cases hmap
      | some s =>
        cases hmap
        obtain ⟨hv, hl⟩ := h s rfl
        simp only [buildProperties, hv, Fallible.ok_bind, lengthOf_eq_ok.mpr hl]
        rfl

/-- What was built is written as it should be unless the length of the properties wrapped. -/
theorem reasonValid_iff {reasonCode : Option C} {props : Option Properties}
    {properties : Option (VariableByteInteger × Properties)}
    (h : buildProperties validate props = .ok properties)
    (hr : ¬ (reasonCode = none ∧ props.isSome)) :
    ReasonValid validate (reasonCode, properties) ↔ ShortProps props := by
  obtain ⟨hmap, hs⟩ := buildProperties_eq_ok.mp h
  subst hmap
  constructor
  · intro hv ps hps
    obtain ⟨s, hs', rfl⟩ := Option.map_eq_some_iff.mp hps
    have := (hv.2 s hs').2
    have := s.1.toU32_le
    rw [VariableByteInteger.max] at this
    omega
  · intro hshort
    refine ⟨fun hnone ↦ ?_, fun s hs' ↦ ⟨(hs s hs').1, ?_⟩⟩
    · by_contra hne
      exact hr ⟨hnone, by rw [Option.isSome_map]; exact Option.isSome_iff_ne_none.mpr hne⟩
    · rw [(hs s hs').2, Nat.mod_eq_of_lt (hshort s.2 (Option.mem_map_of_mem Prod.snd hs'))]

/-- A packet that ends with a reason code and a property section. -/
structure ShortForm {P : Type} [GenericPacketTrait P] [EncodedCode C]
    (parse : Bytes → Fallible MqttError (P × ℕ)) (validate : Properties → Fallible MqttError Unit)
    (front : P → Bytes) (reason : P → Option C × Option (VariableByteInteger × Properties))
    (remainingLength : P → VariableByteInteger) (extra : P → Prop) : Prop where
  laidOut (p : P) : ∃ header, LaidOut p header (remainingLength p) (front p ++ reasonBytes (reason p))
  parse_eq_ok {data : Bytes} {p : P} {n : ℕ} : parse data = .ok (p, n) ↔
    ∃ code rest, data = front p ++ (code ++ rest) ∧ n = (front p).length + code.length ∧
      ReasonSection validate code (reason p) ∧ ((reason p).2 = none → rest = []) ∧ extra p ∧
      lengthOf ((front p).length + reasonSize (reason p)) = .ok (remainingLength p)

section ShortForm

variable {P : Type} [GenericPacketTrait P] [EncodedCode C]
  {parse : Bytes → Fallible MqttError (P × ℕ)} {front : P → Bytes}
  {reason : P → Option C × Option (VariableByteInteger × Properties)}
  {remainingLength : P → VariableByteInteger} {extra : P → Prop}

theorem ShortForm.roundTrips_iff
    (h : ShortForm parse validate front reason remainingLength extra) (p : P) :
    RoundTrips parse p ↔ ReasonValid validate (reason p) ∧ extra p ∧
      lengthOf ((front p).length + reasonSize (reason p)) = .ok (remainingLength p) := by
  obtain ⟨header, hlaid⟩ := h.laidOut p
  rw [hlaid.roundTrips_iff, h.parse_eq_ok]
  constructor
  · rintro ⟨code, rest, -, -, hS, -, he, hl⟩
    exact ⟨shortest_reasonSection.valid hS, he, hl⟩
  · rintro ⟨hv, he, hl⟩
    exact ⟨reasonBytes (reason p), [], by rw [List.append_nil], List.length_append,
      shortest_reasonSection.code hv, fun _ ↦ rfl, he, hl⟩

/-- What was parsed describes its own encoding, which parses to an equal packet. -/
theorem ShortForm.of_parse (h : ShortForm parse validate front reason remainingLength extra)
    (hfront : ∀ p, (front p).length ≤ 4) {data : Bytes} {p : P} {n : ℕ}
    (hp : parse data = .ok (p, n)) : LengthsAgree p ∧ RoundTrips parse p := by
  obtain ⟨code, rest, -, -, hS, -, he, hl⟩ := h.parse_eq_ok.mp hp
  obtain ⟨header, hlaid⟩ := h.laidOut p
  refine ⟨hlaid.lengthsAgree_iff.mpr ?_,
    (h.roundTrips_iff p).mpr ⟨shortest_reasonSection.valid hS, he, hl⟩⟩
  have hle := hS.size_le
  have := hfront p
  rw [VariableByteInteger.max] at hle
  rw [lengthOf_eq_ok.mp hl, Nat.mod_eq_of_lt (by omega), List.length_append, length_reasonBytes]

end ShortForm

end Reason

namespace Ack

variable {C : Type} [AckCode C]

def toBuffers (p : Ack w C) : List Bytes :=
  [[(AckCode.packetType C).toFixedHeader], p.remainingLength.asBytes,
    PacketId.toBuffer p.packetId] ++ reasonBuffers (p.reasonCode, p.properties)

def toContinuousBuffer (p : Ack w C) : Bytes :=
  [(AckCode.packetType C).toFixedHeader] ++ p.remainingLength.asBytes ++
    PacketId.toBuffer p.packetId ++ reasonBytes (p.reasonCode, p.properties)

instance : GenericPacketTrait (Ack w C) := ⟨size, toBuffers, toContinuousBuffer⟩

theorem laidOut (p : Ack w C) :
    LaidOut p (AckCode.packetType C).toFixedHeader p.remainingLength
      (PacketId.toBuffer p.packetId ++ reasonBytes (p.reasonCode, p.properties)) where
  size := rfl
  flatten := by
    change p.toBuffers.flatten = p.toContinuousBuffer
    simp only [toBuffers, toContinuousBuffer, List.flatten_append, List.flatten_cons,
      List.flatten_nil, flatten_reasonBuffers, List.append_nil, List.append_assoc]
  bytes := by
    change p.toContinuousBuffer = _
    simp only [toContinuousBuffer, List.append_assoc, List.cons_append, List.nil_append]

theorem shortForm : ShortForm (Ack.parse (w := w) (C := C)) validateAckProperties
    (fun p ↦ PacketId.toBuffer p.packetId) (fun p ↦ (p.reasonCode, p.properties))
    (fun p ↦ p.remainingLength) (fun _ ↦ True) where
  laidOut p := ⟨_, p.laidOut⟩
  parse_eq_ok {data p n} := by
    constructor
    · intro h
      obtain ⟨⟨id, c⟩, hid, h⟩ := Fallible.bind_eq_ok.mp h
      obtain ⟨_, tail, rfl, rfl, rfl⟩ := accepts_parseNonZeroPacketId.iff.mp hid
      have hat := (At.start (PacketId.toBuffer id.val ++ tail)).next
      obtain ⟨⟨r, m⟩, hr, h⟩ := Fallible.bind_eq_ok.mp h
      rw [← Nat.zero_add (List.length _)] at hr
      obtain ⟨code, rest, rfl, rfl, hS, hend⟩ := (parseReasonProperties_eq_ok hat).mp hr
      obtain ⟨l, hl, h⟩ := Fallible.bind_eq_ok.mp h
      cases h
      refine ⟨code, rest, rfl, ?_, hS, hend, trivial, ?_⟩
      · rw [Nat.zero_add]
        rfl
      · change lengthOf ((PacketId.toBuffer id.val).length + _) = _
        rw [PacketId.length_toBuffer]
        exact hl
    · rintro ⟨code, rest, rfl, rfl, hS, hend, -, hl⟩
      obtain ⟨l, id, rc, ps⟩ := p
      have hat := (At.start (PacketId.toBuffer id.val ++ (code ++ rest))).next
      rw [Nat.zero_add] at hat
      have hid := accepts_parseNonZeroPacketId.complete (a := id) rfl (code ++ rest)
      change lengthOf ((PacketId.toBuffer id.val).length + _) = _ at hl
      rw [PacketId.length_toBuffer] at hl
      change Ack.parse (PacketId.toBuffer id.val ++ (code ++ rest)) = _
      rw [Ack.parse, hid, Fallible.ok_bind]
      dsimp only
      rw [(parseReasonProperties_eq_ok hat).mpr ⟨code, rest, rfl, rfl, hS, hend⟩, Fallible.ok_bind]
      dsimp only
      rw [hl]
      rfl

end Ack

namespace Disconnect

def toBuffers (p : Disconnect) : List Bytes :=
  [[PacketType.disconnect.toFixedHeader], p.remainingLength.asBytes] ++
    reasonBuffers (p.reasonCode, p.properties)

def toContinuousBuffer (p : Disconnect) : Bytes :=
  [PacketType.disconnect.toFixedHeader] ++ p.remainingLength.asBytes ++
    reasonBytes (p.reasonCode, p.properties)

instance : GenericPacketTrait Disconnect := ⟨size, toBuffers, toContinuousBuffer⟩

theorem laidOut (p : Disconnect) : LaidOut p PacketType.disconnect.toFixedHeader p.remainingLength
    (reasonBytes (p.reasonCode, p.properties)) where
  size := rfl
  flatten := by
    change p.toBuffers.flatten = p.toContinuousBuffer
    simp only [toBuffers, toContinuousBuffer, List.flatten_append, List.flatten_cons,
      List.flatten_nil, flatten_reasonBuffers, List.append_nil, List.append_assoc]
  bytes := by
    change p.toContinuousBuffer = _
    simp only [toContinuousBuffer, List.cons_append, List.nil_append]

theorem shortForm : ShortForm Disconnect.parse validateDisconnectProperties (fun _ ↦ [])
    (fun p ↦ (p.reasonCode, p.properties)) (fun p ↦ p.remainingLength) (fun _ ↦ True) where
  laidOut p := ⟨_, p.laidOut⟩
  parse_eq_ok {data p n} := by
    constructor
    · intro h
      obtain ⟨⟨r, m⟩, hr, h⟩ := Fallible.bind_eq_ok.mp h
      obtain ⟨code, rest, rfl, rfl, hS, hend⟩ := (parseReasonProperties_eq_ok (At.start data)).mp hr
      obtain ⟨l, hl, h⟩ := Fallible.bind_eq_ok.mp h
      cases h
      exact ⟨code, rest, rfl, rfl, hS, hend, trivial, by simpa using hl⟩
    · rintro ⟨code, rest, rfl, rfl, hS, hend, -, hl⟩
      obtain ⟨l, rc, ps⟩ := p
      rw [List.nil_append, Disconnect.parse, (parseReasonProperties_eq_ok (At.start _)).mpr
        ⟨code, rest, rfl, rfl, hS, hend⟩, Fallible.ok_bind]
      dsimp only at hl ⊢
      rw [List.length_nil, Nat.zero_add] at hl
      rw [hl]
      rfl

end Disconnect

structure AuthBuilder where
  reasonCodeBuf : Option AuthReasonCode
  props : Option Properties

/-- A reason code brings an empty list of properties with it when none was set. -/
def AuthBuilder.reasonCode (b : AuthBuilder) (rc : AuthReasonCode) : AuthBuilder :=
  { b with reasonCodeBuf := some rc, props := some (b.props.getD []) }

namespace Auth

/-- The check of the properties does not look at their length. -/
def build (b : AuthBuilder) : Fallible MqttError Auth := do
  .require (¬ (b.reasonCodeBuf = none ∧ b.props.isSome)) .malformedPacket
  validateAuthPacket b.reasonCodeBuf (b.props.map fun props ↦ (.zero, props))
  let properties ← buildProperties (fun _ ↦ .ok ()) b.props
  let remainingLength ← lengthOf (reasonSize (b.reasonCodeBuf, properties))
  return ⟨remainingLength, b.reasonCodeBuf, properties⟩

def toBuffers (p : Auth) : List Bytes :=
  [[PacketType.auth.toFixedHeader], p.remainingLength.asBytes] ++
    reasonBuffers (p.reasonCode, p.properties)

def toContinuousBuffer (p : Auth) : Bytes :=
  [PacketType.auth.toFixedHeader] ++ p.remainingLength.asBytes ++
    reasonBytes (p.reasonCode, p.properties)

instance : GenericPacketTrait Auth := ⟨size, toBuffers, toContinuousBuffer⟩

theorem laidOut (p : Auth) : LaidOut p PacketType.auth.toFixedHeader p.remainingLength
    (reasonBytes (p.reasonCode, p.properties)) where
  size := rfl
  flatten := by
    change p.toBuffers.flatten = p.toContinuousBuffer
    simp only [toBuffers, toContinuousBuffer, List.flatten_append, List.flatten_cons,
      List.flatten_nil, flatten_reasonBuffers, List.append_nil, List.append_assoc]
  bytes := by
    change p.toContinuousBuffer = _
    simp only [toContinuousBuffer, List.cons_append, List.nil_append]

theorem shortForm : ShortForm Auth.parse (fun _ ↦ .ok ()) (fun _ ↦ [])
    (fun p ↦ (p.reasonCode, p.properties)) (fun p ↦ p.remainingLength)
    (fun p ↦ validateAuthPacket p.reasonCode p.properties = .ok ()) where
  laidOut p := ⟨_, p.laidOut⟩
  parse_eq_ok {data p n} := by
    constructor
    · intro h
      obtain ⟨⟨r, m⟩, hr, h⟩ := Fallible.bind_eq_ok.mp h
      obtain ⟨code, rest, rfl, rfl, hS, hend⟩ := (parseReasonProperties_eq_ok (At.start data)).mp hr
      obtain ⟨⟨⟩, hv, h⟩ := Fallible.bind_eq_ok.mp h
      obtain ⟨l, hl, h⟩ := Fallible.bind_eq_ok.mp h
      cases h
      exact ⟨code, rest, rfl, rfl, hS, hend, hv, by simpa using hl⟩
    · rintro ⟨code, rest, rfl, rfl, hS, hend, hv, hl⟩
      obtain ⟨l, rc, ps⟩ := p
      rw [List.nil_append, Auth.parse, (parseReasonProperties_eq_ok (At.start _)).mpr
        ⟨code, rest, rfl, rfl, hS, hend⟩, Fallible.ok_bind]
      dsimp only at hl hv ⊢
      rw [List.length_nil, Nat.zero_add] at hl
      rw [hv, Fallible.ok_bind, hl]
      rfl

end Auth

section Build

variable {C : Type} [AckCode C]

/-- Parsing gives back what was built exactly when no length wrapped. -/
theorem Ack.roundTrips_of_build {id : PacketId w} {reasonCode : Option C}
    {props : Option Properties} {p : Ack w C} (h : Ack.build id reasonCode props = .ok p) :
    RoundTrips Ack.parse p ↔ ShortProps props := by
  unfold Ack.build at h
  split at h
  · obtain ⟨⟨⟩, hr, h⟩ := Fallible.bind_eq_ok.mp h
    obtain ⟨properties, hp, h⟩ := Fallible.bind_eq_ok.mp h
    obtain ⟨l, hl, h⟩ := Fallible.bind_eq_ok.mp h
    cases h
    rw [Ack.shortForm.roundTrips_iff, ← reasonValid_iff hp (Fallible.require_eq_ok.mp hr)]
    refine ⟨fun h ↦ h.1, fun h ↦ ⟨h, trivial, ?_⟩⟩
    change lengthOf ((PacketId.toBuffer id).length + _) = _
    rw [PacketId.length_toBuffer]
    exact hl
  · cases h

theorem Disconnect.roundTrips_of_build {reasonCode : Option DisconnectReasonCode}
    {props : Option Properties} {p : Disconnect} (h : Disconnect.build reasonCode props = .ok p) :
    RoundTrips Disconnect.parse p ↔ ShortProps props := by
  obtain ⟨⟨⟩, hr, h⟩ := Fallible.bind_eq_ok.mp h
  obtain ⟨properties, hp, h⟩ := Fallible.bind_eq_ok.mp h
  obtain ⟨l, hl, h⟩ := Fallible.bind_eq_ok.mp h
  cases h
  rw [Disconnect.shortForm.roundTrips_iff, ← reasonValid_iff hp (Fallible.require_eq_ok.mp hr)]
  refine ⟨fun h ↦ h.1, fun h ↦ ⟨h, trivial, ?_⟩⟩
  rw [List.length_nil, Nat.zero_add]
  exact hl

theorem Auth.validateAuthPacket_congr {reasonCode : Option AuthReasonCode}
    {properties properties' : Option (VariableByteInteger × Properties)}
    (h : properties.map Prod.snd = properties'.map Prod.snd) :
    validateAuthPacket reasonCode properties = validateAuthPacket reasonCode properties' := by
  cases properties with
  | none =>
    cases properties' with
    | none => rfl
    | some s => cases h
  | some s =>
    cases properties' with
    | none => cases h
    | some s' =>
      have hs : s.2 = s'.2 := Option.some.inj h
      obtain ⟨l, props⟩ := s
      obtain ⟨l', props'⟩ := s'
      cases hs
      rfl

theorem Auth.roundTrips_of_build {b : AuthBuilder} {p : Auth} (h : Auth.build b = .ok p) :
    RoundTrips Auth.parse p ↔ ShortProps b.props := by
  obtain ⟨⟨⟩, hr, h⟩ := Fallible.bind_eq_ok.mp h
  obtain ⟨⟨⟩, hv, h⟩ := Fallible.bind_eq_ok.mp h
  obtain ⟨properties, hp, h⟩ := Fallible.bind_eq_ok.mp h
  obtain ⟨l, hl, h⟩ := Fallible.bind_eq_ok.mp h
  cases h
  rw [Auth.shortForm.roundTrips_iff, ← reasonValid_iff hp (Fallible.require_eq_ok.mp hr)]
  refine ⟨fun h ↦ h.1, fun h ↦ ⟨h, ?_, ?_⟩⟩
  · rw [← hv]
    refine validateAuthPacket_congr ?_
    rw [← (buildProperties_eq_ok.mp hp).1]
    cases properties <;> rfl
  · rw [List.length_nil, Nat.zero_add]
    exact hl

end Build

end MqttProtocolCore.Packet.V50
