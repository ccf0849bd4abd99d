import MqttProtocolCore.Packet.Codec.Wire
import MqttProtocolCore.Packet.V311
import MqttProtocolCore.Packet.V50.Publish

namespace MqttProtocolCore.Packet

open General

variable {w : IdWidth}

def PublishHeader.toU8 (h : PublishHeader) : UInt8 :=
  let dup : UInt8 := if h.dup then 0b00001000 else 0
  let retain : UInt8 := if h.retain then 0b00000001 else 0
  PacketType.publish.toFixedHeader ||| dup ||| (h.qos.toU8 <<< 1) ||| retain

theorem PublishHeader.parse_toU8 (h : PublishHeader) : parse (h.toU8 &&& 0x0F) = .ok h := by
  obtain ⟨dup, qos, retain⟩ := h
  cases dup <;> cases qos <;> cases retain <;> rfl

theorem PublishHeader.parse_ofFin : ∀ i : Fin 256,
    parse (UInt8.ofFin i) = .err .malformedPacket ∨ (parse (UInt8.ofFin i)).unwrap.Attains
      fun h ↦ h.toU8 &&& 0x0F = UInt8.ofFin i &&& 0x0F := by
  decide +kernel

theorem PublishHeader.toU8_of_parse {flags : UInt8} {h : PublishHeader}
    (hp : parse flags = .ok h) : h.toU8 &&& 0x0F = flags &&& 0x0F := by
  rcases parse_ofFin flags.toFin with herr | ⟨h', hh, hb⟩
  · rw [UInt8.ofFin_toFin, hp] at herr
    cases herr
  · rw [UInt8.ofFin_toFin, hp] at hh
    cases hh
    exact hb

def PublishId.toBuffers {qos : Qos} (id : PublishId w qos) : List Bytes :=
  match id.val with
  | some id => [PacketId.toBuffer id]
  | none => []

theorem PublishId.flatten_toBuffers {qos : Qos} (id : PublishId w qos) :
    id.toBuffers.flatten = id.toBuffer := by
  obtain ⟨id, hid⟩ := id
  cases id with
  | none => rfl
  | some id => exact List.append_nil _

namespace V50.Publish

def toBuffers (p : Publish w) : List Bytes :=
  [[p.fixedHeader.toU8], p.remainingLength.asBytes] ++ p.topicName.toBuffers ++ p.id.toBuffers ++
    [p.propertyLength.asBytes] ++ p.props.toBuffers ++ bufferOf p.payload

def toContinuousBuffer (p : Publish w) : Bytes :=
  [p.fixedHeader.toU8] ++ p.remainingLength.asBytes ++ p.topicName.toContinuousBuffer ++
    p.id.toBuffer ++ p.propertyLength.asBytes ++ p.props.toContinuousBuffer ++ p.payload

instance : GenericPacketTrait (Publish w) := ⟨size, toBuffers, toContinuousBuffer⟩

def bodyBytes (p : Publish w) : Bytes :=
  p.topicName.asBytes ++ (p.id.toBuffer ++ (sectionBytes (p.propertyLength, p.props) ++ p.payload))

theorem laidOut (p : Publish w) :
    LaidOut p p.fixedHeader.toU8 p.remainingLength p.bodyBytes where
  size := rfl
  flatten := by
    change p.toBuffers.flatten = p.toContinuousBuffer
    simp only [toBuffers, toContinuousBuffer, MqttString.toBuffers, MqttString.toContinuousBuffer,
      List.flatten_append, List.flatten_cons, List.flatten_nil, PublishId.flatten_toBuffers,
      Properties.flatten_toBuffers, flatten_bufferOf, List.append_nil, List.append_assoc]
  bytes := by
    change p.toContinuousBuffer = _
    simp only [toContinuousBuffer, MqttString.toContinuousBuffer, bodyBytes, sectionBytes,
      List.append_assoc, List.cons_append, List.nil_append]

theorem length_bodyBytes (p : Publish w) :
    p.bodyBytes.length =
      remainingSize p.topicName p.id p.propertyLength p.props p.payload := by
  simp only [bodyBytes, remainingSize, List.length_append, MqttString.length_asBytes,
    PublishId.length_toBuffer, length_sectionBytes]
  omega

/-- The properties are missing only where the body ends before them. -/
theorem parsePublishProperties_eq_ok {data tail : Bytes} {cursor : ℕ} (hat : At data cursor tail)
    {s : VariableByteInteger × Properties} {n : ℕ} :
    parsePublishProperties data cursor = .ok (s, n) ↔
      ∃ code rest, tail = code ++ rest ∧ n = cursor + code.length ∧
        (SectionCode validatePublishProperties code s ∨
          code ++ rest = [] ∧ s = (.zero, [])) := by
  have hzero : (lengthOf 0 : Fallible MqttError VariableByteInteger) = .ok .zero :=
    lengthOf_eq_ok.mpr rfl
  unfold parsePublishProperties
  by_cases htail : tail = []
  · rw [if_neg fun h ↦ hat.lt_iff.mp h htail, hzero]
    constructor
    · intro h
      cases h
      exact ⟨[], tail, rfl, rfl, .inr ⟨htail, rfl⟩⟩
    · rintro ⟨code, rest, rfl, rfl, hS | ⟨-, rfl⟩⟩
      · exact (hS.ne_nil (List.append_eq_nil_iff.mp htail).1).elim
      · rw [(List.append_eq_nil_iff.mp htail).1]
        rfl
  · rw [if_pos (hat.lt_iff.mpr htail), (acceptsAt_parseProperties _).iff hat]
    constructor
    · rintro ⟨code, rest, rfl, rfl, hS⟩
      exact ⟨code, rest, rfl, rfl, .inl hS⟩
    · rintro ⟨code, rest, rfl, rfl, hS | ⟨hnil, -⟩⟩
      · exact ⟨code, rest, rfl, rfl, hS⟩
      · exact (htail hnil).elim

/-- The code that a PUBLISH is parsed from, and the length that is computed for it. -/
theorem parse_eq_ok {flags : UInt8} {data : Bytes} {p : Publish w} {n : ℕ} :
    parse flags data = .ok (p, n) ↔
      PublishHeader.parse flags = .ok p.fixedHeader ∧ n = data.length ∧
      p.topicNameExtracted = false ∧
      lengthOf (remainingSize p.topicName p.id p.propertyLength p.props p.payload) =
        .ok p.remainingLength ∧
      ∃ code, data = p.topicName.asBytes ++ (p.id.toBuffer ++ (code ++ p.payload)) ∧
        (SectionCode validatePublishProperties code (p.propertyLength, p.props) ∨
          code ++ p.payload = [] ∧ (p.propertyLength, p.props) = (.zero, [])) := by
  constructor
  · intro h
    obtain ⟨header, hf, h⟩ := Fallible.bind_eq_ok.mp h
    obtain ⟨⟨topic, c⟩, ht, h⟩ := Fallible.bind_eq_ok.mp h
    obtain ⟨_, tail, rfl, rfl, rfl⟩ := MqttString.accepts_decode.iff.mp ht
    have hat := (At.start (topic.asBytes ++ tail)).next
    rw [Nat.zero_add] at hat
    obtain ⟨⟨id, c⟩, hid, h⟩ := Fallible.bind_eq_ok.mp h
    obtain ⟨_, tail, rfl, rfl, rfl, hat⟩ := (acceptsAt_parsePublishId header.qos).sound hat hid
    obtain ⟨⟨⟨l, props⟩, c⟩, hp, h⟩ := Fallible.bind_eq_ok.mp h
    obtain ⟨code, payload, rfl, rfl, hS⟩ := (parsePublishProperties_eq_ok hat).mp hp
    dsimp only at h
    rw [hat.next.sliceFrom_eq, Fallible.ok_bind] at h
    obtain ⟨r, hr, h⟩ := Fallible.bind_eq_ok.mp h
    cases h
    exact ⟨hf, rfl, rfl, hr, code, rfl, hS⟩
  · rintro ⟨hf, rfl, he, hr, code, rfl, hS⟩
    obtain ⟨header, r, topic, id, l, props, payload, extracted⟩ := p
    dsimp only at hf he hr hS ⊢
    subst he
    have hat := (At.start (topic.asBytes ++ (id.toBuffer ++ (code ++ payload)))).next
    rw [Nat.zero_add] at hat
    rw [parse, hf, Fallible.ok_bind, MqttString.accepts_decode.complete (a := topic) rfl,
      Fallible.ok_bind]
    dsimp only
    rw [(acceptsAt_parsePublishId header.qos).complete hat rfl, Fallible.ok_bind]
    dsimp only
    rw [(parsePublishProperties_eq_ok hat.next).mpr ⟨code, payload, rfl, rfl, hS⟩, Fallible.ok_bind]
    dsimp only
    rw [hat.next.next.sliceFrom_eq, Fallible.ok_bind, hr]
    rfl

/-- A PUBLISH parses back when its properties are valid and its lengths are right. -/
theorem roundTrips_iff (p : Publish w) :
    RoundTrips (parse (frameFlags p.toContinuousBuffer)) p ↔
      validatePublishProperties p.props = .ok () ∧ p.propertyLength.toU32 = p.props.size ∧
      p.topicNameExtracted = false ∧
      lengthOf (remainingSize p.topicName p.id p.propertyLength p.props p.payload) =
        .ok p.remainingLength := by
  have hflags : frameFlags p.toContinuousBuffer = p.fixedHeader.toU8 &&& 0x0F := p.laidOut.frameFlags
  rw [hflags, p.laidOut.roundTrips_iff, parse_eq_ok]
  constructor
  · rintro ⟨-, -, he, hr, code, hbody, hS⟩
    have hcode := List.append_cancel_left (List.append_cancel_left hbody)
    obtain rfl := List.append_cancel_right hcode
    rcases hS with hS | ⟨hnil, -⟩
    · obtain ⟨hv, hl⟩ := (shortest_sectionCode _).valid hS
      exact ⟨hv, hl, he, hr⟩
    · exact (sectionBytes_ne_nil _ (List.append_eq_nil_iff.mp hnil).1).elim
  · rintro ⟨hv, hl, he, hr⟩
    exact ⟨p.fixedHeader.parse_toU8, rfl, he, hr, sectionBytes (p.propertyLength, p.props), rfl,
      .inl ((shortest_sectionCode _).code ⟨hv, hl⟩)⟩

theorem validatePublishProperties_nil : validatePublishProperties [] = .ok () := by decide

/-- What was parsed is written with the length that was computed for it. -/
theorem roundTrips_of_parse {flags : UInt8} {data : Bytes} {p : Publish w} {n : ℕ}
    (h : parse flags data = .ok (p, n)) : RoundTrips (parse (frameFlags p.toContinuousBuffer)) p := by
  obtain ⟨-, -, he, hr, code, -, hS⟩ := parse_eq_ok.mp h
  apply p.roundTrips_iff.mpr
  rcases hS with hS | ⟨-, hnil⟩
  · exact ⟨hS.2.1, hS.2.2, he, hr⟩
  · obtain ⟨hl, hp⟩ := Prod.mk.inj hnil
    rw [hl, hp]
    exact ⟨validatePublishProperties_nil, rfl, he, hl ▸ hp ▸ hr⟩

theorem build_eq_ok {b : PublishBuilder w} {p : Publish w} :
    build b = .ok p ↔ p.fixedHeader = b.fixedHeader.getD .default ∧
      p.topicName = b.topicName.getD .default ∧ p.props = b.props.getD [] ∧
      p.payload = b.payload.getD [] ∧ p.topicNameExtracted = false ∧
      PublishId.check p.fixedHeader.qos b.packetId = .ok p.id ∧
      validatePublishProperties p.props = .ok () ∧
      (¬ p.topicName.isEmpty ∨ (topicAliasOf p.props).isSome) ∧ p.payload.length ≤ 268435455 ∧
      lengthOf p.props.size = .ok p.propertyLength ∧
      lengthOf (remainingSize p.topicName p.id p.propertyLength p.props p.payload) =
        .ok p.remainingLength := by
  constructor
  · intro h
    obtain ⟨⟨⟩, hv, h⟩ := Fallible.bind_eq_ok.mp h
    obtain ⟨⟨⟩, ht, h⟩ := Fallible.bind_eq_ok.mp h
    obtain ⟨id, hid, h⟩ := Fallible.bind_eq_ok.mp h
    obtain ⟨⟨⟩, hp, h⟩ := Fallible.bind_eq_ok.mp h
    obtain ⟨l, hl, h⟩ := Fallible.bind_eq_ok.mp h
    obtain ⟨r, hr, h⟩ := Fallible.bind_eq_ok.mp h
    cases h
    exact ⟨rfl, rfl, rfl, rfl, rfl, hid, hv, Fallible.require_eq_ok.mp ht,
      Fallible.require_eq_ok.mp hp, hl, hr⟩
  · rintro ⟨hf, ht, hps, hp, he, hid, hv, hta, hlen, hl, hr⟩
    obtain ⟨header, r, topic, id, l, props, payload, extracted⟩ := p
    dsimp only at *
    subst hf ht hps hp he
    rw [build, hv, Fallible.ok_bind, (Fallible.require_eq_ok (u := ⟨⟩)).mpr hta, Fallible.ok_bind,
      hid, Fallible.ok_bind, (Fallible.require_eq_ok (u := ⟨⟩)).mpr hlen, Fallible.ok_bind, hl,
      Fallible.ok_bind, hr]
    rfl

/-- Parsing gives back what was built exactly when the length of the properties did not wrap. -/
theorem roundTrips_of_build {b : PublishBuilder w} {p : Publish w} (h : build b = .ok p) :
    RoundTrips (parse (frameFlags p.toContinuousBuffer)) p ↔
      (b.props.getD []).size < 4294967296 := by
  obtain ⟨-, -, hps, -, he, -, hv, -, -, hl, hr⟩ := build_eq_ok.mp h
  rw [roundTrips_iff, ← hps, ← toU32_eq_iff_of_lengthOf hl]
  exact ⟨fun h ↦ h.2.1, fun h ↦ ⟨hv, h, he, hr⟩⟩

/-- A PUBLISH that was built parses back exactly when the length of its properties did not wrap;
one that was parsed always does. -/
theorem publish_round_trip (w : IdWidth) :
    (∀ (b : PublishBuilder w) (p : Publish w), build b = .ok p →
      (RoundTrips (parse (frameFlags p.toContinuousBuffer)) p ↔
        (b.props.getD []).size < 4294967296)) ∧
    ∀ (flags : UInt8) (data : Bytes) (p : Publish w) (n : ℕ), parse flags data = .ok (p, n) →
      RoundTrips (parse (frameFlags p.toContinuousBuffer)) p :=
  ⟨fun _ _ ↦ roundTrips_of_build, fun _ _ _ _ ↦ roundTrips_of_parse⟩

theorem publish_round_trip_retained : ∃ p : Publish .u16,
    build ⟨some ⟨false, .atLeastOnce, true⟩, some (.replicate 1 one_le_maxLength), some 1,
        some [.payloadFormatIndicator ⟨1, by decide⟩, .topicAlias ⟨1, U16.isNonZero_one⟩],
        some [0x68, 0x69]⟩ = .ok p ∧
      RoundTrips (parse (frameFlags p.toContinuousBuffer)) p := by
  obtain ⟨p, hp⟩ : ∃ p : Publish .u16,
      build ⟨some ⟨false, .atLeastOnce, true⟩, some (.replicate 1 one_le_maxLength), some 1,
        some [.payloadFormatIndicator ⟨1, by decide⟩, .topicAlias ⟨1, U16.isNonZero_one⟩],
        some [0x68, 0x69]⟩ = .ok p := ⟨_, rfl⟩
  exact ⟨p, hp, ((publish_round_trip .u16).1 _ p hp).mpr (by decide)⟩

theorem remainingSize_replicate (n : ℕ) (h : n ≤ 65535) {qos : Qos} {id : PublishId w qos}
    (hid : id.size = 0) (props : Properties) :
    remainingSize (.replicate n h) id .zero props [] = n + 3 + props.size := by
  have hzero : VariableByteInteger.zero.size = 1 := rfl
  rw [remainingSize, MqttString.size_replicate, hid, hzero, List.length_nil]
  omega

/-- A PUBLISH with properties of 4294967296 bytes is built, but does not parse back. -/
theorem wide_publish_differs : ∃ p : Publish .u16,
    build ⟨none, some (.replicate 1 one_le_maxLength), none, some wideProps, none⟩ = .ok p ∧
      ¬ RoundTrips (parse (frameFlags p.toContinuousBuffer)) p := by
  have hne : ¬ (MqttString.replicate 1 one_le_maxLength).isEmpty := by decide
  have hfits : LengthFits (1 + 3 + 4294967296) := by
    rw [LengthFits, VariableByteInteger.max]
    omega
  obtain ⟨r, hr, -⟩ := lengthOf_of_fits hfits
  have hbuild : build (w := .u16) ⟨none, some (.replicate 1 one_le_maxLength), none, some wideProps, none⟩ =
      .ok ⟨.default, r, .replicate 1 one_le_maxLength, ⟨none, by decide⟩, .zero, wideProps, [], false⟩ := by
    refine build_eq_ok.mpr ⟨rfl, rfl, rfl, rfl, rfl, rfl, ?_, .inl hne, Nat.zero_le _, ?_, ?_⟩
    · exact validateProperties_wideProps (by decide) (by decide)
    · apply lengthOf_eq_ok.mpr
      rw [size_wideProps]
      rfl
    · apply (congrArg lengthOf (remainingSize_replicate 1 one_le_maxLength rfl wideProps)).trans
      rw [size_wideProps]
      exact hr
  refine ⟨_, hbuild, fun h ↦ ?_⟩
  have hlt := (roundTrips_of_build hbuild).mp h
  rw [Option.getD_some, size_wideProps] at hlt
  exact Nat.lt_irrefl _ hlt

end V50.Publish

namespace V311.Publish

def toBuffers (p : Publish w) : List Bytes :=
  [[p.fixedHeader.toU8], p.remainingLength.asBytes] ++ p.topicName.toBuffers ++ p.id.toBuffers ++
    bufferOf p.payload

def toContinuousBuffer (p : Publish w) : Bytes :=
  [p.fixedHeader.toU8] ++ p.remainingLength.asBytes ++ p.topicName.toContinuousBuffer ++
    p.id.toBuffer ++ p.payload

instance : GenericPacketTrait (Publish w) := ⟨size, toBuffers, toContinuousBuffer⟩

def bodyBytes (p : Publish w) : Bytes :=
  p.topicName.asBytes ++ (p.id.toBuffer ++ p.payload)

theorem laidOut (p : Publish w) :
    LaidOut p p.fixedHeader.toU8 p.remainingLength p.bodyBytes where
  size := rfl
  flatten := by
    change p.toBuffers.flatten = p.toContinuousBuffer
    simp only [toBuffers, toContinuousBuffer, MqttString.toBuffers, MqttString.toContinuousBuffer,
      List.flatten_append, List.flatten_cons, List.flatten_nil, PublishId.flatten_toBuffers,
      flatten_bufferOf, List.append_nil, List.append_assoc]
  bytes := by
    change p.toContinuousBuffer = _
    simp only [toContinuousBuffer, MqttString.toContinuousBuffer, bodyBytes,
      List.append_assoc, List.cons_append, List.nil_append]

theorem length_bodyBytes (p : Publish w) :
    p.bodyBytes.length = remainingSize p.topicName p.id p.payload := by
  simp only [bodyBytes, remainingSize, List.length_append, MqttString.length_asBytes,
    PublishId.length_toBuffer]
  omega

theorem parse_eq_ok {flags : UInt8} {data : Bytes} {p : Publish w} {n : ℕ} :
    parse flags data = .ok (p, n) ↔
      PublishHeader.parse flags = .ok p.fixedHeader ∧ n = data.length ∧ data = p.bodyBytes ∧
      lengthOf (remainingSize p.topicName p.id p.payload) = .ok p.remainingLength := by
  constructor
  · intro h
    obtain ⟨header, hf, h⟩ := Fallible.bind_eq_ok.mp h
    obtain ⟨⟨topic, c⟩, ht, h⟩ := Fallible.bind_eq_ok.mp h
    obtain ⟨_, tail, rfl, rfl, rfl⟩ := MqttString.accepts_decode.iff.mp ht
    have hat := (At.start (topic.asBytes ++ tail)).next
    rw [Nat.zero_add] at hat
    obtain ⟨⟨id, c⟩, hid, h⟩ := Fallible.bind_eq_ok.mp h
    obtain ⟨_, tail, rfl, rfl, rfl, hat⟩ := (acceptsAt_parsePublishId header.qos).sound hat hid
    dsimp only at h
    rw [hat.sliceFrom_eq, Fallible.ok_bind] at h
    obtain ⟨r, hr, h⟩ := Fallible.bind_eq_ok.mp h
    cases h
    exact ⟨hf, rfl, rfl, hr⟩
  · rintro ⟨hf, rfl, hbody, hr⟩
    obtain ⟨header, r, topic, id, payload⟩ := p
    dsimp only [bodyBytes] at hf hbody hr ⊢
    subst hbody
    have hat := (At.start (topic.asBytes ++ (id.toBuffer ++ payload))).next
    rw [Nat.zero_add] at hat
    rw [parse, hf, Fallible.ok_bind, MqttString.accepts_decode.complete (a := topic) rfl,
      Fallible.ok_bind]
    dsimp only
    rw [(acceptsAt_parsePublishId header.qos).complete hat rfl, Fallible.ok_bind]
    dsimp only
    rw [hat.next.sliceFrom_eq, Fallible.ok_bind, hr]
    rfl

theorem roundTrips_iff (p : Publish w) :
    RoundTrips (parse (frameFlags p.toContinuousBuffer)) p ↔
      lengthOf (remainingSize p.topicName p.id p.payload) = .ok p.remainingLength := by
  have hflags : frameFlags p.toContinuousBuffer = p.fixedHeader.toU8 &&& 0x0F := p.laidOut.frameFlags
  rw [hflags, p.laidOut.roundTrips_iff, parse_eq_ok]
  exact ⟨fun h ↦ h.2.2.2, fun hr ↦ ⟨p.fixedHeader.parse_toU8, rfl, rfl, hr⟩⟩

theorem build_eq_ok {b : PublishBuilder w} {p : Publish w} :
    build b = .ok p ↔ p.fixedHeader = b.fixedHeader.getD .default ∧
      p.topicName = b.topicName.getD .default ∧ p.payload = b.payload.getD [] ∧
      PublishId.check p.fixedHeader.qos b.packetId = .ok p.id ∧
      ¬ p.topicName.isEmpty ∧ p.payload.length ≤ 268435455 ∧
      lengthOf (remainingSize p.topicName p.id p.payload) = .ok p.remainingLength := by
  constructor
  · intro h
    obtain ⟨⟨⟩, ht, h⟩ := Fallible.bind_eq_ok.mp h
    obtain ⟨id, hid, h⟩ := Fallible.bind_eq_ok.mp h
    obtain ⟨⟨⟩, hp, h⟩ := Fallible.bind_eq_ok.mp h
    obtain ⟨r, hr, h⟩ := Fallible.bind_eq_ok.mp h
    cases h
    exact ⟨rfl, rfl, rfl, hid, Fallible.require_eq_ok.mp ht, Fallible.require_eq_ok.mp hp, hr⟩
  · rintro ⟨hf, ht, hp, hid, hne, hlen, hr⟩
    obtain ⟨header, r, topic, id, payload⟩ := p
    dsimp only at *
    subst hf ht hp
    rw [build, (Fallible.require_eq_ok (u := ⟨⟩)).mpr hne, Fallible.ok_bind, hid, Fallible.ok_bind,
      (Fallible.require_eq_ok (u := ⟨⟩)).mpr hlen, Fallible.ok_bind, hr]
    rfl

end V311.Publish

end MqttProtocolCore.Packet
