import MqttProtocolCore.Packet.Codec.Forward

namespace MqttProtocolCore.Packet

open General

variable {w : IdWidth}

section Parts

def NonZeroIdAt (w : IdWidth) (data : Bytes) (cursor : ℕ) : Prop :=
  PacketId.fromBuffer w ((data.drop cursor).take w.bufferSize) ≠ 0

theorem nonZeroIdAt_iff {data rest : Bytes} {cursor : ℕ} {id : PacketId w}
    (hat : At data cursor (PacketId.toBuffer id ++ rest)) : NonZeroIdAt w data cursor ↔ id ≠ 0 := by
  have htake : (PacketId.toBuffer id ++ rest).take w.bufferSize = PacketId.toBuffer id := by
    rw [← PacketId.length_toBuffer id, List.take_left]
  rw [NonZeroIdAt, hat.drop, htake, PacketId.fromBuffer_toBuffer]

/-- Computing the length anew gives the one that was received exactly for the shortest code. -/
theorem Framed.lengthOf_body_iff {P : Type} [GenericPacketTrait P]
    {parse : Bytes → Fallible MqttError (P × ℕ)} {G : Format UInt8 P} {valid : P → Prop}
    {body : P → Bytes} {remainingLength : P → VariableByteInteger}
    (h : Framed parse G valid body remainingLength) {code : Bytes} {p : P} (hG : G code p)
    (hr : lengthOf code.length = .ok (remainingLength p)) :
    lengthOf (body p).length = .ok (remainingLength p) ↔ code = body p := by
  have hle := h.shortest.le hG
  have hexcess := h.excess hG
  have hmod := lengthOf_eq_ok.mp hr
  rw [lengthOf_eq_ok]
  constructor
  · intro hbody
    exact h.shortest.unique hG (by omega)
  · intro hcode
    rw [← hcode]
    exact hmod

theorem lengthOf_of_toU32 {n : ℕ} {v : VariableByteInteger} (h : v.toU32 = n) :
    lengthOf n = .ok v := by
  have hle := v.toU32_le
  rw [VariableByteInteger.max] at hle
  rw [lengthOf_eq_ok, h, Nat.mod_eq_of_lt (by omega)]

end Parts

namespace V50

def Ack.rebuild {C : Type} (p : Ack w C) : Fallible MqttError (Ack w C) :=
  Ack.build p.packetId p.reasonCode (p.properties.map Prod.snd)

theorem Ack.rebuild_of_parse {C : Type} [AckCode C] {data : Bytes} {p : Ack w C} {n : ℕ}
    (h : Ack.parse data = .ok (p, n)) : p.rebuild = .ok p := by
  obtain ⟨code, rest, -, -, hS, -, -, hl⟩ := Ack.shortForm.parse_eq_ok.mp h
  obtain ⟨hnone, hvalid⟩ := shortest_reasonSection.valid hS
  obtain ⟨r, id, rc, props⟩ := p
  dsimp only at hnone hvalid hl
  rw [PacketId.length_toBuffer] at hl
  have hreason : ¬ (rc = none ∧ (props.map Prod.snd).isSome) := by
    intro ⟨hrc, hsome⟩
    rw [hnone hrc] at hsome
    cases hsome
  have hprops : buildProperties Ack.validateAckProperties (props.map Prod.snd) = .ok props := by
    refine buildProperties_eq_ok.mpr ⟨rfl, fun s hs ↦ ⟨(hvalid s hs).1, ?_⟩⟩
    exact lengthOf_eq_ok.mp (lengthOf_of_toU32 (hvalid s hs).2)
  rw [Ack.rebuild, Ack.build, dif_pos (Ack.packetId_ne _)]
  rw [(Fallible.require_eq_ok (u := ⟨⟩)).mpr hreason, Fallible.ok_bind, hprops, Fallible.ok_bind, hl]
  rfl

namespace Listing

variable {α : Type} [PropsEntry α] {data : Bytes} {p : Listing w α} {n : ℕ}

def rebuild (p : Listing w α) : Fallible MqttError (Listing w α) :=
  build ⟨some p.packetId, some p.props, some p.entries⟩

theorem rebuild_iff (h : parseListing data = .ok (p, n)) :
    p.rebuild = .ok p ↔ NonZeroIdAt w data 0 ∧ ShortestAt data w.bufferSize := by
  obtain ⟨-, hG, hr⟩ := parse_eq_ok.mp h
  have hbody := framed.lengthOf_body_iff hG hr
  rw [rebuild, build_eq_ok, hbody, shortest_iff hG]
  obtain ⟨hne, props, rfl, hS⟩ := hG
  have hid : NonZeroIdAt w (p.bodyWith props) 0 ↔ p.packetId ≠ 0 := nonZeroIdAt_iff (At.start _)
  rw [hid]
  constructor
  · intro ⟨_, hnz, _, _, _, _, _, hshort⟩
    exact ⟨hnz, hshort⟩
  · intro ⟨hnz, hshort⟩
    exact ⟨rfl, hnz, rfl, hne, rfl, hS.2.1, lengthOf_of_toU32 hS.2.2, hshort⟩

end Listing

end V50

namespace V311.Listing

variable {α : Type} [ListingEntry α] {data : Bytes} {p : Listing w α} {n : ℕ}

def rebuild (p : Listing w α) : Fallible MqttError (Listing w α) :=
  build ⟨some p.packetId, some p.entries⟩

theorem rebuild_iff (h : parseListing data = .ok (p, n)) :
    p.rebuild = .ok p ↔ NonZeroIdAt w data 0 := by
  obtain ⟨-, ⟨rfl, hne⟩, hr⟩ := parse_eq_ok.mp h
  have hid : NonZeroIdAt w p.bodyBytes 0 ↔ p.packetId ≠ 0 := nonZeroIdAt_iff (At.start _)
  rw [rebuild, build_eq_ok, hid]
  constructor
  · intro ⟨_, hnz, _⟩
    exact hnz
  · intro hnz
    exact ⟨rfl, hnz, rfl, hne, hr⟩

end V311.Listing

section Publish

def topicNameOf (topic : Utf8String) : Fallible MqttError MqttString := do
  let mqttStr ← .ofExcept (MqttString.new topic)
  .require (¬ (mqttStr.str.containsAscii 0x23 ∨ mqttStr.str.containsAscii 0x2B)) .malformedPacket
  return mqttStr

abbrev MqttString.HasWildcard (s : MqttString) : Prop :=
  s.str.containsAscii 0x23 ∨ s.str.containsAscii 0x2B

theorem topicNameOf_eq_ok {s v : MqttString} :
    topicNameOf s.asStr = .ok v ↔ v = s ∧ ¬ s.HasWildcard := by
  have hnew : (Fallible.ofExcept (MqttString.new s.asStr) : Fallible MqttError MqttString) = .ok s :=
    MqttString.new_eq_ok.mpr rfl
  rw [topicNameOf, hnew, Fallible.ok_bind, Fallible.bind_eq_ok]
  constructor
  · intro ⟨_, hw, hv⟩
    cases hv
    exact ⟨rfl, Fallible.require_eq_ok.mp hw⟩
  · intro ⟨hv, hw⟩
    exact ⟨⟨⟩, Fallible.require_eq_ok.mpr hw, by rw [hv]; rfl⟩

theorem PublishId.check_eq_ok {qos : Qos} {id : PublishId w qos} :
    PublishId.check qos id.val = .ok id ↔ id.val ≠ some 0 := by
  unfold PublishId.check
  rw [dif_pos id.property]
  constructor
  · intro h hzero
    rw [if_pos hzero] at h
    cases h
  · intro h
    rw [if_neg h]

def publishIdLength (w : IdWidth) (flags : UInt8) : ℕ :=
  if (flags >>> 1) &&& 0b00000011 = 0 then 0 else w.bufferSize

def PublishIdFits (w : IdWidth) (flags : UInt8) (data : Bytes) (cursor : ℕ) : Prop :=
  (flags >>> 1) &&& 0b00000011 = 0 ∨ NonZeroIdAt w data cursor

theorem Qos.tryFrom_eq_zero_iff {value : UInt8} {qos : Qos} (h : tryFrom value = some qos) :
    value = 0 ↔ qos = .atMostOnce := by
  rw [← UInt8.toNat_inj]
  unfold tryFrom at h
  split at h
  · rename_i hv
    cases h
    exact iff_of_true hv rfl
  · rename_i hv
    cases h
    exact iff_of_false (by rw [hv]; decide) nofun
  · rename_i hv
    cases h
    exact iff_of_false (by rw [hv]; decide) nofun
  · cases h

theorem PublishHeader.qos_eq_iff {flags : UInt8} {h : PublishHeader} (hf : parse flags = .ok h) :
    (flags >>> 1) &&& 0b00000011 = 0 ↔ h.qos = .atMostOnce := by
  unfold parse at hf
  split at hf
  · rename_i qos hq
    cases hf
    exact Qos.tryFrom_eq_zero_iff hq
  · cases hf

theorem PublishId.length_toBuffer_eq {flags : UInt8} {h : PublishHeader}
    (hf : PublishHeader.parse flags = .ok h) (id : PublishId w h.qos) :
    id.toBuffer.length = publishIdLength w flags := by
  unfold publishIdLength
  obtain ⟨id, hid⟩ := id
  by_cases hq : h.qos = .atMostOnce
  · rw [if_pos ((PublishHeader.qos_eq_iff hf).mpr hq)]
    cases id with
    | none => rfl
    | some id => exact (hid.mp rfl hq).elim
  · rw [if_neg fun h0 ↦ hq ((PublishHeader.qos_eq_iff hf).mp h0)]
    cases id with
    | none => cases hid.mpr hq
    | some id => exact PacketId.length_toBuffer id

theorem publishIdFits_iff {flags : UInt8} {h : PublishHeader}
    (hf : PublishHeader.parse flags = .ok h) {id : PublishId w h.qos} {data rest : Bytes}
    {cursor : ℕ} (hat : At data cursor (id.toBuffer ++ rest)) :
    PublishIdFits w flags data cursor ↔ id.val ≠ some 0 := by
  unfold PublishIdFits
  obtain ⟨id, hid⟩ := id
  rw [PublishHeader.qos_eq_iff hf]
  cases id with
  | none =>
    have hq : h.qos = .atMostOnce := by
      by_contra hq
      cases hid.mpr hq
    exact iff_of_true (.inl hq) nofun
  | some id =>
    have hiff : NonZeroIdAt w data cursor ↔ id ≠ 0 := nonZeroIdAt_iff hat
    rw [hiff, or_iff_right (hid.mp rfl)]
    exact not_congr (Option.some_inj (b := 0)).symm

/-- The topic name and the packet identifier that a PUBLISH begins with are such as the setters and
the builder take them. -/
structure PublishStart (w : IdWidth) (flags : UInt8) (data : Bytes) (topic : MqttString) : Prop where
  name : topic.asBytes <+: data
  plain : ¬ topic.HasWildcard
  id : PublishIdFits w flags data topic.asBytes.length

theorem publishStart_iff {flags : UInt8} {h : PublishHeader}
    (hf : PublishHeader.parse flags = .ok h) (id : PublishId w h.qos) (topic topic' : MqttString)
    (rest : Bytes) : PublishStart w flags (topic.asBytes ++ (id.toBuffer ++ rest)) topic' ↔
      topic' = topic ∧ ¬ topic.HasWildcard ∧ id.val ≠ some 0 := by
  have hat := (At.start (topic.asBytes ++ (id.toBuffer ++ rest))).next
  rw [Nat.zero_add] at hat
  rw [← publishIdFits_iff hf hat]
  constructor
  · intro ⟨⟨tail, htail⟩, hplain, hid⟩
    obtain ⟨-, rfl, -⟩ := MqttString.accepts_decode.inj rfl rfl htail
    exact ⟨rfl, hplain, hid⟩
  · intro ⟨htopic, hplain, hid⟩
    rw [htopic]
    exact ⟨List.prefix_append _ _, hplain, hid⟩

end Publish

namespace V311.Publish

variable {flags : UInt8} {data : Bytes} {p : Publish w} {n : ℕ}

def rebuild (p : Publish w) : Fallible MqttError (Publish w) := do
  let topicName ← topicNameOf p.topicName.asStr
  build ⟨some p.fixedHeader, some topicName, p.packetId, some p.payload⟩

theorem payload_le_iff (h : parse flags data = .ok (p, n)) :
    p.payload.length ≤ 268435455 ↔ data.length < 4294967296 := by
  obtain ⟨-, -, rfl, hr⟩ := parse_eq_ok.mp h
  have htopic := p.topicName.size_le
  have hid := p.id.size_le
  rw [← p.length_bodyBytes] at hr
  have hlen := p.length_bodyBytes
  unfold remainingSize at hlen
  constructor
  · intro hle
    omega
  · intro hlt
    have hmax := le_max_of_lengthOf hr hlt
    rw [VariableByteInteger.max] at hmax
    omega

theorem rebuild_iff (h : parse flags data = .ok (p, n)) :
    p.rebuild = .ok p ↔ (∃ topic, PublishStart w flags data topic ∧ ¬ topic.isEmpty) ∧
      data.length < 4294967296 := by
  rw [← payload_le_iff h]
  obtain ⟨hf, -, rfl, hr⟩ := parse_eq_ok.mp h
  have hstart := fun topic ↦ publishStart_iff hf p.id p.topicName topic p.payload
  rw [rebuild, Fallible.bind_eq_ok]
  constructor
  · intro ⟨topic, htopic, hb⟩
    obtain ⟨rfl, hplain⟩ := topicNameOf_eq_ok.mp htopic
    obtain ⟨-, -, -, hid, hne, hle, -⟩ := build_eq_ok.mp hb
    exact ⟨⟨_, (hstart _).mpr ⟨rfl, hplain, PublishId.check_eq_ok.mp hid⟩, hne⟩, hle⟩
  · intro ⟨⟨topic, hs, hne⟩, hle⟩
    obtain ⟨rfl, hplain, hid⟩ := (hstart _).mp hs
    refine ⟨_, topicNameOf_eq_ok.mpr ⟨rfl, hplain⟩, build_eq_ok.mpr ?_⟩
    exact ⟨rfl, rfl, rfl, PublishId.check_eq_ok.mpr hid, hne, hle, hr⟩

end V311.Publish

namespace V50.Publish

variable {flags : UInt8} {data : Bytes} {p : Publish w} {n : ℕ}

def rebuild (p : Publish w) : Fallible MqttError (Publish w) := do
  let topicName ← topicNameOf p.topicName.asStr
  build ⟨some p.fixedHeader, some topicName, p.packetId, some p.props, some p.payload⟩

def AliasAt (data : Bytes) (cursor : ℕ) : Prop :=
  ∃ code props, Properties.Section code props ∧ code <+: data.drop cursor ∧
    (topicAliasOf props).isSome

theorem payload_le_iff (h : parse flags data = .ok (p, n)) :
    p.payload.length ≤ 268435455 ↔ data.length < 4294967296 := by
  have hbody := length_bodyBytes_le h
  obtain ⟨-, -, -, hr, code, hdata, hS⟩ := parse_eq_ok.mp h
  have htopic := p.topicName.size_le
  have hid := p.id.size_le
  have hcode : code.length ≤ 268435459 := by
    rcases hS with hS | ⟨hnil, -⟩
    · exact hS.length_le
    · rw [(List.append_eq_nil_iff.mp hnil).1]
      exact Nat.zero_le _
  rw [← p.length_bodyBytes] at hr
  have hlen := p.length_bodyBytes
  unfold remainingSize at hlen
  constructor
  · intro hle
    rw [hdata]
    simp only [List.length_append, MqttString.length_asBytes, PublishId.length_toBuffer]
    omega
  · intro hlt
    have hmax := le_max_of_lengthOf hr (by omega)
    rw [VariableByteInteger.max] at hmax
    omega

theorem aliasAt_iff (h : parse flags data = .ok (p, n)) :
    AliasAt data (p.topicName.asBytes.length + publishIdLength w flags) ↔
      (topicAliasOf p.props).isSome := by
  obtain ⟨hf, -, -, -, code, rfl, hS⟩ := parse_eq_ok.mp h
  have hat := (At.start (p.topicName.asBytes ++ (p.id.toBuffer ++ (code ++ p.payload)))).next.next
  rw [Nat.zero_add, PublishId.length_toBuffer_eq hf] at hat
  unfold AliasAt
  rw [hat.drop]
  rcases hS with hS | ⟨hnil, hs⟩
  · constructor
    · intro ⟨code', props, hsec, ⟨rest, hrest⟩, hsome⟩
      obtain ⟨-, rfl, -⟩ := Properties.accepts_parse.inj hsec hS.1 hrest
      exact hsome
    · intro hsome
      exact ⟨code, p.props, hS.1, List.prefix_append _ _, hsome⟩
  · rw [hnil, (Prod.mk.inj hs).2]
    refine iff_of_false ?_ nofun
    intro ⟨code', props, hsec, hprefix, _⟩
    rw [List.prefix_nil] at hprefix
    obtain ⟨len, codes, rfl, -, v, hv, -⟩ := hsec
    exact List.append_ne_nil_of_left_ne_nil hv.1.ne_nil _ hprefix

theorem rebuild_iff (h : parse flags data = .ok (p, n)) :
    p.rebuild = .ok p ↔ (∃ topic, PublishStart w flags data topic ∧ (¬ topic.isEmpty ∨
      AliasAt data (topic.asBytes.length + publishIdLength w flags))) ∧ data.length < 4294967296 := by
  rw [← payload_le_iff h]
  have halias := aliasAt_iff h
  obtain ⟨hf, -, he, hr, code, rfl, hS⟩ := parse_eq_ok.mp h
  have hstart := fun topic ↦ publishStart_iff hf p.id p.topicName topic (code ++ p.payload)
  have hprops : validatePublishProperties p.props = .ok () ∧
      lengthOf p.props.size = .ok p.propertyLength := by
    rcases hS with hS | ⟨-, hs⟩
    · exact ⟨hS.2.1, lengthOf_of_toU32 hS.2.2⟩
    · obtain ⟨hl, hp⟩ := Prod.mk.inj hs
      rw [hp, hl]
      exact ⟨validatePublishProperties_nil, lengthOf_of_toU32 rfl⟩
  rw [rebuild, Fallible.bind_eq_ok]
  constructor
  · intro ⟨topic, htopic, hb⟩
    obtain ⟨rfl, hplain⟩ := topicNameOf_eq_ok.mp htopic
    obtain ⟨-, -, -, -, -, hid, -, hne, hle, -⟩ := build_eq_ok.mp hb
    rw [← halias] at hne
    exact ⟨⟨_, (hstart _).mpr ⟨rfl, hplain, PublishId.check_eq_ok.mp hid⟩, hne⟩, hle⟩
  · intro ⟨⟨topic, hs, hne⟩, hle⟩
    obtain ⟨rfl, hplain, hid⟩ := (hstart _).mp hs
    rw [halias] at hne
    refine ⟨_, topicNameOf_eq_ok.mpr ⟨rfl, hplain⟩, build_eq_ok.mpr ?_⟩
    exact ⟨rfl, rfl, rfl, rfl, he, PublishId.check_eq_ok.mpr hid, hprops.1, hne, hle, hprops.2, hr⟩

end V50.Publish

end MqttProtocolCore.Packet
