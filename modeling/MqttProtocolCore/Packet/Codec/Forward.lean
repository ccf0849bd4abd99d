import MqttProtocolCore.Packet.Codec.ConnectRoundTrip
import MqttProtocolCore.Packet.Codec.Lengths

namespace MqttProtocolCore.Packet

open General

variable {w : IdWidth}

/-- At `cursor` there is a property section as the encoder would write it, with the shortest
length and the shortest variable byte integers. -/
def ShortestAt (data : Bytes) (cursor : ℕ) : Prop :=
  ∃ s : VariableByteInteger × Properties, s.1.toU32 = s.2.size ∧ sectionBytes s <+: data.drop cursor

theorem section_sectionBytes {s : VariableByteInteger × Properties} (h : s.1.toU32 = s.2.size) :
    Properties.Section (sectionBytes s) s.2 :=
  ((shortest_sectionCode fun _ ↦ .ok ()).code ⟨rfl, h⟩).1

theorem SectionCode.eq_of_append {validate : Properties → Fallible MqttError Unit}
    {props x y : Bytes} {s s' : VariableByteInteger × Properties}
    (hS : SectionCode validate props s) (hs' : s'.1.toU32 = s'.2.size)
    (h : sectionBytes s' ++ x = props ++ y) : s' = s ∧ props = sectionBytes s ∧ x = y := by
  obtain ⟨hcode, hprops, hrest⟩ :=
    Properties.accepts_parse.inj (section_sectionBytes hs') hS.1 h
  have hlen : s'.1 = s.1 := VariableByteInteger.toU32_inj (by rw [hs', hprops, hS.2.2])
  have hs : s' = s := Prod.ext hlen hprops
  rw [← hs]
  exact ⟨rfl, hcode.symm, hrest⟩

theorem shortestAt_iff {validate : Properties → Fallible MqttError Unit} {data props rest : Bytes}
    {cursor : ℕ} {s : VariableByteInteger × Properties} (hS : SectionCode validate props s)
    (hat : At data cursor (props ++ rest)) : ShortestAt data cursor ↔ props = sectionBytes s := by
  unfold ShortestAt
  rw [hat.drop]
  constructor
  · intro ⟨s', hs', rest', hrest⟩
    exact (hS.eq_of_append hs' hrest).2.1
  · intro hcode
    rw [hcode]
    exact ⟨s, hS.2.2, List.prefix_append _ _⟩

/-- What was parsed can be written, with lengths that agree, and parsed again. -/
def Forwards {P : Type} [GenericPacketTrait P] (parse : Bytes → Fallible MqttError (P × ℕ))
    (p : P) : Prop := LengthsAgree p ∧ RoundTrips parse p

namespace V50

theorem Listing.shortest_iff {α : Type} [PropsEntry α] {data : Bytes} {p : Listing w α}
    (hG : p.Code data) : data = p.bodyBytes ↔ ShortestAt data w.bufferSize := by
  obtain ⟨-, props, rfl, hS⟩ := hG
  have hat : At (p.bodyWith props) w.bufferSize (props ++ entriesBytes p.entries) :=
    ⟨PacketId.toBuffer p.packetId, rfl, (PacketId.length_toBuffer _).symm⟩
  rw [shortestAt_iff hS hat]
  constructor
  · intro hbody
    exact List.append_cancel_right (List.append_cancel_left hbody)
  · intro hprops
    rw [hprops]
    rfl

theorem Listing.forwards_iff {α : Type} [PropsEntry α] {data : Bytes} {p : Listing w α} {n : ℕ}
    (h : Listing.parseListing data = .ok (p, n)) :
    Forwards Listing.parseListing p ↔ ShortestAt data w.bufferSize ∧ data.length < 4294967296 := by
  obtain ⟨-, hG, hr⟩ := Listing.parse_eq_ok.mp h
  rw [← Listing.shortest_iff hG]
  exact Listing.framed.forwards_iff hG hr

theorem Connack.forwards_iff {data : Bytes} {p : Connack} {n : ℕ}
    (h : Connack.parse data = .ok (p, n)) : Forwards Connack.parse p ↔ ShortestAt data 2 := by
  obtain ⟨code, rest, rfl, -, hG, hr⟩ := Connack.framed.sound h
  apply (Connack.framed.forwards_iff hG hr).trans
  obtain ⟨props, rfl, hS⟩ := hG
  have hat : At ([p.ackFlags, p.reasonCode.toU8] ++ props ++ rest) 2 (props ++ rest) :=
    ⟨[p.ackFlags, p.reasonCode.toU8], List.append_assoc _ _ _, rfl⟩
  have hlen := hS.length_le
  rw [VariableByteInteger.max] at hlen
  rw [shortestAt_iff hS hat]
  constructor
  · intro hbody
    exact List.append_cancel_left hbody.1
  · intro hprops
    refine ⟨by rw [hprops]; rfl, ?_⟩
    rw [List.length_append, List.length_cons, List.length_singleton]
    omega

/-- The property section of a CONNECT, and after the client identifier the one of the will, came
as the encoder would write them. -/
def ShortestSections (data : Bytes) : Prop :=
  ∃ (s : VariableByteInteger × Properties) (clientId : MqttString), s.1.toU32 = s.2.size ∧
    sectionBytes s ++ clientId.asBytes <+: data.drop 10 ∧
    (willFlag (data.getD 7 0) →
      ShortestAt data (10 + (sectionBytes s).length + clientId.asBytes.length))

section Connect

variable {p : Connect} {props willProps rest : Bytes}

theorem Connect.bodyWith_eq_bodyBytes_iff
    (hS : SectionCode validateConnectProperties props (p.propertyLength, p.props)) :
    p.bodyWith props willProps = p.bodyBytes ↔
      props = sectionBytes (p.propertyLength, p.props) ∧ willProps = p.willPropsBytes := by
  constructor
  · intro hbody
    obtain ⟨-, hprops, htail⟩ := hS.eq_of_append hS.2.2 (List.append_cancel_left hbody).symm
    exact ⟨hprops, List.append_cancel_right (List.append_cancel_left htail.symm)⟩
  · rintro ⟨hprops, hwill⟩
    rw [hprops, hwill]
    rfl

theorem Connect.length_bodyWith_lt
    (hS : SectionCode validateConnectProperties props (p.propertyLength, p.props))
    (hW : WillSection (willFlag p.connectFlags) willProps (p.willPropertyLength, p.willProps)) :
    (p.bodyWith props willProps).length < 4294967296 := by
  have hpropsLen := hS.length_le
  have hwillLen := hW.length_le
  have hclient := p.clientId.size_le
  have hwill := willSize_le (willFlag p.connectFlags) (p.willTopic, p.willPayload)
  have hcred := credentialSize_le p.connectFlags (p.userName, p.password)
  rw [VariableByteInteger.max] at hpropsLen hwillLen
  rw [Connect.length_bodyWith, MqttString.length_asBytes, length_willBytes, length_credentialBytes]
  omega

theorem Connect.shortestAt_will_iff
    (hW : WillSection (willFlag p.connectFlags) willProps (p.willPropertyLength, p.willProps)) :
    (willFlag p.connectFlags → ShortestAt (p.bodyWith props willProps ++ rest)
      (10 + props.length + p.clientId.asBytes.length)) ↔ willProps = p.willPropsBytes := by
  have hat : At (p.bodyWith props willProps ++ rest)
      (10 + props.length + p.clientId.asBytes.length) (willProps ++
        (willBytes (willFlag p.connectFlags) (p.willTopic, p.willPayload) ++
          credentialBytes p.connectFlags (p.userName, p.password) ++ rest)) := by
    refine ⟨connectHeader 0x05 p.connectFlags p.keepAlive ++ (props ++ p.clientId.asBytes), ?_, ?_⟩
    · simp only [bodyWith, List.append_assoc]
    · rw [List.length_append, List.length_append, length_connectHeader, Nat.add_assoc]
  unfold Connect.willPropsBytes
  unfold WillSection optional at hW
  by_cases hflag : willFlag p.connectFlags = true
  · rw [if_pos hflag] at hW ⊢
    exact (forall_prop_of_true hflag).trans (shortestAt_iff hW hat)
  · rw [if_neg hflag] at hW ⊢
    exact iff_of_true (fun h ↦ (hflag h).elim) hW.1

theorem Connect.shortest_iff {code : Bytes} (hG : p.Code code) (rest : Bytes) :
    code = p.bodyBytes ↔ ShortestSections (code ++ rest) := by
  obtain ⟨-, props, willProps, rfl, hS, hW⟩ := hG
  have hdrop : (p.bodyWith props willProps ++ rest).drop 10 = props ++ (p.clientId.asBytes ++
      (willProps ++ (willBytes (willFlag p.connectFlags) (p.willTopic, p.willPayload) ++
        credentialBytes p.connectFlags (p.userName, p.password) ++ rest))) := by
    rw [← length_connectHeader 0x05 p.connectFlags p.keepAlive]
    simp only [Connect.bodyWith, List.append_assoc, List.drop_left]
  have hflags : (p.bodyWith props willProps ++ rest).getD 7 0 = p.connectFlags := rfl
  rw [Connect.bodyWith_eq_bodyBytes_iff hS]
  unfold ShortestSections
  rw [hdrop, hflags]
  constructor
  · rintro ⟨hprops, hwill⟩
    refine ⟨(p.propertyLength, p.props), p.clientId, hS.2.2, ?_, ?_⟩
    · rw [hprops, ← List.append_assoc]
      exact List.prefix_append _ _
    · rw [← hprops]
      exact (Connect.shortestAt_will_iff hW).mpr hwill
  · rintro ⟨s, clientId, hs, ⟨tail, htail⟩, hshort⟩
    rw [List.append_assoc] at htail
    obtain ⟨rfl, hprops, htail⟩ := hS.eq_of_append hs htail
    obtain ⟨-, rfl, -⟩ := MqttString.accepts_decode.inj rfl rfl htail
    rw [← hprops] at hshort
    exact ⟨hprops, (Connect.shortestAt_will_iff hW).mp hshort⟩

theorem Connect.forwards_iff {data : Bytes} {p : Connect} {n : ℕ}
    (h : Connect.parse data = .ok (p, n)) : Forwards Connect.parse p ↔ ShortestSections data := by
  obtain ⟨code, rest, rfl, -, hG, hr⟩ := Connect.framed.sound h
  apply (Connect.framed.forwards_iff hG hr).trans
  rw [← Connect.shortest_iff hG rest]
  apply and_iff_left
  obtain ⟨-, props, willProps, rfl, hS, hW⟩ := hG
  exact Connect.length_bodyWith_lt hS hW

end Connect

/-- A PUBLISH that is written again is at most one byte longer, and only where it had no
properties. -/
theorem Publish.length_bodyBytes_le {flags : UInt8} {data : Bytes} {p : Publish w} {n : ℕ}
    (h : Publish.parse flags data = .ok (p, n)) :
    (p.bodyBytes.length ≤ data.length ∧ data.length ≤ p.bodyBytes.length + 268435459) ∨
      p.bodyBytes.length = data.length + 1 ∧ data.length ≤ 65541 := by
  obtain ⟨-, -, -, -, code, rfl, hS⟩ := Publish.parse_eq_ok.mp h
  have htopic := p.topicName.size_le
  have hid := p.id.size_le
  simp only [Publish.bodyBytes, List.length_append, MqttString.length_asBytes,
    PublishId.length_toBuffer]
  rcases hS with hS | ⟨hnil, hs⟩
  · have hle := (shortest_sectionCode _).le hS
    have hlen := hS.length_le
    rw [VariableByteInteger.max] at hlen
    omega
  · obtain ⟨hcode, hpayload⟩ := List.append_eq_nil_iff.mp hnil
    have hone : (sectionBytes (VariableByteInteger.zero, [])).length = 1 := rfl
    rw [hs, hcode, hpayload, hone, List.length_nil]
    omega

theorem Publish.forwards_iff {flags : UInt8} {data : Bytes} {p : Publish w} {n : ℕ}
    (h : Publish.parse flags data = .ok (p, n)) :
    Forwards (Publish.parse (frameFlags p.toContinuousBuffer)) p ↔ data.length < 4294967296 := by
  have hr := (Publish.parse_eq_ok.mp h).2.2.2.1
  have hle := Publish.length_bodyBytes_le h
  unfold Forwards
  rw [and_iff_left (Publish.roundTrips_of_parse h), p.laidOut.lengthsAgree_iff,
    p.length_bodyBytes, toU32_eq_iff_of_lengthOf hr, ← p.length_bodyBytes]
  rw [← p.length_bodyBytes] at hr
  constructor
  · intro hlt
    have hmax := le_max_of_lengthOf hr hlt
    rw [VariableByteInteger.max] at hmax
    omega
  · intro hlt
    omega

end V50

/-- What was received is forwarded as it is exactly when its property sections came in their
shortest code. A PUBLISH always is, because its lengths are computed anew. -/
theorem received_forwards (w : IdWidth) :
    (∀ data p n, V50.Connect.parse data = .ok (p, n) →
      (Forwards V50.Connect.parse p ↔ V50.ShortestSections data)) ∧
    (∀ data p n, V50.Connack.parse data = .ok (p, n) →
      (Forwards V50.Connack.parse p ↔ ShortestAt data 2)) ∧
    (∀ flags data (p : V50.Publish w) n, V50.Publish.parse flags data = .ok (p, n) →
      (Forwards (V50.Publish.parse (frameFlags p.toContinuousBuffer)) p ↔
        data.length < 4294967296)) ∧
    (∀ data (p : V50.Subscribe w) n, V50.Subscribe.parse data = .ok (p, n) →
      (Forwards V50.Subscribe.parse p ↔
        ShortestAt data w.bufferSize ∧ data.length < 4294967296)) ∧
    (∀ data (p : V50.Suback w) n, V50.Suback.parse data = .ok (p, n) →
      (Forwards V50.Suback.parse p ↔
        ShortestAt data w.bufferSize ∧ data.length < 4294967296)) ∧
    (∀ data (p : V50.Unsubscribe w) n, V50.Unsubscribe.parse data = .ok (p, n) →
      (Forwards V50.Unsubscribe.parse p ↔
        ShortestAt data w.bufferSize ∧ data.length < 4294967296)) ∧
    ∀ data (p : V50.Unsuback w) n, V50.Unsuback.parse data = .ok (p, n) →
      (Forwards V50.Unsuback.parse p ↔
        ShortestAt data w.bufferSize ∧ data.length < 4294967296) :=
  ⟨fun _ _ _ ↦ V50.Connect.forwards_iff, fun _ _ _ ↦ V50.Connack.forwards_iff,
    fun _ _ _ _ ↦ V50.Publish.forwards_iff, fun _ _ _ ↦ V50.Listing.forwards_iff,
    fun _ _ _ ↦ V50.Listing.forwards_iff, fun _ _ _ ↦ V50.Listing.forwards_iff,
    fun _ _ _ ↦ V50.Listing.forwards_iff⟩

theorem received_forwards_connack : ∃ p : V50.Connack,
    V50.Connack.parse [0, 0, 6, 0x21, 0, 10, 0x22, 0, 5] = .ok (p, 9) ∧
      Forwards V50.Connack.parse p := by
  obtain ⟨p, hp⟩ : ∃ p, V50.Connack.parse [0, 0, 6, 0x21, 0, 10, 0x22, 0, 5] = .ok (p, 9) := ⟨_, rfl⟩
  refine ⟨p, hp, ((received_forwards .u16).2.1 _ p 9 hp).mpr ?_⟩
  cases hp
  exact ⟨(⟨[6], 6, by decide, rfl⟩, [.receiveMaximum ⟨10, by decide⟩, .topicAliasMaximum 5]), rfl,
    List.prefix_rfl⟩

/-- A CONNACK whose property length came in two bytes announces a byte that it does not have. -/
theorem padded_connack_not_forwarded : ∃ p : V50.Connack,
    V50.Connack.parse [0, 0, 0x80, 0] = .ok (p, 4) ∧
      p.toContinuousBuffer = [0x20, 4, 0, 0, 0] ∧ ¬ Forwards V50.Connack.parse p := by
  obtain ⟨p, hp⟩ : ∃ p, V50.Connack.parse [0, 0, 0x80, 0] = .ok (p, 4) := ⟨_, rfl⟩
  cases hp
  refine ⟨_, rfl, rfl, ?_⟩
  intro h
  exact absurd h.1.remaining (by decide)

end MqttProtocolCore.Packet
