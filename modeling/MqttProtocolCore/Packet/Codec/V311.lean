import MqttProtocolCore.Packet.Codec.ConnectBuilder
import MqttProtocolCore.Packet.Codec.ConnectParts
import MqttProtocolCore.Packet.Codec.Publish

namespace MqttProtocolCore.Packet.V311

open General

variable {w : IdWidth}

namespace Connect

def toBuffers (p : Connect) : List Bytes :=
  [[PacketType.connect.toFixedHeader], p.remainingLength.asBytes] ++
    connectHeaderBuffers 0x04 p.connectFlags p.keepAlive ++ p.clientId.toBuffers ++
    willBuffers (willFlag p.connectFlags) (p.willTopic, p.willPayload) ++
    credentialBuffers p.connectFlags (p.userName, p.password)

def toContinuousBuffer (p : Connect) : Bytes :=
  [PacketType.connect.toFixedHeader] ++ p.remainingLength.asBytes ++
    connectHeader 0x04 p.connectFlags p.keepAlive ++ p.clientId.toContinuousBuffer ++
    willBytes (willFlag p.connectFlags) (p.willTopic, p.willPayload) ++
    credentialBytes p.connectFlags (p.userName, p.password)

instance : GenericPacketTrait Connect := ⟨size, toBuffers, toContinuousBuffer⟩

def bodyBytes (p : Connect) : Bytes :=
  connectHeader 0x04 p.connectFlags p.keepAlive ++ (p.clientId.asBytes ++
    (willBytes (willFlag p.connectFlags) (p.willTopic, p.willPayload) ++
      credentialBytes p.connectFlags (p.userName, p.password)))

theorem laidOut (p : Connect) :
    LaidOut p PacketType.connect.toFixedHeader p.remainingLength p.bodyBytes where
  size := rfl
  flatten := by
    change p.toBuffers.flatten = p.toContinuousBuffer
    simp only [toBuffers, toContinuousBuffer, List.flatten_append, List.flatten_cons,
      List.flatten_nil, flatten_connectHeaderBuffers, flatten_credentialBuffers,
      flatten_willBuffers, MqttString.toBuffers, MqttString.toContinuousBuffer, List.append_nil,
      List.append_assoc]
  bytes := by
    change p.toContinuousBuffer = _
    simp only [toContinuousBuffer, MqttString.toContinuousBuffer, bodyBytes, List.append_assoc,
      List.cons_append, List.nil_append]

structure Valid (p : Connect) : Prop where
  will : willFlag p.connectFlags = false → p.willTopic = .default ∧ p.willPayload = .default
  credentials : HasCredentials p.connectFlags (p.userName, p.password)

theorem framed : Framed parse (fun code p ↦ code = p.bodyBytes ∧ p.Valid) Valid bodyBytes
    remainingLength where
  laidOut p := ⟨_, p.laidOut⟩
  sound {data p n} h := by
    obtain ⟨⟨⟨flags, keepAlive⟩, c⟩, hh, h⟩ := Fallible.bind_eq_ok.mp h
    obtain ⟨_, tail, rfl, rfl, rfl⟩ := (accepts_parseConnectHeader 0x04).iff.mp hh
    have hat := (At.start (connectHeader 0x04 flags keepAlive ++ tail)).next
    rw [Nat.zero_add] at hat
    obtain ⟨⟨clientId, c⟩, hc, h⟩ := Fallible.bind_eq_ok.mp h
    obtain ⟨_, tail, rfl, rfl, rfl, hat⟩ := (acceptsAt_parseAt
      (accepts_mapErr .clientIdentifierNotValid MqttString.accepts_decode)).sound hat hc
    obtain ⟨⟨topic, m⟩, ht, h⟩ := Fallible.bind_eq_ok.mp h
    obtain ⟨⟨payload, c⟩, hp, h⟩ := Fallible.bind_eq_ok.mp h
    obtain ⟨tail, rfl, rfl, hwill⟩ := (parseWill_eq_ok hat).mp ⟨m, ht, hp⟩
    obtain ⟨⟨⟨user, pass⟩, c⟩, hcr, h⟩ := Fallible.bind_eq_ok.mp h
    obtain ⟨_, rest, rfl, rfl, ⟨rfl, hcred⟩, -⟩ :=
      (acceptsAt_parseCredentials flags).sound hat.next hcr
    obtain ⟨r, hr, h⟩ := Fallible.bind_eq_ok.mp h
    cases h
    refine ⟨_, rest, ?_, ?_, ⟨rfl, hwill, hcred⟩, ?_⟩
    · simp only [bodyBytes, List.append_assoc]
    · simp only [bodyBytes, List.length_append]
      omega
    · rw [← hr]
      refine congrArg lengthOf ?_
      simp only [bodyBytes, List.length_append]
      omega
  complete {code p} hG hr := by
    obtain ⟨rfl, hv⟩ := hG
    obtain ⟨r, flags, keepAlive, clientId, topic, payload, user, pass⟩ := p
    have hat := (At.start (connectHeader 0x04 flags keepAlive ++ (clientId.asBytes ++
      (willBytes (willFlag flags) (topic, payload) ++ credentialBytes flags (user, pass))))).next
    rw [Nat.zero_add] at hat
    obtain ⟨m, ht, hp⟩ := (parseWill_eq_ok hat.next).mpr ⟨_, rfl, rfl, hv.will⟩
    have hcr := ((acceptsAt_parseCredentials flags).iff hat.next.next).mpr
      ⟨_, [], (List.append_nil _).symm, rfl, rfl, hv.credentials⟩
    have hlen : bodyBytes ⟨r, flags, keepAlive, clientId, topic, payload, user, pass⟩ =
        connectHeader 0x04 flags keepAlive ++ (clientId.asBytes ++
          (willBytes (willFlag flags) (topic, payload) ++ credentialBytes flags (user, pass))) := rfl
    rw [hlen] at hr ⊢
    simp only [List.length_append, ← Nat.add_assoc] at hr ⊢
    rw [parse, (accepts_parseConnectHeader 0x04).complete (a := (flags, keepAlive)) rfl _,
      Fallible.ok_bind]
    dsimp only
    rw [(acceptsAt_parseAt (accepts_mapErr .clientIdentifierNotValid
      MqttString.accepts_decode)).complete hat rfl, Fallible.ok_bind]
    dsimp only
    rw [ht, Fallible.ok_bind]
    dsimp only
    rw [hp, Fallible.ok_bind]
    dsimp only
    rw [hcr, Fallible.ok_bind]
    dsimp only
    rw [hr]
    rfl
  shortest := .exactly_valid bodyBytes
  excess hG := by
    rw [hG.1]
    omega

def remainingSize (connectFlags : UInt8) (clientId : MqttString) (will : MqttString × MqttBinary)
    (credentials : MqttString × MqttBinary) : ℕ :=
  6 + 1 + 1 + 2 + clientId.size + willSize (willFlag connectFlags) will +
    credentialSize connectFlags credentials

def build (b : ConnectBuilder) : Fallible MqttError Connect := do
  b.validate
  let connectFlags := b.flags
  let keepAlive := b.keepAliveBuf.getD 0
  let clientId := b.clientIdBuf.getD .default
  let willTopic := b.willTopicBuf.getD .default
  let willPayload := b.willPayloadBuf.getD .default
  let userName := b.userNameBuf.getD .default
  let password := b.passwordBuf.getD .default
  let remainingLength ← lengthOf
    (remainingSize connectFlags clientId (willTopic, willPayload) (userName, password))
  return ⟨remainingLength, connectFlags, keepAlive, clientId, willTopic, willPayload, userName,
    password⟩

theorem length_bodyBytes (p : Connect) : p.bodyBytes.length =
    remainingSize p.connectFlags p.clientId (p.willTopic, p.willPayload)
      (p.userName, p.password) := by
  simp only [bodyBytes, remainingSize, List.length_append, MqttString.length_asBytes,
    length_willBytes, length_credentialBytes, length_connectHeader]
  omega

structure BuiltFrom (b : ConnectBuilder) (p : Connect) : Prop where
  connectFlags : p.connectFlags = b.flags
  keepAlive : p.keepAlive = b.keepAliveBuf.getD 0
  clientId : p.clientId = b.clientIdBuf.getD .default
  willTopic : p.willTopic = b.willTopicBuf.getD .default
  willPayload : p.willPayload = b.willPayloadBuf.getD .default
  userName : p.userName = b.userNameBuf.getD .default
  password : p.password = b.passwordBuf.getD .default

theorem build_eq_ok {b : ConnectBuilder} {p : Connect} :
    build b = .ok p ↔ b.validate = .ok () ∧ BuiltFrom b p ∧
      lengthOf p.bodyBytes.length = .ok p.remainingLength := by
  constructor
  · intro h
    obtain ⟨⟨⟩, hv, h⟩ := Fallible.bind_eq_ok.mp h
    obtain ⟨r, hr, h⟩ := Fallible.bind_eq_ok.mp h
    cases h
    refine ⟨hv, ⟨rfl, rfl, rfl, rfl, rfl, rfl, rfl⟩, ?_⟩
    rw [length_bodyBytes]
    exact hr
  · rintro ⟨hv, hb, hr⟩
    obtain ⟨r, flags, keepAlive, clientId, topic, payload, user, pass⟩ := p
    obtain ⟨rfl, rfl, rfl, rfl, rfl, rfl, rfl⟩ := hb
    rw [length_bodyBytes] at hr
    rw [build, hv, Fallible.ok_bind]
    dsimp only at hr ⊢
    rw [hr]
    rfl

theorem valid_of_build {cs : List ConnectCall} {b : ConnectBuilder} {p : Connect}
    (hc : ConnectBuilder.new.calls cs = .ok b) (h : build b = .ok p) : p.Valid := by
  obtain ⟨hv, hp, -⟩ := build_eq_ok.mp h
  refine ⟨fun hflag ↦ ?_, ?_⟩
  · rw [hp.connectFlags] at hflag
    obtain ⟨ht, hpl⟩ := ConnectBuilder.no_will_of_calls hc hflag
    rw [hp.willTopic, hp.willPayload, ht, hpl]
    exact ⟨rfl, rfl⟩
  · rw [hp.connectFlags, hp.userName, hp.password]
    exact ConnectBuilder.hasCredentials_of_calls hc hv

theorem roundTrips_of_build {cs : List ConnectCall} {b : ConnectBuilder} {p : Connect}
    (hc : ConnectBuilder.new.calls cs = .ok b) (h : build b = .ok p) : RoundTrips parse p :=
  (framed.roundTrips_iff p).mpr ⟨valid_of_build hc h, (build_eq_ok.mp h).2.2⟩

end Connect

theorem Publish.roundTrips_of_build {b : PublishBuilder w} {p : Publish w}
    (h : build b = .ok p) : RoundTrips (parse (frameFlags p.toContinuousBuffer)) p := by
  obtain ⟨-, -, -, -, -, -, hr⟩ := build_eq_ok.mp h
  exact p.roundTrips_iff.mpr hr

/-- CONNECT and PUBLISH of version 3.1.1 parse back as they were built, and are written back as
they were received. -/
theorem connect_publish_round_trip (w : IdWidth) :
    (∀ (cs : List ConnectCall) (b : ConnectBuilder) (p : Connect),
      ConnectBuilder.new.calls cs = .ok b → Connect.build b = .ok p →
        RoundTrips Connect.parse p) ∧
    (∀ (b : PublishBuilder w) (p : Publish w), Publish.build b = .ok p →
      RoundTrips (Publish.parse (frameFlags p.toContinuousBuffer)) p) ∧
    (∀ (data : Bytes) (p : Connect), Connect.parse data = .ok (p, data.length) →
      p.toContinuousBuffer.head? = some PacketType.connect.toFixedHeader ∧
        frameBody p.toContinuousBuffer = data) ∧
    ∀ (flags : UInt8) (data : Bytes) (p : Publish w),
      Publish.parse flags data = .ok (p, data.length) →
        frameFlags p.toContinuousBuffer = flags &&& 0x0F ∧
          frameBody p.toContinuousBuffer = data := by
  refine ⟨fun _ _ _ ↦ Connect.roundTrips_of_build, fun _ _ ↦ Publish.roundTrips_of_build, ?_, ?_⟩
  · intro data p h
    obtain ⟨_, rest, hdata, hlen, ⟨rfl, -⟩, -⟩ := Connect.framed.sound h
    have hrest : rest = [] := by
      rw [hdata, List.length_append] at hlen
      exact List.length_eq_zero_iff.mp (by omega)
    rw [hrest, List.append_nil] at hdata
    rw [hdata]
    exact ⟨rfl, p.laidOut.frameBody⟩
  · intro flags data p h
    obtain ⟨hf, -, hdata, -⟩ := Publish.parse_eq_ok.mp h
    rw [hdata]
    refine ⟨?_, p.laidOut.frameBody⟩
    rw [← PublishHeader.toU8_of_parse hf]
    exact p.laidOut.frameFlags

theorem connect_publish_round_trip_will : ∃ b p,
    ConnectBuilder.new.calls [.cleanSession false, .willMessage .empty [1] .exactlyOnce true,
      .userName .empty] = .ok b ∧ Connect.build b = .ok p ∧ RoundTrips Connect.parse p := by
  obtain ⟨b, hb⟩ : ∃ b, ConnectBuilder.new.calls [.cleanSession false,
    .willMessage .empty [1] .exactlyOnce true, .userName .empty] = .ok b := ⟨_, rfl⟩
  obtain ⟨p, hp⟩ : ∃ p, Connect.build b = .ok p := by
    cases hb
    exact ⟨_, rfl⟩
  exact ⟨b, p, hb, hp, (connect_publish_round_trip .u16).1 _ b p hb hp⟩

end MqttProtocolCore.Packet.V311
