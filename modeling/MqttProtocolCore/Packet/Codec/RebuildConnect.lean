import MqttProtocolCore.Packet.Codec.Rebuild

namespace MqttProtocolCore.Packet

open General

variable {w : IdWidth}

section Connect

/-- The connect flags that the setters can make: no reserved bit, no quality of service of 3, and
nothing about a will without the will flag. -/
def SettableFlags (flags : UInt8) : Prop :=
  flags &&& 0b00000001 = 0 ∧
    if willFlag flags then (flags >>> 3) &&& 0x03 ≠ 3 else flags &&& 0b00111000 = 0

def gotWill (flags : UInt8) : Option (Fin 8) :=
  if willFlag flags then some (willBits (willQos flags) (willRetain flags)) else none

theorem settableFlags_ofFin : ∀ i : Fin 256, let flags := UInt8.ofFin i
    (flags &&& 0b00000001 = 0 ∧
      if willFlag flags then (flags >>> 3) &&& 0x03 ≠ 3 else flags &&& 0b00111000 = 0) ↔
    flags = connectFlagsOf (cleanSessionFlag flags) (gotWill flags) (userNameFlag flags)
      (passwordFlag flags) := by
  decide +kernel

theorem settableFlags_iff (flags : UInt8) : SettableFlags flags ↔
    flags = connectFlagsOf (cleanSessionFlag flags) (gotWill flags) (userNameFlag flags)
      (passwordFlag flags) := by
  have h := settableFlags_ofFin flags.toFin
  rw [UInt8.ofFin_toFin] at h
  exact h

/-- The calls that hand the fields of a CONNECT to the builder. -/
def connectCalls (flags : UInt8) (keepAlive : U16) (clientId : MqttString)
    (will : MqttString × MqttBinary) (credentials : MqttString × MqttBinary) : List ConnectCall :=
  [.clientId clientId.asStr, .cleanSession (cleanSessionFlag flags), .keepAlive keepAlive] ++
    (if willFlag flags then
      [.willMessage will.1.asStr will.2.data (willQos flags) (willRetain flags)] else []) ++
    (if userNameFlag flags then [.userName credentials.1.asStr] else []) ++
    (if passwordFlag flags then [.password credentials.2.data] else [])

variable {flags : UInt8} {keepAlive : U16} {clientId : MqttString}
  {will credentials : MqttString × MqttBinary}

theorem addWillBits_connectCalls :
    (connectCalls flags keepAlive clientId will credentials).foldl addWillBits none =
      gotWill flags := by
  have hzero : ∀ x : Fin 8, 0 ||| x = x := by decide
  unfold connectCalls gotWill
  cases willFlag flags <;> cases userNameFlag flags <;> cases passwordFlag flags <;>
    simp [addWillBits, hzero]

theorem accept_connectCalls :
    (connectCalls flags keepAlive clientId will credentials).foldl ConnectFields.accept .initial =
      ⟨clientId.asStr, cleanSessionFlag flags, keepAlive,
        if willFlag flags then some ⟨will.1.asStr, will.2.data, willQos flags, willRetain flags⟩
          else none,
        if userNameFlag flags then some credentials.1.asStr else none,
        if passwordFlag flags then some credentials.2.data else none⟩ := by
  unfold connectCalls
  cases willFlag flags <;> cases userNameFlag flags <;> cases passwordFlag flags <;> rfl

theorem exists_connectCalls (flags : UInt8) (keepAlive : U16) (clientId : MqttString)
    (will : MqttString × MqttBinary) (credentials : MqttString × MqttBinary) :
    ∃ b : ConnectBuilder,
      ConnectBuilder.new.calls (connectCalls flags keepAlive clientId will credentials) = .ok b := by
  have hstr : ∀ s : MqttString,
      (Fallible.ofExcept (MqttString.new s.asStr) : Fallible MqttError MqttString) = .ok s :=
    fun s ↦ MqttString.new_eq_ok.mpr rfl
  have hbin : ∀ d : MqttBinary,
      (Fallible.ofExcept (MqttBinary.new d.data) : Fallible MqttError MqttBinary) = .ok d :=
    fun d ↦ MqttBinary.new_eq_ok.mpr rfl
  unfold connectCalls ConnectBuilder.calls
  cases willFlag flags <;> cases userNameFlag flags <;> cases passwordFlag flags <;>
    simp [List.foldlM_cons, ConnectBuilder.call, ConnectBuilder.clientId,
      ConnectBuilder.willMessage, ConnectBuilder.userName, ConnectBuilder.password, hstr, hbin]

theorem MqttString.eq_of_str {s t : MqttString} (h : s.str = t.str) : s = t := by
  obtain ⟨str, short⟩ := s
  cases h
  rfl

theorem MqttBinary.eq_of_data {s t : MqttBinary} (h : s.data = t.data) : s = t := by
  obtain ⟨data, short⟩ := s
  cases h
  rfl

theorem getD_of_map {α β : Type} {f : α → β} (hf : ∀ {a b}, f a = f b → a = b) {o : Option α}
    (flag : Bool) {a d : α} (h : o.map f = if flag then some (f a) else none)
    (ha : flag = false → a = d) : o.getD d = a := by
  cases flag with
  | true =>
    obtain ⟨v, hv, heq⟩ := Option.map_eq_some_iff.mp h
    rw [hv]
    exact hf heq
  | false =>
    rw [Option.map_eq_none_iff.mp h, ha rfl]
    rfl

structure HandedOver (b : ConnectBuilder) (flags : UInt8) (keepAlive : U16) (clientId : MqttString)
    (will credentials : MqttString × MqttBinary) : Prop where
  flags : b.flags = connectFlagsOf (cleanSessionFlag flags) (gotWill flags) (userNameFlag flags)
    (passwordFlag flags)
  keepAlive : b.keepAliveBuf.getD 0 = keepAlive
  clientId : b.clientIdBuf.getD .default = clientId
  will : (b.willTopicBuf.getD .default, b.willPayloadBuf.getD .default) = will
  credentials : (b.userNameBuf.getD .default, b.passwordBuf.getD .default) = credentials
  validate : b.validate = .ok ()

theorem handedOver {b : ConnectBuilder}
    (hc : ConnectBuilder.new.calls (connectCalls flags keepAlive clientId will credentials) = .ok b)
    (hwill : willFlag flags = false → will.1 = .default ∧ will.2 = .default)
    (hcred : HasCredentials flags credentials) :
    HandedOver b flags keepAlive clientId will credentials := by
  have h := ConnectBuilder.holds_new.calls hc
  rw [addWillBits_connectCalls, accept_connectCalls] at h
  have hflags : b.flags = connectFlagsOf (cleanSessionFlag flags) (gotWill flags)
      (userNameFlag flags) (passwordFlag flags) := by
    rw [h.flags]
    cases userNameFlag flags <;> cases passwordFlag flags <;> rfl
  refine ⟨hflags, h.keepAlive, MqttString.eq_of_str h.clientId, ?_, ?_, ?_⟩
  · refine Prod.ext (getD_of_map MqttString.eq_of_str (willFlag flags) ?_ fun hf ↦ (hwill hf).1)
      (getD_of_map MqttBinary.eq_of_data (willFlag flags) ?_ fun hf ↦ (hwill hf).2)
    · rw [h.willTopic]
      cases willFlag flags <;> rfl
    · rw [h.willPayload]
      cases willFlag flags <;> rfl
  · exact Prod.ext (getD_of_map MqttString.eq_of_str _ h.userName hcred.1)
      (getD_of_map MqttBinary.eq_of_data _ h.password hcred.2.1)
  · obtain ⟨-, hw, hu, hp⟩ := flags_connectFlagsOf (cleanSessionFlag flags) (gotWill flags)
      (userNameFlag flags) (passwordFlag flags)
    have htopic := h.willTopic
    have hpayload := h.willPayload
    rw [ConnectBuilder.validate, hflags, hu, hp, hw]
    rw [(Fallible.require_eq_ok (u := ⟨⟩)).mpr hcred.2.2, Fallible.ok_bind]
    apply Fallible.require_eq_ok.mpr
    intro hsome
    unfold gotWill at hsome
    cases hf : willFlag flags with
    | false =>
      rw [hf] at hsome
      cases hsome
    | true =>
      rw [hf] at htopic hpayload
      obtain ⟨t, ht, -⟩ := Option.map_eq_some_iff.mp htopic
      obtain ⟨d, hd, -⟩ := Option.map_eq_some_iff.mp hpayload
      rw [ht, hd]
      exact ⟨rfl, rfl⟩

end Connect

namespace V311.Connect

variable {data : Bytes} {p : Connect} {n : ℕ}

def rebuild (p : Connect) : Fallible MqttError Connect := do
  let b ← ConnectBuilder.new.calls (connectCalls p.connectFlags p.keepAlive p.clientId
    (p.willTopic, p.willPayload) (p.userName, p.password))
  build b

theorem rebuild_iff (h : parse data = .ok (p, n)) :
    p.rebuild = .ok p ↔ SettableFlags (data.getD 7 0) := by
  obtain ⟨code, rest, rfl, -, ⟨rfl, hv⟩, hr⟩ := framed.sound h
  have hdata : (p.bodyBytes ++ rest).getD 7 0 = p.connectFlags := rfl
  obtain ⟨b, hc⟩ := exists_connectCalls p.connectFlags p.keepAlive p.clientId
    (p.willTopic, p.willPayload) (p.userName, p.password)
  have hb := handedOver hc hv.will hv.credentials
  rw [hdata, settableFlags_iff, ← hb.flags, rebuild, hc, Fallible.ok_bind, build_eq_ok]
  constructor
  · rintro ⟨_, hfrom, _⟩
    exact hfrom.connectFlags
  · intro hflags
    obtain ⟨ht, hpl⟩ := Prod.mk.inj hb.will
    obtain ⟨hu, hpw⟩ := Prod.mk.inj hb.credentials
    exact ⟨hb.validate, ⟨hflags, hb.keepAlive.symm, hb.clientId.symm, ht.symm, hpl.symm, hu.symm,
      hpw.symm⟩, hr⟩

end V311.Connect

namespace V50.Connect

theorem calls_map_setter {cs : List Packet.ConnectCall} {c : Packet.ConnectBuilder} :
    ∀ {b : ConnectBuilder}, b.toConnectBuilder.calls cs = .ok c →
      b.calls (cs.map .setter) = .ok { b with toConnectBuilder := c } := by
  induction cs with
  | nil =>
    intro b hc
    cases hc
    rfl
  | cons call cs ih =>
    intro b hc
    rw [Packet.ConnectBuilder.calls, List.foldlM_cons] at hc
    obtain ⟨b', hb, hc⟩ := Fallible.bind_eq_ok.mp hc
    have hcall : b.call (.setter call) = .ok { b with toConnectBuilder := b' } := by
      rw [ConnectBuilder.call, hb]
      rfl
    rw [List.map_cons, ConnectBuilder.calls, List.foldlM_cons, hcall]
    exact ih (b := { b with toConnectBuilder := b' }) hc

variable {data : Bytes} {p : Connect} {n : ℕ}

def rebuild (p : Connect) : Fallible MqttError Connect := do
  let b ← ConnectBuilder.new.calls ((connectCalls p.connectFlags p.keepAlive p.clientId
    (p.willTopic, p.willPayload) (p.userName, p.password)).map .setter ++
      [.props p.props, .willProps p.willProps])
  build b

theorem rebuild_iff (h : parse data = .ok (p, n)) :
    p.rebuild = .ok p ↔ SettableFlags (data.getD 7 0) ∧ ShortestSections data := by
  obtain ⟨code, rest, rfl, -, hG, hr⟩ := framed.sound h
  have hshort := framed.lengthOf_body_iff hG hr
  rw [← Connect.shortest_iff hG rest, ← hshort]
  obtain ⟨hs, props, willProps, rfl, hS, hW⟩ := hG
  have hdata : (p.bodyWith props willProps ++ rest).getD 7 0 = p.connectFlags := rfl
  obtain ⟨c, hc⟩ := exists_connectCalls p.connectFlags p.keepAlive p.clientId
    (p.willTopic, p.willPayload) (p.userName, p.password)
  have hb := handedOver hc hs.will hs.credentials
  have hcalls : ConnectBuilder.new.calls ((connectCalls p.connectFlags p.keepAlive p.clientId
      (p.willTopic, p.willPayload) (p.userName, p.password)).map .setter ++
        [.props p.props, .willProps p.willProps]) =
      .ok ⟨c, some p.props, some p.willProps⟩ := by
    rw [ConnectBuilder.calls, List.foldlM_append]
    exact Fallible.bind_eq_ok.mpr ⟨_, calls_map_setter hc, rfl⟩
  have hwillProps : validateWillProperties p.willProps = .ok () ∧
      lengthOf p.willProps.size = .ok p.willPropertyLength := by
    unfold WillSection optional at hW
    split at hW
    · exact ⟨hW.2.1, lengthOf_of_toU32 hW.2.2⟩
    · obtain ⟨hl, hps⟩ := Prod.mk.inj hW.2
      rw [hl, hps]
      exact ⟨validateWillProperties_nil, lengthOf_of_toU32 rfl⟩
  rw [hdata, settableFlags_iff, ← hb.flags, rebuild, hcalls, Fallible.ok_bind, build_eq_ok,
    validate_eq_ok]
  constructor
  · rintro ⟨_, hfrom, hbody⟩
    exact ⟨hfrom.connectFlags, hbody⟩
  · rintro ⟨hflags, hbody⟩
    obtain ⟨ht, hpl⟩ := Prod.mk.inj hb.will
    obtain ⟨hu, hpw⟩ := Prod.mk.inj hb.credentials
    refine ⟨⟨hb.validate, hS.2.1, hwillProps.1⟩, ?_, hbody⟩
    exact ⟨hflags, hb.keepAlive.symm, rfl, lengthOf_of_toU32 hS.2.2, hb.clientId.symm, rfl,
      hwillProps.2, ht.symm, hpl.symm, hu.symm, hpw.symm⟩

end V50.Connect

/-- The builder makes the same packet from the fields of one that was parsed, exactly when the
bytes hold nothing that the builder refuses or cannot express. It always does for a PUBACK. -/
theorem parsed_rebuilds (w : IdWidth) :
    (∀ data p n, V50.Connect.parse data = .ok (p, n) →
      (p.rebuild = .ok p ↔ SettableFlags (data.getD 7 0) ∧ V50.ShortestSections data)) ∧
    (∀ flags data (p : V50.Publish w) n, V50.Publish.parse flags data = .ok (p, n) →
      (p.rebuild = .ok p ↔ (∃ topic, PublishStart w flags data topic ∧ (¬ topic.isEmpty ∨
        V50.Publish.AliasAt data (topic.asBytes.length + publishIdLength w flags))) ∧
          data.length < 4294967296)) ∧
    (∀ data (p : V50.Puback w) n, V50.Ack.parse data = .ok (p, n) → p.rebuild = .ok p) ∧
    (∀ data (p : V50.Subscribe w) n, V50.Subscribe.parse data = .ok (p, n) →
      (p.rebuild = .ok p ↔ NonZeroIdAt w data 0 ∧ ShortestAt data w.bufferSize)) ∧
    (∀ data (p : V50.Unsubscribe w) n, V50.Unsubscribe.parse data = .ok (p, n) →
      (p.rebuild = .ok p ↔ NonZeroIdAt w data 0 ∧ ShortestAt data w.bufferSize)) ∧
    (∀ data (p : V50.Suback w) n, V50.Suback.parse data = .ok (p, n) →
      (p.rebuild = .ok p ↔ NonZeroIdAt w data 0 ∧ ShortestAt data w.bufferSize)) ∧
    (∀ data (p : V50.Unsuback w) n, V50.Unsuback.parse data = .ok (p, n) →
      (p.rebuild = .ok p ↔ NonZeroIdAt w data 0 ∧ ShortestAt data w.bufferSize)) ∧
    (∀ data p n, V311.Connect.parse data = .ok (p, n) →
      (p.rebuild = .ok p ↔ SettableFlags (data.getD 7 0))) ∧
    (∀ flags data (p : V311.Publish w) n, V311.Publish.parse flags data = .ok (p, n) →
      (p.rebuild = .ok p ↔ (∃ topic, PublishStart w flags data topic ∧ ¬ topic.isEmpty) ∧
        data.length < 4294967296)) ∧
    ∀ data (p : V311.Subscribe w) n, V311.Subscribe.parse data = .ok (p, n) →
      (p.rebuild = .ok p ↔ NonZeroIdAt w data 0) :=
  ⟨fun _ _ _ ↦ V50.Connect.rebuild_iff, fun _ _ _ _ ↦ V50.Publish.rebuild_iff,
    fun _ _ _ ↦ V50.Ack.rebuild_of_parse, fun _ _ _ ↦ V50.Listing.rebuild_iff,
    fun _ _ _ ↦ V50.Listing.rebuild_iff, fun _ _ _ ↦ V50.Listing.rebuild_iff,
    fun _ _ _ ↦ V50.Listing.rebuild_iff, fun _ _ _ ↦ V311.Connect.rebuild_iff,
    fun _ _ _ _ ↦ V311.Publish.rebuild_iff, fun _ _ _ ↦ V311.Listing.rebuild_iff⟩

theorem parsed_rebuilds_subscribe : ∃ p : V311.Subscribe .u16,
    V311.Subscribe.parse [0, 1, 0, 1, 0x61, 0] = .ok (p, 6) ∧ p.rebuild = .ok p := by
  obtain ⟨p, hp⟩ : ∃ p : V311.Subscribe .u16,
    V311.Subscribe.parse [0, 1, 0, 1, 0x61, 0] = .ok (p, 6) := ⟨_, rfl⟩
  obtain ⟨-, -, -, -, -, -, -, -, -, hsubscribe⟩ := parsed_rebuilds .u16
  refine ⟨p, hp, (hsubscribe _ p 6 hp).mpr ?_⟩
  unfold NonZeroIdAt
  decide

/-- A SUBSCRIBE with the packet identifier 0 is received, but the builder refuses it. -/
theorem zero_subscribe_not_rebuilt : ∃ p : V50.Subscribe .u16,
    V50.Subscribe.parse [0, 0, 0, 0, 1, 0x61, 0] = .ok (p, 7) ∧ p.rebuild = .err .malformedPacket := by
  obtain ⟨p, hp⟩ : ∃ p : V50.Subscribe .u16,
    V50.Subscribe.parse [0, 0, 0, 0, 1, 0x61, 0] = .ok (p, 7) := ⟨_, rfl⟩
  cases hp
  exact ⟨_, rfl, rfl⟩

end MqttProtocolCore.Packet
