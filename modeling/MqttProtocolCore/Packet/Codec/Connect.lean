import MqttProtocolCore.Packet.Codec.ConnectBuilder
import MqttProtocolCore.Packet.Codec.ConnectParts
import MqttProtocolCore.Packet.V50.Connect
import MqttProtocolCore.Packet.V50.Publish

namespace MqttProtocolCore.Packet.V50

open General

namespace Connect

def willPropsBytes (p : Connect) : Bytes :=
  if willFlag p.connectFlags then sectionBytes (p.willPropertyLength, p.willProps) else []

def willPropsBuffers (p : Connect) : List Bytes :=
  if willFlag p.connectFlags then p.willPropertyLength.asBytes :: p.willProps.toBuffers else []

def toBuffers (p : Connect) : List Bytes :=
  [[PacketType.connect.toFixedHeader], p.remainingLength.asBytes] ++
    connectHeaderBuffers 0x05 p.connectFlags p.keepAlive ++ [p.propertyLength.asBytes] ++
    p.props.toBuffers ++ p.clientId.toBuffers ++ p.willPropsBuffers ++
    willBuffers (willFlag p.connectFlags) (p.willTopic, p.willPayload) ++
    credentialBuffers p.connectFlags (p.userName, p.password)

def toContinuousBuffer (p : Connect) : Bytes :=
  [PacketType.connect.toFixedHeader] ++ p.remainingLength.asBytes ++
    connectHeader 0x05 p.connectFlags p.keepAlive ++ p.propertyLength.asBytes ++
    p.props.toContinuousBuffer ++ p.clientId.toContinuousBuffer ++ p.willPropsBytes ++
    willBytes (willFlag p.connectFlags) (p.willTopic, p.willPayload) ++
    credentialBytes p.connectFlags (p.userName, p.password)

instance : GenericPacketTrait Connect := ⟨size, toBuffers, toContinuousBuffer⟩

def bodyWith (p : Connect) (props willProps : Bytes) : Bytes :=
  connectHeader 0x05 p.connectFlags p.keepAlive ++ (props ++ (p.clientId.asBytes ++ (willProps ++
    (willBytes (willFlag p.connectFlags) (p.willTopic, p.willPayload) ++
      credentialBytes p.connectFlags (p.userName, p.password)))))

def bodyBytes (p : Connect) : Bytes :=
  p.bodyWith (sectionBytes (p.propertyLength, p.props)) p.willPropsBytes

theorem flatten_willPropsBuffers (p : Connect) :
    p.willPropsBuffers.flatten = p.willPropsBytes := by
  unfold willPropsBuffers willPropsBytes
  cases willFlag p.connectFlags <;> simp [sectionBytes, Properties.flatten_toBuffers]

theorem laidOut (p : Connect) :
    LaidOut p PacketType.connect.toFixedHeader p.remainingLength p.bodyBytes where
  size := rfl
  flatten := by
    change p.toBuffers.flatten = p.toContinuousBuffer
    simp only [toBuffers, toContinuousBuffer, List.flatten_append, List.flatten_cons,
      List.flatten_nil, flatten_connectHeaderBuffers, flatten_credentialBuffers,
      flatten_willBuffers, flatten_willPropsBuffers, Properties.flatten_toBuffers,
      MqttString.toBuffers, MqttString.toContinuousBuffer, List.append_nil, List.append_assoc]
  bytes := by
    change p.toContinuousBuffer = _
    simp only [toContinuousBuffer, MqttString.toContinuousBuffer, bodyBytes, bodyWith,
      sectionBytes, List.append_assoc, List.cons_append, List.nil_append]

def WillSection (will : Bool) : Format UInt8 (VariableByteInteger × Properties) :=
  optional will (.zero, []) (SectionCode validateWillProperties)

theorem acceptsAt_parseWillProperties (will : Bool) :
    AcceptsAt (WillSection will) (parseWillProperties will) := by
  have hzero : (lengthOf 0 : Fallible MqttError VariableByteInteger) = .ok .zero :=
    lengthOf_eq_ok.mpr rfl
  refine ⟨fun {data cursor tail s n} hat ↦ ?_⟩
  cases will with
  | true => exact (acceptsAt_parseProperties validateWillProperties).iff hat
  | false =>
    simp only [parseWillProperties, WillSection, optional, Bool.false_eq_true, if_false, hzero]
    constructor
    · intro h
      cases h
      exact ⟨[], tail, rfl, rfl, rfl, rfl⟩
    · rintro ⟨_, rest, rfl, rfl, rfl, rfl⟩
      rfl

structure Stored (p : Connect) : Prop where
  will : willFlag p.connectFlags = false → p.willTopic = .default ∧ p.willPayload = .default
  credentials : HasCredentials p.connectFlags (p.userName, p.password)

def Code : Format UInt8 Connect := fun code p ↦
  p.Stored ∧ ∃ props willProps, code = p.bodyWith props willProps ∧
    SectionCode validateConnectProperties props (p.propertyLength, p.props) ∧
    WillSection (willFlag p.connectFlags) willProps (p.willPropertyLength, p.willProps)

structure Valid (p : Connect) : Prop where
  stored : p.Stored
  props : validateConnectProperties p.props = .ok () ∧ p.propertyLength.toU32 = p.props.size
  willProps : if willFlag p.connectFlags then
      validateWillProperties p.willProps = .ok () ∧ p.willPropertyLength.toU32 = p.willProps.size
    else (p.willPropertyLength, p.willProps) = (.zero, [])

theorem shortest_willSection (will : Bool) :
    Shortest (WillSection will)
      (fun s ↦ if will then validateWillProperties s.2 = .ok () ∧ s.1.toU32 = s.2.size
        else s = (.zero, []))
      (fun s ↦ if will then sectionBytes s else []) := by
  have h := shortest_sectionCode validateWillProperties
  cases will with
  | true => exact h
  | false =>
    exact ⟨fun h ↦ ⟨rfl, h⟩, fun h ↦ h.2, fun h ↦ Nat.zero_le _, fun h _ ↦ h.1⟩

theorem shortest_code : Shortest Code Valid bodyBytes where
  code {p} h := by
    refine ⟨h.stored, _, _, rfl, (shortest_sectionCode _).code h.props, ?_⟩
    exact (shortest_willSection (willFlag p.connectFlags)).code h.willProps
  valid {code p} h := by
    obtain ⟨hs, props, willProps, rfl, hp, hw⟩ := h
    exact ⟨hs, (shortest_sectionCode _).valid hp, (shortest_willSection _).valid hw⟩
  le {code p} h := by
    obtain ⟨-, props, willProps, rfl, hp, hw⟩ := h
    have hple := (shortest_sectionCode _).le hp
    have hwle := (shortest_willSection _).le hw
    change p.willPropsBytes.length ≤ _ at hwle
    simp only [bodyBytes, bodyWith, List.length_append]
    omega
  unique {code p} h hlen := by
    obtain ⟨-, props, willProps, rfl, hp, hw⟩ := h
    have hple := (shortest_sectionCode _).le hp
    have hwle := (shortest_willSection _).le hw
    change p.willPropsBytes.length ≤ _ at hwle
    simp only [bodyBytes, bodyWith, List.length_append] at hlen
    have hprops := (shortest_sectionCode _).unique hp (by omega)
    have hwill : willProps = p.willPropsBytes :=
      (shortest_willSection _).unique hw (show _ = p.willPropsBytes.length by omega)
    rw [hprops, hwill]
    rfl

theorem WillSection.length_le {will : Bool} {code : Bytes} {s : VariableByteInteger × Properties}
    (h : WillSection will code s) : code.length ≤ VariableByteInteger.max + 4 := by
  cases will with
  | true => exact SectionCode.length_le h
  | false =>
    rw [h.1]
    exact Nat.zero_le _

theorem Code.excess {code : Bytes} {p : Connect} (h : Code code p) :
    code.length < p.bodyBytes.length + 4294967296 := by
  obtain ⟨-, props, willProps, rfl, hp, hw⟩ := h
  have hple := hp.length_le
  have hwle := hw.length_le
  rw [VariableByteInteger.max] at hple hwle
  simp only [bodyBytes, bodyWith, List.length_append]
  omega

theorem length_bodyWith (p : Connect) (props willProps : Bytes) :
    (p.bodyWith props willProps).length = 10 + props.length + p.clientId.asBytes.length +
      willProps.length + (willBytes (willFlag p.connectFlags) (p.willTopic, p.willPayload)).length +
      (credentialBytes p.connectFlags (p.userName, p.password)).length := by
  simp only [bodyWith, List.length_append, length_connectHeader, ← Nat.add_assoc]

theorem framed : Framed parse Code Valid bodyBytes remainingLength where
  laidOut p := ⟨_, p.laidOut⟩
  sound {data p n} h := by
    obtain ⟨⟨⟨flags, keepAlive⟩, c⟩, hh, h⟩ := Fallible.bind_eq_ok.mp h
    obtain ⟨_, tail, rfl, rfl, rfl⟩ := (accepts_parseConnectHeader 0x05).iff.mp hh
    have hat := (At.start (connectHeader 0x05 flags keepAlive ++ tail)).next
    rw [Nat.zero_add] at hat
    obtain ⟨⟨⟨l, ps⟩, c⟩, hps, h⟩ := Fallible.bind_eq_ok.mp h
    obtain ⟨props, tail, rfl, rfl, hS, hat⟩ := (acceptsAt_parseProperties _).sound hat hps
    obtain ⟨⟨clientId, c⟩, hc, h⟩ := Fallible.bind_eq_ok.mp h
    obtain ⟨_, tail, rfl, rfl, rfl, hat⟩ := (acceptsAt_parseAt
      (accepts_mapErr .clientIdentifierNotValid MqttString.accepts_decode)).sound hat hc
    obtain ⟨⟨⟨wl, wps⟩, c⟩, hwps, h⟩ := Fallible.bind_eq_ok.mp h
    obtain ⟨willProps, tail, rfl, rfl, hW, hat⟩ :=
      (acceptsAt_parseWillProperties (willFlag flags)).sound hat hwps
    obtain ⟨⟨topic, m⟩, ht, h⟩ := Fallible.bind_eq_ok.mp h
    obtain ⟨⟨payload, c⟩, hp, h⟩ := Fallible.bind_eq_ok.mp h
    obtain ⟨tail, rfl, rfl, hwill⟩ := (parseWill_eq_ok hat).mp ⟨m, ht, hp⟩
    obtain ⟨⟨⟨user, pass⟩, c⟩, hcr, h⟩ := Fallible.bind_eq_ok.mp h
    obtain ⟨_, rest, rfl, rfl, ⟨rfl, hcred⟩, -⟩ :=
      (acceptsAt_parseCredentials flags).sound hat.next hcr
    obtain ⟨r, hr, h⟩ := Fallible.bind_eq_ok.mp h
    cases h
    refine ⟨_, rest, ?_, ?_, ⟨⟨hwill, hcred⟩, props, willProps, rfl, hS, hW⟩, ?_⟩
    · simp only [bodyWith, List.append_assoc]
    · rw [length_bodyWith]
      rfl
    · rw [← hr, length_bodyWith]
      rfl
  complete {code p} hG hr := by
    obtain ⟨hs, props, willProps, rfl, hS, hW⟩ := hG
    obtain ⟨r, flags, keepAlive, l, ps, clientId, wl, wps, topic, payload, user, pass⟩ := p
    have hat := (At.start (connectHeader 0x05 flags keepAlive ++ (props ++ (clientId.asBytes ++
      (willProps ++ (willBytes (willFlag flags) (topic, payload) ++
        credentialBytes flags (user, pass))))))).next
    rw [Nat.zero_add] at hat
    have hat' := hat.next.next
    obtain ⟨m, ht, hp⟩ := (parseWill_eq_ok hat'.next).mpr ⟨_, rfl, rfl, hs.will⟩
    have hcr := ((acceptsAt_parseCredentials flags).iff hat'.next.next).mpr
      ⟨_, [], (List.append_nil _).symm, rfl, rfl, hs.credentials⟩
    rw [length_bodyWith] at hr ⊢
    rw [bodyWith, parse, (accepts_parseConnectHeader 0x05).complete (a := (flags, keepAlive)) rfl _,
      Fallible.ok_bind]
    dsimp only
    rw [(acceptsAt_parseProperties _).complete hat hS, Fallible.ok_bind]
    dsimp only
    rw [(acceptsAt_parseAt (accepts_mapErr .clientIdentifierNotValid
      MqttString.accepts_decode)).complete hat.next rfl, Fallible.ok_bind]
    dsimp only
    rw [(acceptsAt_parseWillProperties (willFlag flags)).complete hat' hW, Fallible.ok_bind]
    dsimp only
    rw [ht, Fallible.ok_bind]
    dsimp only
    rw [hp, Fallible.ok_bind]
    dsimp only
    rw [hcr, Fallible.ok_bind]
    dsimp only at hr ⊢
    rw [length_connectHeader, hr]
    rfl
  shortest := shortest_code
  excess := Code.excess

end Connect

namespace Connack

def toBuffers (p : Connack) : List Bytes :=
  [[PacketType.connack.toFixedHeader], p.remainingLength.asBytes, [p.ackFlags],
    [p.reasonCode.toU8], p.propertyLength.asBytes] ++ p.props.toBuffers

def toContinuousBuffer (p : Connack) : Bytes :=
  [PacketType.connack.toFixedHeader] ++ p.remainingLength.asBytes ++ [p.ackFlags] ++
    [p.reasonCode.toU8] ++ p.propertyLength.asBytes ++ p.props.toContinuousBuffer

instance : GenericPacketTrait Connack := ⟨size, toBuffers, toContinuousBuffer⟩

def bodyBytes (p : Connack) : Bytes :=
  [p.ackFlags, p.reasonCode.toU8] ++ sectionBytes (p.propertyLength, p.props)

theorem laidOut (p : Connack) :
    LaidOut p PacketType.connack.toFixedHeader p.remainingLength p.bodyBytes where
  size := rfl
  flatten := by
    change p.toBuffers.flatten = p.toContinuousBuffer
    simp only [toBuffers, toContinuousBuffer, List.flatten_append, List.flatten_cons,
      List.flatten_nil, Properties.flatten_toBuffers, List.append_nil, List.append_assoc]
  bytes := by
    change p.toContinuousBuffer = _
    simp only [toContinuousBuffer, bodyBytes, sectionBytes, List.append_assoc, List.cons_append,
      List.nil_append]

def Code : Format UInt8 Connack := fun code p ↦
  ∃ props, code = [p.ackFlags, p.reasonCode.toU8] ++ props ∧
    SectionCode validateConnackProperties props (p.propertyLength, p.props)

def Valid (p : Connack) : Prop :=
  validateConnackProperties p.props = .ok () ∧ p.propertyLength.toU32 = p.props.size

theorem shortest_code : Shortest Code Valid bodyBytes where
  code h := ⟨_, rfl, (shortest_sectionCode _).code h⟩
  valid h := by
    obtain ⟨props, rfl, hS⟩ := h
    exact (shortest_sectionCode _).valid hS
  le h := by
    obtain ⟨props, rfl, hS⟩ := h
    exact Nat.succ_le_succ (Nat.succ_le_succ ((shortest_sectionCode _).le hS))
  unique h hlen := by
    obtain ⟨props, rfl, hS⟩ := h
    rw [(shortest_sectionCode _).unique hS (Nat.succ.inj (Nat.succ.inj hlen))]
    rfl

theorem framed : Framed parse Code Valid bodyBytes remainingLength where
  laidOut p := ⟨_, p.laidOut⟩
  sound {data p n} h := by
    match data with
    | [] => cases h
    | [_] => cases h
    | [_, _] => cases h
    | flags :: code :: b :: tail =>
      have hat : At (flags :: code :: b :: tail) 2 (b :: tail) := ⟨[flags, code], rfl, rfl⟩
      cases hc : ConnectReasonCode.tryFrom code with
      | none => simp [parse, Fallible.require, index, hc] at h
      | some reason =>
        simp only [parse, Fallible.require, index, List.length_cons, List.getElem?_cons_zero,
          List.getElem?_cons_succ, Fallible.ok_bind, hc] at h
        rw [if_pos (by omega), Fallible.ok_bind] at h
        obtain ⟨⟨⟨l, ps⟩, c⟩, hps, h⟩ := Fallible.bind_eq_ok.mp h
        obtain ⟨props, rest, hdata, rfl, hS, -⟩ := (acceptsAt_parseProperties _).sound hat hps
        obtain ⟨r, hr, h⟩ := Fallible.bind_eq_ok.mp h
        cases h
        obtain rfl := ConnectReasonCode.tryFrom_eq_some.mp hc
        refine ⟨_, rest, ?_, Nat.add_comm _ _, ⟨props, rfl, hS⟩, ?_⟩
        · rw [hdata]
          rfl
        · rw [← hr, Nat.add_comm]
          rfl
  complete {code p} hG hr := by
    obtain ⟨props, rfl, hS⟩ := hG
    obtain ⟨r, flags, reason, l, ps⟩ := p
    have hat : At ([flags, reason.toU8] ++ props) 2 (props ++ []) :=
      ⟨[flags, reason.toU8], by rw [List.append_nil], rfl⟩
    have hpos := List.length_pos_iff.mpr hS.ne_nil
    have hps := (acceptsAt_parseProperties _).complete hat hS
    dsimp only [List.cons_append, List.nil_append] at hps hr ⊢
    simp only [parse, Fallible.require, index, List.length_cons, List.getElem?_cons_zero,
      List.getElem?_cons_succ, Fallible.ok_bind, ConnectReasonCode.tryFrom_eq_some.mpr rfl] at hr ⊢
    rw [if_pos (by omega), Fallible.ok_bind, hps, Fallible.ok_bind]
    dsimp only
    rw [Nat.add_comm 2, hr]
    rfl
  shortest := shortest_code
  excess {code p} h := by
    obtain ⟨props, rfl, hS⟩ := h
    have hle := hS.length_le
    rw [VariableByteInteger.max] at hle
    simp only [List.length_append, List.length_cons, List.length_nil]
    omega

end Connack

end MqttProtocolCore.Packet.V50
