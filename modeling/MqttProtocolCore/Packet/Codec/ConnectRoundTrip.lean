import MqttProtocolCore.Packet.Codec.Connect

namespace MqttProtocolCore.Packet.V50

open General

structure ConnectBuilder extends Packet.ConnectBuilder where
  props : Option Properties
  willProps : Option Properties

inductive ConnectCall where
  | setter (c : Packet.ConnectCall)
  | props (props : Properties)
  | willProps (props : Properties)

namespace ConnectBuilder

def new : ConnectBuilder := ⟨.new, none, none⟩

def call (b : ConnectBuilder) : ConnectCall → Fallible MqttError ConnectBuilder
  | .setter c => do return { b with toConnectBuilder := ← b.toConnectBuilder.call c }
  | .props props => .ok { b with props := some props }
  | .willProps props => .ok { b with willProps := some props }

def calls (b : ConnectBuilder) (cs : List ConnectCall) : Fallible MqttError ConnectBuilder :=
  cs.foldlM call b

def validate (b : ConnectBuilder) : Fallible MqttError Unit := do
  b.toConnectBuilder.validate
  checkProps Connect.validateConnectProperties b.props
  checkProps Connect.validateWillProperties b.willProps

end ConnectBuilder

structure ConnectFields extends Packet.ConnectFields where
  props : Properties
  willProps : Properties
deriving DecidableEq

namespace ConnectFields

def initial : ConnectFields := ⟨.initial, [], []⟩

def accept (f : ConnectFields) : ConnectCall → ConnectFields
  | .setter c => { f with toConnectFields := f.toConnectFields.accept c }
  | .props props => { f with props := props }
  | .willProps props => { f with willProps := props }

end ConnectFields

def asked (cs : List ConnectCall) : ConnectFields := cs.foldl ConnectFields.accept .initial

def setters (cs : List ConnectCall) : List Packet.ConnectCall :=
  cs.filterMap fun
    | .setter c => some c
    | _ => none

theorem calls_setters {cs : List ConnectCall} : ∀ {b b' : ConnectBuilder} {f : ConnectFields},
    b.calls cs = .ok b' → b.props.getD [] = f.props → b.willProps.getD [] = f.willProps →
      b.toConnectBuilder.calls (setters cs) = .ok b'.toConnectBuilder ∧
      b'.props.getD [] = (cs.foldl ConnectFields.accept f).props ∧
      b'.willProps.getD [] = (cs.foldl ConnectFields.accept f).willProps ∧
      (cs.foldl ConnectFields.accept f).toConnectFields =
        (setters cs).foldl Packet.ConnectFields.accept f.toConnectFields := by
  induction cs with
  | nil =>
    intro b b' f hc hp hw
    cases hc
    exact ⟨rfl, hp, hw, rfl⟩
  | cons c cs ih =>
    intro b b' f hc hp hw
    rw [ConnectBuilder.calls, List.foldlM_cons] at hc
    obtain ⟨b₁, hb, hc⟩ := Fallible.bind_eq_ok.mp hc
    cases c with
    | setter c =>
      obtain ⟨b₂, hb₂, h⟩ := Fallible.bind_eq_ok.mp hb
      cases h
      obtain ⟨hs, h⟩ := ih (f := f.accept (.setter c)) hc hp hw
      refine ⟨?_, h⟩
      change List.foldlM _ _ (c :: setters cs) = _
      rw [List.foldlM_cons, hb₂]
      exact hs
    | props props =>
      cases hb
      exact ih (b := { b with props := some props }) (f := f.accept (.props props)) hc rfl hw
    | willProps props =>
      cases hb
      exact ih (b := { b with willProps := some props }) (f := f.accept (.willProps props)) hc hp rfl

namespace Connect

def remainingSize (connectFlags : UInt8) (clientId : MqttString)
    (properties willProperties : VariableByteInteger × Properties) (will : MqttString × MqttBinary)
    (credentials : MqttString × MqttBinary) : ℕ :=
  6 + 1 + 1 + 2 + (properties.1.size + properties.2.size) + clientId.size +
    (if willFlag connectFlags then willProperties.1.size + willProperties.2.size else 0) +
    willSize (willFlag connectFlags) will + credentialSize connectFlags credentials

def build (b : ConnectBuilder) : Fallible MqttError Connect := do
  b.validate
  let connectFlags := b.flags
  let keepAlive := b.keepAliveBuf.getD 0
  let props := b.props.getD []
  let propertyLength ← lengthOf props.size
  let clientId := b.clientIdBuf.getD .default
  let willProps := b.willProps.getD []
  let willPropertyLength ← lengthOf willProps.size
  let willTopic := b.willTopicBuf.getD .default
  let willPayload := b.willPayloadBuf.getD .default
  let userName := b.userNameBuf.getD .default
  let password := b.passwordBuf.getD .default
  let remainingLength ← lengthOf (remainingSize connectFlags clientId (propertyLength, props)
    (willPropertyLength, willProps) (willTopic, willPayload) (userName, password))
  return ⟨remainingLength, connectFlags, keepAlive, propertyLength, props, clientId,
    willPropertyLength, willProps, willTopic, willPayload, userName, password⟩

theorem length_bodyBytes (p : Connect) : p.bodyBytes.length =
    remainingSize p.connectFlags p.clientId (p.propertyLength, p.props)
      (p.willPropertyLength, p.willProps) (p.willTopic, p.willPayload) (p.userName, p.password) := by
  have hwill : p.willPropsBytes.length =
      if willFlag p.connectFlags then p.willPropertyLength.size + p.willProps.size else 0 := by
    unfold willPropsBytes
    cases willFlag p.connectFlags <;> simp [length_sectionBytes]
  rw [bodyBytes, length_bodyWith, hwill]
  simp only [remainingSize, MqttString.length_asBytes, length_sectionBytes, length_willBytes,
    length_credentialBytes]

structure BuiltFrom (b : ConnectBuilder) (p : Connect) : Prop where
  connectFlags : p.connectFlags = b.flags
  keepAlive : p.keepAlive = b.keepAliveBuf.getD 0
  props : p.props = b.props.getD []
  propertyLength : lengthOf p.props.size = .ok p.propertyLength
  clientId : p.clientId = b.clientIdBuf.getD .default
  willProps : p.willProps = b.willProps.getD []
  willPropertyLength : lengthOf p.willProps.size = .ok p.willPropertyLength
  willTopic : p.willTopic = b.willTopicBuf.getD .default
  willPayload : p.willPayload = b.willPayloadBuf.getD .default
  userName : p.userName = b.userNameBuf.getD .default
  password : p.password = b.passwordBuf.getD .default

theorem build_eq_ok {b : ConnectBuilder} {p : Connect} :
    build b = .ok p ↔ b.validate = .ok () ∧ BuiltFrom b p ∧
      lengthOf p.bodyBytes.length = .ok p.remainingLength := by
  constructor
  · intro h
    obtain ⟨⟨⟩, hv, h⟩ := Fallible.bind_eq_ok.mp h
    obtain ⟨l, hl, h⟩ := Fallible.bind_eq_ok.mp h
    obtain ⟨wl, hwl, h⟩ := Fallible.bind_eq_ok.mp h
    obtain ⟨r, hr, h⟩ := Fallible.bind_eq_ok.mp h
    cases h
    refine ⟨hv, ⟨rfl, rfl, rfl, hl, rfl, rfl, hwl, rfl, rfl, rfl, rfl⟩, ?_⟩
    rw [length_bodyBytes]
    exact hr
  · rintro ⟨hv, hb, hr⟩
    obtain ⟨r, flags, keepAlive, l, ps, clientId, wl, wps, topic, payload, user, pass⟩ := p
    obtain ⟨rfl, rfl, rfl, hl, rfl, rfl, hwl, rfl, rfl, rfl, rfl⟩ := hb
    rw [length_bodyBytes] at hr
    rw [build, hv, Fallible.ok_bind]
    dsimp only at hl hwl hr ⊢
    rw [hl, Fallible.ok_bind, hwl, Fallible.ok_bind, hr]
    rfl

def fields (p : Connect) : ConnectFields :=
  ⟨wireFields p.connectFlags p.keepAlive p.clientId p.willTopic p.willPayload p.userName p.password,
    p.props, if willFlag p.connectFlags then p.willProps else []⟩

end Connect

/-- The calls ask for nothing that cannot be written together. -/
structure Writable (cs : List ConnectCall) : Prop where
  props : (asked cs).props.size < 4294967296
  willProps : (asked cs).willProps.size < 4294967296
  will : (asked cs).will = none → (asked cs).willProps = []
  agree : WillsAgree (setters cs)

section Build

variable {cs : List ConnectCall} {b : ConnectBuilder} {p : Connect}

theorem validateConnectProperties_nil : Connect.validateConnectProperties [] = .ok () := by decide

theorem validateWillProperties_nil : Connect.validateWillProperties [] = .ok () := by decide

theorem validate_eq_ok : b.validate = .ok () ↔ b.toConnectBuilder.validate = .ok () ∧
    Connect.validateConnectProperties (b.props.getD []) = .ok () ∧
    Connect.validateWillProperties (b.willProps.getD []) = .ok () := by
  rw [← checkProps_eq_ok validateConnectProperties_nil,
    ← checkProps_eq_ok validateWillProperties_nil]
  constructor
  · intro h
    obtain ⟨⟨⟩, hv, h⟩ := Fallible.bind_eq_ok.mp h
    obtain ⟨⟨⟩, hp, hw⟩ := Fallible.bind_eq_ok.mp h
    exact ⟨hv, hp, hw⟩
  · rintro ⟨hv, hp, hw⟩
    rw [ConnectBuilder.validate, hv, Fallible.ok_bind, hp, Fallible.ok_bind, hw]

theorem stored_of_build (hc : ConnectBuilder.new.calls cs = .ok b)
    (h : Connect.build b = .ok p) : p.Stored := by
  obtain ⟨hs, -⟩ := calls_setters (f := .initial) hc rfl rfl
  obtain ⟨hv, hb, -⟩ := Connect.build_eq_ok.mp h
  refine ⟨fun hflag ↦ ?_, ?_⟩
  · rw [hb.connectFlags] at hflag
    obtain ⟨ht, hp⟩ := Packet.ConnectBuilder.no_will_of_calls hs hflag
    rw [hb.willTopic, hb.willPayload, ht, hp]
    exact ⟨rfl, rfl⟩
  · rw [hb.connectFlags, hb.userName, hb.password]
    exact Packet.ConnectBuilder.hasCredentials_of_calls hs (validate_eq_ok.mp hv).1

/-- The will flag of what was built tells whether a will was asked for. -/
theorem willFlag_of_build (hc : ConnectBuilder.new.calls cs = .ok b)
    (h : Connect.build b = .ok p) : willFlag p.connectFlags = (asked cs).will.isSome := by
  obtain ⟨hs, -, -, hf⟩ := calls_setters (f := .initial) hc rfl rfl
  obtain ⟨-, hb, -⟩ := Connect.build_eq_ok.mp h
  rw [hb.connectFlags, Packet.ConnectBuilder.willFlag_of_calls hs]
  exact congrArg (fun f ↦ f.will.isSome) hf.symm

theorem valid_iff_of_build (hc : ConnectBuilder.new.calls cs = .ok b)
    (h : Connect.build b = .ok p) :
    p.Valid ↔ (asked cs).props.size < 4294967296 ∧
      if (asked cs).will.isSome then (asked cs).willProps.size < 4294967296
      else (asked cs).willProps = [] := by
  obtain ⟨-, hps, hwps, -⟩ := calls_setters (f := .initial) hc rfl rfl
  have hstored := stored_of_build hc h
  have hflag := willFlag_of_build hc h
  obtain ⟨hv, hb, -⟩ := Connect.build_eq_ok.mp h
  obtain ⟨-, hvp, hvw⟩ := validate_eq_ok.mp hv
  rw [← hb.props] at hps hvp
  rw [← hb.willProps] at hwps hvw
  unfold asked at *
  rw [← hps, ← hwps, ← hflag, ← toU32_eq_iff_of_lengthOf hb.propertyLength,
    ← toU32_eq_iff_of_lengthOf hb.willPropertyLength]
  by_cases hw : willFlag p.connectFlags = true
  · rw [if_pos hw]
    constructor
    · intro hvalid
      have hwp := hvalid.willProps
      rw [if_pos hw] at hwp
      exact ⟨hvalid.props.2, hwp.2⟩
    · rintro ⟨hl, hwl⟩
      refine ⟨hstored, ⟨hvp, hl⟩, ?_⟩
      rw [if_pos hw]
      exact ⟨hvw, hwl⟩
  · rw [if_neg hw]
    constructor
    · intro hvalid
      have hwp := hvalid.willProps
      rw [if_neg hw] at hwp
      exact ⟨hvalid.props.2, (Prod.mk.inj hwp).2⟩
    · rintro ⟨hl, hnil⟩
      refine ⟨hstored, ⟨hvp, hl⟩, ?_⟩
      have hzero := lengthOf_eq_ok.mp hb.willPropertyLength
      rw [hnil] at hzero
      have hlen : p.willPropertyLength = .zero := VariableByteInteger.toU32_inj hzero
      rw [if_neg hw, hnil, hlen]

/-- A CONNECT carries all that was asked for exactly when the calls for a will agree, and will
properties come with a will. -/
theorem fields_eq_iff_of_build (hc : ConnectBuilder.new.calls cs = .ok b)
    (h : Connect.build b = .ok p) :
    p.fields = asked cs ↔ WillsAgree (setters cs) ∧
      ((asked cs).will = none → (asked cs).willProps = []) := by
  obtain ⟨hs, hps, hwps, hf⟩ := calls_setters (f := .initial) hc rfl rfl
  have hflag := willFlag_of_build hc h
  obtain ⟨-, hb, -⟩ := Connect.build_eq_ok.mp h
  have hwire : wireFields p.connectFlags p.keepAlive p.clientId p.willTopic p.willPayload p.userName
      p.password = b.toConnectBuilder.fields := by
    rw [hb.connectFlags, hb.keepAlive, hb.clientId, hb.willTopic, hb.willPayload, hb.userName,
      hb.password]
    rfl
  have hasked : (asked cs).toConnectFields =
      (setters cs).foldl Packet.ConnectFields.accept .initial := hf
  have hfields : p.fields = ⟨b.toConnectBuilder.fields, (asked cs).props,
      if (asked cs).will.isSome then (asked cs).willProps else []⟩ := by
    rw [Connect.fields, hwire, hflag, hb.props, hb.willProps, hps, hwps]
    rfl
  rw [hfields, ← Packet.ConnectBuilder.fields_eq_iff hs, ← hasked]
  obtain ⟨common, props, willProps⟩ := asked cs
  cases common.will <;> simp [eq_comm]

/-- A CONNECT that was built parses back and carries all that was asked for exactly when the calls
ask for nothing that cannot be written together. -/
theorem connect_round_trip (cs : List ConnectCall) (b : ConnectBuilder) (p : Connect)
    (hc : ConnectBuilder.new.calls cs = .ok b) (h : Connect.build b = .ok p) :
    RoundTrips Connect.parse p ∧ p.fields = asked cs ↔ Writable cs := by
  rw [Connect.framed.roundTrips_iff, valid_iff_of_build hc h, fields_eq_iff_of_build hc h]
  constructor
  · rintro ⟨⟨⟨hp, hw⟩, -⟩, hagree, hnone⟩
    refine ⟨hp, ?_, hnone, hagree⟩
    split at hw
    · exact hw
    · rw [hw]
      decide
  · intro hcs
    refine ⟨⟨⟨hcs.props, ?_⟩, (Connect.build_eq_ok.mp h).2.2⟩, hcs.agree, hcs.will⟩
    split
    · exact hcs.willProps
    · rename_i hnone
      exact hcs.will (Option.not_isSome_iff_eq_none.mp hnone)

end Build

theorem connect_round_trip_will : ∃ b p,
    ConnectBuilder.new.calls [.setter (.willMessage .empty [1] .exactlyOnce true),
      .willProps [.willDelayInterval 1]] = .ok b ∧ Connect.build b = .ok p ∧
      RoundTrips Connect.parse p := by
  obtain ⟨b, hb⟩ : ∃ b, ConnectBuilder.new.calls
    [.setter (.willMessage .empty [1] .exactlyOnce true), .willProps [.willDelayInterval 1]] =
      .ok b := ⟨_, rfl⟩
  obtain ⟨p, hp⟩ : ∃ p, Connect.build b = .ok p := by
    cases hb
    exact ⟨_, rfl⟩
  refine ⟨b, p, hb, hp, ((connect_round_trip _ b p hb hp).mpr ⟨?_, ?_, nofun, ?_⟩).1⟩
  · decide
  · decide
  · apply (willsAgree_iff _).mp
    rfl

theorem not_roundTrips_of_willProps (cs : List ConnectCall) (hcs : (asked cs).will = none)
    (hne : (asked cs).willProps ≠ []) {b : ConnectBuilder} {p : Connect}
    (hc : ConnectBuilder.new.calls cs = .ok b) (h : Connect.build b = .ok p) :
    ¬ RoundTrips Connect.parse p := by
  rw [Connect.framed.roundTrips_iff, valid_iff_of_build hc h, hcs]
  exact fun hvalid ↦ hne hvalid.1.2

/-- Will properties without a will are stored in the packet, but not written. -/
theorem will_properties_dropped : ∃ b p,
    ConnectBuilder.new.calls [.willProps [.willDelayInterval 1]] = .ok b ∧
      Connect.build b = .ok p ∧ ¬ RoundTrips Connect.parse p ∧ p.fields.willProps = [] := by
  obtain ⟨b, hb⟩ : ∃ b, ConnectBuilder.new.calls [.willProps [.willDelayInterval 1]] = .ok b :=
    ⟨_, rfl⟩
  obtain ⟨p, hp⟩ : ∃ p, Connect.build b = .ok p := by
    cases hb
    exact ⟨_, rfl⟩
  refine ⟨b, p, hb, hp, ?_, ?_⟩
  · apply not_roundTrips_of_willProps [.willProps [.willDelayInterval 1]] rfl _ hb hp
    exact List.cons_ne_nil _ _
  · rw [Connect.fields, willFlag_of_build hb hp]
    rfl

end MqttProtocolCore.Packet.V50
