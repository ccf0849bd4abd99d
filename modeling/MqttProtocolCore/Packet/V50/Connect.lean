import MqttProtocolCore.Packet.Parse

namespace MqttProtocolCore.Packet.V50

open General

structure Connect where
  remainingLength : VariableByteInteger
  connectFlags : UInt8
  keepAlive : U16
  propertyLength : VariableByteInteger
  props : Properties
  clientId : MqttString
  willPropertyLength : VariableByteInteger
  willProps : Properties
  willTopic : MqttString
  willPayload : MqttBinary
  userName : MqttString
  password : MqttBinary
deriving DecidableEq

namespace Connect

def cleanStart (p : Connect) : Bool := p.connectFlags &&& 0b00000010 ≠ 0

def size (p : Connect) : ℕ := packetSize p.remainingLength

def validateConnectProperties : Properties → Fallible MqttError Unit :=
  validateProperties
    [.sessionExpiryInterval, .receiveMaximum, .maximumPacketSize, .topicAliasMaximum,
      .requestResponseInformation, .requestProblemInformation, .authenticationMethod,
      .authenticationData]
    [.userProperty]

def validateWillProperties : Properties → Fallible MqttError Unit :=
  validateProperties
    [.willDelayInterval, .payloadFormatIndicator, .messageExpiryInterval, .contentType,
      .responseTopic, .correlationData]
    [.userProperty]

def parseWillProperties (will : Bool) (data : Bytes) (cursor : ℕ) :
    Fallible MqttError ((VariableByteInteger × Properties) × ℕ) :=
  if will then parseProperties validateWillProperties data cursor
  else do return ((← lengthOf 0, []), cursor)

def parse (data : Bytes) : Fallible MqttError (Connect × ℕ) := do
  let ((connectFlags, keepAlive), cursor) ← parseConnectHeader 0x05 data
  let ((propertyLength, props), cursor) ← parseProperties validateConnectProperties data cursor
  let (clientId, cursor) ←
    parseAt (fun d ↦ mapErr .clientIdentifierNotValid (MqttString.decode d)) data cursor
  let will := willFlag connectFlags
  let ((willPropertyLength, willProps), cursor) ← parseWillProperties will data cursor
  let (willTopic, cursor) ← parseIf will .default MqttString.decode data cursor
  let (willPayload, cursor) ← parseIf will .default MqttBinary.decode data cursor
  let ((userName, password), cursor) ← parseCredentials connectFlags data cursor
  let remainingLength ← lengthOf cursor
  return (⟨remainingLength, connectFlags, keepAlive, propertyLength, props, clientId,
    willPropertyLength, willProps, willTopic, willPayload, userName, password⟩, cursor)

end Connect

structure Connack where
  remainingLength : VariableByteInteger
  ackFlags : UInt8
  reasonCode : ConnectReasonCode
  propertyLength : VariableByteInteger
  props : Properties
deriving DecidableEq

namespace Connack

def sessionPresent (p : Connack) : Bool := p.ackFlags &&& 0b00000001 ≠ 0

def size (p : Connack) : ℕ := packetSize p.remainingLength

def validateConnackProperties : Properties → Fallible MqttError Unit :=
  validateProperties
    [.sessionExpiryInterval, .receiveMaximum, .maximumQos, .retainAvailable, .maximumPacketSize,
      .assignedClientIdentifier, .topicAliasMaximum, .reasonString, .wildcardSubscriptionAvailable,
      .subscriptionIdentifierAvailable, .sharedSubscriptionAvailable, .serverKeepAlive,
      .responseInformation, .serverReference, .authenticationMethod, .authenticationData]
    [.userProperty]

def build (sessionPresent : Bool) (reasonCode : ConnectReasonCode) (props : Properties) :
    Fallible MqttError Connack := do
  validateConnackProperties props
  let propertyLength ← lengthOf props.size
  let remainingLength ← lengthOf (1 + 1 + propertyLength.size + props.size)
  return ⟨remainingLength, if sessionPresent then 1 else 0, reasonCode, propertyLength, props⟩

def parse (data : Bytes) : Fallible MqttError (Connack × ℕ) := do
  .require (3 ≤ data.length) .malformedPacket
  let ackFlags ← index data 0
  match ConnectReasonCode.tryFrom (← index data 1) with
  | none => .err .malformedPacket
  | some reasonCode =>
    let ((propertyLength, props), cursor) ← parseProperties validateConnackProperties data 2
    let remainingLength ← lengthOf cursor
    return (⟨remainingLength, ackFlags, reasonCode, propertyLength, props⟩, cursor)

end Connack

section Safety

variable {data : Bytes}

theorem Connect.parsesFrom_parseWillProperties {cursor : ℕ} (will : Bool)
    (hmax : data.length ≤ VariableByteInteger.max) (hc : cursor ≤ data.length) :
    ParsesFrom (fun _ ↦ 0) data cursor (Connect.parseWillProperties will data cursor) := by
  unfold Connect.parseWillProperties
  split
  · refine (parsesFrom_parseProperties (yields_validateProperties _ _) hmax hc).mono fun r hr ↦ ?_
    dsimp only
    omega
  · exact (yields_lengthOf (Nat.zero_le _)).bind fun _ _ ↦ ⟨le_rfl, hc⟩

theorem Connect.parses_parse (hmax : data.length ≤ VariableByteInteger.max) :
    Parses (fun _ ↦ 0) data (Connect.parse data) := by
  refine (parses_parseConnectHeader 0x05 data).bind fun ⟨⟨flags, _⟩, _⟩ h ↦ ?_
  refine (parsesFrom_parseProperties (yields_validateProperties _ _) hmax h.2).bind
    fun ⟨⟨_, _⟩, _⟩ h ↦ ?_
  refine (parsesFrom_parseAt (fun d _ ↦ parses_mapErr (MqttString.parses_decode d)) h.2).bind
    fun _ h ↦ ?_
  refine (Connect.parsesFrom_parseWillProperties _ hmax h.2).bind fun ⟨⟨_, _⟩, _⟩ h ↦ ?_
  refine (parsesFrom_parseIf MqttString.parses_decode h.2).bind fun _ h ↦ ?_
  refine (parsesFrom_parseIf MqttBinary.parses_decode h.2).bind fun _ h ↦ ?_
  refine (parsesFrom_parseCredentials flags h.2).bind fun ⟨⟨_, _⟩, _⟩ h ↦ ?_
  exact (yields_lengthOf (le_trans h.2 hmax)).bind fun _ _ ↦ ⟨Nat.zero_le _, h.2⟩

theorem Connack.parses_parse (hmax : data.length ≤ VariableByteInteger.max) :
    Parses (fun _ ↦ 0) data (Connack.parse data) := by
  refine Fallible.yields_require.bind fun _ h ↦ (yields_index (by omega)).bind fun flags _ ↦ ?_
  refine (yields_index (by omega)).bind fun code _ ↦ ?_
  cases ConnectReasonCode.tryFrom code with
  | none => trivial
  | some reasonCode =>
    refine (parsesFrom_parseProperties (yields_validateProperties _ _) hmax (by omega)).bind
      fun ⟨⟨_, _⟩, _⟩ h ↦ ?_
    exact (yields_lengthOf (le_trans h.2 hmax)).bind fun _ _ ↦ ⟨Nat.zero_le _, h.2⟩

theorem Connack.build_spec (sessionPresent : Bool) (reasonCode : ConnectReasonCode) :
    ∃ p, Connack.build sessionPresent reasonCode [] = .ok p ∧ p.sessionPresent = sessionPresent ∧
      p.reasonCode = reasonCode ∧ p.props = [] ∧ p.size = 5 := by
  obtain ⟨l, hl, hl0⟩ := exists_lengthOf (n := 0) (Nat.zero_le _)
  have hsize : l.size = 1 := by simp [VariableByteInteger.size_eq_sizeOf, hl0, VariableByteInteger.sizeOf]
  obtain ⟨v, hv, hn⟩ := exists_lengthOf (n := 3) (by simp [VariableByteInteger.max])
  refine ⟨⟨v, if sessionPresent then 1 else 0, reasonCode, l, []⟩, ?_, ?_, rfl, rfl, ?_⟩
  · simp [build, validateConnackProperties, validateProperties, Properties.size, hl, hsize, hv]
  · cases sessionPresent <;> simp [Connack.sessionPresent]
  · simp [size, packetSize_eq, hn, VariableByteInteger.sizeOf]

end Safety

end MqttProtocolCore.Packet.V50
