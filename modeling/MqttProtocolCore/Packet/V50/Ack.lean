import MqttProtocolCore.Packet.Parse

namespace MqttProtocolCore.Packet.V50

open General

variable {w : IdWidth} {C : Type}

structure Ack (w : IdWidth) (C : Type) where
  remainingLength : VariableByteInteger
  id : {id : PacketId w // id ≠ 0}
  reasonCode : Option C
  properties : Option (VariableByteInteger × Properties)
deriving DecidableEq

abbrev Puback (w : IdWidth) := Ack w PubackReasonCode

abbrev Pubrec (w : IdWidth) := Ack w PubrecReasonCode

abbrev Pubrel (w : IdWidth) := Ack w PubrelReasonCode

abbrev Pubcomp (w : IdWidth) := Ack w PubcompReasonCode

def buildProperties (validate : Properties → Fallible MqttError Unit) (props : Option Properties) :
    Fallible MqttError (Option (VariableByteInteger × Properties)) :=
  match props with
  | some props => do
    validate props
    return some (← lengthOf props.size, props)
  | none => .ok none

namespace Ack

def packetId (p : Ack w C) : PacketId w := p.id.val

def size (p : Ack w C) : ℕ := packetSize p.remainingLength

def validateAckProperties : Properties → Fallible MqttError Unit :=
  validateProperties [.reasonString] [.userProperty]

def build (id : PacketId w) (reasonCode : Option C) (props : Option Properties) :
    Fallible MqttError (Ack w C) :=
  if h : id ≠ 0 then do
    .require (¬ (reasonCode = none ∧ props.isSome)) .malformedPacket
    let properties ← buildProperties validateAckProperties props
    let remainingLength ← lengthOf (w.bufferSize + reasonSize (reasonCode, properties))
    return ⟨remainingLength, ⟨id, h⟩, reasonCode, properties⟩
  else .err .malformedPacket

def parse [ReasonCode C] (data : Bytes) : Fallible MqttError (Ack w C × ℕ) := do
  let (id, cursor) ← parseNonZeroPacketId w data
  let (reason, cursor) ← parseReasonProperties C validateAckProperties data cursor
  let remainingLength ← lengthOf (w.bufferSize + reasonSize reason)
  return (⟨remainingLength, id, reason.1, reason.2⟩, cursor)

end Ack

structure Disconnect where
  remainingLength : VariableByteInteger
  reasonCode : Option DisconnectReasonCode
  properties : Option (VariableByteInteger × Properties)
deriving DecidableEq

namespace Disconnect

def size (p : Disconnect) : ℕ := packetSize p.remainingLength

def validateDisconnectProperties : Properties → Fallible MqttError Unit :=
  validateProperties [.sessionExpiryInterval, .reasonString, .serverReference] [.userProperty]

def build (reasonCode : Option DisconnectReasonCode) (props : Option Properties) :
    Fallible MqttError Disconnect := do
  .require (¬ (reasonCode = none ∧ props.isSome)) .malformedPacket
  let properties ← buildProperties validateDisconnectProperties props
  let remainingLength ← lengthOf (reasonSize (reasonCode, properties))
  return ⟨remainingLength, reasonCode, properties⟩

def parse (data : Bytes) : Fallible MqttError (Disconnect × ℕ) := do
  let (reason, cursor) ←
    parseReasonProperties DisconnectReasonCode validateDisconnectProperties data 0
  let remainingLength ← lengthOf (reasonSize reason)
  return (⟨remainingLength, reason.1, reason.2⟩, cursor)

end Disconnect

structure Auth where
  remainingLength : VariableByteInteger
  reasonCode : Option AuthReasonCode
  properties : Option (VariableByteInteger × Properties)
deriving DecidableEq

namespace Auth

def size (p : Auth) : ℕ := packetSize p.remainingLength

def validateAuthProperties : Properties → Fallible MqttError Unit :=
  validateProperties [.authenticationMethod, .authenticationData, .reasonString] [.userProperty]

/-- The rules that tie the reason code to the authentication properties. -/
def validateAuthPacket (reasonCode : Option AuthReasonCode)
    (properties : Option (VariableByteInteger × Properties)) : Fallible MqttError Unit :=
  match properties with
  | some (_, props) => do
    validateAuthProperties props
    let has (id : PropertyId) : Prop := id ∈ props.map Property.id
    .require (has .authenticationData → has .authenticationMethod) .protocolError
    .require ((∀ rc ∈ reasonCode, rc = .success) ∨ has .authenticationMethod) .protocolError
  | none => .require (∀ rc ∈ reasonCode, rc = .success) .protocolError

def parse (data : Bytes) : Fallible MqttError (Auth × ℕ) := do
  let (reason, cursor) ← parseReasonProperties AuthReasonCode (fun _ ↦ .ok ()) data 0
  validateAuthPacket reason.1 reason.2
  let remainingLength ← lengthOf (reasonSize reason)
  return (⟨remainingLength, reason.1, reason.2⟩, cursor)

end Auth

section Safety

variable {data : Bytes}

theorem Ack.packetId_ne (p : Ack w C) : p.packetId ≠ 0 := p.id.2

theorem Ack.build_zero (reasonCode : Option C) (props : Option Properties) :
    Ack.build (0 : PacketId w) reasonCode props = .err .malformedPacket := dif_neg (by simp)

/-- Without properties the builder refuses nothing but the identifier 0. -/
theorem Ack.build_spec {id : PacketId w} (reasonCode : Option C) (h : id ≠ 0) :
    ∃ p : Ack w C, Ack.build id reasonCode none = .ok p ∧ p.packetId = id ∧
      p.reasonCode = reasonCode ∧ p.size = 2 + (w.bufferSize + if reasonCode.isSome then 1 else 0) := by
  have hlen : w.bufferSize + reasonSize (reasonCode, none) ≤ 5 := by
    unfold reasonSize
    cases w <;> simp only [IdWidth.bufferSize, Option.elim_none] <;> split <;> omega
  obtain ⟨v, hv, hn⟩ := exists_lengthOf (n := w.bufferSize + reasonSize (reasonCode, none))
    (by rw [VariableByteInteger.max]; omega)
  refine ⟨⟨v, ⟨id, h⟩, reasonCode, none⟩, ?_, rfl, rfl, ?_⟩
  · simp [Ack.build, h, buildProperties, hv, Fallible.require]
  · rw [Ack.size, packetSize_eq, hn, VariableByteInteger.sizeOf, if_pos (by omega)]
    simp [reasonSize]

theorem Ack.parses_parse [ReasonCode C] (hmax : data.length ≤ VariableByteInteger.max) :
    Parses (fun _ ↦ 0) data (Ack.parse data : Fallible MqttError (Ack w C × ℕ)) := by
  refine (parses_parseNonZeroPacketId w data).bind fun ⟨id, _⟩ h ↦ ?_
  refine (parsesFrom_parseReasonProperties C (yields_validateProperties _ _) hmax h.2).bind
    fun r hr ↦ ?_
  refine (yields_lengthOf ?_).bind fun _ _ ↦ ⟨Nat.zero_le _, hr.2⟩
  dsimp only at h hr
  omega

/-- A DISCONNECT with nothing but a reason code takes three bytes. -/
theorem Disconnect.build_spec (reasonCode : DisconnectReasonCode) :
    ∃ p, Disconnect.build (some reasonCode) none = .ok p ∧ p.reasonCode = some reasonCode ∧
      p.size = 3 := by
  obtain ⟨v, hv, hn⟩ := exists_lengthOf (n := 1) (by simp [VariableByteInteger.max])
  refine ⟨⟨v, some reasonCode, none⟩, ?_, rfl, ?_⟩
  · simp [build, buildProperties, Fallible.require, reasonSize, hv]
  · simp [size, packetSize_eq, hn, VariableByteInteger.sizeOf]

theorem Disconnect.parses_parse (hmax : data.length ≤ VariableByteInteger.max) :
    Parses (fun _ ↦ 0) data (Disconnect.parse data) := by
  refine (parsesFrom_parseReasonProperties _ (yields_validateProperties _ _) hmax
    (Nat.zero_le _)).bind fun r hr ↦ ?_
  refine (yields_lengthOf ?_).bind fun _ _ ↦ ⟨Nat.zero_le _, hr.2⟩
  omega

theorem Auth.yields_validateAuthPacket (reasonCode : Option AuthReasonCode)
    (properties : Option (VariableByteInteger × Properties)) :
    (Auth.validateAuthPacket reasonCode properties).Yields fun _ ↦ True := by
  unfold Auth.validateAuthPacket
  split
  · refine (yields_validateProperties _ _ _).bind fun _ _ ↦ ?_
    refine Fallible.yields_require.bind fun _ _ ↦ ?_
    exact Fallible.yields_require.mono fun _ _ ↦ trivial
  · exact Fallible.yields_require.mono fun _ _ ↦ trivial

theorem Auth.parses_parse (hmax : data.length ≤ VariableByteInteger.max) :
    Parses (fun _ ↦ 0) data (Auth.parse data) := by
  have hv (_ : Properties) : (Fallible.ok () : Fallible MqttError Unit).Yields fun _ ↦ True := trivial
  refine (parsesFrom_parseReasonProperties _ hv hmax (Nat.zero_le _)).bind fun r hr ↦
    (Auth.yields_validateAuthPacket r.1.1 r.1.2).bind fun _ _ ↦ ?_
  refine (yields_lengthOf ?_).bind fun _ _ ↦ ⟨Nat.zero_le _, hr.2⟩
  omega

end Safety

end MqttProtocolCore.Packet.V50
