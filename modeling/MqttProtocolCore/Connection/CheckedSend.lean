import MqttProtocolCore.Connection.Send

namespace MqttProtocolCore.Connection

open General Packet

variable {w : IdWidth}

/-- The constants that a packet type declares, `false` unless it says otherwise. -/
structure PacketKind where
  isConnect : Bool := false
  isConnack : Bool := false
  isPublish : Bool := false
  isPuback : Bool := false
  isPubrec : Bool := false
  isPubrel : Bool := false
  isPubcomp : Bool := false
  isSubscribe : Bool := false
  isSuback : Bool := false
  isUnsubscribe : Bool := false
  isUnsuback : Bool := false
  isPingreq : Bool := false
  isPingresp : Bool := false
  isDisconnect : Bool := false
  isAuth : Bool := false
  isV311 : Bool := false
  isV50 : Bool := false

def packetKind : GenericPacket w → PacketKind
  | .v311Connect _ => { isConnect := true, isV311 := true }
  | .v50Connect _ => { isConnect := true, isV50 := true }
  | .v311Connack _ => { isConnack := true, isV311 := true }
  | .v50Connack _ => { isConnack := true, isV50 := true }
  | .v311Publish _ => { isPublish := true, isV311 := true }
  | .v50Publish _ => { isPublish := true, isV50 := true }
  | .v311Puback _ => { isPuback := true, isV311 := true }
  | .v50Puback _ => { isPuback := true, isV50 := true }
  | .v311Pubrec _ => { isPubrec := true, isV311 := true }
  | .v50Pubrec _ => { isPubrec := true, isV50 := true }
  | .v311Pubrel _ => { isPubrel := true, isV311 := true }
  | .v50Pubrel _ => { isPubrel := true, isV50 := true }
  | .v311Pubcomp _ => { isPubcomp := true, isV311 := true }
  | .v50Pubcomp _ => { isPubcomp := true, isV50 := true }
  | .v311Subscribe _ => { isSubscribe := true, isV311 := true }
  | .v50Subscribe _ => { isSubscribe := true, isV50 := true }
  | .v311Suback _ => { isSuback := true, isV311 := true }
  | .v50Suback _ => { isSuback := true, isV50 := true }
  | .v311Unsubscribe _ => { isUnsubscribe := true, isV311 := true }
  | .v50Unsubscribe _ => { isUnsubscribe := true, isV50 := true }
  | .v311Unsuback _ => { isUnsuback := true, isV311 := true }
  | .v50Unsuback _ => { isUnsuback := true, isV50 := true }
  | .v311Pingreq _ => { isPingreq := true, isV311 := true }
  | .v50Pingreq _ => { isPingreq := true, isV50 := true }
  | .v311Pingresp _ => { isPingresp := true, isV311 := true }
  | .v50Pingresp _ => { isPingresp := true, isV50 := true }
  | .v311Disconnect _ => { isDisconnect := true, isV311 := true }
  | .v50Disconnect _ => { isDisconnect := true, isV50 := true }
  | .v50Auth _ => { isAuth := true, isV50 := true }

def sendableVersion : GenericPacket w → Version → Bool
  | .v311Connect _, v | .v311Connack _, v | .v311Publish _, v | .v311Puback _, v
  | .v311Pubrec _, v | .v311Pubrel _, v | .v311Pubcomp _, v | .v311Subscribe _, v
  | .v311Suback _, v | .v311Unsubscribe _, v | .v311Unsuback _, v | .v311Pingreq _, v
  | .v311Pingresp _, v | .v311Disconnect _, v => v = .v311
  | .v50Connect _, v | .v50Connack _, v | .v50Publish _, v | .v50Puback _, v
  | .v50Pubrec _, v | .v50Pubrel _, v | .v50Pubcomp _, v | .v50Subscribe _, v
  | .v50Suback _, v | .v50Unsubscribe _, v | .v50Unsuback _, v | .v50Pingreq _, v
  | .v50Pingresp _, v | .v50Disconnect _, v | .v50Auth _, v => v = .v50

/-- The implementations of the marker trait `SendableRole`, which the compiler checks. -/
def sendableRole : Role → GenericPacket w → Bool
  | .client, .v50Connect _ | .client, .v311Connect _
  | .client, .v311Pingreq _ | .client, .v311Disconnect _
  | .client, .v50Pingreq _ | .client, .v50Disconnect _ | .client, .v50Auth _
  | .client, .v311Publish _ | .client, .v311Puback _ | .client, .v311Pubrec _
  | .client, .v311Pubrel _ | .client, .v311Pubcomp _ | .client, .v311Subscribe _
  | .client, .v311Unsubscribe _
  | .client, .v50Publish _ | .client, .v50Puback _ | .client, .v50Pubrec _
  | .client, .v50Pubrel _ | .client, .v50Pubcomp _ | .client, .v50Subscribe _
  | .client, .v50Unsubscribe _ => true
  | .server, .v50Connack _ | .server, .v311Connack _
  | .server, .v311Pingresp _
  | .server, .v50Pingresp _ | .server, .v50Disconnect _ | .server, .v50Auth _
  | .server, .v311Publish _ | .server, .v311Puback _ | .server, .v311Pubrec _
  | .server, .v311Pubrel _ | .server, .v311Pubcomp _ | .server, .v311Suback _
  | .server, .v311Unsuback _
  | .server, .v50Publish _ | .server, .v50Puback _ | .server, .v50Pubrec _
  | .server, .v50Pubrel _ | .server, .v50Pubcomp _ | .server, .v50Suback _
  | .server, .v50Unsuback _ => true
  | .any, _ => true
  | _, _ => false

/-- A packet type's implementations of `SendableHelper`: the roles that have one, the one method
that it overrides and the handler behind it. -/
structure SendableHelper (w : IdWidth) where
  roles : List Role
  method : PacketType × Version
  processMethod : GenericConnection w → Outcome (Handled w)

def sendableHelper : GenericPacket w → SendableHelper w
  | .v311Connect p =>
    ⟨[.client, .any], (.connect, .v311), fun c ↦ return c.processSendV311Connect p⟩
  | .v50Connect p => ⟨[.client, .any], (.connect, .v50), fun c ↦ c.processSendV50Connect p⟩
  | .v311Connack p => ⟨[.server, .any], (.connack, .v311), fun c ↦ c.processSendV311Connack p⟩
  | .v50Connack p => ⟨[.server, .any], (.connack, .v50), fun c ↦ c.processSendV50Connack p⟩
  | .v311Publish p =>
    ⟨[.client, .server, .any], (.publish, .v311), fun c ↦ c.processSendV311Publish p⟩
  | .v50Publish p =>
    ⟨[.client, .server, .any], (.publish, .v50), fun c ↦ c.processSendV50Publish p⟩
  | .v311Puback p =>
    ⟨[.client, .server, .any], (.puback, .v311), fun c ↦ return c.processSendV311Puback p⟩
  | .v50Puback p =>
    ⟨[.client, .server, .any], (.puback, .v50), fun c ↦ c.processSendV50Puback p⟩
  | .v311Pubrec p =>
    ⟨[.client, .server, .any], (.pubrec, .v311), fun c ↦ return c.processSendV311Pubrec p⟩
  | .v50Pubrec p =>
    ⟨[.client, .server, .any], (.pubrec, .v50), fun c ↦ c.processSendV50Pubrec p⟩
  | .v311Pubrel p =>
    ⟨[.client, .server, .any], (.pubrel, .v311), fun c ↦ c.processSendV311Pubrel p⟩
  | .v50Pubrel p =>
    ⟨[.client, .server, .any], (.pubrel, .v50), fun c ↦ c.processSendV50Pubrel p⟩
  | .v311Pubcomp p =>
    ⟨[.client, .server, .any], (.pubcomp, .v311), fun c ↦ return c.processSendV311Pubcomp p⟩
  | .v50Pubcomp p =>
    ⟨[.client, .server, .any], (.pubcomp, .v50), fun c ↦ c.processSendV50Pubcomp p⟩
  | .v311Subscribe p =>
    ⟨[.client, .any], (.subscribe, .v311), fun c ↦ c.processSendV311Subscribe p⟩
  | .v50Subscribe p =>
    ⟨[.client, .any], (.subscribe, .v50), fun c ↦ c.processSendV50Subscribe p⟩
  | .v311Suback p =>
    ⟨[.server, .any], (.suback, .v311), fun c ↦ return c.processSendV311Suback p⟩
  | .v50Suback p => ⟨[.server, .any], (.suback, .v50), fun c ↦ c.processSendV50Suback p⟩
  | .v311Unsubscribe p =>
    ⟨[.client, .any], (.unsubscribe, .v311), fun c ↦ c.processSendV311Unsubscribe p⟩
  | .v50Unsubscribe p =>
    ⟨[.client, .any], (.unsubscribe, .v50), fun c ↦ c.processSendV50Unsubscribe p⟩
  | .v311Unsuback p =>
    ⟨[.server, .any], (.unsuback, .v311), fun c ↦ return c.processSendV311Unsuback p⟩
  | .v50Unsuback p => ⟨[.server, .any], (.unsuback, .v50), fun c ↦ c.processSendV50Unsuback p⟩
  | .v311Pingreq p =>
    ⟨[.client, .any], (.pingreq, .v311), fun c ↦ return c.processSendV311Pingreq p⟩
  | .v50Pingreq p => ⟨[.client, .any], (.pingreq, .v50), fun c ↦ c.processSendV50Pingreq p⟩
  | .v311Pingresp p =>
    ⟨[.server, .any], (.pingresp, .v311), fun c ↦ return c.processSendV311Pingresp p⟩
  | .v50Pingresp p => ⟨[.server, .any], (.pingresp, .v50), fun c ↦ c.processSendV50Pingresp p⟩
  -- the server has the method here, but `SendableRole` withholds the packet from it
  | .v311Disconnect p =>
    ⟨[.client, .server, .any], (.disconnect, .v311),
      fun c ↦ return c.processSendV311Disconnect p⟩
  | .v50Disconnect p =>
    ⟨[.client, .server, .any], (.disconnect, .v50), fun c ↦ c.processSendV50Disconnect p⟩
  | .v50Auth p => ⟨[.client, .server, .any], (.auth, .v50), fun c ↦ c.processSendV50Auth p⟩

def selectMethod (k : PacketKind) : Option (PacketType × Version) :=
  let byVersion (t : PacketType) : Option (PacketType × Version) :=
    if k.isV311 then some (t, .v311) else if k.isV50 then some (t, .v50) else none
  if k.isConnect then byVersion .connect
  else if k.isConnack then byVersion .connack
  else if k.isPublish then byVersion .publish
  else if k.isPuback then byVersion .puback
  else if k.isPubrec then byVersion .pubrec
  else if k.isPubrel then byVersion .pubrel
  else if k.isPubcomp then byVersion .pubcomp
  else if k.isSubscribe then byVersion .subscribe
  else if k.isSuback then byVersion .suback
  else if k.isUnsubscribe then byVersion .unsubscribe
  else if k.isUnsuback then byVersion .unsuback
  else if k.isPingreq then byVersion .pingreq
  else if k.isPingresp then byVersion .pingresp
  else if k.isDisconnect then byVersion .disconnect
  else if k.isAuth then (if k.isV50 then some (.auth, .v50) else none)
  else none

namespace GenericConnection

/-- A call of a method of `SendableHelper`: one that is not overridden is `unreachable!`. -/
def sendMethod (c : GenericConnection w) (packet : GenericPacket w)
    (method : PacketType × Version) : Outcome (Handled w) :=
  if c.role ∈ (sendableHelper packet).roles ∧ method = (sendableHelper packet).method then
    (sendableHelper packet).processMethod c
  else .panic

def dispatchSend (c : GenericConnection w) (packet : GenericPacket w) : Outcome (Handled w) :=
  if ¬ sendableVersion packet c.protocolVersion then return c.reject .versionMismatch
  else
    match selectMethod (packetKind packet) with
    | some method => c.sendMethod packet method
    | none => .panic

/-- `checked_send` of a packet of a known type, which compiles only where the role may send it. -/
def checkedSend (c : GenericConnection w) (packet : GenericPacket w)
    (_ : sendableRole c.role packet) : Outcome (Handled w) :=
  c.dispatchSend packet

theorem sendableVersion_iff (packet : GenericPacket w) (v : Version) :
    sendableVersion packet v = true ↔ v = packet.protocolVersion := by
  cases packet <;> simp [sendableVersion, GenericPacket.protocolVersion]

/-- The constants of a packet select the method that its type overrides. -/
theorem selectMethod_packetKind (packet : GenericPacket w) :
    selectMethod (packetKind packet) = some (sendableHelper packet).method := by
  cases packet <;> rfl

/-- Only one implementation of the method is for a role that may not send the packet. -/
theorem mem_roles_iff (role : Role) (packet : GenericPacket w) :
    role ∈ (sendableHelper packet).roles ↔
      sendableRole role packet ∨ role = .server ∧ ∃ p, packet = .v311Disconnect p := by
  cases packet <;> cases role <;> simp [sendableHelper, sendableRole]

/-- Every role that may send a packet type has the method of the type. -/
theorem mem_roles_of_sendableRole {role : Role} {packet : GenericPacket w}
    (h : sendableRole role packet) : role ∈ (sendableHelper packet).roles := by
  rw [mem_roles_iff]
  exact .inl h

theorem dispatchSend_eq (c : GenericConnection w) (packet : GenericPacket w)
    (h : sendableRole c.role packet) :
    c.dispatchSend packet =
      if c.protocolVersion ≠ packet.protocolVersion then return c.reject .versionMismatch
      else (sendableHelper packet).processMethod c := by
  have hmethod : c.sendMethod packet (sendableHelper packet).method =
      (sendableHelper packet).processMethod c := by
    simp only [sendMethod, mem_roles_of_sendableRole h, true_and, if_true]
  simp only [dispatchSend, sendableVersion_iff, selectMethod_packetKind, hmethod, ne_eq]

/-- The check of the role at run time admits what the compiler admits. -/
theorem processSend_eq (c : GenericConnection w) (packet : GenericPacket w) :
    c.processSend packet =
      if sendableRole c.role packet then (sendableHelper packet).processMethod c
      else return c.reject .packetNotAllowedToSend := by
  cases hrole : c.role <;> cases packet <;>
    simp [processSend, sendableRole, sendableHelper, actsAsClient, actsAsServer, hrole]

/-- The statically checked path is the dynamic one wherever it compiles, and elsewhere the dynamic
one refuses the packet and does nothing. -/
theorem send_eq_checkedSend (c : GenericConnection w) (packet : GenericPacket w) :
    c.send packet =
      if h : sendableRole c.role packet then c.checkedSend packet h
      else if c.protocolVersion ≠ packet.protocolVersion then return c.reject .versionMismatch
      else return c.reject .packetNotAllowedToSend := by
  by_cases h : sendableRole c.role packet
  · simp only [send, checkedSend, processSend_eq, dispatchSend_eq c packet h, h, if_true, dif_pos]
  · simp only [send, processSend_eq, h, dif_neg, not_false_eq_true, Bool.false_eq_true, if_false]

end GenericConnection

end MqttProtocolCore.Connection
