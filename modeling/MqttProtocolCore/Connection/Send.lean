import MqttProtocolCore.Connection.State

namespace MqttProtocolCore.Connection.GenericConnection

open General Packet

variable {w : IdWidth}

/-- A packet that is sent on an established connection and leaves nothing behind. -/
def sendConnected (c : GenericConnection w) (packet : GenericPacket w) : Handled w :=
  if c.status ≠ .connected then c.reject .packetNotAllowedToSend else c.request packet none

def processSendV311Connect (c : GenericConnection w) (packet : V311.Connect) :
    Handled w :=
  if c.status ≠ .disconnected then c.reject .packetNotAllowedToSend
  else
    let c := { c.initializeState true with
      status := .connecting
      pingreqKeepAliveMs := packet.keepAlive * 1000 }
    let c := if packet.cleanStart then c.clearStoreRelated else { c with needStore := true }
    { c with topicAliasSend := none }.request (.v311Connect packet) none

def announceConnect (c : GenericConnection w) : Property → GenericConnection w
  | .topicAliasMaximum v => if v ≠ 0 then { c with topicAliasRecv := some (.new v) } else c
  | .receiveMaximum v => { c with publishRecvMax := some v }
  | .maximumPacketSize v => { c with maximumPacketSizeRecv := v.val }
  | .sessionExpiryInterval v => if v ≠ 0 then { c with needStore := true } else c
  | _ => c

def processSendV50Connect (c : GenericConnection w) (packet : V50.Connect) :
    Outcome (Handled w) :=
  c.limited packet.size <|
    if c.status ≠ .disconnected then return c.reject .packetNotAllowedToSend
    else
      let c := { c.initializeState true with
        status := .connecting
        pingreqKeepAliveMs := packet.keepAlive * 1000 }
      let c := if packet.cleanStart then c.clearStoreRelated else c
      let c := packet.props.foldl announceConnect c
      return c.request (.v50Connect packet) none

def finishConnack (c : GenericConnection w) (accepted : Bool) (packet : GenericPacket w) :
    Outcome (Handled w) :=
  if ¬ accepted then
    let (c, cancels) := { c with status := .disconnected }.cancelTimers
    return (c, .requestSendPacket packet none :: cancels ++ [.requestClose])
  else do
    let (c, stored) ← { c with status := .connected }.sendStored
    let (c, timers) := c.sendPostProcess
    return (c, .requestSendPacket packet none :: stored ++ timers)

def processSendV311Connack (c : GenericConnection w) (packet : V311.Connack) :
    Outcome (Handled w) :=
  if c.status ≠ .connecting then return c.reject .packetNotAllowedToSend
  else c.finishConnack (packet.returnCode = .accepted) (.v311Connack packet)

def announceConnack (c : GenericConnection w) : Property → Handled w
  | .topicAliasMaximum v => (if v ≠ 0 then { c with topicAliasRecv := some (.new v) } else c, [])
  | .receiveMaximum v => ({ c with publishRecvMax := some v }, [])
  | .maximumPacketSize v => ({ c with maximumPacketSizeRecv := v.val }, [])
  | .serverKeepAlive v =>
    if v = 0 then
      ({ c with pingreqRecvSet := false, pingreqRecvTimeoutMs := 0 },
        cancelEvents c.pingreqRecvSet .pingreqRecv)
    else
      ({ c with pingreqRecvSet := true, pingreqRecvTimeoutMs := v * 1000 * 3 / 2 },
        [.requestTimerReset .pingreqRecv (v * 1000 * 3 / 2)])
  | _ => (c, [])

def announceAll (announce : GenericConnection w → Property → Handled w)
    (c : GenericConnection w) : Properties → Handled w
  | [] => (c, [])
  | prop :: props =>
    let (c, events) := announce c prop
    let (c, rest) := announceAll announce c props
    (c, events ++ rest)

def processSendV50Connack (c : GenericConnection w) (packet : V50.Connack) :
    Outcome (Handled w) :=
  c.limited packet.size <|
    if c.status ≠ .connecting then return c.reject .packetNotAllowedToSend
    else do
      let accepted : Bool := packet.reasonCode = .success
      let (c, events) := if accepted then c.announceAll announceConnack packet.props else (c, [])
      let (c, rest) ← c.finishConnack accepted (.v50Connack packet)
      return (c, events ++ rest)

def publishAck (qos : Qos) : AckKind := if qos = .exactlyOnce then .pubrec else .puback

def storesPublish (c : GenericConnection w) : Bool :=
  c.needStore ∧ (c.status ≠ .disconnected ∨ c.offlinePublish)

def cannotPublish (c : GenericConnection w) : Bool :=
  c.status ≠ .connected ∧ ¬ c.needStore ∧ ¬ c.offlinePublish

/-- The end of a PUBLISH handler: what is not connected waits in the store. -/
def transmit (c : GenericConnection w) (packet : GenericPacket w)
    (releasePacketIdIfSendError : Option (PacketId w)) : Handled w :=
  if c.status = .connected then c.request packet releasePacketIdIfSendError else (c, [])

def processSendV311Publish (c : GenericConnection w) (packet : V311.Publish w) :
    Outcome (Handled w) :=
  match packet.packetId with
  | some id =>
    if c.cannotPublish then c.refuse .packetNotAllowedToSend (some id)
    else if ¬ c.pidMan.isUsedId id then return c.reject .packetIdentifierInvalid
    else if c.storesPublish then do
      let c ← c.storeAdd (.v311Publish (packet.setDup true))
      return (c.await (publishAck packet.qos) id).transmit (.v311Publish packet) none
    else return (c.await (publishAck packet.qos) id).transmit (.v311Publish packet) (some id)
  | none =>
    if c.status ≠ .connected then return c.reject .packetNotAllowedToSend
    else return c.transmit (.v311Publish packet) none

/-- The copy of a PUBLISH for the store, which names its topic itself; `none` when the topic alias
of a PUBLISH without a topic is not known. -/
def storablePublish (c : GenericConnection w) (packet : V50.Publish w) :
    Outcome (Option (V50.Publish w) × GenericConnection w) :=
  if packet.topicName.isEmpty then
    match c.validateTopicAlias (V50.topicAliasOf packet.props) with
    | (none, c) => return (none, c)
    | (some topic, c) => do
      let stored ← (packet.removeTopicAliasAddTopic topic).unwrap
      return (some (stored.setDup true), c)
  else do
    let stored ← packet.removeTopicAlias.unwrap
    return (some (stored.setDup true), c)

def registerTopicAlias (c : GenericConnection w) (topic : Utf8String) (topicAlias : U16) :
    Outcome (GenericConnection w) :=
  match c.topicAliasSend with
  | some s => do
    let s ← s.insertOrUpdate topic topicAlias
    return { c with topicAliasSend := some s }
  | none => return c

/-- `auto_map_topic_alias_send`: use the alias of the topic, or bind the one used longest ago. -/
def autoMapTopicAlias (c : GenericConnection w) (packet : V50.Publish w) :
    Outcome (V50.Publish w × GenericConnection w) :=
  match c.topicAliasSend with
  | none => return (packet, c)
  | some s =>
    match s.findByTopic packet.topicName.asStr with
    | some found => do return (← (packet.removeTopicAddTopicAlias found).unwrap, c)
    | none => do
      let lru ← s.getLruAlias
      let s ← s.insertOrUpdate packet.topicName.asStr lru
      return (← (packet.removeTopicAddTopicAlias lru).unwrap, { c with topicAliasSend := some s })

def autoReplaceTopicAlias (c : GenericConnection w) (packet : V50.Publish w) :
    Outcome (V50.Publish w) :=
  match c.topicAliasSend.bind fun s ↦ s.findByTopic packet.topicName.asStr with
  | some found => (packet.removeTopicAddTopicAlias found).unwrap
  | none => return packet

def applyTopicAlias (c : GenericConnection w) (packet : V50.Publish w) (validated : Bool) :
    Outcome (Option (V50.Publish w) × GenericConnection w) :=
  if packet.topicName.isEmpty then
    if validated then return (some packet, c)
    else
      match c.validateTopicAlias (V50.topicAliasOf packet.props) with
      | (none, c) => return (none, c)
      | (some _, c) => return (some packet, c)
  else
    match V50.topicAliasOf packet.props with
    | some ta =>
      if c.validateTopicAliasRange ta then do
        return (some packet, ← c.registerTopicAlias packet.topicName.asStr ta)
      else return (none, c)
    | none =>
      if c.status = .connected ∧ c.autoMapTopicAliasSend then do
        let (packet, c) ← c.autoMapTopicAlias packet
        return (some packet, c)
      else if c.status = .connected ∧ c.autoReplaceTopicAliasSend then do
        return (some (← c.autoReplaceTopicAlias packet), c)
      else return (some packet, c)

def countPublish (c : GenericConnection w) (id : Option (PacketId w)) :
    Outcome (Option (GenericConnection w)) :=
  match id, c.publishSendMax with
  | some _, some max =>
    if c.publishSendCount = max then return none
    else if h : c.publishSendCount < 65535 then
      return some { c with publishSendCount := ⟨c.publishSendCount + 1, by
        simp only [Fin.lt_def] at h
        omega⟩ }
    else .panic
  | _, _ => return some c

/-- The second half of the handler, from the topic alias to the transmission. -/
def sendV50Publish (c : GenericConnection w) (packet : V50.Publish w) (validated : Bool)
    (releasePacketIdIfSendError : Option (PacketId w)) : Outcome (Handled w) := do
  match ← c.applyTopicAlias packet validated with
  | (none, c) => c.refuse .packetNotAllowedToSend packet.packetId
  | (some packet', c) =>
    match ← c.countPublish packet.packetId with
    | none => c.refuse .receiveMaximumExceeded packet.packetId
    | some c => return c.transmit (.v50Publish packet') releasePacketIdIfSendError

def processSendV50Publish (c : GenericConnection w) (packet : V50.Publish w) :
    Outcome (Handled w) :=
  c.limited packet.size <|
    match packet.packetId with
    | some id =>
      if c.cannotPublish then c.refuse .packetNotAllowedToSend (some id)
      else if ¬ c.pidMan.isUsedId id then return c.reject .packetIdentifierInvalid
      else if c.storesPublish then do
        match ← c.storablePublish packet with
        | (none, c) => c.refuse .packetNotAllowedToSend (some id)
        | (some stored, c) =>
          let c ← c.storeAdd (.v50Publish stored)
          (c.await (publishAck packet.qos) id).sendV50Publish packet packet.topicName.isEmpty none
      else (c.await (publishAck packet.qos) id).sendV50Publish packet false (some id)
    | none =>
      if c.status ≠ .connected then return c.reject .packetNotAllowedToSend
      else c.sendV50Publish packet false none

def processSendV311Puback (c : GenericConnection w) (packet : V311.Puback w) :
    Handled w :=
  c.sendConnected (.v311Puback packet)

def processSendV311Pubrec (c : GenericConnection w) (packet : V311.Pubrec w) :
    Handled w :=
  c.sendConnected (.v311Pubrec packet)

def processSendV311Pubcomp (c : GenericConnection w) (packet : V311.Pubcomp w) :
    Handled w :=
  c.sendConnected (.v311Pubcomp packet)

def answered (c : GenericConnection w) (id : PacketId w) : GenericConnection w :=
  { c with publishRecv := c.publishRecv.remove id }

def processSendV50Puback (c : GenericConnection w) (packet : V50.Puback w) :
    Outcome (Handled w) :=
  c.limited packet.size <|
    if c.status ≠ .connected then return c.reject .packetNotAllowedToSend
    else return (c.answered packet.packetId).request (.v50Puback packet) none

def processSendV50Pubrec (c : GenericConnection w) (packet : V50.Pubrec w) :
    Outcome (Handled w) :=
  c.limited packet.size <|
    if c.status ≠ .connected then return c.reject .packetNotAllowedToSend
    else
      let id := packet.packetId
      let c := if packet.reasonCode.any PubrecReasonCode.isFailure then
          { c.answered id with qos2PublishHandled := c.qos2PublishHandled.remove id }
        else c
      return c.request (.v50Pubrec packet) none

def processSendV50Pubcomp (c : GenericConnection w) (packet : V50.Pubcomp w) :
    Outcome (Handled w) :=
  c.limited packet.size <|
    if c.status ≠ .connected then return c.reject .packetNotAllowedToSend
    else return (c.answered packet.packetId).request (.v50Pubcomp packet) none

def sendPubrel (c : GenericConnection w) (id : PacketId w) (packet : GenericStorePacket w) :
    Outcome (Handled w) :=
  if c.status ≠ .connected ∧ ¬ c.needStore then return c.reject .packetNotAllowedToSend
  else if ¬ c.pidMan.isUsedId id then return c.reject .packetIdentifierInvalid
  else do
    let c ← if c.needStore then c.storeAdd packet else pure c
    if c.status = .connected then return (c.await .pubcomp id).request packet.toPacket none
    else return c.sendPostProcess

def processSendV311Pubrel (c : GenericConnection w) (packet : V311.Pubrel w) :
    Outcome (Handled w) :=
  c.sendPubrel packet.packetId (.v311Pubrel packet)

def processSendV50Pubrel (c : GenericConnection w) (packet : V50.Pubrel w) :
    Outcome (Handled w) :=
  c.limited packet.size (c.sendPubrel packet.packetId (.v50Pubrel packet))

def sendSubscription (c : GenericConnection w) (kind : AckKind) (id : PacketId w)
    (packet : GenericPacket w) : Outcome (Handled w) :=
  if c.status ≠ .connected then c.refuse .packetNotAllowedToSend (some id)
  else if ¬ c.pidMan.isUsedId id then return c.reject .packetIdentifierInvalid
  else return (c.await kind id).request packet (some id)

def processSendV311Subscribe (c : GenericConnection w) (packet : V311.Subscribe w) :
    Outcome (Handled w) :=
  c.sendSubscription .suback packet.packetId (.v311Subscribe packet)

def processSendV50Subscribe (c : GenericConnection w) (packet : V50.Subscribe w) :
    Outcome (Handled w) :=
  c.limited packet.size (c.sendSubscription .suback packet.packetId (.v50Subscribe packet))

def processSendV311Unsubscribe (c : GenericConnection w) (packet : V311.Unsubscribe w) :
    Outcome (Handled w) :=
  c.sendSubscription .unsuback packet.packetId (.v311Unsubscribe packet)

def processSendV50Unsubscribe (c : GenericConnection w) (packet : V50.Unsubscribe w) :
    Outcome (Handled w) :=
  c.limited packet.size (c.sendSubscription .unsuback packet.packetId (.v50Unsubscribe packet))

def processSendV311Suback (c : GenericConnection w) (packet : V311.Suback w) :
    Handled w :=
  c.sendConnected (.v311Suback packet)

def processSendV50Suback (c : GenericConnection w) (packet : V50.Suback w) :
    Outcome (Handled w) :=
  c.limited packet.size (return c.sendConnected (.v50Suback packet))

def processSendV311Unsuback (c : GenericConnection w) (packet : V311.Unsuback w) :
    Handled w :=
  c.sendConnected (.v311Unsuback packet)

def processSendV50Unsuback (c : GenericConnection w) (packet : V50.Unsuback w) :
    Outcome (Handled w) :=
  c.limited packet.size (return c.sendConnected (.v50Unsuback packet))

def expectPingresp (c : GenericConnection w) : Handled w :=
  if c.pingrespRecvTimeoutMs ≠ 0 then
    ({ c with pingrespRecvSet := true }, [.requestTimerReset .pingrespRecv c.pingrespRecvTimeoutMs])
  else (c, [])

def sendPingreq (c : GenericConnection w) (packet : GenericPacket w) : Handled w :=
  if c.status ≠ .connected then c.reject .packetNotAllowedToSend
  else
    let (c, waits) := c.expectPingresp
    let (c, timers) := c.sendPostProcess
    (c, .requestSendPacket packet none :: waits ++ timers)

def processSendV311Pingreq (c : GenericConnection w) (packet : V311.Pingreq) :
    Handled w :=
  c.sendPingreq (.v311Pingreq packet)

def processSendV50Pingreq (c : GenericConnection w) (packet : V311.Pingreq) :
    Outcome (Handled w) :=
  c.limited packet.size (return c.sendPingreq (.v50Pingreq packet))

def processSendV311Pingresp (c : GenericConnection w) (packet : V311.Pingresp) :
    Handled w :=
  c.sendConnected (.v311Pingresp packet)

def processSendV50Pingresp (c : GenericConnection w) (packet : V311.Pingresp) :
    Outcome (Handled w) :=
  c.limited packet.size (return c.sendConnected (.v50Pingresp packet))

def sendDisconnect (c : GenericConnection w) (packet : GenericPacket w) : Handled w :=
  if c.status ≠ .connected then c.reject .packetNotAllowedToSend
  else
    let (c, cancels) := { c with status := .disconnected }.cancelTimers
    (c, cancels ++ [.requestSendPacket packet none, .requestClose])

def processSendV311Disconnect (c : GenericConnection w) (packet : V311.Disconnect) :
    Handled w :=
  c.sendDisconnect (.v311Disconnect packet)

def processSendV50Disconnect (c : GenericConnection w) (packet : V50.Disconnect) :
    Outcome (Handled w) :=
  c.limited packet.size (return c.sendDisconnect (.v50Disconnect packet))

def processSendV50Auth (c : GenericConnection w) (packet : V50.Auth) :
    Outcome (Handled w) :=
  c.limited packet.size <|
    if c.status = .disconnected then return c.reject .packetNotAllowedToSend
    else return c.request (.v50Auth packet) none

def actsAsClient (role : Role) : Bool := role = .client ∨ role = .any

def actsAsServer (role : Role) : Bool := role = .server ∨ role = .any

/-- The dispatch of a packet to its handler; a packet that the role may not send is rejected. -/
def processSend (c : GenericConnection w) (packet : GenericPacket w) :
    Outcome (Handled w) :=
  let client (handled : Outcome (Handled w)) : Outcome (Handled w) :=
    if actsAsClient c.role then handled else return c.reject .packetNotAllowedToSend
  let server (handled : Outcome (Handled w)) : Outcome (Handled w) :=
    if actsAsServer c.role then handled else return c.reject .packetNotAllowedToSend
  match packet with
  | .v311Connect p => client (return c.processSendV311Connect p)
  | .v50Connect p => client (c.processSendV50Connect p)
  | .v311Connack p => server (c.processSendV311Connack p)
  | .v50Connack p => server (c.processSendV50Connack p)
  | .v311Publish p => c.processSendV311Publish p
  | .v50Publish p => c.processSendV50Publish p
  | .v311Puback p => return c.processSendV311Puback p
  | .v50Puback p => c.processSendV50Puback p
  | .v311Pubrec p => return c.processSendV311Pubrec p
  | .v50Pubrec p => c.processSendV50Pubrec p
  | .v311Pubrel p => c.processSendV311Pubrel p
  | .v50Pubrel p => c.processSendV50Pubrel p
  | .v311Pubcomp p => return c.processSendV311Pubcomp p
  | .v50Pubcomp p => c.processSendV50Pubcomp p
  | .v311Subscribe p => client (c.processSendV311Subscribe p)
  | .v50Subscribe p => client (c.processSendV50Subscribe p)
  | .v311Unsubscribe p => client (c.processSendV311Unsubscribe p)
  | .v50Unsubscribe p => client (c.processSendV50Unsubscribe p)
  | .v311Suback p => server (return c.processSendV311Suback p)
  | .v50Suback p => server (c.processSendV50Suback p)
  | .v311Unsuback p => server (return c.processSendV311Unsuback p)
  | .v50Unsuback p => server (c.processSendV50Unsuback p)
  | .v311Pingreq p => client (return c.processSendV311Pingreq p)
  | .v50Pingreq p => client (c.processSendV50Pingreq p)
  | .v311Pingresp p => server (return c.processSendV311Pingresp p)
  | .v50Pingresp p => server (c.processSendV50Pingresp p)
  | .v311Disconnect p => client (return c.processSendV311Disconnect p)
  | .v50Disconnect p => c.processSendV50Disconnect p
  | .v50Auth p => c.processSendV50Auth p

def send (c : GenericConnection w) (packet : GenericPacket w) : Outcome (Handled w) :=
  if c.protocolVersion ≠ packet.protocolVersion then return c.reject .versionMismatch
  else c.processSend packet

end MqttProtocolCore.Connection.GenericConnection
