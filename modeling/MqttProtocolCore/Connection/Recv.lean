import MqttProtocolCore.Connection.Send

namespace MqttProtocolCore.Connection.GenericConnection

open General Packet

variable {w : IdWidth} {α : Type}

def received (c : GenericConnection w) (packet : GenericPacket w) : Handled w :=
  let (c, events) := c.refreshPingreqRecv
  (c, events ++ [.notifyPacketReceived packet])

def handleV311Error (c : GenericConnection w) (e : MqttError) : Outcome (Handled w) :=
  return (c, [.requestClose, .notifyError e])

/-- Send DISCONNECT with the reason, then report the error. -/
def handleV50Error (c : GenericConnection w) (e : MqttError) : Outcome (Handled w) := do
  let disconnect ← (V50.Disconnect.build (some e.toDisconnectReasonCode) none).unwrap
  let (c, events) ← c.processSendV50Disconnect disconnect
  return (c, events ++ [.notifyError e])

/-- Go on with the packet that was parsed, or handle the error. -/
def parsed (x : Fallible MqttError (α × ℕ)) (onPacket : α → Outcome (Handled w))
    (onError : MqttError → Outcome (Handled w)) : Outcome (Handled w) :=
  match x with
  | .ok (packet, _) => onPacket packet
  | .err e => onError e
  | .panic => .panic

def connackRefusal : MqttError → ConnectReturnCode
  | .clientIdentifierNotValid => .identifierRejected
  | .badUserNameOrPassword => .badUserNameOrPassword
  | .unsupportedProtocolVersion => .unacceptableProtocolVersion
  | _ => .notAuthorized

def recvV311Connect (c : GenericConnection w) (packet : V311.Connect) : Handled w :=
  let c := c.initializeState false
  let c := if packet.keepAlive > 0 then
      { c with pingreqRecvTimeoutMs := packet.keepAlive * 1000 * 3 / 2 } else c
  let c := if packet.cleanSession then c.clearStoreRelated else { c with needStore := true }
  c.received (.v311Connect packet)

def refuseV311Connect (c : GenericConnection w) (e : MqttError) : Outcome (Handled w) := do
  let connack ← (V311.Connack.build false (connackRefusal e)).unwrap
  let (c, events) ← c.processSendV311Connack connack
  return (c, events ++ [.notifyError e])

def processRecvV311Connect (c : GenericConnection w) (data : Bytes) : Outcome (Handled w) :=
  if c.status ≠ .disconnected then c.handleV311Error .protocolError
  else
    let c := { c with status := .connecting }
    parsed (V311.Connect.parse data) (fun packet ↦ return c.recvV311Connect packet)
      c.refuseV311Connect

def connackReason : MqttError → ConnectReasonCode
  | .clientIdentifierNotValid => .clientIdentifierNotValid
  | .badUserNameOrPassword => .badUserNameOrPassword
  | .unsupportedProtocolVersion => .unsupportedProtocolVersion
  | _ => .unspecifiedError

def noteConnect (c : GenericConnection w) : Property → Outcome (GenericConnection w)
  | .topicAliasMaximum v => do return { c with topicAliasSend := some (← TopicAliasSend.new v) }
  | .receiveMaximum v => return { c with publishSendMax := some v }
  | .maximumPacketSize v => return { c with maximumPacketSizeSend := v.val }
  | .sessionExpiryInterval v => return if v ≠ 0 then { c with needStore := true } else c
  | _ => return c

def recvV50Connect (c : GenericConnection w) (packet : V50.Connect) : Outcome (Handled w) := do
  let c := c.initializeState false
  let c := if packet.keepAlive > 0 then
      { c with pingreqRecvTimeoutMs := packet.keepAlive * 1000 * 3 / 2 } else c
  let c := if packet.cleanStart then c.clearStoreRelated else c
  let c ← packet.props.foldlM noteConnect c
  return c.received (.v50Connect packet)

def refuseV50Connect (c : GenericConnection w) (e : MqttError) : Outcome (Handled w) := do
  let connack ← (V50.Connack.build false (connackReason e) []).unwrap
  let (c, events) ← c.processSendV50Connack connack
  return (c, events ++ [.notifyError e])

def processRecvV50Connect (c : GenericConnection w) (data : Bytes) : Outcome (Handled w) :=
  if c.status ≠ .disconnected then c.handleV50Error .protocolError
  else
    let c := { c with status := .connecting }
    parsed (V50.Connect.parse data) c.recvV50Connect c.refuseV50Connect

def resumeSession (c : GenericConnection w) (sessionPresent : Bool) : Outcome (Handled w) :=
  if sessionPresent then c.sendStored else return (c.clearStoreRelated, [])

def recvV311Connack (c : GenericConnection w) (packet : V311.Connack) : Outcome (Handled w) :=
  if packet.returnCode = .accepted then do
    let (c, events) ← { c with status := .connected }.resumeSession packet.sessionPresent
    return (c, events ++ [.notifyPacketReceived (.v311Connack packet)])
  else return (c, [.notifyPacketReceived (.v311Connack packet)])

def processRecvV311Connack (c : GenericConnection w) (data : Bytes) : Outcome (Handled w) :=
  parsed (V311.Connack.parse data) c.recvV311Connack c.handleV311Error

def noteConnack (c : GenericConnection w) : Property → Outcome (Handled w)
  | .topicAliasMaximum v =>
    if v > 0 then do return ({ c with topicAliasSend := some (← TopicAliasSend.new v) }, []) else return (c, [])
  | .receiveMaximum v => return ({ c with publishSendMax := some v }, [])
  | .maximumPacketSize v => return ({ c with maximumPacketSizeSend := v.val }, [])
  | .serverKeepAlive v =>
    let c := { c with pingreqServerKeepAliveMs := some (v * 1000) }
    if c.pingreqUserSendIntervalMs.isSome then return (c, [])
    else if v = 0 then
      return ({ c with pingreqSendSet := false }, cancelEvents c.pingreqSendSet .pingreqSend)
    else
      return ({ c with pingreqSendSet := true }, [.requestTimerReset .pingreqSend (v * 1000)])
  | _ => return (c, [])

def noteAll (c : GenericConnection w) : Properties → Outcome (Handled w)
  | [] => return (c, [])
  | prop :: props => do
    let (c, events) ← noteConnack c prop
    let (c, rest) ← noteAll c props
    return (c, events ++ rest)

def recvV50Connack (c : GenericConnection w) (packet : V50.Connack) : Outcome (Handled w) :=
  if packet.reasonCode = .success then do
    let (c, events) ← { c with status := .connected }.noteAll packet.props
    let (c, rest) ← c.resumeSession packet.sessionPresent
    return (c, events ++ rest ++ [.notifyPacketReceived (.v50Connack packet)])
  else return (c, [.notifyPacketReceived (.v50Connack packet)])

def handleV50ErrorConnected (c : GenericConnection w) (e : MqttError) : Outcome (Handled w) :=
  if c.status = .connected then c.handleV50Error e else return c.reject e

def processRecvV50Connack (c : GenericConnection w) (data : Bytes) : Outcome (Handled w) :=
  parsed (V50.Connack.parse data) c.recvV50Connack c.handleV50ErrorConnected

/-- A part of a handler that is only run under a condition. -/
def respondIf (c : GenericConnection w) (cond : Prop) [Decidable cond]
    (response : Outcome (Handled w)) : Outcome (Handled w) :=
  if cond then response else return (c, [])

def answers (c : GenericConnection w) : Bool := c.status = .connected ∧ c.autoPubResponse

def recvV311Publish (c : GenericConnection w) (packet : V311.Publish w) : Outcome (Handled w) :=
  match packet.qos, packet.packetId with
  | .atMostOnce, _ => return c.received (.v311Publish packet)
  | .atLeastOnce, some id => do
    let (c, events) ← c.respondIf c.answers do
      return c.processSendV311Puback (← (V311.Ack.build id none).unwrap)
    let (c, rest) := c.received (.v311Publish packet)
    return (c, events ++ rest)
  | .exactlyOnce, some id => do
    let alreadyHandled : Bool := id ∈ c.qos2PublishHandled
    let c := { c with qos2PublishHandled := c.qos2PublishHandled.insert id }
    let (c, events) ← c.respondIf (c.status = .connected ∧ (c.autoPubResponse ∨ alreadyHandled)) do
      return c.processSendV311Pubrec (← (V311.Ack.build id none).unwrap)
    let (c, timers) := c.refreshPingreqRecv
    return (c, events ++ timers ++
      if alreadyHandled then [] else [.notifyPacketReceived (.v311Publish packet)])
  | _, none => .panic

def publishData (raw : RawPacket) : Outcome Bytes :=
  match raw.data with
  | .publish data => .ret data
  | .normal _ => .panic

def processRecvV311Publish (c : GenericConnection w) (raw : RawPacket) : Outcome (Handled w) := do
  parsed (V311.Publish.parse raw.flags (← publishData raw)) c.recvV311Publish c.handleV311Error

inductive Answer where
  | nothing | puback | pubrec
deriving DecidableEq

structure Admission where
  answer : Answer
  alreadyHandled : Bool

def recvMaximumReached (c : GenericConnection w) : Bool :=
  c.publishRecvMax.any fun max ↦ c.publishRecv.len ≥ max

/-- Note the identifier of a PUBLISH; `none` when the receive maximum is exceeded. -/
def admitPublish (c : GenericConnection w) (packet : V50.Publish w) :
    Outcome (Option (Admission × GenericConnection w)) :=
  match packet.qos, packet.packetId with
  | .atMostOnce, _ => return some (⟨.nothing, false⟩, c)
  | .atLeastOnce, some id =>
    if c.recvMaximumReached then return none
    else return some (⟨if c.answers then .puback else .nothing, false⟩,
      { c with publishRecv := c.publishRecv.insert id })
  | .exactlyOnce, some id =>
    if c.recvMaximumReached then return none
    else
      let alreadyHandled : Bool := id ∈ c.qos2PublishHandled
      let responds : Bool := c.status = .connected ∧ (c.autoPubResponse ∨ alreadyHandled)
      return some (⟨if responds then .pubrec else .nothing, alreadyHandled⟩,
        { c with
          publishRecv := c.publishRecv.insert id
          qos2PublishHandled := c.qos2PublishHandled.insert id })
  | _, none => .panic

def validRecvAlias (c : GenericConnection w) (topicAlias : NonZero 65535) : Bool :=
  c.topicAliasRecv.any fun r ↦ topicAlias.val ≤ r.max

/-- The topic of a PUBLISH, or the registration of its alias; `none` when the alias is not valid. -/
def resolveTopic (c : GenericConnection w) (packet : V50.Publish w) :
    Outcome (Option (V50.Publish w × GenericConnection w)) :=
  match V50.topicAliasOf packet.props, c.topicAliasRecv with
  | none, _ => return if packet.topicName.isEmpty then none else some (packet, c)
  | some ta, some r =>
    if ¬ c.validRecvAlias ta then return none
    else if packet.topicName.isEmpty then
      match r.get ta with
      | none => return none
      | some topic =>
        match packet.addExtractedTopicName topic with
        | .ok packet => return some (packet, c)
        | .err _ => return none
        | .panic => .panic
    else do
      let r ← r.insertOrUpdate packet.topicName.asStr ta
      return some (packet, { c with topicAliasRecv := some r })
  | some _, none => return none

def respond (c : GenericConnection w) (answer : Answer) (id : Option (PacketId w)) :
    Outcome (Handled w) :=
  match answer, id with
  | .nothing, _ => return (c, [])
  | .puback, some id => do c.processSendV50Puback (← (V50.Ack.build id none none).unwrap)
  | .pubrec, some id => do c.processSendV50Pubrec (← (V50.Ack.build id none none).unwrap)
  | _, none => .panic

def recvV50Publish (c : GenericConnection w) (packet : V50.Publish w) : Outcome (Handled w) := do
  match ← c.admitPublish packet with
  | none => c.handleV50Error .receiveMaximumExceeded
  | some (admission, c) =>
    match ← c.resolveTopic packet with
    | none => c.handleV50Error .topicAliasInvalid
    | some (packet, c) =>
      let (c, events) ← c.respond admission.answer packet.packetId
      let (c, timers) := c.refreshPingreqRecv
      return (c, events ++ timers ++
        if admission.alreadyHandled then [] else [.notifyPacketReceived (.v50Publish packet)])

def processRecvV50Publish (c : GenericConnection w) (raw : RawPacket) : Outcome (Handled w) := do
  parsed (V50.Publish.parse raw.flags (← publishData raw)) c.recvV50Publish c.handleV50ErrorConnected

def countFinished (c : GenericConnection w) : Outcome (GenericConnection w) :=
  if c.publishSendMax.isSome then
    if c.publishSendCount = 0 then .panic
    else return { c with publishSendCount := ⟨c.publishSendCount - 1, by omega⟩ }
  else return c

def eraseStored (c : GenericConnection w) (response : ResponsePacket) (id : PacketId w) :
    GenericConnection w :=
  { c with store := c.store.erase response id }

/-- An acknowledgement that ends an exchange: it has to be awaited. -/
def recvFinalAck (c : GenericConnection w) (response : ResponsePacket) (kind : AckKind)
    (counted : Bool) (onError : GenericConnection w → MqttError → Outcome (Handled w))
    (id : PacketId w) (packet : GenericPacket w) : Outcome (Handled w) :=
  if id ∈ c.awaiting kind then do
    let c := (c.settle kind id).eraseStored response id
    let (c, released) ← c.releaseIfUsed id
    let c ← if counted then c.countFinished else pure c
    let (c, events) := c.received packet
    return (c, released ++ events)
  else onError c .protocolError

def recvV311Puback (c : GenericConnection w) (packet : V311.Puback w) : Outcome (Handled w) :=
  c.recvFinalAck .v311Puback .puback false handleV311Error packet.packetId (.v311Puback packet)

def recvV50Puback (c : GenericConnection w) (packet : V50.Puback w) : Outcome (Handled w) :=
  c.recvFinalAck .v50Puback .puback true handleV50Error packet.packetId (.v50Puback packet)

def recvV311Pubcomp (c : GenericConnection w) (packet : V311.Pubcomp w) : Outcome (Handled w) :=
  c.recvFinalAck .v311Pubcomp .pubcomp false handleV311Error packet.packetId (.v311Pubcomp packet)

def recvV50Pubcomp (c : GenericConnection w) (packet : V50.Pubcomp w) : Outcome (Handled w) :=
  c.recvFinalAck .v50Pubcomp .pubcomp true handleV50Error packet.packetId (.v50Pubcomp packet)

def recvV311Pubrec (c : GenericConnection w) (packet : V311.Pubrec w) : Outcome (Handled w) :=
  let id := packet.packetId
  if id ∈ c.pidPubrec then do
    let c := (c.settle .pubrec id).eraseStored .v311Pubrec id
    let (c, events) ← c.respondIf c.answers do
      c.processSendV311Pubrel (← (V311.Ack.build id none).unwrap)
    let (c, rest) := c.received (.v311Pubrec packet)
    return (c, events ++ rest)
  else c.handleV311Error .protocolError

def recvV50Pubrec (c : GenericConnection w) (packet : V50.Pubrec w) : Outcome (Handled w) :=
  let id := packet.packetId
  if id ∈ c.pidPubrec then do
    let c := (c.settle .pubrec id).eraseStored .v50Pubrec id
    let (c, events) ←
      if packet.reasonCode.all (· = .success) then
        c.respondIf c.answers do c.processSendV50Pubrel (← (V50.Ack.build id none none).unwrap)
      else do
        let (c, released) ← c.releaseIfUsed id
        pure (← c.countFinished, released)
    let (c, rest) := c.received (.v50Pubrec packet)
    return (c, events ++ rest)
  else c.handleV50Error .protocolError

def recvV311Pubrel (c : GenericConnection w) (packet : V311.Pubrel w) : Outcome (Handled w) := do
  let id := packet.packetId
  let c := { c with qos2PublishHandled := c.qos2PublishHandled.remove id }
  let (c, events) ← c.respondIf c.answers do
    return c.processSendV311Pubcomp (← (V311.Ack.build id none).unwrap)
  let (c, rest) := c.received (.v311Pubrel packet)
  return (c, events ++ rest)

def recvV50Pubrel (c : GenericConnection w) (packet : V50.Pubrel w) : Outcome (Handled w) := do
  let id := packet.packetId
  let reasonCode := if id ∈ c.qos2PublishHandled then none else some .packetIdentifierNotFound
  let c := { c with qos2PublishHandled := c.qos2PublishHandled.remove id }
  let (c, events) ← c.respondIf c.answers do
    c.processSendV50Pubcomp (← (V50.Ack.build id reasonCode none).unwrap)
  let (c, rest) := c.received (.v50Pubrel packet)
  return (c, events ++ rest)

def recvSubscriptionAck (c : GenericConnection w) (kind : AckKind)
    (onError : GenericConnection w → MqttError → Outcome (Handled w))
    (id : PacketId w) (packet : GenericPacket w) : Outcome (Handled w) :=
  if id ∈ c.awaiting kind then do
    let (c, released) ← (c.settle kind id).releaseIfUsed id
    let (c, events) := c.received packet
    return (c, released ++ events)
  else onError c .protocolError

def answersPing (c : GenericConnection w) : Bool :=
  actsAsServer c.role ∧ ¬ c.isClient ∧ c.autoPingResponse ∧ c.status = .connected

def recvV311Pingreq (c : GenericConnection w) (packet : V311.Pingreq) : Outcome (Handled w) := do
  let (c, events) ← c.respondIf c.answersPing do
    return c.processSendV311Pingresp (← V311.Empty.new.unwrap)
  let (c, rest) := c.received (.v311Pingreq packet)
  return (c, events ++ rest)

def recvV50Pingreq (c : GenericConnection w) (packet : V311.Pingreq) : Outcome (Handled w) := do
  let (c, events) ← c.respondIf c.answersPing do
    c.processSendV50Pingresp (← V311.Empty.new.unwrap)
  let (c, rest) := c.received (.v50Pingreq packet)
  return (c, events ++ rest)

def recvPingresp (c : GenericConnection w) (packet : GenericPacket w) : Handled w :=
  ({ c with pingrespRecvSet := false },
    cancelEvents c.pingrespRecvSet .pingrespRecv ++ [.notifyPacketReceived packet])

def recvDisconnect (c : GenericConnection w) (packet : GenericPacket w) : Handled w :=
  let (c, events) := c.cancelTimers
  (c, events ++ [.notifyPacketReceived packet])

def canReceive (c : GenericConnection w) (packetType : UInt8) : Bool :=
  ¬ ((c.role = .client ∧
      (packetType = 1 ∨ packetType = 8 ∨ packetType = 10 ∨ packetType = 12 ∨
        packetType = 14 ∧ c.protocolVersion = .v311 ∨
        packetType = 15 ∧ c.protocolVersion = .v311)) ∨
    (c.role = .server ∧
      (packetType = 2 ∨ packetType = 9 ∨ packetType = 11 ∨ packetType = 13 ∨
        packetType = 15 ∧ c.protocolVersion = .v311)))

def processRecvV311 (c : GenericConnection w) (raw : RawPacket) : Outcome (Handled w) :=
  let data := raw.dataAsSlice
  match raw.packetType.toNat with
  | 1 => c.processRecvV311Connect data
  | 2 => c.processRecvV311Connack data
  | 3 => c.processRecvV311Publish raw
  | 4 => parsed (V311.Ack.parse data) c.recvV311Puback c.handleV311Error
  | 5 => parsed (V311.Ack.parse data) c.recvV311Pubrec c.handleV311Error
  | 6 => parsed (V311.Ack.parse data) c.recvV311Pubrel c.handleV311Error
  | 7 => parsed (V311.Ack.parse data) c.recvV311Pubcomp c.handleV311Error
  | 8 => parsed (V311.Subscribe.parse data) (fun p ↦ return c.received (.v311Subscribe p))
      c.handleV311Error
  | 9 => parsed (V311.Suback.parse data)
      (fun p ↦ c.recvSubscriptionAck .suback handleV311Error p.packetId (.v311Suback p))
      c.handleV311Error
  | 10 => parsed (V311.Unsubscribe.parse data) (fun p ↦ return c.received (.v311Unsubscribe p))
      c.handleV311Error
  | 11 => parsed (V311.Unsuback.parse data)
      (fun p ↦ c.recvSubscriptionAck .unsuback handleV311Error p.packetId (.v311Unsuback p))
      c.handleV311Error
  | 12 => parsed (V311.Empty.parse data) c.recvV311Pingreq c.handleV311Error
  | 13 => parsed (V311.Empty.parse data) (fun p ↦ return c.recvPingresp (.v311Pingresp p))
      c.handleV311Error
  | 14 => parsed (V311.Empty.parse data) (fun p ↦ return c.recvDisconnect (.v311Disconnect p))
      c.handleV311Error
  | _ => return c.reject .malformedPacket

def processRecvV50 (c : GenericConnection w) (raw : RawPacket) : Outcome (Handled w) :=
  let data := raw.dataAsSlice
  match raw.packetType.toNat with
  | 1 => c.processRecvV50Connect data
  | 2 => c.processRecvV50Connack data
  | 3 => c.processRecvV50Publish raw
  | 4 => parsed (V50.Ack.parse data) c.recvV50Puback c.handleV50Error
  | 5 => parsed (V50.Ack.parse data) c.recvV50Pubrec c.handleV50Error
  | 6 => parsed (V50.Ack.parse data) c.recvV50Pubrel c.handleV50Error
  | 7 => parsed (V50.Ack.parse data) c.recvV50Pubcomp c.handleV50Error
  | 8 => parsed (V50.Subscribe.parse data) (fun p ↦ return c.received (.v50Subscribe p))
      c.handleV50Error
  | 9 => parsed (V50.Suback.parse data)
      (fun p ↦ c.recvSubscriptionAck .suback handleV50Error p.packetId (.v50Suback p))
      c.handleV50Error
  | 10 => parsed (V50.Unsubscribe.parse data) (fun p ↦ return c.received (.v50Unsubscribe p))
      c.handleV50Error
  | 11 => parsed (V50.Unsuback.parse data)
      (fun p ↦ c.recvSubscriptionAck .unsuback handleV50Error p.packetId (.v50Unsuback p))
      c.handleV50Error
  | 12 => parsed (V311.Empty.parse data) c.recvV50Pingreq c.handleV50Error
  | 13 => parsed (V311.Empty.parse data) (fun p ↦ return c.recvPingresp (.v50Pingresp p))
      c.handleV50Error
  | 14 => parsed (V50.Disconnect.parse data) (fun p ↦ return c.recvDisconnect (.v50Disconnect p))
      c.handleV50Error
  | 15 => parsed (V50.Auth.parse data) (fun p ↦ return c.received (.v50Auth p)) c.handleV50Error
  | _ => return c.reject .malformedPacket

def determine (c : GenericConnection w) (version : Version) : GenericConnection w :=
  { c with protocolVersion := version }

def processRecvUndetermined (c : GenericConnection w) (raw : RawPacket) : Outcome (Handled w) :=
  if raw.packetType = 1 then do
    if (← raw.remainingLength) < 7 then return c.reject .malformedPacket
    else
      match (raw.dataAsSlice[6]? : Option UInt8) with
      | none => .panic
      | some 4 => (c.determine .v311).processRecvV311Connect raw.dataAsSlice
      | some 5 => (c.determine .v50).processRecvV50Connect raw.dataAsSlice
      | some _ => return c.reject .unsupportedProtocolVersion
  else return c.reject .malformedPacket

def processRecvPacket (c : GenericConnection w) (raw : RawPacket) : Outcome (Handled w) := do
  let totalSize := remainingLengthToTotalSize (← raw.remainingLength)
  if totalSize > c.maximumPacketSizeRecv then
    let disconnect ← (V50.Disconnect.build (some .packetTooLarge) none).unwrap
    let (c, events) ← c.processSendV50Disconnect disconnect
    return (c, events ++ [.notifyError .packetTooLarge])
  else if ¬ c.canReceive raw.packetType then return c.reject .protocolError
  else
    match c.protocolVersion with
    | .v311 => c.processRecvV311 raw
    | .v50 => c.processRecvV50 raw
    | .undetermined => c.processRecvUndetermined raw

/-- Feed the bytes up to the end of the first packet; what is left of them stays in the cursor. -/
def recv (c : GenericConnection w) (data : Bytes) : Outcome (Handled w × Bytes) := do
  let (packetBuilder, result, rest) ← c.packetBuilder.feed data
  let c := { c with packetBuilder := packetBuilder }
  match result with
  | .complete raw => do return (← c.processRecvPacket raw, rest)
  | .incomplete => return ((c, []), rest)
  | .error e =>
    let (c, cancels) := c.cancelTimers
    return ((c, cancels ++ [.requestClose, .notifyError e]), rest)

end MqttProtocolCore.Connection.GenericConnection
