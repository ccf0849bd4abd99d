import MqttProtocolCore.Connection.PacketBuilder
import MqttProtocolCore.Connection.PacketIdManager
import MqttProtocolCore.Connection.Store
import MqttProtocolCore.General.HashSet
import MqttProtocolCore.Packet.TopicAlias

namespace MqttProtocolCore.Connection

open General Packet

inductive Role where
  | client | server | any
deriving DecidableEq

inductive ConnectionStatus where
  | disconnected | connecting | connected
deriving DecidableEq

inductive TimerKind where
  | pingreqSend | pingreqRecv | pingrespRecv
deriving DecidableEq

inductive GenericEvent (w : IdWidth) where
  | notifyPacketReceived (packet : GenericPacket w)
  | requestSendPacket (packet : GenericPacket w) (releasePacketIdIfSendError : Option (PacketId w))
  | notifyPacketIdReleased (id : PacketId w)
  | requestTimerReset (kind : TimerKind) (durationMs : ℕ)
  | requestTimerCancel (kind : TimerKind)
  | notifyError (e : MqttError)
  | requestClose
deriving DecidableEq

def mqttPacketSizeNoLimit : ℕ := 1 + 4 + 128 * 128 * 128 * 128

def remainingLengthToTotalSize (remainingLength : ℕ) : ℕ :=
  let remainingLengthBytes :=
    if remainingLength < 128 then 1
    else if remainingLength < 16384 then 2
    else if remainingLength < 2097152 then 3
    else 4
  1 + remainingLengthBytes + remainingLength

/-- The state of a connection; the role, a type parameter of the code, is a field here. -/
structure GenericConnection (w : IdWidth) where
  role : Role
  protocolVersion : Version
  pidMan : PacketIdManager w
  pidSuback : HashSet (PacketId w)
  pidUnsuback : HashSet (PacketId w)
  pidPuback : HashSet (PacketId w)
  pidPubrec : HashSet (PacketId w)
  pidPubcomp : HashSet (PacketId w)
  needStore : Bool
  store : GenericStore w
  offlinePublish : Bool
  autoPubResponse : Bool
  autoPingResponse : Bool
  autoMapTopicAliasSend : Bool
  autoReplaceTopicAliasSend : Bool
  topicAliasRecv : Option TopicAliasRecv
  topicAliasSend : Option TopicAliasSend
  publishSendMax : Option U16
  publishRecvMax : Option U16
  publishSendCount : U16
  publishRecv : HashSet (PacketId w)
  maximumPacketSizeSend : ℕ
  maximumPacketSizeRecv : ℕ
  status : ConnectionStatus
  pingreqUserSendIntervalMs : Option ℕ
  pingreqKeepAliveMs : ℕ
  pingreqServerKeepAliveMs : Option ℕ
  pingreqRecvTimeoutMs : ℕ
  pingrespRecvTimeoutMs : ℕ
  qos2PublishHandled : HashSet (PacketId w)
  pingreqSendSet : Bool
  pingreqRecvSet : Bool
  pingrespRecvSet : Bool
  packetBuilder : PacketBuilder
  isClient : Bool

/-- The acknowledgements that a packet identifier can wait for. -/
inductive AckKind where
  | puback | pubrec | pubcomp | suback | unsuback
deriving DecidableEq

/-- A connection after an operation, with the events that the operation returned. -/
abbrev Handled (w : IdWidth) := GenericConnection w × List (GenericEvent w)

namespace GenericConnection

variable {w : IdWidth}

def new (role : Role) (w : IdWidth) (version : Version) : GenericConnection w where
  role := role
  protocolVersion := version
  pidMan := .new w
  pidSuback := ∅
  pidUnsuback := ∅
  pidPuback := ∅
  pidPubrec := ∅
  pidPubcomp := ∅
  needStore := false
  store := .new
  offlinePublish := false
  autoPubResponse := false
  autoPingResponse := false
  autoMapTopicAliasSend := false
  autoReplaceTopicAliasSend := false
  topicAliasRecv := none
  topicAliasSend := none
  publishSendMax := none
  publishRecvMax := none
  publishSendCount := 0
  publishRecv := ∅
  maximumPacketSizeSend := mqttPacketSizeNoLimit
  maximumPacketSizeRecv := mqttPacketSizeNoLimit
  status := .disconnected
  pingreqUserSendIntervalMs := none
  pingreqKeepAliveMs := 0
  pingreqServerKeepAliveMs := none
  pingreqRecvTimeoutMs := 0
  pingrespRecvTimeoutMs := 0
  qos2PublishHandled := ∅
  pingreqSendSet := false
  pingreqRecvSet := false
  pingrespRecvSet := false
  packetBuilder := .new
  isClient := false

def awaiting (c : GenericConnection w) : AckKind → HashSet (PacketId w)
  | .puback => c.pidPuback
  | .pubrec => c.pidPubrec
  | .pubcomp => c.pidPubcomp
  | .suback => c.pidSuback
  | .unsuback => c.pidUnsuback

def setAwaiting (c : GenericConnection w) (kind : AckKind) (ids : HashSet (PacketId w)) :
    GenericConnection w :=
  match kind with
  | .puback => { c with pidPuback := ids }
  | .pubrec => { c with pidPubrec := ids }
  | .pubcomp => { c with pidPubcomp := ids }
  | .suback => { c with pidSuback := ids }
  | .unsuback => { c with pidUnsuback := ids }

def await (c : GenericConnection w) (kind : AckKind) (id : PacketId w) :
    GenericConnection w :=
  c.setAwaiting kind ((c.awaiting kind).insert id)

def settle (c : GenericConnection w) (kind : AckKind) (id : PacketId w) :
    GenericConnection w :=
  c.setAwaiting kind ((c.awaiting kind).remove id)

def reject (c : GenericConnection w) (e : MqttError) : Handled w := (c, [.notifyError e])

def releaseIfUsed (c : GenericConnection w) (id : PacketId w) : Outcome (Handled w) :=
  if c.pidMan.isUsedId id then do
    let pidMan ← c.pidMan.releaseId id
    return ({ c with pidMan := pidMan }, [.notifyPacketIdReleased id])
  else return (c, [])

def refuse (c : GenericConnection w) (e : MqttError) (id : Option (PacketId w)) :
    Outcome (Handled w) :=
  match id with
  | some id => do
    let (c, released) ← c.releaseIfUsed id
    return (c, .notifyError e :: released)
  | none => return c.reject e

def storeAdd (c : GenericConnection w) (packet : GenericStorePacket w) :
    Outcome (GenericConnection w) := do
  let store ← (c.store.add packet).unwrap
  return { c with store := store }

/-- `initialize`, for a new network connection. -/
def initializeState (c : GenericConnection w) (isClient : Bool) : GenericConnection w :=
  { c with
    publishSendMax := none
    publishRecvMax := none
    publishSendCount := 0
    topicAliasSend := none
    topicAliasRecv := none
    publishRecv := ∅
    needStore := false
    pidSuback := ∅
    pidUnsuback := ∅
    isClient := isClient
    pingreqKeepAliveMs := 0
    pingreqServerKeepAliveMs := none }

def clearStoreRelated (c : GenericConnection w) : GenericConnection w :=
  { c with
    pidMan := c.pidMan.clear
    pidPuback := ∅
    pidPubrec := ∅
    pidPubcomp := ∅
    store := c.store.clear }

/-- What the resend does with one stored packet: one that is too large is dropped and its
identifier is released. -/
def resend (maximumPacketSize : ℕ) (packet : GenericStorePacket w)
    (state : PacketIdManager w × List (GenericEvent w)) :
    Outcome (Bool × PacketIdManager w × List (GenericEvent w)) :=
  if packet.size > maximumPacketSize then
    match packet.packetId with
    | none => .panic
    | some id => do
      let pidMan ← state.1.releaseId id
      return (false, pidMan, state.2 ++ [.notifyPacketIdReleased id])
  else return (true, state.1, state.2 ++ [.requestSendPacket packet.toPacket none])

def sendStored (c : GenericConnection w) : Outcome (Handled w) := do
  let (store, pidMan, events) ← c.store.forEach (resend c.maximumPacketSizeSend) (c.pidMan, [])
  return ({ c with store := store, pidMan := pidMan }, events)

def pingreqSendMs (c : GenericConnection w) : ℕ :=
  c.pingreqUserSendIntervalMs.getD (c.pingreqServerKeepAliveMs.getD c.pingreqKeepAliveMs)

def sendPostProcess (c : GenericConnection w) : Handled w :=
  if c.isClient ∧ c.pingreqSendMs > 0 then
    ({ c with pingreqSendSet := true }, [.requestTimerReset .pingreqSend c.pingreqSendMs])
  else (c, [])

def refreshPingreqRecv (c : GenericConnection w) : Handled w :=
  if c.pingreqRecvTimeoutMs ≠ 0 then
    ({ c with pingreqRecvSet := true }, [.requestTimerReset .pingreqRecv c.pingreqRecvTimeoutMs])
  else (c, [])

def cancelEvents (set : Bool) (kind : TimerKind) : List (GenericEvent w) :=
  if set then [.requestTimerCancel kind] else []

def cancelTimers (c : GenericConnection w) : Handled w :=
  ({ c with pingreqSendSet := false, pingreqRecvSet := false, pingrespRecvSet := false },
    cancelEvents c.pingreqSendSet .pingreqSend ++ cancelEvents c.pingreqRecvSet .pingreqRecv ++
      cancelEvents c.pingrespRecvSet .pingrespRecv)

/-- Push the packet and go through `send_post_process`. -/
def request (c : GenericConnection w) (packet : GenericPacket w)
    (releasePacketIdIfSendError : Option (PacketId w)) : Handled w :=
  let (c, events) := c.sendPostProcess
  (c, .requestSendPacket packet releasePacketIdIfSendError :: events)

def validateMaximumPacketSizeSend (c : GenericConnection w) (size : ℕ) : Bool :=
  size ≤ c.maximumPacketSizeSend

def limited (c : GenericConnection w) (size : ℕ) (handled : Outcome (Handled w)) :
    Outcome (Handled w) :=
  if c.validateMaximumPacketSizeSend size then handled else return c.reject .packetTooLarge

def validateTopicAliasRange (c : GenericConnection w) (topicAlias : U16) : Bool :=
  match c.topicAliasSend with
  | some s => topicAlias ≠ 0 ∧ topicAlias ≤ s.max
  | none => false

def validateTopicAlias (c : GenericConnection w) (topicAlias : Option (NonZero 65535)) :
    Option Utf8String × GenericConnection w :=
  match topicAlias, c.topicAliasSend with
  | some a, some s =>
    if c.validateTopicAliasRange a then
      ((s.get a).1, { c with topicAliasSend := some (s.get a).2 })
    else (none, c)
  | _, _ => (none, c)

end GenericConnection

end MqttProtocolCore.Connection
