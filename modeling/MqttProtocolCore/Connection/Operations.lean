import MqttProtocolCore.Connection.Recv
import MqttProtocolCore.General.Runs

namespace MqttProtocolCore.Connection

open General Packet

variable {w : IdWidth}

namespace GenericConnection

def keepAliveTimeout (c : GenericConnection w) : Outcome (Handled w) :=
  match c.protocolVersion with
  | .v311 => return (c, [.requestClose])
  | .v50 =>
    if c.status = .connected then do
      c.processSendV50Disconnect (← (V50.Disconnect.build (some .keepAliveTimeout) none).unwrap)
    else return (c, [])
  | .undetermined => .panic

def keepAlive (c : GenericConnection w) : Outcome (Handled w) :=
  if c.status = .connected then
    match c.protocolVersion with
    | .v311 => do return c.processSendV311Pingreq (← V311.Empty.new.unwrap)
    | .v50 => do c.processSendV50Pingreq (← V311.Empty.new.unwrap)
    | .undetermined => .panic
  else return (c, [])

def notifyTimerFired (c : GenericConnection w) (kind : TimerKind) : Outcome (Handled w) :=
  match kind with
  | .pingreqSend => { c with pingreqSendSet := false }.keepAlive
  | .pingreqRecv => { c with pingreqRecvSet := false }.keepAliveTimeout
  | .pingrespRecv => { c with pingrespRecvSet := false }.keepAliveTimeout

def releaseAll (c : GenericConnection w) : List (PacketId w) → Outcome (Handled w)
  | [] => return (c, [])
  | id :: ids => do
    let (c, events) ← c.releaseIfUsed id
    let (c, rest) ← c.releaseAll ids
    return (c, events ++ rest)

def drain (c : GenericConnection w) (kind : AckKind) : Outcome (Handled w) :=
  (c.setAwaiting kind ∅).releaseAll (c.awaiting kind).elems

def drainAll (c : GenericConnection w) : List AckKind → Outcome (Handled w)
  | [] => return (c, [])
  | kind :: kinds => do
    let (c, events) ← c.drain kind
    let (c, rest) ← c.drainAll kinds
    return (c, events ++ rest)

def notifyClosed (c : GenericConnection w) : Outcome (Handled w) := do
  let c := { c with
    maximumPacketSizeSend := mqttPacketSizeNoLimit
    maximumPacketSizeRecv := mqttPacketSizeNoLimit
    status := .disconnected
    topicAliasSend := none
    topicAliasRecv := none }
  let (c, subscriptions) ← c.drainAll [.suback, .unsuback]
  let (c, publishes) ← c.respondIf (¬ c.needStore)
    ({ c with qos2PublishHandled := ∅ }.drainAll [.puback, .pubrec, .pubcomp])
  let (c, cancels) := c.cancelTimers
  return (c, subscriptions ++ publishes ++ cancels)

def setPingreqSendInterval (c : GenericConnection w) (durationMs : Option ℕ) : Handled w :=
  let c := { c with pingreqUserSendIntervalMs := durationMs }
  match durationMs with
  | none => (c, [])
  | some ms =>
    if ms = 0 then
      ({ c with pingreqSendSet := false }, cancelEvents c.pingreqSendSet .pingreqSend)
    else if c.status = .connected then
      ({ c with pingreqSendSet := true }, [.requestTimerReset .pingreqSend ms])
    else (c, [])

def getStoredPackets (c : GenericConnection w) : List (GenericStorePacket w) := c.store.getStored

def getReceiveMaximumVacancyForSend (c : GenericConnection w) : Option ℕ :=
  c.publishSendMax.map fun max ↦ max - c.publishSendCount

def setOfflinePublish (c : GenericConnection w) (enable : Bool) : GenericConnection w :=
  { c with offlinePublish := enable, needStore := c.needStore || enable }

def acquirePacketId (c : GenericConnection w) : Except MqttError (PacketId w × GenericConnection w) := do
  let (id, pidMan) ← c.pidMan.acquireUniqueId
  return (id, { c with pidMan := pidMan })

def registerPacketId (c : GenericConnection w) (id : PacketId w) :
    Except MqttError (GenericConnection w) := do
  return { c with pidMan := ← c.pidMan.registerId id }

def releasePacketId (c : GenericConnection w) (id : PacketId w) : Outcome (Handled w) :=
  c.releaseIfUsed id

/-- The acknowledgement that a restored packet waits for; `none` at quality of service 0. -/
def restoredAck : GenericStorePacket w → Option AckKind
  | .v311Publish p => if p.qos = .atMostOnce then none else some (publishAck p.qos)
  | .v50Publish p => if p.qos = .atMostOnce then none else some (publishAck p.qos)
  | .v311Pubrel _ | .v50Pubrel _ => some .pubcomp

/-- Track a packet, and store it when its identifier can be registered; a failure is logged. -/
def restorePacket (c : GenericConnection w) (packet : GenericStorePacket w) :
    Outcome (GenericConnection w) :=
  match restoredAck packet, packet.packetId with
  | none, _ => return c
  | some _, none => .panic
  | some kind, some id =>
    let c := c.await kind id
    match c.pidMan.registerId id with
    | .error _ => return c
    | .ok pidMan =>
      let c := { c with pidMan := pidMan }
      match c.store.add packet with
      | .ok store => return { c with store := store }
      | .err _ => return c
      | .panic => .panic

def restorePackets (c : GenericConnection w) (packets : List (GenericStorePacket w)) :
    Outcome (GenericConnection w) :=
  packets.foldlM restorePacket c

def regulateForStore (c : GenericConnection w) (packet : V50.Publish w) :
    Fallible MqttError (V50.Publish w) :=
  if packet.topicName.isEmpty then
    match V50.topicAliasOf packet.props, c.topicAliasSend with
    | some topicAlias, some s =>
      match s.peek topicAlias with
      | some topic => packet.removeTopicAliasAddTopic topic
      | none => .err .packetNotRegulated
    | _, _ => .err .packetNotRegulated
  else packet.removeTopicAlias

end GenericConnection

/-- The operations that change a connection. -/
inductive Operation (w : IdWidth) where
  | send (packet : GenericPacket w)
  | recv (data : Bytes)
  | notifyTimerFired (kind : TimerKind)
  | notifyClosed
  | setPingreqSendInterval (durationMs : Option ℕ)
  | setPingrespRecvTimeout (timeoutMs : ℕ)
  | setOfflinePublish (enable : Bool)
  | setAutoPubResponse (enable : Bool)
  | setAutoPingResponse (enable : Bool)
  | setAutoMapTopicAliasSend (enable : Bool)
  | setAutoReplaceTopicAliasSend (enable : Bool)
  | acquirePacketId
  | registerPacketId (id : PacketId w)
  | releasePacketId (id : PacketId w)
  | restoreQos2PublishHandled (pids : HashSet (PacketId w))
  | restorePackets (packets : List (GenericStorePacket w))

/-- What an operation gives back: events, bytes left in the cursor, or an identifier. -/
inductive Reply (w : IdWidth) where
  | events (events : List (GenericEvent w))
  | received (events : List (GenericEvent w)) (rest : Bytes)
  | acquired (id : PacketId w)
  | registered
  | failed (e : MqttError)
  | unit

def Reply.toEvents : Reply w → List (GenericEvent w)
  | events es => es
  | received es _ => es
  | _ => []

namespace GenericConnection

/-- One operation of the interface. -/
def step (c : GenericConnection w) : Operation w → Outcome (GenericConnection w × Reply w)
  | .send packet => do
    let (c, events) ← c.send packet
    return (c, .events events)
  | .recv data => do
    let ((c, events), rest) ← c.recv data
    return (c, .received events rest)
  | .notifyTimerFired kind => do
    let (c, events) ← c.notifyTimerFired kind
    return (c, .events events)
  | .notifyClosed => do
    let (c, events) ← c.notifyClosed
    return (c, .events events)
  | .setPingreqSendInterval durationMs =>
    let (c, events) := c.setPingreqSendInterval durationMs
    return (c, .events events)
  | .setPingrespRecvTimeout timeoutMs => return ({ c with pingrespRecvTimeoutMs := timeoutMs }, .unit)
  | .setOfflinePublish enable => return (c.setOfflinePublish enable, .unit)
  | .setAutoPubResponse enable => return ({ c with autoPubResponse := enable }, .unit)
  | .setAutoPingResponse enable => return ({ c with autoPingResponse := enable }, .unit)
  | .setAutoMapTopicAliasSend enable => return ({ c with autoMapTopicAliasSend := enable }, .unit)
  | .setAutoReplaceTopicAliasSend enable =>
    return ({ c with autoReplaceTopicAliasSend := enable }, .unit)
  | .acquirePacketId =>
    match c.acquirePacketId with
    | .ok (id, c) => return (c, .acquired id)
    | .error e => return (c, .failed e)
  | .registerPacketId id =>
    match c.registerPacketId id with
    | .ok c => return (c, .registered)
    | .error e => return (c, .failed e)
  | .releasePacketId id => do
    let (c, events) ← c.releasePacketId id
    return (c, .events events)
  | .restoreQos2PublishHandled pids => return ({ c with qos2PublishHandled := pids }, .unit)
  | .restorePackets packets => do return (← c.restorePackets packets, .unit)

variable {c c' : GenericConnection w} {id : PacketId w} {e : MqttError}

theorem step_acquired (h : c.acquirePacketId = .ok (id, c')) :
    c.step .acquirePacketId = .ret (c', .acquired id) := by simp [step, h]

theorem step_unacquired (h : c.acquirePacketId = .error e) :
    c.step .acquirePacketId = .ret (c, .failed e) := by simp [step, h]

theorem step_registered (h : c.registerPacketId id = .ok c') :
    c.step (.registerPacketId id) = .ret (c', .registered) := by simp [step, h]

theorem step_unregistered (h : c.registerPacketId id = .error e) :
    c.step (.registerPacketId id) = .ret (c, .failed e) := by simp [step, h]

/-- A connection object of any role and any version setting, with every order of operations. -/
def system (w : IdWidth) : System (GenericConnection w) (Operation w) (Reply w) where
  Init c := ∃ role version, c = new role w version
  step := step

theorem run_operation {ok : GenericConnection w → Operation w → Prop}
    {trace : List (Transition _ _ _)} {c c' : GenericConnection w} {op : Operation w} {o : Reply w}
    (h : Run (system w) ok trace c) (hok : ok c op) (hstep : c.step op = .ret (c', o)) :
    ∃ trace', Run (system w) ok trace' c' := ⟨_, h.step hok hstep⟩

theorem run_step {γ : Type} {start : γ}
    {read : γ → Transition (GenericConnection w) (Operation w) (Reply w) → γ}
    {ok : GenericConnection w × γ → Operation w → Prop} {trace : List (Transition _ _ _)}
    {c c' : GenericConnection w} {g : γ} {op : Operation w} {o : Reply w}
    (h : Run ((system w).monitor start read) ok trace (c, g)) (hok : ok (c, g) op)
    (hstep : c.step op = .ret (c', o)) : ∃ trace',
      Run ((system w).monitor start read) ok trace' (c', read g ⟨c, op, c', o⟩) :=
  ⟨_, h.monitor_step hok hstep⟩

end GenericConnection

end MqttProtocolCore.Connection
