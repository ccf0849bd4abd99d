import MqttProtocolCore.Connection.Arrival
import MqttProtocolCore.Connection.Refinement

namespace MqttProtocolCore.Connection

open General Packet

variable {w : IdWidth}

def expiresLater : Property → Bool
  | .sessionExpiryInterval v => v ≠ 0
  | _ => false

def keepsSession : GenericPacket w → Bool
  | .v311Connect p => !p.cleanStart
  | .v50Connect p => p.props.any expiresLater
  | _ => false

def receiveMaximumOf (quota : Option ℕ) (props : Properties) : Option ℕ :=
  props.foldl (fun quota prop ↦
    match prop with
    | .receiveMaximum v => some v.val
    | _ => quota) quota

def quotaAfter (quota : Option ℕ) : GenericPacket w → Option ℕ
  | .v50Connect p => receiveMaximumOf quota p.props
  | .v50Connack p => receiveMaximumOf quota p.props
  | _ => quota

def sizeLimitOf (limit : ℕ) (props : Properties) : ℕ :=
  props.foldl (fun limit prop ↦
    match prop with
    | .maximumPacketSize v => v.val
    | _ => limit) limit

def limitAfter (limit : ℕ) : GenericPacket w → ℕ
  | .v50Connect p => sizeLimitOf limit p.props
  | .v50Connack p => sizeLimitOf limit p.props
  | _ => limit

namespace GenericConnection

def refusesAlias (c : GenericConnection w) (packet : V50.Publish w) : Bool :=
  if packet.topicName.isEmpty then
    ¬ c.storesPublish ∧ (c.validateTopicAlias (V50.topicAliasOf packet.props)).1 = none
  else (V50.topicAliasOf packet.props).any fun ta ↦ ¬ c.validateTopicAliasRange ta

def quotaReached (c : GenericConnection w) : Bool := c.publishSendMax = some c.publishSendCount

def withdraws (c : GenericConnection w) : GenericPacket w → Bool
  | .v50Publish p => c.refusesAlias p ∨ c.quotaReached
  | _ => false

def recvTopic (c : GenericConnection w) (p : V50.Publish w) : Option Utf8String := do
  let ta ← V50.topicAliasOf p.props
  let r ← c.topicAliasRecv
  if c.validRecvAlias ta then r.get ta else none

def Resolves (c : GenericConnection w) (p : V50.Publish w) : Prop :=
  if p.topicName.isEmpty then ∃ topic, c.recvTopic p = some topic ∧ V50.Publish.IsTopicName topic
  else ∀ ta, V50.topicAliasOf p.props = some ta → c.validRecvAlias ta

theorem resolves_of_namesTopic {c : GenericConnection w} {p : V50.Publish w} (h : p.NamesTopic) :
    c.Resolves p := by
  unfold Resolves
  rw [if_neg h.1, h.2]
  intro ta hta
  cases hta

/-- The receive maximum leaves room for a PUBLISH. -/
def admits (c : GenericConnection w) (p : V50.Publish w) : Bool :=
  p.qos = .atMostOnce ∨ ¬ c.recvMaximumReached

/-- The connection answers a PUBREC with PUBREL by itself. -/
def FollowsUp (c : GenericConnection w) (packet : GenericPacket w) (id : PacketId w) : Prop :=
  c.answers ∧ c.pidMan.isUsedId id ∧
    (packet.protocolVersion = .v50 → c.validateMaximumPacketSizeSend (2 + w.bufferSize))

/-- What one input can change in a session, with what is reported. -/
inductive Change (c : GenericConnection w) : Input w → Session w → Report w → Prop where
  | refused {input : Input w} {v : Version} {st : ConnectionStatus}
      {requested : List (GenericPacket w)} {errors : List MqttError} :
      v = c.protocolVersion ∨ c.protocolVersion = .undetermined →
      (st = .connected → c.status = .connected) → (∀ p ∈ requested, Silent p) → errors ≠ [] →
      Change c input { c.session with version := v, status := st } ⟨requested, [], [], errors⟩
  | idle {input : Input w} {st : ConnectionStatus} {requested notified : List (GenericPacket w)}
      {errors : List MqttError} :
      input.Calm → (st = .connected → c.status = .connected) → (∀ p ∈ requested, Silent p) →
      (∀ p ∈ notified, (Input.receive p).Calm) →
      Change c input { c.session with status := st } ⟨requested, notified, [], errors⟩
  | answered {input : Input w} {requested notified : List (GenericPacket w)}
      {errors : List MqttError} :
      input.Answers →
      (∀ p ∈ requested, p.connectOf = none ∧ p.connackOf = none ∧ p.publishOf = none ∧
        p.pubrelOf = none ∧ ¬ failsPubrec p) →
      (∀ p ∈ notified, (Input.receive p).Calm) →
      Change c input c.session ⟨requested, notified, [], errors⟩
  | pubrecSent {packet : GenericPacket w} {id : PacketId w} :
      ackOf packet = some (.pubrec, id) → failsPubrec packet →
      Change c (.send packet)
        { c.session with
          handled := if packet.protocolVersion = .v50 then c.session.handled \ {id}
            else c.session.handled }
        ⟨[packet], [], [], []⟩
  | connectSent {packet : GenericPacket w} {clean : Bool} :
      packet.connectOf = some clean → c.status = .disconnected →
      Change c (.send packet)
        (c.session.opened c.protocolVersion clean (keepsSession packet) none)
        ⟨[packet], [], [], []⟩
  | connectReceived {packet : GenericPacket w} {clean : Bool} {v : Version} :
      packet.connectOf = some clean → c.status = .disconnected →
      v = c.protocolVersion ∨ c.protocolVersion = .undetermined →
      Change c (.receive packet)
        (c.session.opened v clean (keepsSession packet) (quotaAfter none packet))
        ⟨[], [packet], [], []⟩
  | connackSent {packet : GenericPacket w} {present : Bool} {s : Session w}
      {requested : List (GenericPacket w)} {released : List (PacketId w)} :
      packet.connackOf = some present → c.status = .connecting →
      { c.session with status := .connected }.Resends s c.maximumPacketSizeSend requested released →
      Change c (.send packet) s ⟨packet :: requested, [], released, []⟩
  | connackResumes {packet : GenericPacket w} {s : Session w}
      {requested : List (GenericPacket w)} {released : List (PacketId w)} :
      packet.connackOf = some true →
      { c.session with status := .connected, quota := quotaAfter c.session.quota packet }.Resends
        s (limitAfter c.maximumPacketSizeSend packet) requested released →
      Change c (.receive packet) s ⟨requested, [packet], released, []⟩
  | connackAnew {packet : GenericPacket w} :
      packet.connackOf = some false →
      Change c (.receive packet)
        { c.session with
          status := .connected
          quota := quotaAfter c.session.quota packet }.clear
        ⟨[], [packet], [], []⟩
  | publishRefused {packet : GenericPacket w} {id : PacketId w} {qos : Qos}
      {errors : List MqttError} :
      packet.publishOf = some (id, qos) → errors ≠ [] →
      Change c (.send packet) (c.session.free id)
        ⟨[], [], if c.pidMan.isUsedId id then [id] else [], errors⟩
  | publishWithdrawn {packet : GenericPacket w} {id : PacketId w} {qos : Qos} {s : Session w}
      {errors : List MqttError} :
      packet.publishOf = some (id, qos) → c.withdraws packet → id ∈ c.session.used →
      (¬ c.storesPublish ∧ s = c.session ∨ c.storesPublish ∧ c.session.stored id = none ∧
        ∃ stored, stored.toPacket.publishOf = some (id, qos) ∧
          stored.toPacket.protocolVersion = packet.protocolVersion ∧ s = c.session.keep id stored) →
      errors ≠ [] →
      Change c (.send packet) ((s.await (publishAck qos) id).free id) ⟨[], [], [id], errors⟩
  | published {packet sent : GenericPacket w} {id : PacketId w} {qos : Qos} {s : Session w} :
      packet.publishOf = some (id, qos) → ¬ c.withdraws packet → id ∈ c.session.used →
      sent.publishOf = some (id, qos) ∧ sent.protocolVersion = packet.protocolVersion →
      (¬ c.storesPublish ∧ s = c.session ∨ c.storesPublish ∧ c.session.stored id = none ∧
        ∃ stored, stored.toPacket.publishOf = some (id, qos) ∧
          stored.toPacket.protocolVersion = packet.protocolVersion ∧ s = c.session.keep id stored) →
      Change c (.send packet) ((s.await (publishAck qos) id).counted packet.protocolVersion)
        ⟨if c.status = .connected then [sent] else [], [], [], []⟩
  | pubrelSent {packet : GenericPacket w} {id : PacketId w} {s : Session w} :
      packet.pubrelOf = some id → id ∈ c.session.used →
      (¬ c.needStore ∧ s = c.session ∨ c.needStore ∧ c.session.stored id = none ∧
        ∃ stored, stored.toPacket = packet ∧ s = c.session.keep id stored) →
      Change c (.send packet) (if c.status = .connected then s.await .pubcomp id else s)
        ⟨if c.status = .connected then [packet] else [], [], [], []⟩
  | subscribed {packet : GenericPacket w} {kind : AckKind} {id : PacketId w} :
      subscriptionOf packet = some (kind, id) → id ∈ c.session.used →
      Change c (.send packet) (c.session.await kind id) ⟨[packet], [], [], []⟩
  | subscriptionRefused {packet : GenericPacket w} {kind : AckKind} {id : PacketId w}
      {errors : List MqttError} :
      subscriptionOf packet = some (kind, id) → errors ≠ [] →
      Change c (.send packet) (c.session.free id)
        ⟨[], [], if c.pidMan.isUsedId id then [id] else [], errors⟩
  | publishReceived {packet notice : GenericPacket w} {id : PacketId w}
      {requested : List (GenericPacket w)} {errors : List MqttError} :
      packet.publishOf = some (id, .exactlyOnce) → notice.publishOf = some (id, .exactlyOnce) →
      (∀ p ∈ requested, ackOf p = some (.pubrec, id) ∧ ¬ failsPubrec p) →
      Change c (.receive packet) { c.session with handled := insert id c.session.handled }
        ⟨requested, if id ∈ c.qos2PublishHandled then [] else [notice], [], errors⟩
  | publishDropped {packet : V50.Publish w} {id : PacketId w} {st : ConnectionStatus}
      {requested : List (GenericPacket w)} {errors : List MqttError} :
      packet.packetId = some id → packet.qos = .exactlyOnce → c.admits packet →
      ¬ c.Resolves packet →
      (st = .connected → c.status = .connected) → (∀ p ∈ requested, Silent p) → errors ≠ [] →
      Change c (.receive (.v50Publish packet))
        { c.session with status := st, handled := insert id c.session.handled }
        ⟨requested, [], [], errors⟩
  | acknowledged {packet : GenericPacket w} {kind : AckKind} {id : PacketId w}
      {response : ResponsePacket} :
      ackOf packet = some (kind, id) → kind = .puback ∨ kind = .pubcomp →
      responseOf packet = some response → id ∈ c.session.awaits kind →
      Change c (.receive packet)
        ((((c.session.settle kind id).erase response id).free id).finished packet.protocolVersion)
        ⟨[], [packet], if c.pidMan.isUsedId id then [id] else [], []⟩
  | pubrecReceived {packet : GenericPacket w} {id : PacketId w} {response : ResponsePacket}
      {s : Session w} {requested : List (GenericPacket w)} {errors : List MqttError} :
      ackOf packet = some (.pubrec, id) → responseOf packet = some response →
      packet.protocolVersion = .v311 ∨ (pubrecReasonOf packet).all (· = .success) →
      id ∈ c.session.awaits .pubrec →
      (requested = [] ∧ ¬ c.FollowsUp packet id ∧
          s = (c.session.settle .pubrec id).erase response id ∨
        c.status = .connected ∧ id ∈ c.session.used ∧ ∃ pubrel, pubrel.pubrelOf = some id ∧
          requested = [pubrel] ∧
          (¬ c.needStore ∧
            s = ((c.session.settle .pubrec id).erase response id).await .pubcomp id ∨
          c.needStore ∧ ((c.session.settle .pubrec id).erase response id).stored id = none ∧
          ∃ stored, stored.toPacket = pubrel ∧
            s = (((c.session.settle .pubrec id).erase response id).keep id stored).await
              .pubcomp id)) →
      Change c (.receive packet) s ⟨requested, [packet], [], errors⟩
  | pubrecFailed {packet : V50.Pubrec w} :
      ¬ packet.reasonCode.all (· = .success) → packet.packetId ∈ c.session.awaits .pubrec →
      Change c (.receive (.v50Pubrec packet))
        ((((c.session.settle .pubrec packet.packetId).erase .v50Pubrec packet.packetId).free
          packet.packetId).finished .v50)
        ⟨[], [.v50Pubrec packet],
          if c.pidMan.isUsedId packet.packetId then [packet.packetId] else [], []⟩
  | pubrelReceived {packet : GenericPacket w} {id : PacketId w}
      {requested : List (GenericPacket w)} {errors : List MqttError} :
      packet.pubrelOf = some id → (∀ p ∈ requested, ackOf p = some (.pubcomp, id)) →
      Change c (.receive packet) { c.session with handled := c.session.handled \ {id} }
        ⟨requested, [packet], [], errors⟩
  | subscriptionAcked {packet : GenericPacket w} {kind : AckKind} {id : PacketId w} :
      ackOf packet = some (kind, id) → kind = .suback ∨ kind = .unsuback →
      id ∈ c.session.awaits kind →
      Change c (.receive packet) ((c.session.settle kind id).free id)
        ⟨[], [packet], if c.pidMan.isUsedId id then [id] else [], []⟩
  | closed {released : List (PacketId w)} :
      (∀ id, id ∈ released ↔ id ∈ c.session.drained ∧ id ∈ c.session.used) →
      Change c .close c.session.closed ⟨[], [], released, []⟩
  | acquired {id : PacketId w} :
      id ∉ c.session.used →
      Change c .acquire { c.session with used := insert id c.session.used } ⟨[], [], [], []⟩
  | registered {id : PacketId w} :
      id ∉ c.session.used →
      Change c (.register id) { c.session with used := insert id c.session.used } ⟨[], [], [], []⟩
  | released {id : PacketId w} :
      Change c (.release id) (c.session.free id)
        ⟨[], [], if c.pidMan.isUsedId id then [id] else [], []⟩
  | restored {packets : List (GenericStorePacket w)} :
      Change c (.restore packets) (packets.foldl Session.restore c.session) ⟨[], [], [], []⟩
  | restoredHandled {ids : HashSet (PacketId w)} :
      Change c (.restoreHandled ids) { c.session with handled := {id | id ∈ ids} } ⟨[], [], [], []⟩
  | offline {keeps : Bool} :
      (c.needStore → keeps) →
      Change c .other { c.session with keeps := keeps } ⟨[], [], [], []⟩

end GenericConnection

end MqttProtocolCore.Connection
