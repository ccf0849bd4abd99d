import Mathlib.Data.Set.Insert
import MqttProtocolCore.Connection.Effects

namespace MqttProtocolCore.Packet.GenericPacket

variable {w : IdWidth}

def connectOf : GenericPacket w → Option Bool
  | v311Connect p => some p.cleanStart
  | v50Connect p => some p.cleanStart
  | _ => none

def connackOf : GenericPacket w → Option Bool
  | v311Connack p => if p.returnCode = .accepted then some p.sessionPresent else none
  | v50Connack p => if p.reasonCode = .success then some p.sessionPresent else none
  | _ => none

def publishOf : GenericPacket w → Option (PacketId w × Qos)
  | v311Publish p => p.packetId.map (·, p.qos)
  | v50Publish p => p.packetId.map (·, p.qos)
  | _ => none

instance : DecidableEq (PacketId w × Qos) := inferInstance

def v50PublishOf : GenericPacket w → Option (V50.Publish w)
  | v50Publish p => some p
  | _ => none

theorem v50PublishOf_eq_some {packet : GenericPacket w} {p : V50.Publish w} :
    packet.v50PublishOf = some p ↔ packet = .v50Publish p := by
  cases packet <;> simp [v50PublishOf]

def pubrelOf : GenericPacket w → Option (PacketId w)
  | v311Pubrel p => some p.packetId
  | v50Pubrel p => some p.packetId
  | _ => none

end MqttProtocolCore.Packet.GenericPacket

namespace MqttProtocolCore.Connection

open General Packet

variable {w : IdWidth}

/-- An acknowledgement of a packet with an identifier. -/
def ackOf : GenericPacket w → Option (AckKind × PacketId w)
  | .v311Puback p => some (.puback, p.packetId)
  | .v50Puback p => some (.puback, p.packetId)
  | .v311Pubrec p => some (.pubrec, p.packetId)
  | .v50Pubrec p => some (.pubrec, p.packetId)
  | .v311Pubcomp p => some (.pubcomp, p.packetId)
  | .v50Pubcomp p => some (.pubcomp, p.packetId)
  | .v311Suback p => some (.suback, p.packetId)
  | .v50Suback p => some (.suback, p.packetId)
  | .v311Unsuback p => some (.unsuback, p.packetId)
  | .v50Unsuback p => some (.unsuback, p.packetId)
  | _ => none

instance : DecidableEq (AckKind × PacketId w) := inferInstance

def subscriptionOf : GenericPacket w → Option (AckKind × PacketId w)
  | .v311Subscribe p => some (.suback, p.packetId)
  | .v50Subscribe p => some (.suback, p.packetId)
  | .v311Unsubscribe p => some (.unsuback, p.packetId)
  | .v50Unsubscribe p => some (.unsuback, p.packetId)
  | _ => none

/-- The part that a packet takes in the exchanges, which excludes every other. -/
inductive Part where
  | connect | connack | publish | pubrel | ack | subscription | none
deriving DecidableEq

def partOf : GenericPacket w → Part
  | .v311Connect _ | .v50Connect _ => .connect
  | .v311Connack _ | .v50Connack _ => .connack
  | .v311Publish _ | .v50Publish _ => .publish
  | .v311Pubrel _ | .v50Pubrel _ => .pubrel
  | .v311Subscribe _ | .v50Subscribe _ | .v311Unsubscribe _ | .v50Unsubscribe _ => .subscription
  | .v311Puback _ | .v50Puback _ | .v311Pubrec _ | .v50Pubrec _ | .v311Pubcomp _ | .v50Pubcomp _
  | .v311Suback _ | .v50Suback _ | .v311Unsuback _ | .v50Unsuback _ => .ack
  | _ => .none

section Part

variable {packet : GenericPacket w}

theorem connectOf_eq_none (h : partOf packet ≠ .connect) : packet.connectOf = none := by
  cases packet <;> first | rfl | exact (h rfl).elim

theorem connackOf_eq_none (h : partOf packet ≠ .connack) : packet.connackOf = none := by
  cases packet <;> first | rfl | exact (h rfl).elim

theorem publishOf_eq_none (h : partOf packet ≠ .publish) : packet.publishOf = none := by
  cases packet <;> first | rfl | exact (h rfl).elim

theorem pubrelOf_eq_none (h : partOf packet ≠ .pubrel) : packet.pubrelOf = none := by
  cases packet <;> first | rfl | exact (h rfl).elim

theorem ackOf_eq_none (h : partOf packet ≠ .ack) : ackOf packet = none := by
  cases packet <;> first | rfl | exact (h rfl).elim

theorem subscriptionOf_eq_none (h : partOf packet ≠ .subscription) :
    subscriptionOf packet = none := by
  cases packet <;> first | rfl | exact (h rfl).elim

theorem partOf_connect {clean : Bool} (h : packet.connectOf = some clean) :
    partOf packet = .connect := by
  by_contra hp
  cases (connectOf_eq_none hp).symm.trans h

theorem partOf_connack {present : Bool} (h : packet.connackOf = some present) :
    partOf packet = .connack := by
  by_contra hp
  cases (connackOf_eq_none hp).symm.trans h

theorem partOf_publish {p : PacketId w × Qos} (h : packet.publishOf = some p) :
    partOf packet = .publish := by
  by_contra hp
  cases (publishOf_eq_none hp).symm.trans h

theorem partOf_pubrel {id : PacketId w} (h : packet.pubrelOf = some id) :
    partOf packet = .pubrel := by
  by_contra hp
  cases (pubrelOf_eq_none hp).symm.trans h

theorem partOf_ack {p : AckKind × PacketId w} (h : ackOf packet = some p) :
    partOf packet = .ack := by
  by_contra hp
  cases (ackOf_eq_none hp).symm.trans h

theorem partOf_subscription {p : AckKind × PacketId w} (h : subscriptionOf packet = some p) :
    partOf packet = .subscription := by
  by_contra hp
  cases (subscriptionOf_eq_none hp).symm.trans h

end Part

def responseOf : GenericPacket w → Option ResponsePacket
  | .v311Puback _ => some .v311Puback
  | .v311Pubrec _ => some .v311Pubrec
  | .v311Pubcomp _ => some .v311Pubcomp
  | .v50Puback _ => some .v50Puback
  | .v50Pubrec _ => some .v50Pubrec
  | .v50Pubcomp _ => some .v50Pubcomp
  | _ => none

def pubrecReasonOf : GenericPacket w → Option PubrecReasonCode
  | .v311Pubrec p => p.reasonCode
  | .v50Pubrec p => p.reasonCode
  | _ => none

def failsPubrec (packet : GenericPacket w) : Bool :=
  (pubrecReasonOf packet).any PubrecReasonCode.isFailure

structure Silent (packet : GenericPacket w) : Prop where
  connect : packet.connectOf = none
  connack : packet.connackOf = none
  publish : packet.publishOf = none
  pubrel : packet.pubrelOf = none
  ack : ackOf packet = none

/-- What the exchanges of packets see of a connection. -/
@[ext]
structure Session (w : IdWidth) where
  version : Version
  status : ConnectionStatus
  keeps : Bool
  used : Set (PacketId w)
  awaits : AckKind → Set (PacketId w)
  stored : PacketId w → Option (GenericStorePacket w)
  handled : Set (PacketId w)
  count : ℕ
  quota : Option ℕ
  builder : PacketBuilder

namespace Session

def await (s : Session w) (kind : AckKind) (id : PacketId w) : Session w :=
  { s with awaits := Function.update s.awaits kind (insert id (s.awaits kind)) }

def settle (s : Session w) (kind : AckKind) (id : PacketId w) : Session w :=
  { s with awaits := Function.update s.awaits kind (s.awaits kind \ {id}) }

def free (s : Session w) (id : PacketId w) : Session w := { s with used := s.used \ {id} }

def keep (s : Session w) (id : PacketId w) (packet : GenericStorePacket w) : Session w :=
  { s with stored := Function.update s.stored id (some packet) }

def erase (s : Session w) (response : ResponsePacket) (id : PacketId w) : Session w :=
  { s with
    stored := Function.update s.stored id
      ((s.stored id).filter fun packet ↦ packet.responsePacket ≠ some response) }

def counted (s : Session w) (version : Version) : Session w :=
  if version = .v50 ∧ s.quota.isSome then { s with count := s.count + 1 } else s

def finished (s : Session w) (version : Version) : Session w :=
  if version = .v50 ∧ s.quota.isSome then { s with count := s.count - 1 } else s

/-- An exchange that involves the store has its own kinds of acknowledgement. -/
def publishes : AckKind → Bool
  | .puback | .pubrec | .pubcomp => true
  | .suback | .unsuback => false

def clear (s : Session w) : Session w :=
  { s with
    used := {0}
    awaits := fun kind ↦ if publishes kind then ∅ else s.awaits kind
    stored := fun _ ↦ none }

def opened (s : Session w) (version : Version) (clean keeps : Bool) (quota : Option ℕ) :
    Session w :=
  let s := { s with
    version := version
    status := .connecting
    keeps := keeps
    awaits := fun kind ↦ if publishes kind then s.awaits kind else ∅
    count := 0
    quota := quota }
  if clean then s.clear else s

def drains (s : Session w) (kind : AckKind) : Bool := !(publishes kind && s.keeps)

def drained (s : Session w) : Set (PacketId w) := {id | ∃ kind, s.drains kind ∧ id ∈ s.awaits kind}

def closed (s : Session w) : Session w :=
  { s with
    status := .disconnected
    used := s.used \ s.drained
    awaits := fun kind ↦ if s.drains kind then ∅ else s.awaits kind
    handled := if s.keeps then s.handled else ∅ }

open Classical in
noncomputable def restore (s : Session w) (packet : GenericStorePacket w) : Session w :=
  match GenericConnection.restoredAck packet, packet.packetId with
  | some kind, some id =>
    let s := s.await kind id
    if id ∈ s.used then s
    else { s with
      used := insert id s.used
      stored := Function.update s.stored id (some ((s.stored id).getD packet)) }
  | _, _ => s

/-- The resend of the store: what is too large is dropped, and its identifier released. -/
structure Resends (s s' : Session w) (limit : ℕ) (requested : List (GenericPacket w))
    (released : List (PacketId w)) : Prop where
  state : s' = { s with used := s'.used, stored := s'.stored }
  stored : ∀ id, s'.stored id = (s.stored id).filter fun packet ↦ packet.size ≤ limit
  used : s'.used = s.used \ {id | id ∈ released}
  released : ∀ id, id ∈ released ↔ ∃ packet, s.stored id = some packet ∧ limit < packet.size
  requested : ∀ packet, packet ∈ requested ↔
    ∃ id stored, s.stored id = some stored ∧ stored.size ≤ limit ∧ packet = stored.toPacket

end Session

structure Report (w : IdWidth) where
  requested : List (GenericPacket w)
  notified : List (GenericPacket w)
  released : List (PacketId w)
  errors : List MqttError

def report (events : List (GenericEvent w)) : Report w :=
  ⟨requested events, notified events, released events, errors events⟩

inductive Input (w : IdWidth) where
  | send (packet : GenericPacket w)
  | receive (packet : GenericPacket w)
  | close
  | acquire
  | register (id : PacketId w)
  | release (id : PacketId w)
  | restore (packets : List (GenericStorePacket w))
  | restoreHandled (ids : HashSet (PacketId w))
  | other

namespace Input

def Calm : Input w → Prop
  | send packet => Silent packet
  | receive packet => packet.connectOf = none ∧ packet.connackOf = none ∧
      (packet.publishOf.all fun p ↦ p.2 = .atLeastOnce) ∧ packet.pubrelOf = none ∧
      ackOf packet = none
  | acquire | register _ | other => True
  | close | release _ | restore _ | restoreHandled _ => False

def Answers : Input w → Prop
  | send packet => (ackOf packet).isSome
  | receive packet => ∃ id, packet.publishOf = some (id, .atLeastOnce)
  | _ => False

end Input

namespace GenericConnection

/-- The part of the state that the exchanges of packets work on. -/
def session (c : GenericConnection w) : Session w where
  version := c.protocolVersion
  status := c.status
  keeps := c.needStore
  used := {id | c.pidMan.isUsedId id}
  awaits kind := {id | id ∈ c.awaiting kind}
  stored := c.store.get
  handled := {id | id ∈ c.qos2PublishHandled}
  count := c.publishSendCount
  quota := c.publishSendMax.map Fin.val
  builder := c.packetBuilder

end GenericConnection

end MqttProtocolCore.Connection
