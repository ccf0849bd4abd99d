import MqttProtocolCore.Connection.HandoverReceiver
import MqttProtocolCore.Connection.HandoverSender

namespace MqttProtocolCore.Connection

open General Packet GenericConnection

variable {w : IdWidth}

/-- A sender and a receiver, the packets on their way between them, and what happens to the messages
of quality of service 2: the acknowledgements that the application of the receiver owes, the
identifiers of the messages under way, and of those that the receiver was told of. -/
structure HandoverLink (w : IdWidth) where
  sender : GenericConnection w
  receiver : GenericConnection w
  toReceiver : List (GenericPacket w)
  toSender : List (GenericPacket w)
  opened : Bool
  begun : Bool
  owed : List (AckKind × PacketId w)
  underWay : List (PacketId w)
  heard : List (PacketId w)

/-- The application of the sender or of the receiver calls an operation, the bytes of the packet
that is next arrive at one of them, or the network connection is lost. -/
inductive HandoverInput (w : IdWidth) where
  | sends (op : Operation w)
  | answers (op : Operation w)
  | delivers (data : Bytes)
  | returns (data : Bytes)
  | lost

abbrev HandoverOutput (w : IdWidth) := List (GenericEvent w) × List (GenericEvent w)

def messageOf (packet : GenericPacket w) : Option (PacketId w) :=
  packet.publishOf.bind fun p ↦ if p.2 = .exactlyOnce then some p.1 else none

def acceptedOf (op : Operation w) (events : List (GenericEvent w)) : Option (PacketId w) :=
  match op with
  | .send packet => if errors events = [] then messageOf packet else none
  | _ => none

def greetingIn : Input w → Bool
  | .send packet | .receive packet => packet.connackOf.isSome
  | _ => false

def renewalIn : Input w → Bool
  | .send packet => packet.connectOf = some true
  | .receive packet => packet.connectOf = some true ∨ packet.connackOf = some false
  | _ => false

namespace HandoverLink

def moved (link : HandoverLink w) (op : Operation w) (c : GenericConnection w)
    (events : List (GenericEvent w)) (toSender : List (GenericPacket w)) : HandoverLink w :=
  let opened := link.opened || (greetingIn (link.sender.inputOf op) && (errors events).isEmpty)
  { link with
    sender := c
    toReceiver := link.toReceiver ++ requested events
    toSender := toSender
    opened := opened
    begun := link.begun || opened
    underWay := ((acceptedOf op events).toList ++ link.underWay).filter c.pidMan.isUsedId
    heard := link.heard.filter c.pidMan.isUsedId }

def served (link : HandoverLink w) (c : GenericConnection w) (events : List (GenericEvent w))
    (toReceiver : List (GenericPacket w)) : HandoverLink w :=
  { link with
    receiver := c
    toReceiver := toReceiver
    toSender := link.toSender ++ requested events
    owed := owes link.owed (requested events) (notified events)
    heard := (notified events).filterMap messageOf ++ link.heard }

def cut (link : HandoverLink w) (c d : GenericConnection w) : HandoverLink w :=
  { link with
    sender := c
    receiver := d
    toReceiver := []
    toSender := []
    opened := false
    owed := []
    underWay := link.underWay.filter c.pidMan.isUsedId
    heard := link.heard.filter c.pidMan.isUsedId }

def step (link : HandoverLink w) : HandoverInput w → Outcome (HandoverLink w × HandoverOutput w)
  | .sends op => do
    let (c, reply) ← link.sender.step op
    return (link.moved op c reply.toEvents link.toSender, reply.toEvents, [])
  | .returns data => do
    let (c, reply) ← link.sender.step (.recv data)
    return (link.moved (.recv data) c reply.toEvents link.toSender.tail, reply.toEvents, [])
  | .answers op => do
    let (c, reply) ← link.receiver.step op
    return (link.served c reply.toEvents link.toReceiver, [], reply.toEvents)
  | .delivers data => do
    let (c, reply) ← link.receiver.step (.recv data)
    return (link.served c reply.toEvents link.toReceiver.tail, [], reply.toEvents)
  | .lost => do
    let (c, reply) ← link.sender.step .notifyClosed
    let (d, reply') ← link.receiver.step .notifyClosed
    return (link.cut c d, reply.toEvents, reply'.toEvents)

/-- The application of the sender gives every message an identifier without another exchange, and
leaves the identifiers of the messages under way alone; one CONNACK accepts each network connection,
and the session goes on after the first. -/
structure Behaves (link : HandoverLink w) (op : Operation w) : Prop where
  publish : ∀ packet id qos, op = .send packet → packet.publishOf = some (id, qos) →
    id ∉ link.underWay
  apart : ∀ packet id, op = .send packet → packet.publishOf = some (id, .exactlyOnce) →
    link.sender.session.Apart id ∧ id ≠ 0
  pubrel : ∀ packet, op = .send packet → packet.pubrelOf = none
  subscription : ∀ packet kind id, op = .send packet → subscriptionOf packet = some (kind, id) →
    id ∉ link.underWay
  released : ∀ id, op = .releasePacketId id → id ∉ link.underWay
  restored : ∀ packets, op ≠ .restorePackets packets
  closed : op ≠ .notifyClosed
  opened : link.opened → ¬ greetingIn (link.sender.inputOf op)
  renewed : link.begun → ¬ renewalIn (link.sender.inputOf op)

structure Conducts (link : HandoverLink w) (op : Operation w) : Prop extends link.Behaves op where
  stored : ∀ packet p, op = .send packet → packet.publishOf = some p →
    ¬ (link.sender.storesPublish ∧ link.sender.withdraws packet)
  fits : link.begun → link.sender.Resendable op

/-- The sender, what is on its way, and the receiver have a message at a stage and a place that fit
together. -/
structure Paired (link : HandoverLink w) (u : PacketId w) (stage : Stage) (place : Place) : Prop where
  at' : link.sender.session.At u stage
  forth : link.toReceiver.filterMap (forthOf u) = place.forth
  back : link.toSender.filterMap (backOf u) = place.back
  due : link.owed.filterMap (dueOf u) = place.due
  phase : Phase stage place (u ∈ link.receiver.session.handled) (u ∈ link.heard)
  under : u ∈ link.underWay ↔ stage ≠ .idle

/-- The sender and the receiver fit together. -/
structure Joint (v : Version) (link : HandoverLink w) : Prop where
  sender : Reachable (system w) link.sender
  receiver : link.receiver.Reading
  version : link.sender.protocolVersion = v
  determined : v ≠ .undetermined
  filed : link.sender.session.Filed v
  closed : link.opened = false → link.sender.status ≠ .connected
  quiet : link.opened = false → ∀ u, link.toReceiver.filterMap (forthOf u) = [] ∧
    link.toSender.filterMap (backOf u) = [] ∧ link.owed.filterMap (dueOf u) = []
  begun : link.begun = false → link.opened = false ∧ ∀ u, u ∉ link.receiver.session.handled
  paired : ∀ u, ∃ stage place, link.Paired u stage place

variable {link : HandoverLink w} {v : Version} {u : PacketId w} {op : Operation w} {stage : Stage}
  {place : Place} {rest : List (GenericPacket w)} {packet : GenericPacket w}

theorem messageOf_eq_some :
    messageOf packet = some u ↔ packet.publishOf = some (u, .exactlyOnce) := by
  unfold messageOf
  rw [Option.bind_eq_some_iff]
  constructor
  · intro ⟨⟨id, qos⟩, hp, hif⟩
    dsimp only at hif
    split at hif
    · rename_i hq
      rw [hp, ← Option.some.inj hif, hq]
    · cases hif
  · intro hp
    exact ⟨_, hp, by simp⟩

theorem mem_acceptedOf {events : List (GenericEvent w)} : u ∈ acceptedOf op events ↔
    ∃ packet, op = .send packet ∧ packet.publishOf = some (u, .exactlyOnce) ∧ errors events = [] := by
  unfold acceptedOf
  cases op with
  | send packet => simp [messageOf_eq_some, and_comm]
  | _ => simp

theorem embarks_iff {c : GenericConnection w} {events : List (GenericEvent w)} :
    Embarks u (c.inputOf op) (report events) ↔ u ∈ acceptedOf op events := by
  rw [mem_acceptedOf]
  constructor
  · intro ⟨packet, hin, hp, he⟩
    exact ⟨packet, send_of_inputOf hin, hp, he⟩
  · intro ⟨packet, hop, hp, he⟩
    subst hop
    exact ⟨packet, rfl, hp, he⟩

theorem greetingIn_of_greets {input : Input w} {rep : Report w} (h : Greets input rep) :
    greetingIn input ∧ rep.errors = [] := by
  obtain ⟨⟨packet, present, hin, hp⟩, he⟩ := h
  refine ⟨?_, he⟩
  rcases hin with rfl | rfl <;> simp [greetingIn, hp]

theorem renewalIn_of_renews {c : GenericConnection w} {rep : Report w} {input : Input w}
    (h : Renews c rep input) : renewalIn input := by
  cases h with
  | cleanSent hp => simp [renewalIn, hp]
  | cleanReceived hp => simp [renewalIn, hp]
  | sessionDenied hp => simp [renewalIn, hp]

theorem not_greetingIn (h : partOf packet ≠ .connack) : ¬ greetingIn (.send packet) := by
  simp [greetingIn, connackOf_eq_none h]

theorem not_renewalIn (h : partOf packet ≠ .connect) : ¬ renewalIn (.send packet) := by
  simp [renewalIn, connectOf_eq_none h]

theorem spares_of_conducts (hc : link.Conducts op) (hu : u ∈ link.underWay ↔ stage ≠ .idle) :
    link.sender.Spares u stage (link.sender.inputOf op) where
  publish packet qos hin hne hp := hc.publish packet u qos (send_of_inputOf hin) hp (hu.mpr hne)
  apart packet hin hp := hc.apart packet u (send_of_inputOf hin) hp
  pubrel packet hin := by simp [hc.pubrel packet (send_of_inputOf hin)]
  subscription packet kind hin hne hp :=
    hc.subscription packet kind u (send_of_inputOf hin) hp (hu.mpr hne)
  stored packet p hin := hc.stored packet p (send_of_inputOf hin)
  released hne hin := hc.released u (release_of_inputOf hin) (hu.mpr hne)
  closed hin := (hc.closed (close_of_inputOf hin)).elim
  restored packets hin := hc.restored packets (restore_of_inputOf hin)

end HandoverLink

end MqttProtocolCore.Connection
