import MqttProtocolCore.Connection.ClientRun
import MqttProtocolCore.Connection.HandoverJoint

namespace MqttProtocolCore.Connection.HandoverLink

open General Packet GenericConnection

variable {w : IdWidth} {link : HandoverLink w} {v : Version} {u : PacketId w} {op : Operation w}
  {stage : Stage} {place : Place} {data : Bytes}

/-- A sender of a version and a receiver before a network connection is accepted, with no message
under way. -/
structure Starts (v : Version) (link : HandoverLink w) : Prop where
  sender : Reachable (system w) link.sender
  receiver : Reachable (system w) link.receiver
  version : link.sender.protocolVersion = v
  determined : v ≠ .undetermined
  closed : link.sender.status ≠ .connected
  stored : link.sender.store.map.entries = []
  handled : ∀ id, id ∉ link.receiver.qos2PublishHandled
  quiet : link = ⟨link.sender, link.receiver, [], [], false, false, [], [], []⟩

def handoverSystem (v : Version) : System (HandoverLink w) (HandoverInput w) (HandoverOutput w) :=
  ⟨Starts v, step⟩

theorem joint_starts (hs : Starts v link) : link.Joint v := by
  have hstored (id : PacketId w) : link.sender.session.stored id = none := by
    change link.sender.store.map.get id = none
    simp [IndexMap.get, hs.stored]
  obtain ⟨sender, receiver, hv, hdet, hclosed, -, hhandled, hquiet⟩ := hs
  rw [hquiet]
  refine ⟨sender, reachable_reading receiver, hv, hdet, fun id stored hget ↦ ?_, fun _ ↦ hclosed,
    fun _ u ↦ ⟨rfl, rfl, rfl⟩, fun _ ↦ ⟨rfl, hhandled⟩, fun u ↦ ⟨.idle, .nowhere, ?_⟩⟩
  · cases (hstored id).symm.trans hget
  · refine ⟨Session.at_idle fun stored kind hget ↦ ?_, rfl, rfl, rfl, .idle (hhandled u) (by simp),
      by simp⟩
    cases (hstored u).symm.trans hget

theorem undeclined_quiet (h : link.toSender = []) : link.Undeclined := by
  intro u stage place hp heq
  have hback := hp.back
  rw [h, heq] at hback
  cases hback

theorem inputOf_arrival {c : GenericConnection w} {v : Version} {packet : GenericPacket w}
    (h : c.arrival data = some (v, packet)) : c.inputOf (.recv data) = .receive packet := by
  simp [inputOf, h]

theorem reads_sends (h : ∀ data, op ≠ .recv data) : link.Reads op link.toSender := by
  intro u
  cases hin : link.sender.inputOf op with
  | receive packet =>
    obtain ⟨data, -, rfl, -⟩ := arrival_of_inputOf hin
    exact (h data rfl).elim
  | _ => rfl

theorem takes_answers (h : ∀ data, op ≠ .recv data) : link.Takes op link.toReceiver := by
  intro u
  cases hin : link.receiver.inputOf op with
  | receive packet =>
    obtain ⟨data, -, rfl, -⟩ := arrival_of_inputOf hin
    exact (h data rfl).elim
  | _ => rfl

def Returns (link : HandoverLink w) (data : Bytes) (packet : GenericPacket w) : Prop :=
  link.toSender.head? = some packet ∧ ∃ v, link.sender.arrival data = some (v, packet)

def Delivers (link : HandoverLink w) (data : Bytes) (packet : GenericPacket w) : Prop :=
  link.toReceiver.head? = some packet ∧ ∃ v, link.receiver.arrival data = some (v, packet)

instance {packet : GenericPacket w} : Decidable (link.Returns data packet) :=
  decidable_of_iff (link.toSender.head? = some packet ∧
    (link.sender.arrival data).map Prod.snd = some packet) (by simp [Returns])

instance {packet : GenericPacket w} : Decidable (link.Delivers data packet) :=
  decidable_of_iff (link.toReceiver.head? = some packet ∧
    (link.receiver.arrival data).map Prod.snd = some packet) (by simp [Delivers])

theorem filterMap_head {α β : Type} {f : α → Option β} {l : List α} {a : α} (h : l.head? = some a) :
    l.filterMap f = (f a).toList ++ l.tail.filterMap f := by
  obtain ⟨rest, rfl⟩ := List.head?_eq_some_iff.mp h
  rw [List.filterMap_cons, List.tail_cons]
  cases f a <;> rfl

theorem reads_returns {packet : GenericPacket w} (h : link.Returns data packet) :
    link.Reads (.recv data) link.toSender.tail := by
  obtain ⟨hhead, v, ha⟩ := h
  intro u
  rw [inputOf_arrival ha]
  exact filterMap_head hhead

theorem takes_delivers {packet : GenericPacket w} (h : link.Delivers data packet) :
    link.Takes (.recv data) link.toReceiver.tail := by
  obtain ⟨hhead, v, ha⟩ := h
  intro u
  rw [inputOf_arrival ha]
  exact filterMap_head hhead

structure Listens (op : Operation w) : Prop where
  quiet : ∀ data, op ≠ .recv data
  closed : op ≠ .notifyClosed
  handled : ∀ ids, op ≠ .restoreQos2PublishHandled ids
  answers : ∀ packet id, op = .send packet →
    ackOf packet ≠ some (.pubrec, id) ∧ ackOf packet ≠ some (.pubcomp, id)

/-- One step of a sender and a receiver whose sessions are kept over every loss of the network
connection and fit into it again, while the topic of every PUBLISH that arrives is known. -/
def Exchanges (link : HandoverLink w) : HandoverInput w → Prop
  | .sends op => (∀ data, op ≠ .recv data) ∧ link.Behaves op ∧ link.sender.Resendable op
  | .returns data => (∃ packet, link.Returns data packet) ∧ link.Behaves (.recv data) ∧
      link.sender.Resendable (.recv data)
  | .answers op => Listens op
  | .delivers data => ∃ packet, link.Delivers data packet ∧
      ∀ p, packet = .v50Publish p → link.receiver.Resolves p
  | .lost => link.Survives

/-- A PUBLISH with an identifier is stored and given up. -/
def Withdraws (link : HandoverLink w) : HandoverInput w → Prop
  | .sends (.send packet) => packet.publishOf.isSome ∧ link.sender.storesPublish ∧
      link.sender.withdraws packet
  | _ => False

/-- What holds of every transition: the receiver is told of a message under way that it has not heard
of, the identifier of a message under way is announced only after that, and no PUBLISH of a message
that it has not heard of is taken for a repetition. -/
structure DeliversOnce (t : Transition (HandoverLink w) (HandoverInput w) (HandoverOutput w)) :
    Prop where
  once : ∀ u, Told u (notified t.output.2) → u ∈ t.before.underWay ∧ u ∉ t.before.heard
  released : ∀ u ∈ released t.output.1, u ∈ t.before.underWay →
    u ∈ t.before.heard
  taken : ∀ data packet u, t.input = .delivers data → t.before.Delivers data packet →
    packet.publishOf = some (u, .exactlyOnce) → u ∉ t.before.heard →
      u ∉ t.before.receiver.qos2PublishHandled

theorem serves_receive {c : GenericConnection w} {owed : List (AckKind × PacketId w)}
    {packet : GenericPacket w} (h : ∀ p, packet = .v50Publish p → p.qos = .exactlyOnce →
      c.admits p → c.Resolves p) : c.Serves owed (.receive packet) where
  owed _ _ _ hin := by cases hin
  reason _ _ hin := by cases hin
  resolves p hin := h p (Input.receive.inj hin)
  handled _ hin := by cases hin
  closed hin := by cases hin

theorem serves_listens {c : GenericConnection w} {owed : List (AckKind × PacketId w)}
    (h : Listens op) : c.Serves owed (c.inputOf op) ∧ ¬ Decides (c.inputOf op) := by
  have hrecv (packet : GenericPacket w) : c.inputOf op ≠ .receive packet := by
    intro hin
    obtain ⟨data, -, rfl, -⟩ := arrival_of_inputOf hin
    exact h.quiet data rfl
  refine ⟨⟨fun packet kind id hin hack hkind ↦ ?_, fun packet id hin hack ↦ ?_,
    fun p hin ↦ (hrecv _ hin).elim, fun ids hin ↦ ?_, fun hin ↦ h.closed (close_of_inputOf hin)⟩, ?_⟩
  · obtain ⟨hrec, hcomp⟩ := h.answers packet id (send_of_inputOf hin)
    rcases hkind with rfl | rfl
    · exact (hrec hack).elim
    · exact (hcomp hack).elim
  · exact ((h.answers packet id (send_of_inputOf hin)).1 hack).elim
  · cases op with
    | restoreQos2PublishHandled pids => exact h.handled pids rfl
    | recv data => exact h.quiet data rfl
    | _ => cases hin
  · intro h
    obtain ⟨packet, id, hin, hack⟩ := h
    exact (h.answers packet id (send_of_inputOf hin)).1 hack

theorem not_told : ¬ Told u (notified ([] : List (GenericEvent w))) := fun ⟨_, hp, _⟩ ↦ by cases hp

theorem deliversOnce_moved {i : HandoverInput w} {link' : HandoverLink w}
    {events : List (GenericEvent w)} (hi : ∀ data, i ≠ .delivers data)
    (h : ∀ u ∈ released events, u ∈ link.underWay → u ∈ link.heard) :
    DeliversOnce ⟨link, i, link', events, []⟩ :=
  ⟨fun _ htold ↦ (not_told htold).elim, h, fun data _ _ hin ↦ (hi data hin).elim⟩

theorem deliversOnce_served {i : HandoverInput w} {link' : HandoverLink w}
    {events : List (GenericEvent w)} (h : link.Hears link' op events)
    (htaken : ∀ data packet u, i = .delivers data → link.Delivers data packet →
      packet.publishOf = some (u, .exactlyOnce) → u ∉ link.heard →
        u ∉ link.receiver.qos2PublishHandled) :
    DeliversOnce ⟨link, i, link', [], events⟩ :=
  ⟨h.once, fun _ hu ↦ (List.not_mem_nil hu).elim, htaken⟩

theorem exchanged_sends {rest : List (GenericPacket w)} (hj : link.Joint v) (hno : link.Undeclined)
    (hb : link.Behaves op) (hfits : link.sender.Resendable op) (hread : link.Reads op rest)
    (hstored : ∀ packet p, op = .send packet → packet.publishOf = some p →
      ¬ (link.sender.storesPublish ∧ link.sender.withdraws packet)) :
    (link.sender.step op).Ensures fun r ↦ ((link.moved op r.1 r.2.toEvents rest).Joint v ∧
      (link.moved op r.1 r.2.toEvents rest).Undeclined) ∧
      ∀ u ∈ released r.2.toEvents, u ∈ link.underWay → u ∈ link.heard := by
  intro r hr
  have hc : link.Conducts op := ⟨hb, hstored, fun _ ↦ hfits⟩
  obtain ⟨hj', hfollows⟩ := joint_moved hj hc hread r hr
  exact ⟨⟨hj', undeclined_moved hj hc hread hno r hr⟩, hfollows.released hfits⟩

theorem exchanged_answers (hj : link.Joint v) (hno : link.Undeclined) (hok : Listens op) :
    (link.step (.answers op)).Ensures fun r ↦
      (r.1.Joint v ∧ r.1.Undeclined) ∧ DeliversOnce ⟨link, .answers op, r.1, r.2⟩ := by
  obtain ⟨hserves, hdecides⟩ : link.receiver.Serves link.owed (link.receiver.inputOf op) ∧
      ¬ Decides (link.receiver.inputOf op) := serves_listens hok
  have htakes : link.Takes op link.toReceiver := takes_answers hok.quiet
  refine Outcome.Ensures.bind (P := fun r ↦ link.receiver.step op = .ret r) (fun r hr ↦ hr)
    fun r hr ↦ Outcome.ensures_ret.mpr ?_
  obtain ⟨hj', hhears⟩ := joint_served hj hserves htakes r hr
  refine ⟨⟨hj', undeclined_served hj hserves htakes hno hdecides r hr⟩, ?_⟩
  exact deliversOnce_served hhears fun data _ _ hin ↦ by cases hin

theorem exchanged_delivers {packet : GenericPacket w} (hj : link.Joint v) (hno : link.Undeclined)
    (hdelivers : link.Delivers data packet)
    (hresolves : ∀ p, packet = .v50Publish p → link.receiver.Resolves p) :
    (link.step (.delivers data)).Ensures fun r ↦
      (r.1.Joint v ∧ r.1.Undeclined) ∧ DeliversOnce ⟨link, .delivers data, r.1, r.2⟩ := by
  obtain ⟨-, version, ha⟩ := id hdelivers
  have hin := inputOf_arrival ha
  have hserves : link.receiver.Serves link.owed (link.receiver.inputOf (.recv data)) := by
    rw [hin]
    exact serves_receive fun p hp _ _ ↦ hresolves p hp
  have hdecides : ¬ Decides (link.receiver.inputOf (.recv data)) := by
    rw [hin]
    intro h
    obtain ⟨_, _, hsend, _⟩ := h
    cases hsend
  have htakes := takes_delivers hdelivers
  refine Outcome.Ensures.bind (P := fun r ↦ link.receiver.step (.recv data) = .ret r)
    (fun r hr ↦ hr) fun r hr ↦ Outcome.ensures_ret.mpr ?_
  obtain ⟨hj', hhears⟩ := joint_served hj hserves htakes r hr
  refine ⟨⟨hj', undeclined_served hj hserves htakes hno hdecides r hr⟩, ?_⟩
  refine deliversOnce_served hhears fun data' packet' u hdata hdelivers' hp hnot hhandled ↦ ?_
  obtain rfl := HandoverInput.delivers.inj hdata
  obtain rfl : packet = packet' := Option.some.inj (hdelivers.1.symm.trans hdelivers'.1)
  refine hnot (hhears.known u ?_ hhandled)
  rw [hin]
  exact (forthOf_publish hp).trans (by simp)

theorem exchanged {i : HandoverInput w} (hj : link.Joint v) (hno : link.Undeclined)
    (hok : link.Exchanges i) (hw : ¬ link.Withdraws i) : (link.step i).Ensures fun r ↦
      (r.1.Joint v ∧ r.1.Undeclined) ∧ DeliversOnce ⟨link, i, r.1, r.2⟩ := by
  cases i with
  | sends op =>
    obtain ⟨hrecv, hb, hfits⟩ := hok
    refine (exchanged_sends hj hno hb hfits (reads_sends hrecv) fun packet p hop hp h ↦ ?_).bind
      fun r hr ↦ Outcome.ensures_ret.mpr ⟨hr.1, deliversOnce_moved (fun _ h ↦ by cases h) hr.2⟩
    subst hop
    exact hw ⟨Option.isSome_of_eq_some hp, h⟩
  | returns data =>
    obtain ⟨⟨packet, hreturns⟩, hb, hfits⟩ := hok
    exact (exchanged_sends hj hno hb hfits (reads_returns hreturns) fun _ _ h ↦ by cases h).bind
      fun r hr ↦ Outcome.ensures_ret.mpr ⟨hr.1, deliversOnce_moved (fun _ h ↦ by cases h) hr.2⟩
  | answers op => exact exchanged_answers hj hno hok
  | delivers data =>
    obtain ⟨packet, hdelivers, hresolves⟩ := hok
    exact exchanged_delivers hj hno hdelivers hresolves
  | lost =>
    refine Outcome.Ensures.bind (P := fun r ↦ link.sender.step .notifyClosed = .ret r)
      (fun r hr ↦ hr) fun r hr ↦ ?_
    refine Outcome.Ensures.bind (P := fun r ↦ link.receiver.step .notifyClosed = .ret r)
      (fun r hr ↦ hr) fun r' hr' ↦ Outcome.ensures_ret.mpr ?_
    obtain ⟨hj', hreleased, hnotified⟩ := joint_cut hj hno hok hr hr'
    refine ⟨⟨hj', undeclined_quiet rfl⟩, fun u htold ↦ ?_,
      fun u hu hmem ↦ (hreleased u hu hmem).elim, fun _ _ _ h ↦ by cases h⟩
    have htold' : Told u (notified r'.2.toEvents) := htold
    rw [hnotified] at htold'
    exact (not_told htold').elim

theorem free_unhandled (hj : link.Joint v) (hu : ¬ link.sender.pidMan.isUsedId u) :
    u ∉ link.receiver.qos2PublishHandled := by
  intro hhandled
  obtain ⟨stage, place, hp⟩ := hj.paired u
  exact hu (hp.at'.used (hp.phase.of_handled hhandled).1)

/-- In every run of a sender and a receiver over any losses of the network connection, when no
PUBLISH is given up after it was stored, the receiver is told of every message at most once, the
sender announces an identifier only after that, and no free identifier is kept track of. -/
theorem handover_once
    {trace : List (Transition (HandoverLink w) (HandoverInput w) (HandoverOutput w))}
    (hrun : Run (handoverSystem v) (fun link i ↦ link.Exchanges i ∧ ¬ link.Withdraws i) trace link) :
    (∀ t ∈ trace, DeliversOnce t) ∧
      ∀ u, ¬ link.sender.pidMan.isUsedId u → u ∉ link.receiver.qos2PublishHandled := by
  have h := hrun.transitions (I := fun link ↦ link.Joint v ∧ link.Undeclined) (P := DeliversOnce)
    (fun link hs ↦ ⟨joint_starts hs, undeclined_quiet (by rw [hs.quiet])⟩)
    (fun link i hI hok ↦ exchanged hI.1 hI.2 hok.1 hok.2)
  exact ⟨h.2, fun u hu ↦ free_unhandled h.1.1 hu⟩

section Runs

variable {packet : GenericPacket w} {id : PacketId w}

theorem apart_of_awaiting {c : GenericConnection w}
    (h : ∀ kind ∈ [AckKind.puback, .suback, .unsuback], id ∉ c.awaiting kind) :
    c.session.Apart id := by
  intro kind hr hc
  cases kind with
  | pubrec => exact (hr rfl).elim
  | pubcomp => exact (hc rfl).elim
  | _ => exact h _ (by simp)

def joined (w : IdWidth) (client server : List (Operation w)) : Outcome (HandoverLink w) := do
  let s ← (system w).run (new .client w .v50) client
  let d ← (system w).run (new .server w .v50) server
  return ⟨s.2, d.2, [], [], false, false, [], [], []⟩

def Unused (link : HandoverLink w) : Prop :=
  link.sender.protocolVersion = .v50 ∧ link.sender.status ≠ .connected ∧
    link.sender.store.map.entries = [] ∧ link.receiver.qos2PublishHandled = ∅

instance : Decidable link.Unused := inferInstanceAs (Decidable (_ ∧ _ ∧ _ ∧ _))

theorem starts_joined {client server : List (Operation w)} (hlink : joined w client server = .ret link)
    (hu : link.Unused) : Starts .v50 link := by
  obtain ⟨s, hs, hlink⟩ := Outcome.bind_eq_ret.mp hlink
  obtain ⟨d, hd, hlink⟩ := Outcome.bind_eq_ret.mp hlink
  obtain rfl := Outcome.ret.inj hlink
  obtain ⟨hversion, hclosed, hentries, hhandled⟩ := hu
  have hsender : Run (system w) (fun _ _ ↦ True) s.1 s.2 := Run.of_run ⟨.client, .v50, rfl⟩ hs
  have hreceiver : Run (system w) (fun _ _ ↦ True) d.1 d.2 := Run.of_run ⟨.server, .v50, rfl⟩ hd
  refine ⟨hsender.reachable, hreceiver.reachable, hversion, by simp, hclosed, hentries,
    fun id ↦ ?_, rfl⟩
  have hnone : d.2.qos2PublishHandled = ∅ := hhandled
  rw [hnone]
  exact HashSet.notMem_empty id

/-- A sender and a receiver that keep their session over the loss of a first network connection, and
open another one. -/
def interrupted : Outcome (HandoverLink .u16) := do
  let connect ← connectPacket .v50 (connectBody .v50 0 0 [5, 0x11, 0, 0, 0, 10])
  let connack ← (V50.Connack.parse [0, 0, 0]).unwrap
  let arrival := Operation.recv (0x10 :: 19 :: connectBody .v50 0 0 [5, 0x11, 0, 0, 0, 10])
  joined .u16
    [.setAutoPubResponse true, .send connect, .recv [0x20, 3, 0, 0, 0], .notifyClosed,
      .send connect, .acquirePacketId]
    [.setAutoPubResponse true, arrival, .send (.v50Connack connack.1), .notifyClosed, arrival]

theorem starts_interrupted {link : HandoverLink .u16} (h : interrupted = .ret link) :
    Starts .v50 link := by
  obtain ⟨link', h', hunused⟩ : interrupted.Attains Unused := by
    decide +kernel
  obtain rfl := Outcome.ret.inj (h.symm.trans h')
  obtain ⟨connect, -, h⟩ := Outcome.bind_eq_ret.mp h
  obtain ⟨connack, -, h⟩ := Outcome.bind_eq_ret.mp h
  exact starts_joined h hunused

theorem Starts.not_underWay (hs : Starts v link) : id ∉ link.underWay := by
  rw [hs.quiet]
  exact List.not_mem_nil

theorem behaves_publish (hp : packet.publishOf = some (id, .exactlyOnce)) (hu : id ∉ link.underWay)
    (hapart : ∀ kind ∈ [AckKind.puback, .suback, .unsuback], id ∉ link.sender.awaiting kind)
    (h0 : id ≠ 0) : link.Behaves (.send packet) where
  publish p a qos h hp' := by
    obtain rfl := Operation.send.inj h
    obtain ⟨rfl, -⟩ := Prod.mk.inj (Option.some.inj (hp.symm.trans hp'))
    exact hu
  apart p a h hp' := by
    obtain rfl := Operation.send.inj h
    obtain ⟨rfl, -⟩ := Prod.mk.inj (Option.some.inj (hp.symm.trans hp'))
    exact ⟨apart_of_awaiting hapart, h0⟩
  pubrel p h := by
    obtain rfl := Operation.send.inj h
    exact pubrelOf_eq_none (by simp [partOf_publish hp])
  subscription p kind a h hs := by
    obtain rfl := Operation.send.inj h
    cases (partOf_subscription hs).symm.trans (partOf_publish hp)
  released _ h := by cases h
  restored _ h := by cases h
  closed h := by cases h
  opened _ := not_greetingIn (by simp [partOf_publish hp])
  renewed _ := not_renewalIn (by simp [partOf_publish hp])

theorem behaves_recv (hopened : link.opened → ¬ greetingIn (link.sender.inputOf (.recv data)))
    (hbegun : link.begun → ¬ renewalIn (link.sender.inputOf (.recv data))) :
    link.Behaves (.recv data) where
  publish _ _ _ h := by cases h
  apart _ _ h := by cases h
  pubrel _ h := by cases h
  subscription _ _ _ h := by cases h
  released _ h := by cases h
  restored _ h := by cases h
  closed h := by cases h
  opened := hopened
  renewed := hbegun

theorem exchanges_publish (hp : packet.publishOf = some (id, .exactlyOnce)) (hu : id ∉ link.underWay)
    (hapart : ∀ kind ∈ [AckKind.puback, .suback, .unsuback], id ∉ link.sender.awaiting kind)
    (h0 : id ≠ 0) : link.Exchanges (.sends (.send packet)) := by
  refine ⟨fun data h ↦ ?_, behaves_publish hp hu hapart h0, fun limit before h ↦ ?_⟩
  · cases h
  · cases h with
    | sent hp' => cases (partOf_connack hp').symm.trans (partOf_publish hp)

theorem exchanges_returned (h : link.Returns data packet) (hopened : link.opened = false)
    (hbegun : link.begun = false) (hfits : link.sender.Refits packet) :
    link.Exchanges (.returns data) := by
  obtain ⟨_, ha⟩ := h.2
  exact ⟨⟨packet, h⟩, behaves_recv (by simp [hopened]) (by simp [hbegun]), hfits.resendable ha⟩

theorem exchanges_connack {present : Bool} (hp : packet.connackOf = some present) :
    link.Exchanges (.answers (.send packet)) := by
  refine ⟨fun _ h ↦ (by cases h), fun h ↦ (by cases h), fun _ h ↦ (by cases h), fun p id h ↦ ?_⟩
  obtain rfl := Operation.send.inj h
  have hack : ackOf packet = none := ackOf_eq_none (by simp [partOf_connack hp])
  simp [hack]

theorem exchanges_delivered {p : V50.Publish w} (h : link.Delivers data (.v50Publish p))
    (hplain : p.NamesTopic) : link.Exchanges (.delivers data) := by
  refine ⟨_, h, fun p' heq ↦ ?_⟩
  obtain rfl := GenericPacket.v50Publish.inj heq
  exact resolves_of_namesTopic hplain

/-- A PUBLISH is stored without a network connection, with an alias that is unknown when it is to be
withdrawn, and sent when the receiver has resumed the session. -/
def resumed (withdrawn : Bool) : Outcome (HandoverLink .u16) := do
  let link ← interrupted
  let publish ← (V50.Publish.parse 4
    ([0, 1, 0x61, 0, 1] ++ if withdrawn then [3, 0x23, 0, 1] else [0])).unwrap
  let connack ← (V50.Connack.parse [1, 0, 0]).unwrap
  let (link, _) ← link.step (.sends (.send (.v50Publish publish.1)))
  let (link, _) ← link.step (.answers (.send (.v50Connack connack.1)))
  let (link, _) ← link.step (.returns [0x20, 3, 1, 0, 0])
  return link

theorem run_resumed {withdrawn : Bool} {link : HandoverLink .u16}
    (h : resumed withdrawn = .ret link) :
    ∃ trace, trace.length = 3 ∧ Run (handoverSystem .v50)
      (fun link i ↦ link.Exchanges i ∧ (withdrawn = false → ¬ link.Withdraws i)) trace link := by
  obtain ⟨link₀, hlink, publish, hpublish, connack, hconnack, hp, hgreets, hapart, hkept, ⟨link₁, _⟩,
      h₁, ⟨link₂, _⟩, h₂, hopened, hbegun, hreturns, hfits⟩ :
      interrupted.Attains fun link ↦ (V50.Publish.parse (w := .u16) 4
        ([0, 1, 0x61, 0, 1] ++ if withdrawn then [3, 0x23, 0, 1] else [0])).unwrap.Attains
          fun publish ↦
      (V50.Connack.parse [1, 0, 0]).unwrap.Attains fun connack ↦
      (GenericPacket.v50Publish publish.1).publishOf = some (1, .exactlyOnce) ∧
      (GenericPacket.v50Connack (w := .u16) connack.1).connackOf = some true ∧
      (∀ kind ∈ [AckKind.puback, .suback, .unsuback], 1 ∉ link.sender.awaiting kind) ∧
      (withdrawn = false → ¬ link.sender.withdraws (.v50Publish publish.1)) ∧
      (link.step (.sends (.send (.v50Publish publish.1)))).Attains fun r₁ ↦
      (r₁.1.step (.answers (.send (.v50Connack connack.1)))).Attains fun r₂ ↦
      r₂.1.opened = false ∧ r₂.1.begun = false ∧
      r₂.1.Returns [0x20, 3, 1, 0, 0] (.v50Connack connack.1) ∧
      r₂.1.sender.Refits (.v50Connack connack.1) := by
    clear h
    revert withdrawn
    decide +kernel
  rw [resumed, hlink, Outcome.ret_bind, hpublish, Outcome.ret_bind, hconnack, Outcome.ret_bind,
    h₁, Outcome.ret_bind] at h
  obtain ⟨⟨link₂', _⟩, h₂', h⟩ := Outcome.bind_eq_ret.mp h
  obtain ⟨rfl, rfl⟩ := Prod.mk.inj (Outcome.ret.inj (h₂'.symm.trans h₂))
  obtain ⟨⟨link₃, _⟩, h₃, h⟩ := Outcome.bind_eq_ret.mp h
  obtain rfl := Outcome.ret.inj h
  have hstarts : Starts .v50 link₀ := starts_interrupted hlink
  have hrun₁ : Run (handoverSystem .v50)
      (fun link i ↦ link.Exchanges i ∧ (withdrawn = false → ¬ link.Withdraws i)) _ link₁ :=
    (Run.init hstarts).step ⟨exchanges_publish hp hstarts.not_underWay hapart (by decide),
      fun hw h ↦ hkept hw h.2.2⟩ h₁
  have hrun₂ := hrun₁.step ⟨exchanges_connack hgreets, fun _ ↦ not_false⟩ h₂
  have hrun₃ := hrun₂.step
    ⟨exchanges_returned hreturns hopened hbegun hfits, fun _ ↦ not_false⟩ h₃
  exact ⟨_, rfl, hrun₃⟩

/-- A message is stored before the session is resumed, and delivered after that. -/
theorem handover_once_resumed : ∃ (link : HandoverLink .u16) (trace : List (Transition _ _ _)),
    Run (handoverSystem .v50) (fun link i ↦ link.Exchanges i ∧ ¬ link.Withdraws i) trace link ∧
      trace.length = 4 ∧ (∀ t ∈ trace, DeliversOnce t) ∧
      ∀ u, ¬ link.sender.pidMan.isUsedId u → u ∉ link.receiver.qos2PublishHandled := by
  obtain ⟨link, hlink, publish, -, hdelivers, hplain, ⟨link₁, _⟩, h₁⟩ :
      (resumed false).Attains fun link ↦
      (V50.Publish.parse (w := .u16) 12 [0, 1, 0x61, 0, 1, 0]).unwrap.Attains fun publish ↦
      link.Delivers [0x3C, 6, 0, 1, 0x61, 0, 1, 0] (.v50Publish publish.1) ∧
      publish.1.NamesTopic ∧ (link.step (.delivers [0x3C, 6, 0, 1, 0x61, 0, 1, 0])).Returns := by
    decide +kernel
  obtain ⟨trace, hlen, hresumed⟩ := run_resumed hlink
  have hrun : Run (handoverSystem .v50) (fun link i ↦ link.Exchanges i ∧ ¬ link.Withdraws i) _ link :=
    hresumed.mono fun _ _ h ↦ ⟨h.1, h.2 rfl⟩
  have hrun₁ := hrun.step ⟨exchanges_delivered hdelivers hplain, not_false⟩ h₁
  exact ⟨link₁, _, hrun₁, by simp [hlen], handover_once hrun₁⟩

/-- A PUBLISH that is given up after it was stored is delivered when the session is resumed. -/
theorem withdrawn_delivered : ¬ ∀ (v : Version) trace (link : HandoverLink .u16),
    Run (handoverSystem v) (fun link i ↦ link.Exchanges i) trace link →
      (∀ t ∈ trace, DeliversOnce t) ∧
        ∀ u, ¬ link.sender.pidMan.isUsedId u → u ∉ link.receiver.qos2PublishHandled := by
  intro hall
  obtain ⟨link, hlink, publish, -, hdelivers, hplain, ⟨link₁, _⟩, h₁, hfree, hmem⟩ :
      (resumed true).Attains fun link ↦
      (V50.Publish.parse (w := .u16) 12 [0, 1, 0x61, 0, 1, 0]).unwrap.Attains fun publish ↦
      link.Delivers [0x3C, 6, 0, 1, 0x61, 0, 1, 0] (.v50Publish publish.1) ∧
      publish.1.NamesTopic ∧
      (link.step (.delivers [0x3C, 6, 0, 1, 0x61, 0, 1, 0])).Attains fun r ↦
        ¬ r.1.sender.pidMan.isUsedId 1 ∧ 1 ∈ r.1.receiver.qos2PublishHandled := by
    decide +kernel
  obtain ⟨_, -, hresumed⟩ := run_resumed hlink
  have hrun : Run (handoverSystem .v50) (fun link i ↦ link.Exchanges i) _ link :=
    hresumed.mono fun _ _ h ↦ h.1
  have hrun₁ := hrun.step (exchanges_delivered hdelivers hplain) h₁
  exact (hall _ _ _ hrun₁).2 1 hfree hmem

end Runs

end MqttProtocolCore.Connection.HandoverLink
