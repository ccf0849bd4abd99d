import MqttProtocolCore.Connection.HandoverDelivery

namespace MqttProtocolCore.Connection.HandoverLink

open General Packet GenericConnection

variable {w : IdWidth} {link : HandoverLink w} {v : Version} {u : PacketId w} {op : Operation w}
  {stage : Stage} {place : Place} {data : Bytes}

structure Decided (link : HandoverLink w) (op : Operation w) : Prop where
  quiet : ∀ data, op ≠ .recv data
  closed : op ≠ .notifyClosed
  handled : ∀ ids, op ≠ .restoreQos2PublishHandled ids
  owed : ∀ packet kind id, op = .send packet → ackOf packet = some (kind, id) →
    kind = .pubrec ∨ kind = .pubcomp → (kind, id) ∈ link.owed

/-- One step of a sender and a receiver on one network connection. -/
def Converses (link : HandoverLink w) : HandoverInput w → Prop
  | .sends op => (∀ data, op ≠ .recv data) ∧ link.Behaves op
  | .returns data => (∃ packet, link.Returns data packet) ∧ link.Behaves (.recv data)
  | .answers op => link.Decided op
  | .delivers data => ∃ packet, link.Delivers data packet
  | .lost => False

/-- The sender follows up every PUBREC that goes on with an exchange, no PUBREC reports that there
are no subscribers, no PUBLISH is given up after it was stored, and the topic of every PUBLISH that
arrives is known. -/
structure Concurs (link : HandoverLink w) (i : HandoverInput w) : Prop where
  stored : ¬ link.Withdraws i
  follows : ∀ data packet id, i = .returns data → link.Returns data packet →
    backOf id packet = some .accept → link.sender.FollowsUp packet id
  reason : ∀ packet, i = .answers (.send packet) →
    pubrecReasonOf packet ≠ some .noMatchingSubscribers
  resolves : ∀ data p, i = .delivers data → link.Delivers data (.v50Publish p) →
    p.qos = .exactlyOnce → link.receiver.admits p → link.receiver.Resolves p

/-- What holds of every transition: after a PUBREC the identifier is in use, with a PUBREL on its
way, exactly if the receiver keeps track of it; no PUBLISH that arrives is taken for a repetition;
and a PUBREL that arrives ends what the receiver keeps track of. -/
structure Concords (t : Transition (HandoverLink w) (HandoverInput w) (HandoverOutput w)) :
    Prop where
  answered : ∀ data packet u, t.input = .returns data → t.before.Returns data packet →
    ackOf packet = some (.pubrec, u) →
      (t.after.sender.pidMan.isUsedId u ↔ u ∈ t.after.receiver.qos2PublishHandled) ∧
        (u ∈ t.after.receiver.qos2PublishHandled →
          ∃ pubrel ∈ t.after.toReceiver, pubrel.pubrelOf = some u)
  taken : ∀ data packet u, t.input = .delivers data → t.before.Delivers data packet →
    packet.publishOf = some (u, .exactlyOnce) → u ∉ t.before.receiver.qos2PublishHandled
  ended : ∀ data packet u, t.input = .delivers data → t.before.Delivers data packet →
    packet.pubrelOf = some u → u ∉ t.after.receiver.qos2PublishHandled

/-- What the receiver keeps track of is in use at the sender, and an answer to it or a PUBREL for it
is owed or on its way. -/
def Pending (link : HandoverLink w) (u : PacketId w) : Prop :=
  link.sender.pidMan.isUsedId u ∧ ((.pubrec, u) ∈ link.owed ∨
    (∃ packet ∈ link.toSender, ackOf packet = some (.pubrec, u) ∧ continues packet) ∨
    ∃ packet ∈ link.toReceiver, packet.pubrelOf = some u)

theorem forthOf_confirm {packet : GenericPacket w} (h : forthOf u packet = some .confirm) :
    packet.pubrelOf = some u := by
  unfold forthOf at h
  split at h
  · cases h
  · split at h
    · assumption
    · cases h

theorem backOf_accepts {packet : GenericPacket w} (h : backOf u packet = some .accept) :
    ackOf packet = some (.pubrec, u) ∧ continues packet := by
  unfold backOf at h
  split at h
  · split at h
    · exact ⟨‹_›, ‹_›⟩
    · cases h
  · split at h <;> cases h

theorem pending_handled (hj : link.Joint v) (hprompt : link.Prompted)
    (hu : u ∈ link.receiver.qos2PublishHandled) : link.Pending u := by
  obtain ⟨stage, place, hp⟩ := hj.paired u
  have hhandled : u ∈ link.receiver.session.handled := hu
  refine ⟨hp.at'.used (hp.phase.of_handled hhandled).1, ?_⟩
  have hplace : ¬ (place = .nowhere ∨ place = .offer) := fun h ↦ hprompt u stage place hp h hhandled
  have hphase := hp.phase
  rcases hphase.of_kept hhandled hplace with rfl | rfl | rfl
  · left
    have hmem : Due.answer ∈ link.owed.filterMap (dueOf u) := by rw [hp.due]; exact .head _
    obtain ⟨a, ha, hdue⟩ := List.mem_filterMap.mp hmem
    obtain rfl := dueOf_eq_some hdue
    exact ha
  · right; left
    have hmem : Back.accept ∈ link.toSender.filterMap (backOf u) := by rw [hp.back]; exact .head _
    obtain ⟨packet, hpacket, hback⟩ := List.mem_filterMap.mp hmem
    exact ⟨packet, hpacket, backOf_accepts hback⟩
  · right; right
    have hmem : Forth.confirm ∈ link.toReceiver.filterMap (forthOf u) := by rw [hp.forth]; exact .head _
    obtain ⟨packet, hpacket, hforth⟩ := List.mem_filterMap.mp hmem
    exact ⟨packet, hpacket, forthOf_confirm hforth⟩

theorem resendable_begun (hopen : link.begun → link.opened) (hb : link.Behaves op) :
    link.begun → link.sender.Resendable op := by
  intro hbegun limit before h
  have hno := hb.opened (hopen hbegun)
  cases h with
  | sent hp => simp [greetingIn, inputOf, hp] at hno
  | received ha hp => simp [greetingIn, inputOf_arrival ha, hp] at hno

theorem conducts_converses {i : HandoverInput w} (hopen : link.begun → link.opened)
    (hb : link.Behaves op) (hi : i = .sends op ∨ ∃ data, op = .recv data) (hs : ¬ link.Withdraws i) :
    link.Conducts op := by
  refine ⟨hb, fun packet p hop hp h ↦ ?_, resendable_begun hopen hb⟩
  subst hop
  rcases hi with rfl | ⟨data, hdata⟩
  · exact hs ⟨Option.isSome_of_eq_some hp, h⟩
  · cases hdata

theorem conversed_sends {rest : List (GenericPacket w)} (hj : link.Joint v) (hprompt : link.Prompted)
    (hopen : link.begun → link.opened) (hc : link.Conducts op) (hread : link.Reads op rest)
    (hfollows : ∀ u packet, link.sender.inputOf op = .receive packet →
      backOf u packet = some .accept → link.sender.FollowsUp packet u) :
    (link.sender.step op).Ensures fun r ↦ ((link.moved op r.1 r.2.toEvents rest).Joint v ∧
      (link.moved op r.1 r.2.toEvents rest).Prompted ∧
      ((link.moved op r.1 r.2.toEvents rest).begun → (link.moved op r.1 r.2.toEvents rest).opened)) ∧
      link.Follows (link.moved op r.1 r.2.toEvents rest) op r.2.toEvents := by
  intro r hr
  obtain ⟨hj', hf⟩ := joint_moved hj hc hread r hr
  refine ⟨⟨hj', prompted_moved hj hc hread hprompt hfollows r hr, fun h ↦ ?_⟩, hf⟩
  rcases Bool.or_eq_true_iff.mp h with h | h
  · exact Bool.or_eq_true_iff.mpr (.inl (hopen h))
  · exact h

theorem conversed_served {rest : List (GenericPacket w)} (hj : link.Joint v) (hprompt : link.Prompted)
    (hserves : link.receiver.Serves link.owed (link.receiver.inputOf op))
    (htakes : link.Takes op rest) : (link.receiver.step op).Ensures fun r ↦
      ((link.served r.1 r.2.toEvents rest).Joint v ∧
        (link.served r.1 r.2.toEvents rest).Prompted) ∧
        link.Hears (link.served r.1 r.2.toEvents rest) op r.2.toEvents := by
  intro r hr
  obtain ⟨hj', hhears⟩ := joint_served hj hserves htakes r hr
  exact ⟨⟨hj', prompted_served hj hserves htakes hprompt r hr⟩, hhears⟩

theorem reason_cases {packet : GenericPacket w}
    (h : pubrecReasonOf packet ≠ some .noMatchingSubscribers) :
    continues packet ∨ failsPubrec packet := by
  unfold continues failsPubrec
  cases hr : pubrecReasonOf packet with
  | none => exact .inl (.inr rfl)
  | some reason =>
    cases reason with
    | success => exact .inl (.inr rfl)
    | noMatchingSubscribers => exact (h hr).elim
    | _ => exact .inr rfl

theorem serves_decided (hok : link.Decided op) (hreason : ∀ packet, op = .send packet →
    pubrecReasonOf packet ≠ some .noMatchingSubscribers) :
    link.receiver.Serves link.owed (link.receiver.inputOf op) where
  owed packet kind id hin := hok.owed packet kind id (send_of_inputOf hin)
  reason packet id hin _ := reason_cases (hreason packet (send_of_inputOf hin))
  resolves p hin := by
    obtain ⟨data, -, rfl, -⟩ := arrival_of_inputOf hin
    exact (hok.quiet data rfl).elim
  handled ids hin := by
    cases op with
    | restoreQos2PublishHandled pids => exact hok.handled pids rfl
    | recv data => exact hok.quiet data rfl
    | _ => cases hin
  closed hin := hok.closed (close_of_inputOf hin)

theorem unhandled_offer (hj : link.Joint v) (hprompt : link.Prompted) {packet : GenericPacket w}
    (hhead : link.toReceiver.head? = some packet)
    (hp : packet.publishOf = some (u, .exactlyOnce)) : u ∉ link.receiver.qos2PublishHandled := by
  obtain ⟨stage, place, hpaired⟩ := hj.paired u
  have hall := hpaired.forth
  rw [filterMap_head hhead, forthOf_publish hp] at hall
  have hforth : place.forth = .offer :: link.toReceiver.tail.filterMap (forthOf u) := by
    simpa using hall.symm
  have hplace : place.forth = [.offer] := by rw [hforth, Place.forth_cons hforth]
  obtain ⟨-, rfl, -⟩ := hpaired.phase.of_offer hplace
  exact hprompt u stage .offer hpaired (.inr rfl)

/-- The sender and the receiver fit together on one network connection. -/
structure Agreed (v : Version) (link : HandoverLink w) : Prop where
  joint : link.Joint v
  prompted : link.Prompted
  opened : link.begun → link.opened

theorem concorded_sends (hj : link.Agreed v) (hok : link.Converses (.sends op))
    (hwhen : link.Concurs (.sends op)) : (link.step (.sends op)).Ensures fun r ↦
      r.1.Agreed v ∧ Concords ⟨link, .sends op, r.1, r.2⟩ := by
  obtain ⟨hrecv, hb⟩ := hok
  have hc := conducts_converses hj.opened hb (.inl rfl) hwhen.stored
  refine (conversed_sends hj.joint hj.prompted hj.opened hc (reads_sends hrecv) ?_).bind fun r hr ↦
    Outcome.ensures_ret.mpr ⟨⟨hr.1.1, hr.1.2.1, hr.1.2.2⟩, ?_⟩
  · intro u packet hin
    obtain ⟨data, -, rfl, -⟩ := arrival_of_inputOf hin
    exact (hrecv data rfl).elim
  · exact ⟨fun _ _ _ h ↦ (by cases h), fun _ _ _ h ↦ (by cases h), fun _ _ _ h ↦ (by cases h)⟩

theorem concorded_returns (hj : link.Agreed v) (hok : link.Converses (.returns data))
    (hwhen : link.Concurs (.returns data)) : (link.step (.returns data)).Ensures fun r ↦
      r.1.Agreed v ∧ Concords ⟨link, .returns data, r.1, r.2⟩ := by
  obtain ⟨⟨packet, hreturns⟩, hb⟩ := hok
  obtain ⟨hhead, version, ha⟩ := id hreturns
  have hin := inputOf_arrival ha
  have hc := conducts_converses hj.opened hb (.inr ⟨data, rfl⟩) hwhen.stored
  have hfollows (u : PacketId w) (packet' : GenericPacket w)
      (hin' : link.sender.inputOf (.recv data) = .receive packet')
      (hback : backOf u packet' = some .accept) : link.sender.FollowsUp packet' u := by
    obtain rfl := Input.receive.inj (hin.symm.trans hin')
    exact hwhen.follows data packet u rfl hreturns hback
  refine (conversed_sends hj.joint hj.prompted hj.opened hc (reads_returns hreturns) hfollows).bind
    fun r hr ↦ Outcome.ensures_ret.mpr ⟨⟨hr.1.1, hr.1.2.1, hr.1.2.2⟩, ?_⟩
  refine ⟨fun data' packet' u hdata hreturns' hack ↦ ?_, fun _ _ _ h ↦ (by cases h),
    fun _ _ _ h ↦ (by cases h)⟩
  obtain rfl := HandoverInput.returns.inj hdata
  obtain rfl : packet = packet' := Option.some.inj (hhead.symm.trans hreturns'.1)
  by_cases hcont : continues packet
  · have hback : backIn u (link.sender.inputOf (.recv data)) = some .accept := by
      rw [hin]
      exact backOf_accept hack hcont
    obtain ⟨hhandled, hused, hforth⟩ := hr.2.accepted u hback fun p hp ↦ hfollows u p hp (by
      obtain rfl := Input.receive.inj (hin.symm.trans hp)
      exact backOf_accept hack hcont)
    have hmem : Forth.confirm ∈ (link.moved (.recv data) r.1 r.2.toEvents
        link.toSender.tail).toReceiver.filterMap (forthOf u) := by
      rw [hforth]
      exact .head _
    obtain ⟨pubrel, hpubrel, hconfirm⟩ := List.mem_filterMap.mp hmem
    exact ⟨iff_of_true hused hhandled, fun _ ↦ ⟨pubrel, hpubrel, forthOf_confirm hconfirm⟩⟩
  · have hback : backIn u (link.sender.inputOf (.recv data)) = some .decline := by
      rw [hin]
      exact backOf_decline hack hcont
    obtain ⟨hnot, hfree⟩ := hr.2.declined u hback
    exact ⟨iff_of_false hfree hnot, fun h ↦ (hnot h).elim⟩

theorem concorded_answers (hj : link.Agreed v) (hok : link.Converses (.answers op))
    (hwhen : link.Concurs (.answers op)) : (link.step (.answers op)).Ensures fun r ↦
      r.1.Agreed v ∧ Concords ⟨link, .answers op, r.1, r.2⟩ := by
  have hserves := serves_decided hok fun packet hop ↦ hwhen.reason packet (by rw [hop])
  have htakes : link.Takes op link.toReceiver := takes_answers hok.quiet
  refine (conversed_served hj.joint hj.prompted hserves htakes).bind fun r hr ↦
    Outcome.ensures_ret.mpr ⟨⟨hr.1.1, hr.1.2, hj.opened⟩, ?_⟩
  exact ⟨fun _ _ _ h ↦ (by cases h), fun _ _ _ h ↦ (by cases h), fun _ _ _ h ↦ (by cases h)⟩

theorem concorded_delivers (hj : link.Agreed v) (hok : link.Converses (.delivers data))
    (hwhen : link.Concurs (.delivers data)) : (link.step (.delivers data)).Ensures fun r ↦
      r.1.Agreed v ∧ Concords ⟨link, .delivers data, r.1, r.2⟩ := by
  obtain ⟨packet, hdelivers⟩ := hok
  obtain ⟨hhead, version, ha⟩ := id hdelivers
  have hin := inputOf_arrival ha
  have hserves : link.receiver.Serves link.owed (link.receiver.inputOf (.recv data)) := by
    rw [hin]
    refine serves_receive fun p hp hq hadm ↦ ?_
    exact hwhen.resolves data p rfl (hp ▸ hdelivers) hq hadm
  refine (conversed_served hj.joint hj.prompted hserves (takes_delivers hdelivers)).bind fun r hr ↦
    Outcome.ensures_ret.mpr ⟨⟨hr.1.1, hr.1.2, hj.opened⟩, fun _ _ _ h ↦ (by cases h), ?_, ?_⟩
  · intro data' packet' u hdata hdelivers' hp
    obtain rfl := HandoverInput.delivers.inj hdata
    exact unhandled_offer hj.joint hj.prompted hdelivers'.1 hp
  · intro data' packet' u hdata hdelivers' hp
    obtain rfl := HandoverInput.delivers.inj hdata
    obtain rfl : packet = packet' := Option.some.inj (hhead.symm.trans hdelivers'.1)
    refine hr.2.confirmed u ?_
    rw [hin]
    exact (forthOf_pubrel hp).trans (if_pos rfl)

/-- In every run of a sender and a receiver on one network connection, they agree on how every PUBREC
ends or continues an exchange, and the receiver keeps track only of what is pending. -/
theorem pubrec_agreed
    {trace : List (Transition (HandoverLink w) (HandoverInput w) (HandoverOutput w))}
    (hrun : Run (handoverSystem v) (fun link i ↦ link.Converses i ∧ link.Concurs i) trace link) :
    (∀ t ∈ trace, Concords t) ∧ ∀ u ∈ link.receiver.qos2PublishHandled, link.Pending u := by
  have h := hrun.transitions (I := fun link ↦ link.Agreed v) (P := Concords) (fun link hs ↦ ?_)
    fun link i hI hok ↦ ?_
  · exact ⟨h.2, fun u hu ↦ pending_handled h.1.joint h.1.prompted hu⟩
  · refine ⟨joint_starts hs, fun u stage place hp _ hhandled ↦ hs.handled u hhandled, fun hbegun ↦ ?_⟩
    rw [hs.quiet] at hbegun
    cases hbegun
  · cases i with
    | sends op => exact concorded_sends hI hok.1 hok.2
    | returns data => exact concorded_returns hI hok.1 hok.2
    | answers op => exact concorded_answers hI hok.1 hok.2
    | delivers data => exact concorded_delivers hI hok.1 hok.2
    | lost => exact hok.1.elim

section Runs

variable {packet : GenericPacket w} {id : PacketId w}

theorem concurs_sends (h : ∀ packet, op = .send packet →
    ¬ (link.sender.storesPublish ∧ link.sender.withdraws packet)) : link.Concurs (.sends op) where
  stored hw := by
    cases op with
    | send packet => exact h packet rfl hw.2
    | _ => exact hw
  follows _ _ _ h := by cases h
  reason _ h := by cases h
  resolves _ _ h := by cases h

theorem concurs_returns (h : ∀ id, backOf id packet = some .accept → link.sender.FollowsUp packet id)
    (hreturns : link.Returns data packet) : link.Concurs (.returns data) where
  stored hw := hw
  follows _ _ id _ hreturns' hback := by
    obtain rfl := Option.some.inj (hreturns.1.symm.trans hreturns'.1)
    exact h id hback
  reason _ h := by cases h
  resolves _ _ h := by cases h

theorem concurs_answers (h : pubrecReasonOf packet ≠ some .noMatchingSubscribers) :
    link.Concurs (.answers (.send packet)) where
  stored hw := hw
  follows _ _ _ h := by cases h
  reason _ heq := by
    obtain rfl := Operation.send.inj (HandoverInput.answers.inj heq)
    exact h
  resolves _ _ h := by cases h

theorem concurs_delivers {p : V50.Publish w} (h : link.Delivers data (.v50Publish p))
    (hplain : p.NamesTopic) : link.Concurs (.delivers data) where
  stored hw := hw
  follows _ _ _ h := by cases h
  reason _ h := by cases h
  resolves _ p' _ hdelivers _ _ := by
    obtain rfl := GenericPacket.v50Publish.inj (Option.some.inj (h.1.symm.trans hdelivers.1))
    exact resolves_of_namesTopic hplain

theorem decided_ack (hack : ∀ kind id, ackOf packet = some (kind, id) → (kind, id) ∈ link.owed) :
    link.Decided (.send packet) where
  quiet _ h := by cases h
  closed h := by cases h
  handled _ h := by cases h
  owed p kind id h hp _ := by
    obtain rfl := Operation.send.inj h
    exact hack kind id hp

theorem converses_returns (h : link.Returns data packet)
    (hopened : link.opened = false ∨ packet.connackOf = none ∧ packet.connectOf = none)
    (hbegun : link.begun = false ∨ link.opened) : link.Converses (.returns data) := by
  have hnone (h : link.opened) : packet.connackOf = none ∧ packet.connectOf = none :=
    hopened.resolve_left (by simp [h])
  obtain ⟨_, ha⟩ := h.2
  refine ⟨⟨packet, h⟩, behaves_recv (fun h ↦ ?_) fun h ↦ ?_⟩
  · rw [inputOf_arrival ha]
    simp [greetingIn, (hnone h).1]
  · rw [inputOf_arrival ha]
    simp [renewalIn, hnone (hbegun.resolve_left (by simp [h]))]

theorem converses_connack {present : Bool} (hp : packet.connackOf = some present) :
    link.Converses (.answers (.send packet)) := by
  have hack : ackOf packet = none := ackOf_eq_none (by simp [partOf_connack hp])
  exact decided_ack fun kind id h ↦ by cases hack.symm.trans h

theorem converses_pubrec (hack : ackOf packet = some (.pubrec, id)) (h : (.pubrec, id) ∈ link.owed) :
    link.Converses (.answers (.send packet)) := by
  refine decided_ack fun kind id' h' ↦ ?_
  rw [← Option.some.inj (hack.symm.trans h')]
  exact h

theorem converses_publish (hp : packet.publishOf = some (id, .exactlyOnce)) (hu : id ∉ link.underWay)
    (hapart : ∀ kind ∈ [AckKind.puback, .suback, .unsuback], id ∉ link.sender.awaiting kind)
    (h0 : id ≠ 0) : link.Converses (.sends (.send packet)) :=
  ⟨fun _ h ↦ (by cases h), behaves_publish hp hu hapart h0⟩

theorem concurs_publish (h : ¬ link.sender.withdraws packet) :
    link.Concurs (.sends (.send packet)) := by
  refine concurs_sends fun p hop hw ↦ ?_
  obtain rfl := Operation.send.inj hop
  exact h hw.2

theorem behaves_acquire : link.Behaves .acquirePacketId where
  publish _ _ _ h := by cases h
  apart _ _ h := by cases h
  pubrel _ h := by cases h
  subscription _ _ _ h := by cases h
  released _ h := by cases h
  restored _ h := by cases h
  closed h := by cases h
  opened _ h := by cases h
  renewed _ h := by cases h

theorem converses_acquire : link.Converses (.sends .acquirePacketId) :=
  ⟨fun _ h ↦ (by cases h), behaves_acquire⟩

theorem converses_delivers (h : link.Delivers data packet) : link.Converses (.delivers data) :=
  ⟨packet, h⟩

/-- A sender and a receiver whose network connection has been accepted. -/
def greeted : Outcome (HandoverLink .u16) := do
  let connect ← connectPacket .v50 (connectBody .v50 2 0 [0])
  let connack ← (V50.Connack.parse [0, 0, 0]).unwrap
  let link ← joined .u16 [.setAutoPubResponse true, .send connect]
    [.recv (0x10 :: 14 :: connectBody .v50 2 0 [0])]
  let (link, _) ← link.step (.answers (.send (.v50Connack connack.1)))
  let (link, _) ← link.step (.returns [0x20, 3, 0, 0, 0])
  let (link, _) ← link.step (.sends .acquirePacketId)
  return link

theorem run_greeted {link : HandoverLink .u16} (h : greeted = .ret link) :
    ∃ trace, trace.length = 3 ∧
      Run (handoverSystem .v50) (fun link i ↦ link.Converses i ∧ link.Concurs i) trace link := by
  obtain ⟨connect, hconnect, connack, hconnack, hp, link₀, hjoined, hunused, ⟨link₁, o₁⟩, h₁,
      hreturns, hopened, hbegun⟩ :
      (connectPacket .v50 (connectBody .v50 2 0 [0])).Attains fun connect ↦
      (V50.Connack.parse [0, 0, 0]).unwrap.Attains fun connack ↦
      (GenericPacket.v50Connack (w := .u16) connack.1).connackOf = some false ∧
      (joined .u16 [.setAutoPubResponse true, .send connect]
        [.recv (0x10 :: 14 :: connectBody .v50 2 0 [0])]).Attains fun link ↦
      link.Unused ∧ (link.step (.answers (.send (.v50Connack connack.1)))).Attains fun r ↦
      r.1.Returns [0x20, 3, 0, 0, 0] (.v50Connack connack.1) ∧
      r.1.opened = false ∧ r.1.begun = false := by
    decide +kernel
  rw [greeted, hconnect, Outcome.ret_bind, hconnack, Outcome.ret_bind, hjoined, Outcome.ret_bind,
    h₁, Outcome.ret_bind] at h
  obtain ⟨⟨link₂, o₂⟩, h₂, h⟩ := Outcome.bind_eq_ret.mp h
  obtain ⟨⟨link₃, o₃⟩, h₃, h⟩ := Outcome.bind_eq_ret.mp h
  obtain rfl := Outcome.ret.inj h
  have hrun₁ : Run (handoverSystem .v50) (fun link i ↦ link.Converses i ∧ link.Concurs i) _ link₁ :=
    (Run.init (starts_joined hjoined hunused)).step
      ⟨converses_connack hp, concurs_answers (fun h ↦ by cases h)⟩ h₁
  have hrun₂ := hrun₁.step ⟨converses_returns hreturns (.inl hopened) (.inl hbegun),
    concurs_returns (fun id hback ↦ by cases (backOf_accepts hback).1) hreturns⟩ h₂
  have hrun₃ := hrun₂.step ⟨converses_acquire, concurs_sends fun _ h ↦ by cases h⟩ h₃
  exact ⟨_, rfl, hrun₃⟩

/-- The receiver was told of a PUBLISH and owes a PUBREC for it. -/
def offered : Outcome (HandoverLink .u16) := do
  let link ← greeted
  let publish ← (V50.Publish.parse 4 [0, 1, 0x61, 0, 1, 0]).unwrap
  let (link, _) ← link.step (.sends (.send (.v50Publish publish.1)))
  let (link, _) ← link.step (.delivers [0x34, 6, 0, 1, 0x61, 0, 1, 0])
  return link

theorem run_offered {link : HandoverLink .u16} (h : offered = .ret link) :
    ∃ trace, trace.length = 5 ∧
      Run (handoverSystem .v50) (fun link i ↦ link.Converses i ∧ link.Concurs i) trace link := by
  obtain ⟨link₀, hlink, p, hparsed, hp, hplain, hunder, hapart, hkept, ⟨link₁, _⟩, h₁, hdelivers⟩ :
      greeted.Attains fun link ↦
      (V50.Publish.parse (w := .u16) 4 [0, 1, 0x61, 0, 1, 0]).unwrap.Attains fun p ↦
      (GenericPacket.v50Publish p.1).publishOf = some (1, .exactlyOnce) ∧ p.1.NamesTopic ∧
      1 ∉ link.underWay ∧
      (∀ kind ∈ [AckKind.puback, .suback, .unsuback], 1 ∉ link.sender.awaiting kind) ∧
      ¬ link.sender.withdraws (.v50Publish p.1) ∧
      (link.step (.sends (.send (.v50Publish p.1)))).Attains fun r₁ ↦
      r₁.1.Delivers [0x34, 6, 0, 1, 0x61, 0, 1, 0] (.v50Publish p.1) := by
    decide +kernel
  rw [offered, hlink, Outcome.ret_bind, hparsed, Outcome.ret_bind, h₁, Outcome.ret_bind] at h
  obtain ⟨⟨link₂, _⟩, h₂, h⟩ := Outcome.bind_eq_ret.mp h
  obtain rfl := Outcome.ret.inj h
  obtain ⟨trace, hlen, hrun⟩ := run_greeted hlink
  have hrun₁ := hrun.step ⟨converses_publish hp hunder hapart (by decide), concurs_publish hkept⟩ h₁
  have hrun₂ := hrun₁.step ⟨converses_delivers hdelivers, concurs_delivers hdelivers hplain⟩ h₂
  exact ⟨_, by simp [hlen], hrun₂⟩

/-- The application of the receiver lets an exchange go on. -/
theorem pubrec_agreed_success : ∃ (link : HandoverLink .u16) (trace : List (Transition _ _ _)),
    Run (handoverSystem .v50) (fun link i ↦ link.Converses i ∧ link.Concurs i) trace link ∧
      trace.length = 7 ∧ (∀ t ∈ trace, Concords t) ∧
      ∀ u ∈ link.receiver.qos2PublishHandled, link.Pending u := by
  obtain ⟨link, hlink, q, -, hack, hreason, howed, ⟨link₁, _⟩, h₁, hreturns, hopened, hanswers,
      hused, hfits, ⟨link₂, _⟩, h₂⟩ :
      offered.Attains fun link ↦
      (V50.Ack.parse (w := .u16) (C := PubrecReasonCode) [0, 1]).unwrap.Attains fun q ↦
      ackOf (.v50Pubrec q.1) = some (.pubrec, 1) ∧
      pubrecReasonOf (w := .u16) (.v50Pubrec q.1) ≠ some .noMatchingSubscribers ∧
      (AckKind.pubrec, 1) ∈ link.owed ∧
      (link.step (.answers (.send (.v50Pubrec q.1)))).Attains fun r₁ ↦
      r₁.1.Returns [0x50, 2, 0, 1] (.v50Pubrec q.1) ∧
      r₁.1.opened ∧ r₁.1.sender.answers ∧ r₁.1.sender.pidMan.isUsedId 1 ∧
      r₁.1.sender.validateMaximumPacketSizeSend (2 + IdWidth.u16.bufferSize) ∧
      (r₁.1.step (.returns [0x50, 2, 0, 1])).Returns := by
    decide +kernel
  have hfollows (id : PacketId .u16) (hback : backOf id (.v50Pubrec q.1) = some .accept) :
      link₁.sender.FollowsUp (.v50Pubrec q.1) id := by
    obtain ⟨-, rfl⟩ := Prod.mk.inj (Option.some.inj (hack.symm.trans (backOf_accepts hback).1))
    exact ⟨hanswers, hused, fun _ ↦ hfits⟩
  obtain ⟨trace, hlen, hrun⟩ := run_offered hlink
  have hrun₁ := hrun.step ⟨converses_pubrec hack howed, concurs_answers hreason⟩ h₁
  have hrun₂ := hrun₁.step ⟨converses_returns hreturns (.inr ⟨rfl, rfl⟩) (.inr hopened),
    concurs_returns hfollows hreturns⟩ h₂
  exact ⟨link₂, _, hrun₂, by simp [hlen], pubrec_agreed hrun₂⟩

/-- A PUBREC that reports that there are no subscribers ends the exchange for the sender, and not
for the receiver. -/
theorem no_subscribers_disagreed : ¬ ∀ trace (link : HandoverLink .u16),
    Run (handoverSystem .v50) (fun link i ↦ link.Converses i) trace link →
      (∀ t ∈ trace, Concords t) ∧ ∀ u ∈ link.receiver.qos2PublishHandled, link.Pending u := by
  intro hall
  obtain ⟨link, hlink, q, -, hack, howed, ⟨link₁, _⟩, h₁, hreturns, hopened, ⟨link₂, _⟩, h₂, hfree,
      hmem⟩ :
      offered.Attains fun link ↦
      (V50.Ack.parse (w := .u16) (C := PubrecReasonCode) [0, 1, 0x10]).unwrap.Attains fun q ↦
      ackOf (.v50Pubrec q.1) = some (.pubrec, 1) ∧ (AckKind.pubrec, 1) ∈ link.owed ∧
      (link.step (.answers (.send (.v50Pubrec q.1)))).Attains fun r₁ ↦
      r₁.1.Returns [0x50, 3, 0, 1, 0x10] (.v50Pubrec q.1) ∧ r₁.1.opened ∧
      (r₁.1.step (.returns [0x50, 3, 0, 1, 0x10])).Attains fun r₂ ↦
        ¬ r₂.1.sender.pidMan.isUsedId 1 ∧ 1 ∈ r₂.1.receiver.qos2PublishHandled := by
    decide +kernel
  obtain ⟨_, -, hoffered⟩ := run_offered hlink
  have hrun : Run (handoverSystem .v50) (fun link i ↦ link.Converses i) _ link :=
    hoffered.mono fun _ _ h ↦ h.1
  have hrun₁ := hrun.step (converses_pubrec hack howed) h₁
  have hrun₂ := hrun₁.step (converses_returns hreturns (.inr ⟨rfl, rfl⟩) (.inr hopened)) h₂
  exact hfree ((hall _ _ hrun₂).2 1 hmem).1

end Runs

end MqttProtocolCore.Connection.HandoverLink
