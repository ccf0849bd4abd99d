import MqttProtocolCore.Connection.ClientRun
import MqttProtocolCore.Connection.StoreOrder
import MqttProtocolCore.Connection.StoredForm

namespace MqttProtocolCore.Connection.GenericConnection

open General Packet GenericStore

variable {w : IdWidth} {c c' : GenericConnection w} {op : Operation w} {limit : ℕ}
  {before : List (GenericPacket w)}
  {trace : List (Transition (GenericConnection w) (Operation w) (Reply w))}

/-- The connection is established and the session goes on: a server accepts the client, or a client
is told that the session is present. The packets in the store are sent within the limit, after
those `before`. -/
inductive Resumes (c : GenericConnection w) :
    Operation w → ℕ → List (GenericPacket w) → Prop where
  | sent {packet : GenericPacket w} {present : Bool} :
      packet.connackOf = some present → c.protocolVersion = packet.protocolVersion →
      c.status = .connecting → actsAsServer c.role →
      (packet.protocolVersion = .v50 → c.validateMaximumPacketSizeSend packet.size) →
      Resumes c (.send packet) c.maximumPacketSizeSend [packet]
  | received {data : Bytes} {version : Version} {packet : GenericPacket w} :
      c.arrival data = some (version, packet) → packet.connackOf = some true →
      Resumes c (.recv data) (limitAfter c.maximumPacketSizeSend packet) []

/-- A PUBLISH in the store can be sent again on its own: it is marked as a duplicate and names the
topic that the application meant, and it is otherwise the PUBLISH that the application sent. -/
structure SelfContained (c : GenericConnection w) (p q : V50.Publish w) : Prop where
  dup : q.fixedHeader.dup
  topic : ¬ q.topicName.isEmpty
  meant : if p.topicName.isEmpty then c.aliasTopic p = some q.topicName.asStr
    else q.topicName = p.topicName
  noAlias : V50.topicAliasOf q.props = none
  props : q.props = p.props.filter fun prop ↦ !V50.isTopicAlias prop
  qos : q.qos = p.qos
  packetId : q.packetId = p.packetId
  retain : q.fixedHeader.retain = p.fixedHeader.retain
  payload : q.payload = p.payload

/-- The resend of the store: complete, in the order of storing, and of packets that can stand on
their own. -/
structure Resent (trace : List (Transition (GenericConnection w) (Operation w) (Reply w)))
    (c : GenericConnection w) (limit : ℕ) (before : List (GenericPacket w))
    (r : GenericConnection w × Reply w) : Prop where
  resends : c.Resumption limit before (r.1, r.2.toEvents)
  once : (released r.2.toEvents).Nodup
  ordered : c.store.map.entries.Pairwise (StoredBefore trace)
  source : ∀ e ∈ c.store.map.entries,
    ∃ t ∈ trace, storedBy trace e = some t ∧ t.before.Enters t.input e.2
  selfContained : ∀ e ∈ c.store.map.entries, ∀ t packet q, storedBy trace e = some t →
    t.input = .send packet → e.2 = .v50Publish q →
      ∃ p, packet = .v50Publish p ∧ t.before.SelfContained p q

/-- What `send` stores of a PUBLISH of version 5.0 can stand on its own. -/
theorem selfContained {packet : GenericPacket w} {q : V50.Publish w}
    (h : c.Prepares packet (.v50Publish q)) :
    ∃ p, packet = .v50Publish p ∧ c.SelfContained p q := by
  cases packet with
  | v50Publish p =>
    obtain ⟨q', c', hq, heq⟩ := h
    obtain rfl := GenericStorePacket.v50Publish.inj heq
    obtain ⟨q₀, hq₀, rfl⟩ := storablePublish_iff.mp ⟨c', hq⟩
    have hform := regulated hq₀
    refine ⟨p, rfl, rfl, hform.topic, hform.meant, hform.noAlias, hform.props, ?_, ?_, ?_, ?_⟩
    · change q₀.qos = p.qos
      rw [hform.rest]
      rfl
    · change q₀.packetId = p.packetId
      rw [hform.rest]
      rfl
    · change q₀.fixedHeader.retain = p.fixedHeader.retain
      rw [hform.rest]
    · change q₀.payload = p.payload
      rw [hform.rest]
  | v311Publish p => cases h
  | v311Pubrel p => cases h
  | v50Pubrel p => cases h
  | _ => exact h.elim

theorem sendSafe_connack {packet : GenericPacket w} (h : c.Establishes packet) :
    c.SendSafe packet ↔ c.CanResend c.maximumPacketSizeSend := by
  obtain ⟨⟨present, hp⟩, hstatus, hrole, hsize⟩ := h
  cases packet with
  | v311Connack p =>
    have hacc : p.returnCode = .accepted := by
      by_contra hne
      simp [GenericPacket.connackOf, hne] at hp
    exact ⟨fun h ↦ h hrole hstatus hacc, fun h _ _ _ ↦ h⟩
  | v50Connack p =>
    have hacc : p.reasonCode = .success := by
      by_contra hne
      simp [GenericPacket.connackOf, hne] at hp
    exact ⟨fun h ↦ h hrole (hsize rfl) hstatus hacc, fun h _ _ _ _ ↦ h⟩
  | _ => cases hp

theorem deliverSafe_connack {packet : GenericPacket w} (h : packet.connackOf = some true) :
    c.DeliverSafe packet ↔ c.CanResend (limitAfter c.maximumPacketSizeSend packet) := by
  cases packet with
  | v311Connack p =>
    obtain ⟨hacc, hpresent⟩ : p.returnCode = .accepted ∧ p.sessionPresent := by
      simpa [GenericPacket.connackOf] using h
    exact ⟨fun h ↦ h hacc hpresent, fun h _ _ ↦ h⟩
  | v50Connack p =>
    obtain ⟨hacc, hpresent⟩ : p.reasonCode = .success ∧ p.sessionPresent := by
      simpa [GenericPacket.connackOf] using h
    exact ⟨fun h ↦ h hacc hpresent, fun h _ _ ↦ h⟩
  | _ => cases h

/-- The operation returns exactly when every packet that does not fit can be dropped. -/
theorem operationSafe_iff (h : c.Resumes op limit before) :
    c.OperationSafe op ↔ c.CanResend limit := by
  cases h with
  | sent hp hv hstatus hrole hsize =>
    have hsafe := sendSafe_connack ⟨⟨_, hp⟩, hstatus, hrole, hsize⟩
    exact ⟨fun h ↦ hsafe.mp (h hv), fun h _ ↦ hsafe.mpr h⟩
  | @received _ version packet ha hp =>
    have hsafe := deliverSafe_connack (c := c.determine version) hp
    constructor
    · exact fun h ↦ hsafe.mp (h version packet ha)
    · intro h version' packet' ha'
      obtain ⟨rfl, rfl⟩ := Prod.mk.inj (Option.some.inj (ha.symm.trans ha'))
      exact hsafe.mpr h

theorem resumption_step (hc : c.Reading) (h : c.Resumes op limit before) :
    (c.step op).Ensures fun r ↦ c.Resumption limit before (r.1, r.2.toEvents) := by
  cases h with
  | @sent packet present hp hv hstatus hrole hsize =>
    have hsend : c.send packet = c.processSend packet := if_neg (not_not.mpr hv)
    have hdef : c.step (.send packet) =
        (c.send packet >>= fun r ↦ Outcome.ret (r.1, Reply.events r.2)) := rfl
    rw [hdef, hsend]
    refine (resumption_processSend (partOf_connack hp)).bind fun r hr ↦ Outcome.ensures_ret.mpr ?_
    exact hr.2 ⟨⟨present, hp⟩, hstatus, hrole, hsize⟩
  | @received data version packet ha hp =>
    have hdef : c.step (.recv data) =
        (c.recv data >>= fun r ↦ Outcome.ret (r.1.1, Reply.received r.1.2 r.2)) := rfl
    have hrecv := recv_spec hc data
    rw [ha] at hrecv
    obtain ⟨b, rest, -, -, hr⟩ := hrecv
    rw [hdef, hr]
    have hres : (({ c with packetBuilder := b } : GenericConnection w).determine version
        |>.deliver packet).Ensures fun r ↦
          Resumption c (limitAfter c.maximumPacketSizeSend packet) [] r :=
      (resumption_deliver (partOf_connack hp)).mono fun r hr ↦
        ⟨(hr.2 hp).store, (hr.2 hp).requests, (hr.2 hp).releases⟩
    refine (hres.bind fun r hr ↦ ?_).bind fun r hr ↦ Outcome.ensures_ret.mpr hr
    exact Outcome.ensures_ret.mpr hr

section Runs

variable {ok : GenericConnection w → Operation w → Prop}

theorem resent (hrun : Run (system w) ok trace c) (h : c.Resumes op limit before) :
    (c.step op).Ensures (Resent trace c limit before) := by
  refine (resumption_step (reachable_reading hrun.reachable) h).mono fun r hr ↦ ?_
  refine ⟨hr, ?_, stored_in_order hrun, ?_, ?_⟩
  · rw [hr.releases]
    exact c.store.map.nodup.sublist (List.filter_sublist.map Prod.fst)
  · intro e he
    obtain ⟨t, hby, ht, henters⟩ := storedBy_enters hrun he
    exact ⟨t, ht, hby, henters⟩
  · intro e he t packet q hby hin hq
    obtain ⟨t', hby', -, henters⟩ := storedBy_enters hrun he
    obtain rfl := Option.some.inj (hby'.symm.trans hby)
    rw [hin, hq] at henters
    cases henters with
    | sent hprepares => exact selfContained hprepares

/-- When a session is resumed, the packets in the store are sent again in the order in which they
were stored, and those that do not fit are dropped, if their identifiers can be released. -/
theorem store_resent_iff (hrun : Run (system w) ok trace c) (h : c.Resumes op limit before) :
    (∃ r, c.step op = .ret r ∧ Resent trace c limit before r) ↔ c.CanResend limit := by
  have hreturns : (c.step op).Returns ↔ ¬ ¬ c.OperationSafe op :=
    (step_spec (reachable_reading hrun.reachable) op).returns_iff fun _ hp hq ↦ hq hp.1
  rw [not_not, operationSafe_iff h] at hreturns
  rw [← hreturns]
  constructor
  · rintro ⟨r, hr, -⟩
    exact ⟨r, hr⟩
  · rintro ⟨r, hr⟩
    exact ⟨r, hr, resent hrun h r hr⟩

end Runs

/-- A PUBLISH with the identifier 0, which no allocator hands out, is stored and does not fit. -/
theorem resend_panics : ¬ ∀ trace (c : GenericConnection .u16) op limit before,
    Run (system .u16) (fun _ _ ↦ True) trace c → c.Resumes op limit before →
      ∃ r, c.step op = .ret r ∧ Resent trace c limit before r := by
  intro h
  obtain ⟨publish, _, ⟨trace, c⟩, hrun, ⟨version, packet⟩, ha, hp, hpanic⟩ :
      (V50.Publish.parse (w := .u16) 2 [0, 1, 0x61, 0, 0, 0]).unwrap.Attains fun publish ↦
      (clientRun .v50 0 0 [5, 0x11, 0, 0, 0, 10] [] [.send (.v50Publish publish.1)]).Attains fun r ↦
          ∃ a ∈ r.2.arrival [0x20, 8, 1, 0, 5, 0x27, 0, 0, 0, 5],
            a.2.connackOf = some true ∧
              ¬ (r.2.step (.recv [0x20, 8, 1, 0, 5, 0x27, 0, 0, 0, 5])).Returns := by
    decide +kernel
  have hreach := run_of_clientRun hrun
  obtain ⟨r, hr, -⟩ := h _ _ _ _ _ hreach (.received ha hp)
  exact hpanic ⟨r, hr⟩

/-- One packet in the store is sent again, and the other one is too large. -/
theorem store_resent_iff_small : ∃ (op : Operation .u16) (limit : ℕ) (c : GenericConnection .u16)
    (r : GenericConnection .u16 × Reply .u16), c.step op = .ret r ∧
      (requested r.2.toEvents).length = 1 ∧ released r.2.toEvents = [2] ∧ c.CanResend limit := by
  obtain ⟨publish, _, large, _, ⟨trace, c⟩, hrun, ⟨version, packet⟩, ha, hp, r,
      hr, hreq, hrel⟩ :
      (V50.Publish.parse (w := .u16) 2 [0, 1, 0x61, 0, 1, 0]).unwrap.Attains fun publish ↦
      (V50.Publish.parse (w := .u16) 2 [0, 1, 0x61, 0, 2, 0, 7, 7, 7]).unwrap.Attains fun large ↦
      (clientRun .v50 0 0 [5, 0x11, 0, 0, 0, 10]
        [.restorePackets [.v50Publish publish.1, .v50Publish large.1]] []).Attains fun r ↦
            ∃ a ∈ r.2.arrival [0x20, 8, 1, 0, 5, 0x27, 0, 0, 0, 9],
              a.2.connackOf = some true ∧
                (r.2.step (.recv [0x20, 8, 1, 0, 5, 0x27, 0, 0, 0, 9])).Attains fun r' ↦
                  (requested r'.2.toEvents).length = 1 ∧ released r'.2.toEvents = [2] := by
    decide +kernel
  have hreach := run_of_clientRun hrun
  have hres := Resumes.received ha hp
  exact ⟨_, _, c, r, hr, hreq, hrel,
    (store_resent_iff hreach hres).mp ⟨r, hr, resent hreach hres r hr⟩⟩

end MqttProtocolCore.Connection.GenericConnection
