import MqttProtocolCore.Connection.HandoverReceiver
import MqttProtocolCore.Connection.ReceiptStage

namespace MqttProtocolCore.Connection.GenericConnection

open General Packet

variable {w : IdWidth} {c : GenericConnection w} {u id : PacketId w} {packet : GenericPacket w}
  {s : Session w} {rep : Report w} {input : Input w} {events : List (GenericEvent w)}
  {x : Outcome (Handled w)} {qos : Qos}

def Confirms (id : PacketId w) (rep : Report w) : Prop :=
  rep.notified = [] ∧ (∀ q ∈ rep.requested, ackOf q = none) ∨
    (∃ notice, rep.notified = [notice] ∧ notice.publishOf = some (id, .atLeastOnce)) ∧
      (rep.requested = [] ∨ ∃ q, rep.requested = [q] ∧ Answering .atLeastOnce id q)

theorem confirms_handleV50Error (e : MqttError) :
    (c.handleV50Error e).Ensures fun r ↦ Confirms id (report r.2) := by
  have hemit : Emitting (fun q : GenericPacket w ↦ ackOf q = none) (fun _ ↦ False)
      (c.handleV50Error e) := emitting_handleV50Error e fun _ ↦ rfl
  intro r hr
  obtain ⟨hrequests, hnotices⟩ := hemit.emits hr
  exact .inl ⟨List.eq_nil_iff_forall_not_mem.mpr hnotices, hrequests⟩

theorem notified_thenReceived (h : x.Ensures fun r ↦ notified r.2 = []) :
    (x >>= fun r ↦ .ret ((r.1.received packet).1, r.2 ++ (r.1.received packet).2)).Ensures fun r ↦
      notified r.2 = [packet] :=
  h.bind fun r hr ↦ Outcome.ensures_ret.mpr (by simp [hr])

theorem notified_thenNotice {repeated : Bool} (h : x.Ensures fun r ↦ notified r.2 = [])
    (hnew : repeated = false) : (x >>= fun r ↦ .ret (r.1.refreshPingreqRecv.1,
      r.2 ++ r.1.refreshPingreqRecv.2 ++
        if repeated then [] else [.notifyPacketReceived packet])).Ensures fun r ↦
          notified r.2 = [packet] := by
  refine h.bind fun r hr ↦ Outcome.ensures_ret.mpr ?_
  rw [notified_append, notified_append, hr, timersOnly_refreshPingreqRecv.notified, hnew]
  rfl

theorem notified_emitting {R : GenericPacket w → Prop} (h : Emitting R (fun _ ↦ False) x) :
    x.Ensures fun r ↦ notified r.2 = [] := by
  intro r hr
  exact List.eq_nil_iff_forall_not_mem.mpr (h.emits hr).notices

theorem confirms_recvV311Publish {p : V311.Publish w} (hid : p.packetId = some id)
    (hqos : p.qos = .atLeastOnce) :
    (c.recvV311Publish p).Ensures fun r ↦ Confirms id (report r.2) := by
  have hnotified : (c.recvV311Publish p).Ensures fun r ↦ notified r.2 = [.v311Publish p] := by
    unfold recvV311Publish
    rw [hid, hqos]
    apply notified_thenReceived
    apply notified_emitting (R := fun _ ↦ True)
    apply emitting_respondIf
    intro _
    exact emitting_after fun a ↦ emitting_ret (emits_sendConnected trivial)
  intro r hr
  refine .inr ⟨⟨.v311Publish p, hnotified r hr, ?_⟩, singly_recvV311Publish hid hqos r hr⟩
  simp [GenericPacket.publishOf, hid, hqos]

theorem unhandled_admitPublish {p : V50.Publish w} (hqos : p.qos = .atLeastOnce) :
    (c.admitPublish p).Ensures fun o ↦ ∀ a ∈ o, a.1.alreadyHandled = false := by
  unfold admitPublish
  rw [hqos]
  split
  · exact Outcome.ensures_ret.mpr (by simp)
  · split
    · exact Outcome.ensures_ret.mpr (by simp)
    · exact Outcome.ensures_ret.mpr (by simp)
  · rename_i h _
    cases h
  · exact Outcome.ensures_panic

theorem confirms_recvV50Publish {p : V50.Publish w} (hid : p.packetId = some id)
    (hqos : p.qos = .atLeastOnce) :
    (c.recvV50Publish p).Ensures fun r ↦ Confirms id (report r.2) := by
  have hsingle := singly_recvV50Publish (c := c) hid hqos
  have hnotified : (c.recvV50Publish p).Ensures fun r ↦ Confirms id (report r.2) ∨
      ∃ notice, notified r.2 = [notice] ∧ notice.publishOf = some (id, .atLeastOnce) := by
    unfold recvV50Publish
    refine (unhandled_admitPublish hqos).bind fun o ho ↦ ?_
    cases o with
    | none => exact (confirms_handleV50Error _).mono fun _ h ↦ .inl h
    | some a =>
      refine Outcome.Ensures.bind (fun _ hx ↦ resolveTopic_spec.of_ret hx) fun o' ho' ↦ ?_
      cases o' with
      | none => exact (confirms_handleV50Error _).mono fun _ h ↦ .inl h
      | some b =>
        obtain ⟨p', c'⟩ := b
        obtain ⟨hid', hqos'⟩ := (ho'.2.2 p' c' rfl).same
        have hquiet : (c'.respond a.1.answer p'.packetId).Ensures fun r ↦ notified r.2 = [] :=
          notified_emitting (R := fun _ ↦ True) (emitting_respond fun _ _ ↦ trivial)
        refine (notified_thenNotice hquiet (ho a rfl)).mono fun r hr ↦ .inr ⟨.v50Publish p', hr, ?_⟩
        simp [GenericPacket.publishOf, hid'.trans hid, hqos'.trans hqos]
  intro r hr
  rcases hnotified r hr with h | ⟨notice, hn, hp⟩
  · exact h
  · exact .inr ⟨⟨notice, hn, hp⟩, hsingle r hr⟩

theorem confirms_deliver (h : packet.publishOf = some (id, .atLeastOnce)) :
    (c.deliver packet).Ensures fun r ↦ Confirms id (report r.2) := by
  cases packet with
  | v311Publish p =>
    have hid : p.packetId = some id ∧ p.qos = .atLeastOnce := by
      simpa [GenericPacket.publishOf] using h
    exact confirms_recvV311Publish hid.1 hid.2
  | v50Publish p =>
    have hid : p.packetId = some id ∧ p.qos = .atLeastOnce := by
      simpa [GenericPacket.publishOf] using h
    exact confirms_recvV50Publish hid.1 hid.2
  | _ => cases h

theorem receiptOf_eq_none : receiptOf u packet = none ↔ ackOf packet ≠ some (.puback, u) := by
  unfold receiptOf
  split <;> simp_all

theorem receiptOf_of_part (h : partOf packet ≠ .ack) : receiptOf u packet = none := by
  apply receiptOf_eq_none.mpr
  simp [ackOf_eq_none h]

theorem receiptOf_resends {s₀ : Session w} {limit : ℕ} {requested : List (GenericPacket w)}
    {released : List (PacketId w)} (h : s₀.Resends s limit requested released) :
    ∀ q ∈ requested, receiptOf u q = none := by
  intro q hq
  obtain ⟨_, stored, -, -, rfl⟩ := (h.requested q).mp hq
  apply receiptOf_of_part
  cases stored <;> simp [GenericStorePacket.toPacket, partOf]

/-- No PUBACK is sent but for a PUBLISH that has arrived, or by the application. -/
theorem Change.unreceipted (h : Change c input s rep) (hreplies : Replies input rep)
    (hsend : ∀ packet, input = .send packet → ackOf packet ≠ some (.puback, u))
    (hreceive : ∀ packet, input = .receive packet → packet.publishOf ≠ some (u, .atLeastOnce)) :
    ∀ q ∈ rep.requested, receiptOf u q = none := by
  have hsilent {packets : List (GenericPacket w)} (hreq : ∀ p ∈ packets, Silent p) :
      ∀ p ∈ packets, receiptOf u p = none := by
    intro p hp
    apply receiptOf_eq_none.mpr
    simp [(hreq p hp).ack]
  have hone {p : GenericPacket w} (hp : partOf p ≠ .ack) : ∀ q ∈ [p], receiptOf u q = none :=
    List.forall_mem_singleton.mpr (receiptOf_of_part hp)
  cases h with
  | refused _ _ hreq => exact hsilent hreq
  | idle _ _ hreq => exact hsilent hreq
  | answered hans =>
    cases input with
    | send packet =>
      obtain ⟨a, hack⟩ := Option.isSome_iff_exists.mp hans
      rcases hreplies.ack packet a rfl hack with hr | hr
      · dsimp only at hr ⊢
        simp [hr]
      · dsimp only at hr ⊢
        rw [hr]
        exact List.forall_mem_singleton.mpr (receiptOf_eq_none.mpr (hsend packet rfl))
    | receive packet =>
      obtain ⟨id, hp⟩ := hans
      have hne : id ≠ u := by
        intro heq
        subst heq
        exact hreceive packet rfl hp
      rcases hreplies.publish packet id _ rfl hp with hr | ⟨q, hr, hq⟩
      · dsimp only at hr ⊢
        simp [hr]
      · dsimp only at hr ⊢
        rw [hr]
        refine List.forall_mem_singleton.mpr (receiptOf_eq_none.mpr ?_)
        rcases hq with hq | ⟨hq, -⟩
        · simp [hq]
        · simp [hq, hne]
    | _ => exact hans.elim
  | pubrecSent hack =>
    refine List.forall_mem_singleton.mpr (receiptOf_eq_none.mpr ?_)
    simp [hack]
  | connectSent hp => exact hone (by simp [partOf_connect hp])
  | connackSent hp _ hres =>
    refine List.forall_mem_cons.mpr ⟨?_, receiptOf_resends hres⟩
    exact receiptOf_of_part (by simp [partOf_connack hp])
  | connackResumes hp hres => exact receiptOf_resends hres
  | published hp _ _ hsent =>
    intro q hq
    dsimp only at hq
    split at hq
    · obtain rfl := List.mem_singleton.mp hq
      exact receiptOf_of_part (by simp [partOf_publish hsent.1])
    · cases hq
  | pubrelSent hp =>
    intro q hq
    dsimp only at hq
    split at hq
    · obtain rfl := List.mem_singleton.mp hq
      exact receiptOf_of_part (by simp [partOf_pubrel hp])
    · cases hq
  | subscribed hp => exact hone (by simp [partOf_subscription hp])
  | publishReceived hp hn hreq =>
    intro q hq
    apply receiptOf_eq_none.mpr
    simp [(hreq q hq).1]
  | publishDropped _ _ _ _ _ hreq => exact hsilent hreq
  | pubrecReceived hack hres hcont hid hs =>
    rcases hs with ⟨rfl, -⟩ | ⟨-, -, p, hp, rfl, -⟩
    · exact fun _ hq ↦ by cases hq
    · exact hone (by simp [partOf_pubrel hp])
  | pubrelReceived hp hreq =>
    intro q hq
    apply receiptOf_eq_none.mpr
    simp [hreq q hq]
  | _ => exact fun _ hq ↦ by cases hq

def offerIn (u : PacketId w) : Input w → Option Unit
  | .receive packet => offerOf u packet
  | _ => none

/-- What the receiver makes of the message with an identifier in a step: it is told of an offer that
has arrived and answers it at most once, or the application sends a PUBACK. -/
inductive Hands (u : PacketId w) (input : Input w) (rep : Report w) : Prop where
  | rest : offersIn u rep.notified = 0 → receiptsIn u rep.requested = 0 → Hands u input rep
  | told {packet : GenericPacket w} : input = .receive packet →
      packet.publishOf = some (u, .atLeastOnce) → offersIn u rep.notified = 1 →
      receiptsIn u rep.requested ≤ 1 → Hands u input rep
  | answered {packet : GenericPacket w} : input = .send packet →
      ackOf packet = some (.puback, u) → offersIn u rep.notified = 0 →
      receiptsIn u rep.requested ≤ 1 → Hands u input rep

theorem receiptsIn_single (h : rep.requested = [] ∨ ∃ q, rep.requested = [q]) :
    receiptsIn u rep.requested ≤ 1 := by
  unfold receiptsIn
  rcases h with h | ⟨q, h⟩
  · simp [h]
  · rw [h, List.filterMap_cons]
    cases receiptOf u q <;> simp

theorem Confirms.hands (h : Confirms u rep) (hin : input = .receive packet)
    (hp : packet.publishOf = some (u, .atLeastOnce)) : Hands u input rep := by
  rcases h with ⟨hn, hr⟩ | ⟨⟨notice, hn, hp'⟩, hr⟩
  · refine .rest (by simp [hn, offersIn]) (receiptsIn_eq_zero fun q hq ↦ receiptOf_eq_none.mpr ?_)
    simp [hr q hq]
  · have hsingle : rep.requested = [] ∨ ∃ q, rep.requested = [q] := by
      rcases hr with hnone | ⟨q, hq, -⟩
      · exact .inl hnone
      · exact .inr ⟨q, hq⟩
    refine .told hin hp ?_ (receiptsIn_single hsingle)
    rw [hn, offersIn_singleton hp']
    simp

theorem handed_publishOf {q : GenericPacket w} (h : Handed packet q) :
    q.publishOf = packet.publishOf := by
  cases h with
  | same => rfl
  | @extracted p p' topic ht =>
    have hempty : p.topicName.isEmpty := by
      by_contra hno
      simp [V50.Publish.addExtractedTopicName, V50.Publish.replaceTopic, hno,
        Fallible.require] at ht
    have hspec := V50.Publish.addExtractedTopicName_spec hempty topic
    rw [ht] at hspec
    obtain ⟨-, -, hid, hqos, -⟩ := hspec
    simp [GenericPacket.publishOf, hid, hqos]

section Step

variable {op : Operation w}

theorem step_hands (hc : c.Reading) : (c.step op).Ensures fun r ↦
    Hands u (c.inputOf op) (report r.2.toEvents) := by
  intro r hr
  have hnotices := (step_emits hc op r hr).notices
  by_cases hoffer : ∃ packet, c.inputOf op = .receive packet ∧
      packet.publishOf = some (u, .atLeastOnce)
  · obtain ⟨packet, hin, hp⟩ := hoffer
    obtain ⟨data, v, rfl, ha⟩ := arrival_of_inputOf hin
    obtain ⟨r', hr', hret⟩ := Outcome.bind_eq_ret.mp hr
    obtain rfl := Outcome.ret.inj hret
    obtain ⟨-, b, hdel⟩ := recv_delivers hc hr' ha
    exact (confirms_deliver hp _ hdel).hands hin hp
  have htold : offersIn u (notified r.2.toEvents) = 0 := by
    refine offersIn_eq_zero fun q hq ↦ offerOf_eq_none.mpr fun hp ↦ hoffer ?_
    cases hnotices q hq with
    | @received data v packet q ha hhanded =>
      exact ⟨packet, by simp [inputOf, ha], (handed_publishOf hhanded).symm.trans hp⟩
  by_cases hanswer : ∃ packet, c.inputOf op = .send packet ∧ ackOf packet = some (.puback, u)
  · obtain ⟨packet, hin, hack⟩ := hanswer
    refine .answered hin hack htold (receiptsIn_single ?_)
    exact ((step_replies hc r hr).ack packet _ hin hack).imp_right fun h ↦ ⟨packet, h⟩
  · obtain ⟨-, c₀, hprep, hchange⟩ := (step_spec hc op).of_ret hr
    refine .rest htold (receiptsIn_eq_zero ?_)
    apply hchange.unreceipted (step_replies hc r hr)
    · exact fun packet hin hack ↦ hanswer ⟨packet, hin, hack⟩
    · exact fun packet hin hp ↦ hoffer ⟨packet, hin, hp⟩

end Step

end MqttProtocolCore.Connection.GenericConnection
