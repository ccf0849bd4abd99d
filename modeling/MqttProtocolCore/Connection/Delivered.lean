import MqttProtocolCore.Connection.Loss
import MqttProtocolCore.Connection.Violation

namespace MqttProtocolCore.Connection

open General Packet

variable {w : IdWidth}

namespace Report

def Delivers (rep : Report w) (u : PacketId w) : Prop :=
  ∃ p ∈ rep.notified, p.publishOf = some (u, .exactlyOnce)

def StartsSession (rep : Report w) : Prop :=
  (∃ p ∈ rep.requested, p.connectOf = some true ∨ p.connackOf = some false) ∨
    ∃ p ∈ rep.notified, p.connectOf = some true ∨ p.connackOf = some false

def Ends (rep : Report w) (u : PacketId w) : Prop :=
  (∃ p ∈ rep.notified, p.pubrelOf = some u) ∨
    (∃ p ∈ rep.requested, ackOf p = some (.pubrec, u) ∧ failsPubrec p) ∨ rep.StartsSession

end Report

namespace GenericConnection

variable {c c' : GenericConnection w} {op : Operation w} {packet : GenericPacket w}
  {s : Session w} {rep : Report w} {u id : PacketId w} {input : Input w}
  {delivered : Set (PacketId w)}

/-- The identifiers of the PUBLISH packets that were delivered in exchanges that have not ended. -/
def readDelivered (delivered : Set (PacketId w))
    (t : Transition (GenericConnection w) (Operation w) (Reply w)) : Set (PacketId w) :=
  {u | (u ∈ delivered ∨ (report t.output.toEvents).Delivers u) ∧
    ¬ (report t.output.toEvents).Ends u ∧ ¬ (t.input = .notifyClosed ∧ ¬ t.before.needStore)}

def restoresHandled : Operation w → Bool
  | .restoreQos2PublishHandled _ => true
  | _ => false

def permits (c : GenericConnection w) : GenericPacket w → Prop
  | .v311Connect _ => actsAsClient c.role ∧ c.status = .disconnected
  | .v50Connect p =>
    actsAsClient c.role ∧ c.validateMaximumPacketSizeSend p.size ∧ c.status = .disconnected
  | .v311Connack _ => actsAsServer c.role ∧ c.status = .connecting
  | .v50Connack p =>
    actsAsServer c.role ∧ c.validateMaximumPacketSizeSend p.size ∧ c.status = .connecting
  | .v311Pubrec _ => c.status = .connected
  | _ => True

/-- What is noted as handled comes apart from what was delivered. -/
inductive Confuses (c : GenericConnection w) : Input w → Prop where
  | dropped {packet : V50.Publish w} {id : PacketId w} :
      packet.packetId = some id → packet.qos = .exactlyOnce → c.admits packet →
      ¬ c.Resolves packet → id ∉ c.qos2PublishHandled → Confuses c (.receive (.v50Publish packet))
  | startSent {packet : GenericPacket w} {id : PacketId w} :
      packet.connectOf = some true ∨ packet.connackOf = some false → id ∈ c.qos2PublishHandled →
      Confuses c (.send packet)
  | startReceived {packet : GenericPacket w} {id : PacketId w} :
      packet.connectOf = some true ∧ c.status = .disconnected ∨ packet.connackOf = some false →
      id ∈ c.qos2PublishHandled → Confuses c (.receive packet)
  | failedPubrec {packet : V311.Pubrec w} :
      packet.reasonCode.any PubrecReasonCode.isFailure → packet.packetId ∈ c.qos2PublishHandled →
      Confuses c (.send (.v311Pubrec packet))

theorem send_refused (hp : ¬ c.permits packet) : ∃ e, c.send packet = .ret (c.reject e) := by
  unfold send
  split
  · exact ⟨_, rfl⟩
  cases packet with
  | v311Connect p =>
    by_cases hr : actsAsClient c.role
    · have hs : c.status ≠ .disconnected := fun hs ↦ hp ⟨hr, hs⟩
      simp [processSend, hr, processSendV311Connect, hs]
    · simp [processSend, hr]
  | v50Connect p =>
    by_cases hr : actsAsClient c.role
    · by_cases hl : c.validateMaximumPacketSizeSend p.size
      · have hs : c.status ≠ .disconnected := fun hs ↦ hp ⟨hr, hl, hs⟩
        simp [processSend, hr, processSendV50Connect, limited, hl, hs]
      · simp [processSend, hr, processSendV50Connect, limited, hl]
    · simp [processSend, hr]
  | v311Connack p =>
    by_cases hr : actsAsServer c.role
    · have hs : c.status ≠ .connecting := fun hs ↦ hp ⟨hr, hs⟩
      simp [processSend, hr, processSendV311Connack, hs]
    · simp [processSend, hr]
  | v50Connack p =>
    by_cases hr : actsAsServer c.role
    · by_cases hl : c.validateMaximumPacketSizeSend p.size
      · have hs : c.status ≠ .connecting := fun hs ↦ hp ⟨hr, hl, hs⟩
        simp [processSend, hr, processSendV50Connack, limited, hl, hs]
      · simp [processSend, hr, processSendV50Connack, limited, hl]
    · simp [processSend, hr]
  | v311Pubrec p =>
    have hs : c.status ≠ .connected := hp
    simp [processSend, processSendV311Pubrec, sendConnected, hs]
  | _ => exact (hp trivial).elim

/-- A packet received that leaves the exchanges of the receiver alone. -/
structure QuietIn (p : GenericPacket w) : Prop where
  publish : ∀ u, p.publishOf ≠ some (u, .exactlyOnce)
  pubrel : p.pubrelOf = none
  connect : p.connectOf ≠ some true
  connack : p.connackOf ≠ some false

structure QuietOut (p : GenericPacket w) : Prop where
  pubrec : ∀ u, ackOf p = some (.pubrec, u) → ¬ failsPubrec p
  connect : p.connectOf ≠ some true
  connack : p.connackOf ≠ some false

theorem quietOut_of_silent (h : Silent packet) : QuietOut packet :=
  ⟨fun u hu ↦ (by cases h.ack.symm.trans hu), by simp [h.connect], by simp [h.connack]⟩

theorem quietOut_of_part {part : Part} (hp : partOf packet = part)
    (h : part ≠ .ack ∧ part ≠ .connect ∧ part ≠ .connack) : QuietOut packet := by
  obtain ⟨ha, hc, hk⟩ := hp ▸ h
  refine ⟨fun u hu ↦ ?_, ?_, ?_⟩
  · cases (ackOf_eq_none ha).symm.trans hu
  · simp [connectOf_eq_none hc]
  · simp [connackOf_eq_none hk]

theorem quietIn_of_ack {p : AckKind × PacketId w} (h : ackOf packet = some p) : QuietIn packet := by
  have hpart := partOf_ack h
  refine ⟨fun v hv ↦ ?_, ?_, fun hc ↦ ?_, fun hc ↦ ?_⟩
  · cases hpart.symm.trans (partOf_publish hv)
  · exact pubrelOf_eq_none (by simp [hpart])
  · cases hpart.symm.trans (partOf_connect hc)
  · cases hpart.symm.trans (partOf_connack hc)

theorem quietIn_of_calm (h : (Input.receive packet).Calm) : QuietIn packet := by
  obtain ⟨hc, hk, hp, hr, -⟩ := h
  refine ⟨fun v hv ↦ ?_, hr, by simp [hc], by simp [hk]⟩
  rw [hv, Option.all_some] at hp
  cases of_decide_eq_true hp

theorem delivered_quiet (hn : ∀ p ∈ rep.notified, QuietIn p) (hr : ∀ p ∈ rep.requested, QuietOut p) :
    {u | (u ∈ delivered ∨ rep.Delivers u) ∧ ¬ rep.Ends u} = delivered := by
  have hd : ∀ u, ¬ rep.Delivers u := fun u ⟨p, hp, h⟩ ↦ (hn p hp).publish u h
  have he : ∀ u, ¬ rep.Ends u := by
    rintro u (⟨p, hp, h⟩ | ⟨p, hp, h, hf⟩ | ⟨p, hp, h | h⟩ | ⟨p, hp, h | h⟩)
    · cases (hn p hp).pubrel.symm.trans h
    · exact (hr p hp).pubrec u h hf
    · exact (hr p hp).connect h
    · exact (hr p hp).connack h
    · exact (hn p hp).connect h
    · exact (hn p hp).connack h
  ext u
  simp [hd, he]

theorem delivered_anew (h : rep.StartsSession) :
    {u | (u ∈ delivered ∨ rep.Delivers u) ∧ ¬ rep.Ends u} = ∅ :=
  Set.eq_empty_of_forall_notMem fun _ hu ↦ hu.2 (.inr (.inr h))

theorem quietOut_resent {s₀ : Session w} {limit : ℕ} {req : List (GenericPacket w)}
    {rel : List (PacketId w)} (h : s₀.Resends s limit req rel) : ∀ p ∈ req, QuietOut p := by
  intro p hp
  obtain ⟨_, stored, -, -, rfl⟩ := (h.requested p).mp hp
  cases stored with
  | v311Publish | v50Publish => exact @quietOut_of_part _ _ .publish rfl (by decide)
  | v311Pubrel | v50Pubrel => exact @quietOut_of_part _ _ .pubrel rfl (by decide)

/-- The identifiers noted as handled are those that were delivered. -/
theorem Change.handled (h : Change c input s rep) (hin : input ≠ .close)
    (hids : ∀ ids, input ≠ .restoreHandled ids) (hc : ¬ Confuses c input) : s.handled =
      {u | (u ∈ c.session.handled ∨ rep.Delivers u) ∧ ¬ rep.Ends u} := by
  have hempty {input : Input w} (hc : ∀ id ∈ c.qos2PublishHandled, Confuses c input)
      (hno : ¬ Confuses c input) : c.session.handled = ∅ :=
    Set.eq_empty_of_forall_notMem fun u hu ↦ hno (hc u hu)
  cases h with
  | refused _ _ hreq => exact (delivered_quiet (by simp) fun p hp ↦ quietOut_of_silent (hreq p hp)).symm
  | idle _ _ hreq hnot =>
    exact (delivered_quiet (fun p hp ↦ quietIn_of_calm (hnot p hp))
      fun p hp ↦ quietOut_of_silent (hreq p hp)).symm
  | answered _ hreq hnot =>
    refine (delivered_quiet (fun p hp ↦ quietIn_of_calm (hnot p hp)) fun p hp ↦ ?_).symm
    obtain ⟨h₁, h₂, -, -, h₅⟩ := hreq p hp
    exact ⟨fun _ _ ↦ h₅, by simp [h₁], by simp [h₂]⟩
  | @pubrecSent packet id hack hf =>
    have hends (u : PacketId w) : Report.Ends ⟨[packet], [], [], []⟩ u ↔ u = id := by
      constructor
      · rintro (⟨p, hp, -⟩ | ⟨p, hp, h, -⟩ | ⟨p, hp, h | h⟩ | ⟨p, hp, -⟩)
        · cases hp
        · obtain rfl := List.mem_singleton.mp hp
          exact (Prod.mk.inj (Option.some.inj (h.symm.trans hack))).2
        · obtain rfl := List.mem_singleton.mp hp
          cases (partOf_ack hack).symm.trans (partOf_connect h)
        · obtain rfl := List.mem_singleton.mp hp
          cases (partOf_ack hack).symm.trans (partOf_connack h)
        · cases hp
      · rintro rfl
        exact .inr (.inl ⟨packet, List.mem_singleton_self _, hack, hf⟩)
    have hkeep : (if packet.protocolVersion = .v50 then c.session.handled \ {id}
        else c.session.handled) = c.session.handled \ {id} := by
      split
      · rfl
      rename_i hv
      refine (sdiff_eq_left.mpr (Set.disjoint_singleton_right.mpr fun hid ↦ hc ?_)).symm
      cases packet with
      | v311Pubrec p =>
        cases hack
        exact .failedPubrec hf hid
      | v50Pubrec => exact (hv rfl).elim
      | _ => cases hf
    dsimp only
    rw [hkeep]
    ext u
    simp [hends, Report.Delivers]
  | @connectSent packet clean hp hs =>
    cases clean with
    | true =>
      rw [delivered_anew (.inl ⟨packet, List.mem_singleton_self _, .inl hp⟩)]
      exact hempty (fun id hid ↦ .startSent (.inl hp) hid) hc
    | false =>
      have hquiet : QuietOut packet := by
        refine ⟨fun u hu ↦ ?_, by simp [hp], fun h ↦ ?_⟩
        · cases (partOf_connect hp).symm.trans (partOf_ack hu)
        · cases (partOf_connect hp).symm.trans (partOf_connack h)
      exact (delivered_quiet (by simp) (by simpa using hquiet)).symm
  | @connectReceived packet clean v hp hs =>
    cases clean with
    | true =>
      rw [delivered_anew (.inr ⟨packet, List.mem_singleton_self _, .inl hp⟩)]
      exact hempty (fun id hid ↦ .startReceived (.inl ⟨hp, hs⟩) hid) hc
    | false =>
      have hquiet : QuietIn packet := by
        refine ⟨fun u hu ↦ ?_, pubrelOf_eq_none (by simp [partOf_connect hp]), by simp [hp], fun h ↦ ?_⟩
        · cases (partOf_connect hp).symm.trans (partOf_publish hu)
        · cases (partOf_connect hp).symm.trans (partOf_connack h)
      exact (delivered_quiet (by simpa using hquiet) (by simp)).symm
  | @connackSent packet present _ _ _ hp hs hres =>
    have hsame := congrArg Session.handled hres.state
    cases present with
    | false =>
      rw [delivered_anew (.inl ⟨packet, List.mem_cons_self .., .inr hp⟩), hsame]
      exact hempty (fun id hid ↦ .startSent (.inr hp) hid) hc
    | true =>
      have hquiet : QuietOut packet := by
        refine ⟨fun u hu ↦ ?_, fun h ↦ ?_, by simp [hp]⟩
        · cases (partOf_connack hp).symm.trans (partOf_ack hu)
        · cases (partOf_connack hp).symm.trans (partOf_connect h)
      refine hsame.trans (delivered_quiet (by simp) ?_).symm
      exact List.forall_mem_cons.mpr ⟨hquiet, quietOut_resent hres⟩
  | @connackResumes packet _ _ _ hp hres =>
    have hquiet : QuietIn packet := by
      refine ⟨fun u hu ↦ ?_, pubrelOf_eq_none (by simp [partOf_connack hp]), fun h ↦ ?_, by simp [hp]⟩
      · cases (partOf_connack hp).symm.trans (partOf_publish hu)
      · cases (partOf_connack hp).symm.trans (partOf_connect h)
    refine (congrArg Session.handled hres.state).trans (delivered_quiet ?_ (quietOut_resent hres)).symm
    simpa using hquiet
  | @connackAnew packet hp =>
    rw [delivered_anew (.inr ⟨packet, List.mem_singleton_self _, .inr hp⟩)]
    exact hempty (fun id hid ↦ .startReceived (.inr hp) hid) hc
  | publishWithdrawn _ _ _ hs =>
    refine Eq.trans ?_ (delivered_quiet (by simp) (by simp)).symm
    rcases hs with ⟨-, rfl⟩ | ⟨-, -, _, -, -, rfl⟩ <;> rfl
  | published _ _ _ hsent hs =>
    rw [Session.counted_frame]
    refine Eq.trans ?_ (delivered_quiet (by simp) ?_).symm
    · rcases hs with ⟨-, rfl⟩ | ⟨-, -, _, -, -, rfl⟩ <;> rfl
    · split
      · simpa using quietOut_of_part (partOf_publish hsent.1) (by decide)
      · simp
  | pubrelSent hp _ hs =>
    refine Eq.trans ?_ (delivered_quiet (by simp) ?_).symm
    · rcases hs with ⟨-, rfl⟩ | ⟨-, -, _, -, rfl⟩ <;> split <;> rfl
    · split
      · simpa using quietOut_of_part (partOf_pubrel hp) (by decide)
      · simp
  | subscribed hp =>
    refine (delivered_quiet (by simp) ?_).symm
    simpa using quietOut_of_part (partOf_subscription hp) (by decide)
  | @publishReceived packet notice id requested errors hp hn hreq =>
    have hends : ∀ u, ¬ Report.Ends
        ⟨requested, if id ∈ c.qos2PublishHandled then [] else [notice], [], errors⟩ u := by
      have hnotice {p : GenericPacket w}
          (h : p ∈ if id ∈ c.qos2PublishHandled then [] else [notice]) : partOf p = .publish := by
        split at h
        · cases h
        · obtain rfl := List.mem_singleton.mp h
          exact partOf_publish hn
      rintro u (⟨p, hp, h⟩ | ⟨p, hp, -, h⟩ | ⟨p, hp, h | h⟩ | ⟨p, hp, h | h⟩)
      · cases (hnotice hp).symm.trans (partOf_pubrel h)
      · exact (hreq p hp).2 h
      · cases (partOf_ack (hreq p hp).1).symm.trans (partOf_connect h)
      · cases (partOf_ack (hreq p hp).1).symm.trans (partOf_connack h)
      · cases (hnotice hp).symm.trans (partOf_connect h)
      · cases (hnotice hp).symm.trans (partOf_connack h)
    ext u
    by_cases hid : id ∈ c.qos2PublishHandled
    · have hmem : id ∈ c.session.handled := hid
      simp only [hid, if_true] at hends
      simp only [hid, if_true, Set.insert_eq_of_mem hmem]
      simp [hends, Report.Delivers]
    · simp only [hid, if_false] at hends
      simp only [hid, if_false, Set.mem_insert_iff, Set.mem_ofPred_eq]
      simp [hends, Report.Delivers, hn, or_comm, eq_comm]
  | @publishDropped packet id st requested errors hid hq hadm hno hst hreq =>
    refine Eq.trans ?_ (delivered_quiet (by simp) fun p hp ↦ quietOut_of_silent (hreq p hp)).symm
    refine Set.insert_eq_of_mem ?_
    by_contra hnew
    exact hc (.dropped hid hq hadm hno hnew)
  | acknowledged hack =>
    rw [Session.finished_frame]
    exact (delivered_quiet (by simpa using quietIn_of_ack hack) (by simp)).symm
  | pubrecReceived hack _ _ _ hs =>
    refine Eq.trans ?_ (delivered_quiet (by simpa using quietIn_of_ack hack) ?_).symm
    · rcases hs with ⟨-, -, rfl⟩ | ⟨-, -, _, -, -, ⟨-, rfl⟩ | ⟨-, -, _, -, rfl⟩⟩ <;> rfl
    · rcases hs with ⟨rfl, -⟩ | ⟨-, -, _, hp, rfl, -⟩
      · simp
      · simpa using quietOut_of_part (partOf_pubrel hp) (by decide)
  | pubrecFailed =>
    rw [Session.finished_frame]
    refine (delivered_quiet ?_ (by simp)).symm
    simpa using @quietIn_of_ack _ (.v50Pubrec _) _ rfl
  | @pubrelReceived packet id requested errors hp hreq =>
    have hends (u : PacketId w) : Report.Ends ⟨requested, [packet], [], errors⟩ u ↔ u = id := by
      constructor
      · rintro (⟨p, hp', h⟩ | ⟨p, hp', h, -⟩ | ⟨p, hp', h | h⟩ | ⟨p, hp', h | h⟩)
        · obtain rfl := List.mem_singleton.mp hp'
          exact Option.some.inj (h.symm.trans hp)
        · cases (hreq p hp').symm.trans h
        · cases (partOf_ack (hreq p hp')).symm.trans (partOf_connect h)
        · cases (partOf_ack (hreq p hp')).symm.trans (partOf_connack h)
        · obtain rfl := List.mem_singleton.mp hp'
          cases (partOf_pubrel hp).symm.trans (partOf_connect h)
        · obtain rfl := List.mem_singleton.mp hp'
          cases (partOf_pubrel hp).symm.trans (partOf_connack h)
      · rintro rfl
        exact .inl ⟨packet, List.mem_singleton_self _, hp⟩
    have hdel (u : PacketId w) : ¬ Report.Delivers ⟨requested, [packet], [], errors⟩ u := by
      rintro ⟨p, hp', h⟩
      obtain rfl := List.mem_singleton.mp hp'
      cases (partOf_pubrel hp).symm.trans (partOf_publish h)
    ext u
    simp [hends, hdel]
  | subscriptionAcked hack =>
    exact (delivered_quiet (by simpa using quietIn_of_ack hack) (by simp)).symm
  | closed => exact (hin rfl).elim
  | restored =>
    rw [foldl_restore_frame]
    exact (delivered_quiet (by simp) (by simp)).symm
  | restoredHandled => exact (hids _ rfl).elim
  | _ => exact (delivered_quiet (by simp) (by simp)).symm

end GenericConnection

end MqttProtocolCore.Connection
