import MqttProtocolCore.Connection.StepSpec

namespace MqttProtocolCore.Connection.GenericConnection

open General Packet

variable {w : IdWidth} {c : GenericConnection w} {packet : GenericPacket w} {id : PacketId w}
  {qos : Qos}

/-- A PUBLISH that is neither sent nor stored, without an error: a PUBLISH is let in although there
is no connection, but the session does not store it. -/
structure Swallows (c : GenericConnection w) (packet : GenericPacket w) : Prop where
  version : c.protocolVersion = packet.protocolVersion
  offline : c.status ≠ .connected
  accepted : ¬ c.cannotPublish
  unstored : ¬ c.storesPublish
  fits : ∀ p, packet = .v50Publish p →
    c.validateMaximumPacketSizeSend p.size ∧ ¬ c.withdraws packet ∧ c.CountFits

/-- A PUBLISH is refused with an error, requested to be sent, or stored. -/
def Accounted (id : PacketId w) (qos : Qos) (r : Handled w) : Prop :=
  errors r.2 = [] → (∃ p ∈ requested r.2, p.publishOf = some (id, qos)) ∨
    ∃ stored, r.1.store.get id = some stored ∧ stored.toPacket.publishOf = some (id, qos)

theorem accounted_of_errors {r : Handled w} (h : errors r.2 ≠ []) : Accounted id qos r :=
  fun h' ↦ (h h').elim

/-- On a connection, or with a session that stores it, a PUBLISH is accounted for. -/
theorem accounted_of_change {r : Handled w} (hp : packet.publishOf = some (id, qos))
    (h : Change c (.send packet) r.1.session (report r.2))
    (hc : c.status = .connected ∨ c.storesPublish ∨ c.withdraws packet) : Accounted id qos r := by
  have hkeep {s : Session w} {rep : Report w} (hs : r.1.session = s) (hrep : report r.2 = rep)
      (h : Change c (.send packet) s rep) : rep.errors = [] →
        (∃ p ∈ rep.requested, p.publishOf = some (id, qos)) ∨
        ∃ stored, s.stored id = some stored ∧ stored.toPacket.publishOf = some (id, qos) := by
    intro herr
    cases h with
    | refused _ _ _ he => exact (he herr).elim
    | idle hcalm => simp [hcalm.publish] at hp
    | answered hans =>
      cases packet <;> simp_all [GenericPacket.publishOf, Input.Answers, ackOf]
    | pubrecSent hack => cases packet <;> simp_all [GenericPacket.publishOf, ackOf]
    | connectSent hcon => cases packet <;> simp_all [GenericPacket.publishOf, GenericPacket.connectOf]
    | connackSent hcon => cases packet <;> simp_all [GenericPacket.publishOf, GenericPacket.connackOf]
    | publishRefused _ he => exact (he herr).elim
    | publishWithdrawn _ _ _ _ he => exact (he herr).elim
    | published hp' hw hu hsent hs' =>
      obtain ⟨rfl, rfl⟩ := Prod.mk.inj (Option.some.inj (hp.symm.trans hp'))
      by_cases hconn : c.status = .connected
      · refine .inl ⟨_, ?_, hsent.1⟩
        simp [hconn]
      · rcases hs' with ⟨hn, -⟩ | ⟨-, -, stored, hstored, -, rfl⟩
        · rcases hc with hc | hc | hc
          · exact (hconn hc).elim
          · exact (hn hc).elim
          · exact (hw hc).elim
        · refine .inr ⟨stored, ?_, hstored⟩
          unfold Session.counted
          split <;> simp [Session.keep, Session.await]
    | pubrelSent hrel => cases packet <;> simp_all [GenericPacket.publishOf, GenericPacket.pubrelOf]
    | subscribed hsub => cases packet <;> simp_all [GenericPacket.publishOf, subscriptionOf]
    | subscriptionRefused _ he => exact (he herr).elim
  exact hkeep rfl rfl h

theorem errors_refuse (e : MqttError) (id : Option (PacketId w)) :
    (c.refuse e id).Ensures fun r ↦ errors r.2 ≠ [] := by
  unfold refuse
  cases id with
  | none => simp [reject]
  | some id => exact Outcome.Ensures.bind (P := fun _ ↦ True) (fun _ _ ↦ trivial) fun r _ ↦ by simp

theorem swallowed_v311 {p : V311.Publish w} (hid : p.packetId = some id)
    (h : c.Swallows (.v311Publish p)) (hu : c.pidMan.isUsedId id) :
    c.send (.v311Publish p) = .ret (c.await (publishAck p.qos) id, []) := by
  have hawait : (c.await (publishAck p.qos) id).status = c.status :=
    (sameSending_await (c := c)).status
  rw [send, if_neg (not_not.mpr h.version)]
  change c.processSendV311Publish p = _
  unfold processSendV311Publish
  simp [hid, h.accepted, h.unstored, hu, transmit, hawait, h.offline]

theorem swallowed_v50 {p : V50.Publish w} (hid : p.packetId = some id)
    (h : c.Swallows (.v50Publish p)) (hu : c.pidMan.isUsedId id) :
    ∃ c', c.send (.v50Publish p) = .ret (c', []) ∧ c'.session.stored = c.session.stored := by
  obtain ⟨hsize, hw, hcount⟩ := h.fits p rfl
  have hw' : ¬ c.refusesAlias p ∧ ¬ c.quotaReached := by simpa [withdraws, not_or] using hw
  have ha : (c.await (publishAck p.qos) id).topicAliasSend = c.topicAliasSend := topicAliasSend_await
  have hsend := @sameSending_await w c id (publishAck p.qos)
  have hinv : (c.await (publishAck p.qos) id).invalidAlias p false = c.refusesAlias p := by
    unfold invalidAlias refusesAlias
    simp only [validateTopicAliasRange_congr ha, validateTopicAlias_congr ha, h.unstored]
  have hfits : (c.await (publishAck p.qos) id).AliasFits p := fun hm ↦ by
    simp [mapsTopic, hsend.status, h.offline] at hm
  have hsend' : c.send (.v50Publish p) =
      (c.await (publishAck p.qos) id).sendV50Publish p false (some id) := by
    rw [send, if_neg (not_not.mpr h.version)]
    change c.processSendV50Publish p = _
    unfold processSendV50Publish limited
    simp [hsize, hid, h.accepted, hu, h.unstored]
  rw [hsend']
  unfold sendV50Publish
  obtain ⟨⟨o, c₁⟩, hx, -, hre, hnone, -⟩ := (applyTopicAlias_spec (p := p) false).exists_ret
    (not_not.mpr hfits)
  dsimp only at hre hnone
  rw [hinv] at hnone
  cases o with
  | none => exact (hw'.1 (hnone.mp rfl)).elim
  | some p' =>
    have hcount' : c₁.CountFits := by
      rw [hre]
      exact fun max hmax ↦ hsend.count ▸ hcount max (hsend.max ▸ hmax)
    have hreached : c₁.quotaReached = c.quotaReached := by
      rw [← hsend.quotaReached, hre]
      rfl
    obtain ⟨r, hr, -, hnone', hsome⟩ := (countPublish_spec c₁ id).exists_ret (not_not.mpr hcount')
    rw [hreached] at hnone'
    cases r with
    | none => exact (hw'.2 (hnone'.mp rfl)).elim
    | some c₂ =>
      have hs := hsome c₂ rfl
      have hs₁ : c₁.session = c.session.await (publishAck p.qos) id := by
        rw [hre]
        exact session_await
      have hcounted : (c₁.session.counted .v50).status = c.status ∧
          (c₁.session.counted .v50).stored = c.session.stored := by
        rw [hs₁]
        unfold Session.counted
        split <;> exact ⟨rfl, rfl⟩
      have hst : c₂.status ≠ .connected := by
        rw [show c₂.status = c₂.session.status from rfl, hs, hcounted.1]
        exact h.offline
      refine ⟨c₂, ?_, by rw [hs, hcounted.2]⟩
      rw [hx, Outcome.ret_bind]
      dsimp only
      rw [hid, hr, Outcome.ret_bind]
      dsimp only
      rw [transmit, if_neg hst]
      rfl

/-- A PUBLISH with an identifier of its own is accounted for exactly when it is not swallowed. -/
theorem accounted_iff (hp : packet.publishOf = some (id, qos)) (hu : c.pidMan.isUsedId id)
    (hstored : c.store.get id = none) :
    (c.send packet).Ensures (Accounted id qos) ↔ ¬ c.Swallows packet := by
  constructor
  · intro h hsw
    have hlost {c' : GenericConnection w} (hsend : c.send packet = .ret (c', []))
        (hs : c'.session.stored = c.session.stored) : False := by
      rcases h _ hsend rfl with ⟨_, hmem, -⟩ | ⟨stored, hget, -⟩
      · simp at hmem
      · have : c'.session.stored id = some stored := hget
        rw [hs] at this
        have hnone : c.session.stored id = none := hstored
        simp [hnone] at this
    cases packet with
    | v311Publish p =>
      obtain ⟨hid, -⟩ : p.packetId = some id ∧ p.qos = qos := by
        simpa [GenericPacket.publishOf] using hp
      exact hlost (swallowed_v311 hid hsw hu) (by rw [session_await]; rfl)
    | v50Publish p =>
      obtain ⟨hid, -⟩ : p.packetId = some id ∧ p.qos = qos := by
        simpa [GenericPacket.publishOf] using hp
      obtain ⟨c', hsend, hs⟩ := swallowed_v50 hid hsw hu
      exact hlost hsend hs
    | _ => simp [GenericPacket.publishOf] at hp
  · intro hsw r hr
    have hacts := (acts_send packet).of_ret hr
    by_cases hc : c.status = .connected ∨ c.storesPublish ∨ c.withdraws packet
    · exact accounted_of_change hp hacts.2 hc
    obtain ⟨hoff, hst, hw⟩ : c.status ≠ .connected ∧ ¬ c.storesPublish ∧ ¬ c.withdraws packet := by
      simpa only [not_or] using hc
    refine accounted_of_errors ?_
    by_cases hv : c.protocolVersion = packet.protocolVersion
    swap
    · have hreject : c.send packet = .ret (c.reject .versionMismatch) := if_pos hv
      obtain rfl := Outcome.ret.inj (hr.symm.trans hreject)
      simp [reject]
    have hsend : c.send packet = c.processSend packet := if_neg (not_not.mpr hv)
    rw [hsend] at hr
    cases packet with
    | v311Publish p =>
      obtain ⟨hid, -⟩ : p.packetId = some id ∧ p.qos = qos := by
        simpa [GenericPacket.publishOf] using hp
      have hcannot : c.cannotPublish := by
        by_contra hcan
        exact hsw ⟨hv, hoff, hcan, hst, by simp⟩
      have hrefuse : c.processSend (.v311Publish p) =
          c.refuse .packetNotAllowedToSend (some id) := by
        change c.processSendV311Publish p = _
        unfold processSendV311Publish
        simp [hid, hcannot]
      exact errors_refuse _ _ r (hrefuse ▸ hr)
    | v50Publish p =>
      obtain ⟨hid, -⟩ : p.packetId = some id ∧ p.qos = qos := by
        simpa [GenericPacket.publishOf] using hp
      have hdef : c.processSend (.v50Publish p) = c.processSendV50Publish p := rfl
      rw [hdef] at hr
      unfold processSendV50Publish limited at hr
      by_cases hsize : c.validateMaximumPacketSizeSend p.size
      · rw [if_pos hsize] at hr
        by_cases hcannot : c.cannotPublish
        · simp only [hid, hcannot, if_true] at hr
          exact errors_refuse _ _ r hr
        · have hfits := (hacts.1 hv hsize).1 id hid
          have hcount := (hfits.sends hcannot hu fun h ↦ (hst h).elim).2.2 fun h ↦
            hw (by simp [withdraws, h])
          refine (hsw ⟨hv, hoff, hcannot, hst, fun p' hp' ↦ ?_⟩).elim
          cases hp'
          exact ⟨hsize, hw, hcount.1⟩
      · rw [if_neg hsize] at hr
        obtain rfl := Outcome.ret.inj hr
        simp [reject]
    | _ => simp [GenericPacket.publishOf] at hp

theorem accounted_iff_offline : ∃ (c : GenericConnection .u16) (packet : GenericPacket .u16),
    c.status = .disconnected ∧ (c.send packet).Ensures (Accounted 1 .atLeastOnce) := by
  obtain ⟨p, _, ⟨_, c⟩, _, hp, hu, hs, hst, hdis⟩ :
      (V311.Publish.parse (w := .u16) 2 [0, 1, 0x61, 0, 1]).unwrap.Attains fun p ↦
        ((system .u16).run (new .client .u16 .v311)
          [.setOfflinePublish true, .acquirePacketId]).Attains fun r ↦
        (GenericPacket.v311Publish p.1).publishOf = some (1, .atLeastOnce) ∧
        r.2.pidMan.isUsedId 1 ∧ r.2.store.get 1 = none ∧ r.2.storesPublish ∧
        r.2.status = .disconnected := by
    decide +kernel
  exact ⟨c, _, hdis, (accounted_iff hp hu hs).mpr fun h ↦ h.unstored hst⟩

/-- Offline publishing is switched off again, but the session is still kept. -/
theorem publish_swallowed : ¬ ∀ (c : GenericConnection .u16) packet id qos,
    Reachable (system .u16) c → packet.publishOf = some (id, qos) → c.pidMan.isUsedId id →
    c.store.get id = none → (∀ kind, id ∉ c.awaiting kind) →
    (c.send packet).Ensures (Accounted id qos) := by
  intro h
  obtain ⟨p, -, ⟨trace, c⟩, hrun, hp, hu, hs, ha, hsend⟩ :
      (V311.Publish.parse (w := .u16) 2 [0, 1, 0x61, 0, 1]).unwrap.Attains fun p ↦
        ((system .u16).run (new .client .u16 .v311)
          [.setOfflinePublish true, .setOfflinePublish false, .acquirePacketId]).Attains fun r ↦
        (GenericPacket.v311Publish p.1).publishOf = some (1, .atLeastOnce) ∧
        r.2.pidMan.isUsedId 1 ∧ r.2.store.get 1 = none ∧
        (∀ kind ∈ [AckKind.puback, .pubrec, .pubcomp, .suback, .unsuback], 1 ∉ r.2.awaiting kind) ∧
        (r.2.send (.v311Publish p.1)).Attains fun r ↦ r.2 = [] ∧ r.1.store.get 1 = none := by
    decide +kernel
  obtain ⟨r, hr, hev, hget⟩ := hsend
  have hreach := (Run.of_run (S := system .u16) ⟨.client, .v311, rfl⟩ hrun).reachable
  rcases h c _ 1 _ hreach hp hu hs (fun kind ↦ ha kind (by cases kind <;> simp)) r hr (by simp [hev])
    with ⟨_, hmem, -⟩ | ⟨stored, hstored, -⟩
  · simp [hev] at hmem
  · simp [hget] at hstored

end MqttProtocolCore.Connection.GenericConnection
