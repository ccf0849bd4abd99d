import MqttProtocolCore.Connection.Heartbeat

namespace MqttProtocolCore.Connection.GenericConnection

open General Packet

variable {w : IdWidth} {c c' : GenericConnection w} {packet : GenericPacket w} {op : Operation w}
  {r : Handled w} {reply : Reply w} {events : List (GenericEvent w)} {hb : Heartbeat}
  {clock : Option ℕ} {data : Bytes} {v : Version} {present : Bool} {s : Session w} {rep : Report w} {input : Input w}

theorem Change.connack_notified (h : Change c input s rep) (hp : packet.connackOf = some present)
    (hr : packet ∈ rep.notified) : input = .receive packet := by
  have hpart := partOf_connack hp
  have hone {p : GenericPacket w} (h : packet ∈ [p]) : partOf p = .connack :=
    List.mem_singleton.mp h ▸ hpart
  cases h with
  | idle _ _ _ hs => exact absurd (hs _ hr).2.1 (by simp [hp])
  | answered _ _ hs => exact absurd (hs _ hr).2.1 (by simp [hp])
  | connackResumes | connackAnew => exact congrArg Input.receive (List.mem_singleton.mp hr).symm
  | connectReceived h' => cases (hone hr).symm.trans (partOf_connect h')
  | publishReceived _ h' =>
    dsimp only at hr
    split at hr
    · cases hr
    · cases (hone hr).symm.trans (partOf_publish h')
  | acknowledged h' => cases (hone hr).symm.trans (partOf_ack h')
  | pubrecReceived h' => cases (hone hr).symm.trans (partOf_ack h')
  | pubrecFailed => cases hone hr
  | pubrelReceived h' => cases (hone hr).symm.trans (partOf_pubrel h')
  | subscriptionAcked h' => cases (hone hr).symm.trans (partOf_ack h')
  | _ => cases hr

theorem connack_of_serverKeepAlive (h : serverKeepAliveOf packet ≠ none) :
    ∃ present, packet.connackOf = some present := by
  cases packet with
  | v50Connack p =>
    by_cases hcode : p.reasonCode = .success
    · exact ⟨_, if_pos hcode⟩
    · exact (h (if_neg hcode)).elim
  | _ => exact (h rfl).elim

/-- A CONNACK that accepts the connection is handed over only when it arrives. -/
theorem connack_arrived (hc : c.Reading) (hstep : c.step op = .ret (c', reply))
    (hp : packet.connackOf = some present) (hr : packet ∈ notified reply.toEvents) :
    ∃ data v, op = .recv data ∧ c.arrival data = some (v, packet) := by
  obtain ⟨-, c₀, -, hchange⟩ := (step_spec hc op).of_ret hstep
  exact arrival_of_inputOf (hchange.connack_notified hp hr)

def Connects (c : GenericConnection w) (packet : GenericPacket w) : Prop :=
  partOf packet = .connect ∧ c.protocolVersion = packet.protocolVersion ∧ actsAsClient c.role ∧
    c.status = .disconnected ∧ ∀ p, packet = .v50Connect p → p.size ≤ c.maximumPacketSizeSend

structure Starting (c : GenericConnection w) (k : ℕ) (c' : GenericConnection w) : Prop where
  status : c'.status = .connecting
  client : c'.isClient
  override : c'.pingreqUserSendIntervalMs = c.pingreqUserSendIntervalMs
  keepAlive : c'.pingreqKeepAliveMs = k * 1000
  serverKeepAlive : c'.pingreqServerKeepAliveMs = none

theorem steady_announceConnect (props : Properties) : Steady c (props.foldl announceConnect c) := by
  induction props generalizing c with
  | nil => exact .refl c
  | cons prop props ih =>
    refine Steady.trans ?_ ih
    unfold announceConnect
    split
    · split <;> exact ⟨rfl, rfl, rfl, rfl, rfl⟩
    · exact ⟨rfl, rfl, rfl, rfl, rfl⟩
    · exact ⟨rfl, rfl, rfl, rfl, rfl⟩
    · split <;> exact ⟨rfl, rfl, rfl, rfl, rfl⟩
    · exact ⟨rfl, rfl, rfl, rfl, rfl⟩

theorem send_connect (hp : partOf packet = .connect) :
    ¬ c.Connects packet ∧ (∃ e, c.send packet = .ret (c.reject e)) ∨
      c.Connects packet ∧ ∃ k c₁, keepAliveOf packet = some k ∧ Starting c k c₁ ∧
        c.send packet = .ret (c₁.request packet none) := by
  unfold send
  by_cases hver : c.protocolVersion = packet.protocolVersion
  swap
  · exact .inl ⟨fun h ↦ hver h.2.1, _, if_pos hver⟩
  rw [if_neg (not_not.mpr hver)]
  by_cases hrole : actsAsClient c.role
  swap
  · refine .inl ⟨fun h ↦ hrole h.2.2.1, .packetNotAllowedToSend, ?_⟩
    cases packet with
    | v311Connect p | v50Connect p => exact if_neg hrole
    | _ => cases hp
  cases packet with
  | v311Connect p =>
    have hsend : c.processSend (.v311Connect p) = .ret (c.processSendV311Connect p) := if_pos hrole
    rw [hsend]
    by_cases hd : c.status = .disconnected
    · refine .inr ⟨⟨hp, hver, hrole, hd, by simp⟩, p.keepAlive.val, ?_⟩
      unfold processSendV311Connect
      rw [if_neg (not_not.mpr hd)]
      refine ⟨_, rfl, ?_, rfl⟩
      cases p.cleanStart <;> exact ⟨rfl, rfl, rfl, rfl, rfl⟩
    · exact .inl ⟨fun h ↦ hd h.2.2.2.1, _, congrArg Outcome.ret (if_pos hd)⟩
  | v50Connect p =>
    have hsend : c.processSend (.v50Connect p) = c.processSendV50Connect p := if_pos hrole
    rw [hsend]
    unfold processSendV50Connect limited
    by_cases hsize : p.size ≤ c.maximumPacketSizeSend
    swap
    · have hlarge : ¬ c.validateMaximumPacketSizeSend p.size := by
        simpa [validateMaximumPacketSizeSend] using hsize
      exact .inl ⟨fun h ↦ hsize (h.2.2.2.2 p rfl), _, if_neg hlarge⟩
    rw [if_pos (by simpa [validateMaximumPacketSizeSend] using hsize)]
    by_cases hd : c.status = .disconnected
    · refine .inr ⟨⟨hp, hver, hrole, hd, ?_⟩, p.keepAlive.val, ?_⟩
      · rintro _ ⟨⟩
        exact hsize
      rw [if_neg (not_not.mpr hd)]
      refine ⟨_, rfl, ?_, rfl⟩
      have hsteady := steady_announceConnect (c := if p.cleanStart then clearStoreRelated
        { c.initializeState true with
          status := .connecting
          pingreqKeepAliveMs := p.keepAlive * 1000 } else { c.initializeState true with
          status := .connecting
          pingreqKeepAliveMs := p.keepAlive * 1000 }) p.props
      have hstill := announceConnect_still (c := if p.cleanStart then clearStoreRelated
        { c.initializeState true with
          status := .connecting
          pingreqKeepAliveMs := p.keepAlive * 1000 } else { c.initializeState true with
          status := .connecting
          pingreqKeepAliveMs := p.keepAlive * 1000 }) p.props
      refine ⟨hstill.status.trans ?_, ?_, hsteady.override.trans ?_, hsteady.keepAlive.trans ?_,
        hsteady.serverKeepAlive.trans ?_⟩
      · split <;> rfl
      · rw [hsteady.client]
        split <;> rfl
      · split <;> rfl
      · split <;> rfl
      · split <;> rfl
    · exact .inl ⟨fun h ↦ hd h.2.2.2.1, _, if_pos hd⟩
  | _ => cases hp

theorem partOf_keepAlive {k : ℕ} (h : keepAliveOf packet = some k) : partOf packet = .connect := by
  cases packet with
  | v311Connect | v50Connect => rfl
  | _ => cases h

/-- What an operation without a part in the handshake leaves of the heartbeat. -/
theorem next_quiet (hc : c.Reading) (hstep : c.step op = .ret (c', reply))
    (hset : ∀ durationMs, op ≠ .setPingreqSendInterval durationMs)
    (hconnect : ∀ packet, op = .send packet → ¬ c.Connects packet)
    (hconnack : ∀ data v packet, op = .recv data → c.arrival data = some (v, packet) →
      packet.connackOf = none) :
    hb.next op reply.toEvents =
      { hb with clock := reply.toEvents.foldl clockAfter (Heartbeat.clockBefore hb.clock op) } := by
  have hoverride : Heartbeat.overrideAfter hb.override op = hb.override := by
    cases op with
    | setPingreqSendInterval durationMs => exact (hset durationMs rfl).elim
    | _ => rfl
  have hsent : Heartbeat.keepAliveSent op reply.toEvents = none := by
    cases op with
    | send packet =>
      change (if packet ∈ requested reply.toEvents then keepAliveOf packet else none) = none
      split
      swap
      · rfl
      rename_i hreq
      by_contra hne
      obtain ⟨k, hk⟩ := Option.ne_none_iff_exists'.mp hne
      obtain ⟨-, e, hsend⟩ | ⟨hstart, -⟩ := send_connect (c := c) (partOf_keepAlive hk)
      · obtain ⟨r, hr, hret⟩ := Outcome.bind_eq_ret.mp hstep
        obtain ⟨rfl, rfl⟩ := Prod.mk.inj (Outcome.ret.inj hret)
        cases hsend.symm.trans hr
        exact absurd hreq List.not_mem_nil
      · exact hconnect packet rfl hstart
    | _ => rfl
  have hnone : (notified reply.toEvents).findSome? serverKeepAliveOf = none := by
    refine List.findSome?_eq_none_iff.mpr fun q hq ↦ ?_
    by_contra hne
    obtain ⟨present, hp⟩ := connack_of_serverKeepAlive hne
    obtain ⟨data, v, hop, ha⟩ := connack_arrived hc hstep hp hq
    cases (hconnack data v q hop ha).symm.trans hp
  simp only [Heartbeat.next, hoverride, hsent, hnone, Option.getD_none, Option.isSome_none,
    Option.none_or, Bool.false_eq_true, if_false]

theorem Violation.steady (h : Violation c packet r) : Steady c r.1 := by
  cases h with
  | closed e _ hr =>
    obtain ⟨r', hr', hrefused⟩ := c.handleV311Error_spec e
    obtain rfl := Outcome.ret.inj (hr'.symm.trans hr)
    exact hrefused.idle.handling.steady
  | disconnected c₁ e _ hc hr =>
    obtain ⟨r', hr', hrefused⟩ := c₁.handleV50Error_spec e
    obtain rfl := Outcome.ret.inj (hr'.symm.trans hr)
    refine Steady.trans ?_ hrefused.idle.handling.steady
    rw [hc]
    exact ⟨rfl, rfl, rfl, rfl, rfl⟩

theorem steady_determine (b : PacketBuilder) (v : Version) :
    Steady c ({ c with packetBuilder := b }.determine v) := ⟨rfl, rfl, rfl, rfl, rfl⟩

/-- A CONNACK that does not accept the connection is handed over, and nothing else. -/
theorem deliver_refusal (hp : partOf packet = .connack) (h : packet.connackOf = none) :
    c.deliver packet = .ret (c, [.notifyPacketReceived packet]) := by
  cases packet with
  | v311Connack p =>
    have hcode : p.returnCode ≠ .accepted := by
      intro hcode
      simp [GenericPacket.connackOf, hcode] at h
    exact if_neg hcode
  | v50Connack p =>
    have hcode : p.reasonCode ≠ .success := by
      intro hcode
      simp [GenericPacket.connackOf, hcode] at h
    exact if_neg hcode
  | _ => cases hp

/-- What is received changes the settings of the keep-alive only with the handshake. -/
theorem steady_recv (hc : c.Reading)
    (hopen : ∀ v packet, c.arrival data = some (v, packet) →
      (partOf packet = .connect → ¬ c.Accepts packet) ∧ packet.connackOf = none) :
    (c.recv data).Ensures fun r ↦ Steady c r.1.1 := by
  intro r hr
  cases recv_cases hc hr with
  | incomplete => exact ⟨rfl, rfl, rfl, rfl, rfl⟩
  | malformed => exact ⟨rfl, rfl, rfl, rfl, rfl⟩
  | @refused b _ _ _ _ _ href =>
    obtain ⟨v, r', hr', hrefused, -⟩ := href.refused
    obtain rfl := Outcome.ret.inj hr'
    exact (steady_determine b v).trans hrefused.idle.handling.steady
  | @delivered b raw _ v packet _ hfeed harr _ hdel =>
    have ha : c.arrival data = some (v, packet) := by simp [arrival, hfeed, harr]
    obtain ⟨hconnect, hconnack⟩ := hopen v packet ha
    refine (steady_determine b v).trans ?_
    by_cases hp : partOf packet = .connect
    · exact (deliver_violation (fun hacc ↦ hconnect hp (accepts_prepared.mp hacc)) _ hdel).steady
    by_cases hp' : partOf packet = .connack
    · rw [deliver_refusal hp' hconnack] at hdel
      obtain rfl := Outcome.ret.inj hdel
      exact .refl _
    · exact (handling_deliver hp hp' _ hdel).steady

theorem steady_step (hc : c.Reading)
    (hset : ∀ durationMs, op ≠ .setPingreqSendInterval durationMs)
    (hconnect : ∀ packet, op = .send packet → ¬ c.Connects packet)
    (hopen : ∀ data v packet, op = .recv data → c.arrival data = some (v, packet) →
      (partOf packet = .connect → ¬ c.Accepts packet) ∧ packet.connackOf = none) :
    (c.step op).Ensures fun r ↦ Steady c r.1 := by
  have hevents {y : Outcome (Handled w)} (hy : y.Ensures fun r ↦ Steady c r.1) :
      (y >>= fun r ↦ Outcome.ret (r.1, Reply.events r.2)).Ensures fun r ↦ Steady c r.1 :=
    hy.bind fun _ hr ↦ Outcome.ensures_ret.mpr hr
  cases op with
  | send packet =>
    refine hevents ?_
    by_cases hp : partOf packet = .connect
    · obtain ⟨-, e, hsend⟩ | ⟨hstart, -⟩ := send_connect (c := c) hp
      · rw [hsend]
        exact Outcome.ensures_ret.mpr (.refl c)
      · exact (hconnect packet rfl hstart).elim
    unfold send
    split
    · exact Outcome.ensures_ret.mpr (.refl c)
    by_cases hp' : partOf packet = .connack
    · exact (beats_send_connack hp').mono fun _ hr ↦ hr.2
    · exact steady_processSend hp hp'
  | recv data =>
    refine (steady_recv hc fun v packet ha ↦ hopen data v packet rfl ha).bind fun r hr ↦ ?_
    exact Outcome.ensures_ret.mpr hr
  | notifyTimerFired kind => exact hevents (sessionFrames_steady.notifyTimerFired kind)
  | notifyClosed =>
    refine hevents (notifyClosed_frame.mono fun r hr ↦ ?_)
    have hclosed : Steady c c.closedState := ⟨rfl, rfl, rfl, rfl, rfl⟩
    refine hclosed.trans ?_
    rw [hr]
    exact ⟨rfl, rfl, rfl, rfl, rfl⟩
  | setPingreqSendInterval durationMs => exact (hset durationMs rfl).elim
  | acquirePacketId =>
    cases ha : c.pidMan.acquireUniqueId with
    | ok a =>
      rw [step_acquired (by rw [acquirePacketId, ha]; rfl)]
      exact Outcome.ensures_ret.mpr ⟨rfl, rfl, rfl, rfl, rfl⟩
    | error e =>
      rw [step_unacquired (by rw [acquirePacketId, ha]; rfl)]
      exact Outcome.ensures_ret.mpr (.refl c)
  | registerPacketId id =>
    cases ha : c.pidMan.registerId id with
    | ok man =>
      rw [step_registered (by rw [registerPacketId, ha]; rfl)]
      exact Outcome.ensures_ret.mpr ⟨rfl, rfl, rfl, rfl, rfl⟩
    | error e =>
      rw [step_unregistered (by rw [registerPacketId, ha]; rfl)]
      exact Outcome.ensures_ret.mpr (.refl c)
  | releasePacketId id => exact hevents sessionFrames_steady.releaseIfUsed
  | restorePackets packets =>
    exact (handling_restorePackets packets).bind fun _ h ↦ Outcome.ensures_ret.mpr h.steady
  | _ => exact Outcome.ensures_ret.mpr ⟨rfl, rfl, rfl, rfl, rfl⟩

end MqttProtocolCore.Connection.GenericConnection
