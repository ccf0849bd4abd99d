import MqttProtocolCore.Connection.RecvEmission

namespace MqttProtocolCore.Connection.GenericConnection

open General Packet

variable {w : IdWidth} {R N : GenericPacket w → Prop} {c c' : GenericConnection w}
  {packet : GenericPacket w} {id : PacketId w} {x : Outcome (Handled w)} {r : Handled w}
  {events : List (GenericEvent w)} {raw : RawPacket} {v : Version}

theorem emitting_refuseV311Connect (e : MqttError) (hs : Sendable R c)
    (h : ∀ p, R (.v311Connack p)) : Emitting R N (c.refuseV311Connect e) := by
  apply emitting_after
  intro p
  refine Emitting.bind ?_ fun r hr ↦ emitting_ret (hr.append (emits_quiet rfl rfl))
  unfold processSendV311Connack
  split
  · exact emitting_reject _
  · exact emitting_finishConnack hs (h p)

theorem emitting_refuseV50Connect (e : MqttError) (hs : Sendable R c)
    (h : ∀ p, R (.v50Connack p)) : Emitting R N (c.refuseV50Connect e) := by
  apply emitting_after
  intro p
  refine (emitting_processSendV50Connack hs (h p)).bind fun r hr ↦ emitting_ret ?_
  exact hr.append (emits_quiet rfl rfl)

structure RefusalReply (c : GenericConnection w) (v : Version) (connect : Prop)
    (q : GenericPacket w) : Prop where
  version : q.protocolVersion = v
  client : clientOnly q = false
  server : serverOnly q → c.status = .disconnected ∧ connect
  publish : partOf q ≠ .publish

theorem Misread.emitting {connect : Prop} (hm : Misread c connect x) (hs : Sendable R c)
    (h : ∀ q, RefusalReply c c.protocolVersion connect q → R q) : Emitting R N x := by
  have hs' : Sendable R ({ c with status := .connecting } : GenericConnection w) := hs
  cases hm with
  | closed e => exact emitting_handleV311Error e
  | disconnected e hv =>
    exact emitting_handleV50Error e fun p ↦ h _ ⟨hv.symm, rfl, nofun, nofun⟩
  | ignored e => exact emitting_reject e
  | refusedV311 e hv hd hp =>
    exact emitting_refuseV311Connect e hs' fun p ↦ h _ ⟨hv.symm, rfl, fun _ ↦ ⟨hd, hp⟩, nofun⟩
  | refusedV50 e hv hd hp =>
    exact emitting_refuseV50Connect e hs' fun p ↦ h _ ⟨hv.symm, rfl, fun _ ↦ ⟨hd, hp⟩, nofun⟩

/-- The version that an operation leaves is the one before it, or is settled by it. -/
def Settles (c : GenericConnection w) (v : Version) : Prop :=
  v = c.protocolVersion ∨ c.protocolVersion = .undetermined

def isPingreq : GenericPacket w → Bool
  | .v311Pingreq _ | .v50Pingreq _ => true
  | _ => false

/-- Why a packet is sent, when the version is `v` after the operation. -/
inductive Origin (c : GenericConnection w) (v : Version) : Operation w → GenericPacket w → Prop where
  | sent {packet q : GenericPacket w} :
      c.protocolVersion = packet.protocolVersion → Outgoing c packet q →
      q = packet ∨ partOf q = .publish → Origin c v (.send packet) q
  | stored {op : Operation w} {id : PacketId w} {stored : GenericStorePacket w} :
      c.session.stored id = some stored → Origin c v op stored.toPacket
  | replied {data : Bytes} {q : GenericPacket w} : AutoReply c v q → Origin c v (.recv data) q
  | refused {data : Bytes} {q : GenericPacket w} : RefusalReply c v (c.role ≠ .client) q →
      Origin c v (.recv data) q
  | tooLarge {data : Bytes} (p : V50.Disconnect) :
      c.maximumPacketSizeRecv ≠ mqttPacketSizeNoLimit → Origin c v (.recv data) (.v50Disconnect p)
  | pinged {q : GenericPacket w} : q.protocolVersion = c.protocolVersion → isPingreq q →
      Origin c v (.notifyTimerFired .pingreqSend) q
  | expired {kind : TimerKind} {q : GenericPacket w} :
      Neutral c.protocolVersion q → Origin c v (.notifyTimerFired kind) q

/-- What is handed over comes from the packet that `recv` completed. -/
inductive Notice (c : GenericConnection w) : Operation w → GenericPacket w → Prop where
  | received {data : Bytes} {v : Version} {packet q : GenericPacket w} :
      c.arrival data = some (v, packet) → Handed packet q → Notice c (.recv data) q

theorem Origin.sendable {op : Operation w} (h : c'.session.stored = c.session.stored) :
    Sendable (Origin c v op) c' := by
  intro id stored hs
  exact .stored (h ▸ hs)

theorem not_oversize {h : UInt8} {body : Bytes} (hmax : body.length < VariableByteInteger.max)
    (hc : c.maximumPacketSizeRecv = mqttPacketSizeNoLimit) : ¬ c.oversize (rawPacket h body) := by
  rw [VariableByteInteger.max] at hmax
  rw [oversize, hc, dataAsSlice_rawPacket, decide_eq_true_eq, remainingLengthToTotalSize,
    mqttPacketSizeNoLimit]
  split_ifs <;> omega

theorem not_client_of_takes (h : c.takes raw) (hp : raw.packetType = 1) : c.role ≠ .client := by
  intro hr
  simp [takes, canReceive, hp, hr] at h

theorem Refusal.emits {h : UInt8} {body : Bytes} (hmax : body.length < VariableByteInteger.max)
    (hr : Refusal c (rawPacket h body) (.ret r)) (data : Bytes) :
    Emits (Origin c r.1.protocolVersion (.recv data)) N r.2 := by
  generalize hx : Outcome.ret r = x at hr
  apply Emitting.emits (x := x) _ hx.symm
  cases hr with
  | tooLarge hsize =>
    refine emitting_handleV50Error _ fun p ↦ .tooLarge p fun hc ↦ ?_
    exact not_oversize hmax hc hsize
  | rejected e =>
    exact emitting_reject e
  | @misread v _ _ htakes hv hm =>
    subst hx
    obtain ⟨r', hr', href⟩ := hm.refused
    obtain rfl := Outcome.ret.inj hr'
    have hver : r.1.protocolVersion = v := by
      rw [href.idle]
      rfl
    refine hm.emitting (Origin.sendable rfl) fun q hq ↦ ?_
    refine .refused ⟨hq.version.trans hver.symm, hq.client, fun hs ↦ ?_, hq.publish⟩
    exact (hq.server hs).imp_right fun hp ↦ not_client_of_takes htakes hp

theorem deliver_version (hv : c.protocolVersion ≠ .undetermined) (h : c.deliver packet = .ret r) :
    r.1.protocolVersion = c.protocolVersion :=
  (((acts_deliver packet).of_ret h).2.frame.2).resolve_right hv

/-- Whatever `recv` asks to send has its origin, and whatever it hands over has arrived. -/
theorem recv_emits (hc : c.Reading) {data : Bytes} {r : Handled w × Bytes}
    (hr : c.recv data = .ret r) :
    Emits (Origin c r.1.1.protocolVersion (.recv data)) (Notice c (.recv data)) r.1.2 := by
  cases recv_cases hc hr with
  | incomplete => exact emits_quiet rfl rfl
  | malformed => exact (emits_timers timersOnly_cancelTimers).append (emits_quiet rfl rfl)
  | @refused b raw rest r hfeed _ href =>
    obtain ⟨-, h, body, rfl, hmax⟩ := hc.complete hfeed
    have hemits : Emits _ (Notice c (.recv data)) r.2 := href.emits hmax data
    refine ⟨fun q hq ↦ ?_, hemits.notices⟩
    cases hemits.requests q hq with
    | stored hs => exact .stored hs
    | replied ha => exact .replied ⟨ha.version, ha.client, ha.server, ha.publish⟩
    | refused ha => exact .refused ⟨ha.version, ha.client, ha.server, ha.publish⟩
    | tooLarge p hp => exact .tooLarge p hp
  | @delivered b raw rest v packet r hfeed harr hv hdel =>
    have hver : r.1.protocolVersion = v := deliver_version (arrived_version harr) hdel
    have hp : packet.protocolVersion = v := (arrived_some harr).2.2
    have harr' : c.arrival data = some (v, packet) := by
      unfold arrival
      rw [hfeed]
      exact harr
    refine Emitting.emits ?_ hdel
    refine emitting_deliver (Origin.sendable rfl) (fun q hq _ _ ↦ ?_) fun q hq ↦ ?_
    · exact .replied ⟨hq.version.trans (hp.trans hver.symm), hq.client, hq.server, hq.publish⟩
    · exact .received harr' hq

theorem emitting_keepAlive (h : ∀ q, q.protocolVersion = c.protocolVersion → isPingreq q → R q) :
    Emitting R N c.keepAlive := by
  unfold keepAlive
  split
  · split
    · rename_i hv
      exact emitting_after fun p ↦ emitting_ret (emits_sendPingreq (h _ hv.symm rfl))
    · rename_i hv
      refine emitting_after fun p ↦ emitting_limited (emitting_ret (emits_sendPingreq ?_))
      exact h _ hv.symm rfl
    · simp [Emitting]
  · exact emitting_ret (emits_quiet rfl rfl)

theorem emitting_keepAliveTimeout
    (h : ∀ p, c.protocolVersion = .v50 → R (.v50Disconnect p)) :
    Emitting R N c.keepAliveTimeout := by
  unfold keepAliveTimeout
  split
  · exact emitting_ret (emits_quiet rfl rfl)
  · rename_i hv
    split
    · refine emitting_after fun p ↦ emitting_limited (emitting_ret (emits_sendDisconnect ?_))
      exact h _ hv
    · exact emitting_ret (emits_quiet rfl rfl)
  · simp [Emitting]

theorem emitting_notifyTimerFired (kind : TimerKind) :
    Emitting (Origin c v (.notifyTimerFired kind)) N (c.notifyTimerFired kind) := by
  cases kind with
  | pingreqSend => exact emitting_keepAlive fun q hv hs ↦ .pinged hv hs
  | pingreqRecv => exact emitting_keepAliveTimeout fun p hv ↦ .expired ⟨hv.symm, rfl, rfl, nofun⟩
  | pingrespRecv => exact emitting_keepAliveTimeout fun p hv ↦ .expired ⟨hv.symm, rfl, rfl, nofun⟩

theorem emitting_releaseAll (ids : List (PacketId w)) : Emitting R N (c.releaseAll ids) := by
  induction ids generalizing c with
  | nil => exact emitting_ret (emits_quiet rfl rfl)
  | cons id ids ih =>
    refine emitting_releaseIfUsed.bind fun r hr ↦ ?_
    exact (ih (c := r.1)).bind fun r' hr' ↦ emitting_ret (hr.append hr')

theorem emitting_drainAll (kinds : List AckKind) : Emitting R N (c.drainAll kinds) := by
  induction kinds generalizing c with
  | nil => exact emitting_ret (emits_quiet rfl rfl)
  | cons kind kinds ih =>
    refine (emitting_releaseAll _).bind fun r hr ↦ ?_
    exact (ih (c := r.1)).bind fun r' hr' ↦ emitting_ret (hr.append hr')

theorem emitting_notifyClosed : Emitting R N c.notifyClosed := by
  refine (emitting_drainAll _).bind fun r hr ↦ ?_
  refine (emitting_respondIf fun _ ↦ emitting_drainAll _).bind fun r' hr' ↦ emitting_ret ?_
  exact (hr.append hr').append (emits_timers timersOnly_cancelTimers)

theorem emitting_send (packet : GenericPacket w) :
    Emitting (Origin c v (.send packet)) N (c.send packet) := by
  unfold send
  split
  · exact emitting_reject _
  · rename_i hv
    refine emitting_processSend (Origin.sendable rfl) fun q hq hsame ↦ .sent ?_ hq hsame
    exact not_not.mp hv

/-- Whatever an operation asks to send has its origin, and whatever it hands over has arrived. -/
theorem step_emits (hc : c.Reading) (op : Operation w) : (c.step op).Ensures fun r ↦
    Emits (Origin c r.1.protocolVersion op) (Notice c op) r.2.toEvents := by
  have hquiet {c' : GenericConnection w} : Emits (Origin c c'.protocolVersion op) (Notice c op)
      ([] : List (GenericEvent w)) := emits_quiet rfl rfl
  have hevents {y : Outcome (Handled w)}
      (hy : ∀ v, Emitting (Origin c v op) (Notice c op) y) :
      (y >>= fun r ↦ Outcome.ret (r.1, Reply.events r.2)).Ensures fun r ↦
        Emits (Origin c r.1.protocolVersion op) (Notice c op) r.2.toEvents := by
    intro r hr
    obtain ⟨r', hr', hret⟩ := Outcome.bind_eq_ret.mp hr
    obtain rfl := Outcome.ret.inj hret
    exact (hy _).emits hr'
  cases op with
  | send packet => exact hevents fun v ↦ emitting_send packet
  | recv data =>
    intro r hr
    obtain ⟨r', hr', hret⟩ := Outcome.bind_eq_ret.mp hr
    obtain rfl := Outcome.ret.inj hret
    exact recv_emits hc hr'
  | notifyTimerFired kind => exact hevents fun v ↦ emitting_notifyTimerFired kind
  | notifyClosed => exact hevents fun v ↦ emitting_notifyClosed
  | setPingreqSendInterval durationMs =>
    exact Outcome.ensures_ret.mpr (emits_timers (c.setPingreqSendInterval_spec durationMs).2)
  | acquirePacketId =>
    cases ha : c.acquirePacketId with
    | ok a =>
      rw [step_acquired ha]
      exact Outcome.ensures_ret.mpr hquiet
    | error e =>
      rw [step_unacquired ha]
      exact Outcome.ensures_ret.mpr hquiet
  | registerPacketId id =>
    cases ha : c.registerPacketId id with
    | ok a =>
      rw [step_registered ha]
      exact Outcome.ensures_ret.mpr hquiet
    | error e =>
      rw [step_unregistered ha]
      exact Outcome.ensures_ret.mpr hquiet
  | releasePacketId id => exact hevents fun v ↦ emitting_releaseIfUsed
  | restorePackets packets =>
    exact Outcome.Ensures.bind (P := fun _ ↦ True) (fun _ _ ↦ trivial)
      fun c' _ ↦ Outcome.ensures_ret.mpr hquiet
  | _ => exact Outcome.ensures_ret.mpr hquiet

end MqttProtocolCore.Connection.GenericConnection
