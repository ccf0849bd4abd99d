import MqttProtocolCore.Connection.Origin
import MqttProtocolCore.Connection.Loss
import MqttProtocolCore.Connection.SendFrame

namespace MqttProtocolCore.Connection.GenericConnection

open General Packet

variable {w : IdWidth} {c c' : GenericConnection w} {packet q : GenericPacket w} {id : PacketId w}
  {s : Session w} {rep : Report w} {input : Input w} {op : Operation w} {r : Handled w}
  {stored : GenericStorePacket w} {x : Outcome (Handled w)}

theorem Handling.recvLimit (h : Handling c c') :
    c'.maximumPacketSizeRecv = c.maximumPacketSizeRecv := by
  unfold Handling at h
  rw [h]

theorem recvLimit_sendStored : c.sendStored.Ensures fun r ↦
    r.1.maximumPacketSizeRecv = c.maximumPacketSizeRecv := by
  intro r hr
  obtain ⟨-, hstate, -⟩ := sendStored_spec.of_ret hr
  rw [hstate]

theorem recvLimit_processSendV311Connack (p : V311.Connack) :
    (c.processSendV311Connack p).Ensures fun r ↦
      r.1.maximumPacketSizeRecv = c.maximumPacketSizeRecv := by
  unfold processSendV311Connack finishConnack
  split
  · exact Outcome.ensures_ret.mpr rfl
  split
  · exact Outcome.ensures_ret.mpr rfl
  · refine recvLimit_sendStored.bind fun r hr ↦ Outcome.ensures_ret.mpr ?_
    exact idle_sendPostProcess.handling.recvLimit.trans hr

theorem recvLimit_processSend (h : packet.protocolVersion = .v311) :
    (c.processSend packet).Ensures fun r ↦
      r.1.maximumPacketSizeRecv = c.maximumPacketSizeRecv := by
  have hrole {q : Prop} [Decidable q] {x : Outcome (Handled w)}
      (hx : x.Ensures fun r ↦ r.1.maximumPacketSizeRecv = c.maximumPacketSizeRecv) :
      (if q then x else .ret (c.reject .packetNotAllowedToSend)).Ensures fun r ↦
        r.1.maximumPacketSizeRecv = c.maximumPacketSizeRecv := by
    split
    · exact hx
    · exact Outcome.ensures_ret.mpr rfl
  have hhandling {x : Outcome (Handled w)} (hx : x.Ensures fun r ↦ Handling c r.1) :
      x.Ensures fun r ↦ r.1.maximumPacketSizeRecv = c.maximumPacketSizeRecv :=
    hx.mono fun _ hr ↦ hr.recvLimit
  have hplain {r : Handled w} (hr : Handling c r.1) :
      (Outcome.ret r).Ensures fun r ↦ r.1.maximumPacketSizeRecv = c.maximumPacketSizeRecv :=
    Outcome.ensures_ret.mpr hr.recvLimit
  cases packet with
  | v311Connect p =>
    refine hrole (Outcome.ensures_ret.mpr ?_)
    unfold processSendV311Connect
    split
    · rfl
    · refine frames_handling.request.recvLimit.trans ?_
      split <;> rfl
  | v311Connack p => exact hrole (recvLimit_processSendV311Connack p)
  | v311Publish p => exact hhandling (frames_handling.processSendV311Publish p addsStored_handling)
  | v311Puback p | v311Pubrec p | v311Pubcomp p => exact hplain frames_handling.sendConnected
  | v311Pubrel p => exact hhandling (frames_handling.sendPubrel addsStored_handling)
  | v311Subscribe p | v311Unsubscribe p => exact hrole (hhandling frames_handling.sendSubscription)
  | v311Suback p | v311Unsuback p | v311Pingresp p => exact hrole (hplain frames_handling.sendConnected)
  | v311Pingreq p => exact hrole (hplain plain_sendPingreq.idle.handling)
  | v311Disconnect p => exact hrole (hplain plain_sendDisconnect.idle.handling)
  | _ => cases h

theorem recvLimit_deliver (h : packet.protocolVersion = .v311) :
    (c.deliver packet).Ensures fun r ↦ r.1.maximumPacketSizeRecv = c.maximumPacketSizeRecv := by
  by_cases hconnect : partOf packet = .connect
  · cases packet with
    | v311Connect p =>
      change (if _ then _ else _ : Outcome (Handled w)).Ensures _
      split
      · exact Outcome.ensures_ret.mpr rfl
      · refine Outcome.ensures_ret.mpr (frames_handling.received.recvLimit.trans ?_)
        split <;> split <;> rfl
    | v50Connect => cases h
    | _ => cases hconnect
  by_cases hconnack : partOf packet = .connack
  · cases packet with
    | v311Connack p =>
      change (recvV311Connack c p).Ensures _
      unfold recvV311Connack resumeSession
      split
      · split
        · exact recvLimit_sendStored.bind fun r hr ↦ Outcome.ensures_ret.mpr hr
        · exact Outcome.ensures_ret.mpr rfl
      · exact Outcome.ensures_ret.mpr rfl
    | v50Connack => cases h
    | _ => cases hconnack
  exact (handling_deliver hconnect hconnack).mono fun _ hr ↦ hr.recvLimit

def Unlimited (c : GenericConnection w) : Prop :=
  c.protocolVersion ≠ .v50 → c.maximumPacketSizeRecv = mqttPacketSizeNoLimit

theorem Unlimited.of_handling (h : Unlimited c) (hc : Handling c c') : Unlimited c' := by
  intro hv
  unfold Handling at hc
  rw [hc] at hv ⊢
  exact h hv

theorem unlimited_send (h : Unlimited c) : (c.send packet).Ensures fun r ↦ Unlimited r.1 := by
  unfold send
  split
  · exact Outcome.ensures_ret.mpr h
  rename_i hsame
  have hver : c.protocolVersion = packet.protocolVersion := not_not.mp hsame
  have hsent : c.send packet = c.processSend packet := if_neg hsame
  intro r hr hv
  have hkept : r.1.protocolVersion = c.protocolVersion := by
    refine ((acts_send packet).of_ret (hsent.trans hr)).2.frame.2.resolve_right fun hv ↦ ?_
    exact protocolVersion_ne packet (hver.symm.trans hv)
  cases hp : packet.protocolVersion with
  | v311 => exact (recvLimit_processSend hp r hr).trans (h fun h50 ↦ hv (hkept.trans h50))
  | v50 => exact (hv (hkept.trans (hver.trans hp))).elim
  | undetermined => exact (protocolVersion_ne packet hp).elim

theorem unlimited_recv (hc : c.Reading) (h : Unlimited c) {data : Bytes} :
    (c.recv data).Ensures fun r ↦ Unlimited r.1.1 := by
  intro r hr
  have hunlimited {v : Version} (hv : Settles c v) (hne : v ≠ .v50) :
      c.maximumPacketSizeRecv = mqttPacketSizeNoLimit := by
    refine h fun h50 ↦ ?_
    rcases hv with rfl | hv
    · exact hne h50
    · cases hv.symm.trans h50
  cases recv_cases hc hr with
  | incomplete => exact h
  | malformed => exact h
  | refused _ _ href =>
    obtain ⟨v, r', hr', hrefused, hv⟩ := href.refused
    obtain rfl := Outcome.ret.inj hr'
    intro hne
    rw [hrefused.idle] at hne ⊢
    exact hunlimited hv hne
  | @delivered _ _ _ v packet r _ harr hv hdel =>
    have hver : r.1.protocolVersion = v := deliver_version (arrived_version harr) hdel
    have hp : packet.protocolVersion = v := (arrived_some harr).2.2
    intro hne
    rw [hver] at hne
    cases v with
    | v311 => exact (recvLimit_deliver hp r hdel).trans (hunlimited hv hne)
    | v50 => exact (hne rfl).elim
    | undetermined => exact (arrived_version harr rfl).elim

theorem handling_restorePackets (packets : List (GenericStorePacket w)) :
    (c.restorePackets packets).Ensures fun c' ↦ Handling c c' := by
  unfold restorePackets
  induction packets generalizing c with
  | nil => exact Outcome.ensures_ret.mpr rfl
  | cons packet packets ih =>
    rw [List.foldlM_cons]
    refine Outcome.Ensures.bind (P := fun c' ↦ Handling c c')
      ?_ fun c₁ h₁ ↦ ih.mono fun c₂ h₂ ↦ h₁.trans h₂
    unfold restorePacket
    split
    · exact Outcome.ensures_ret.mpr rfl
    · simp
    · dsimp only
      split
      · exact Outcome.ensures_ret.mpr (frames_handling.awaiting _ _)
      · have hman {man : PacketIdManager w} {kind : AckKind} {id : PacketId w} :
            Handling c { c.await kind id with pidMan := man } := by cases kind <;> rfl
        split
        · exact Outcome.ensures_ret.mpr (by cases ‹AckKind› <;> rfl)
        · exact Outcome.ensures_ret.mpr hman
        · simp

theorem handling_setPingreqSendInterval (durationMs : Option ℕ) : ∃ c₀ : GenericConnection w,
    c₀ = { c with pingreqUserSendIntervalMs := durationMs } ∧
      Handling c₀ (c.setPingreqSendInterval durationMs).1 := by
  refine ⟨_, rfl, ?_⟩
  unfold setPingreqSendInterval
  cases durationMs with
  | none => rfl
  | some ms =>
    dsimp only
    split
    · rfl
    · split <;> rfl

theorem step_unlimited (hc : c.Reading) (h : Unlimited c) (op : Operation w) :
    (c.step op).Ensures fun r ↦ Unlimited r.1 := by
  have hevents {y : Outcome (Handled w)} (hy : y.Ensures fun r ↦ Unlimited r.1) :
      (y >>= fun r ↦ Outcome.ret (r.1, Reply.events r.2)).Ensures fun r ↦ Unlimited r.1 :=
    hy.bind fun _ hr ↦ Outcome.ensures_ret.mpr hr
  have hhandled {y : Outcome (Handled w)} (hy : y.Ensures fun r ↦ Handling c r.1) :
      (y >>= fun r ↦ Outcome.ret (r.1, Reply.events r.2)).Ensures fun r ↦ Unlimited r.1 :=
    hevents (hy.mono fun _ hr ↦ h.of_handling hr)
  cases op with
  | send packet => exact hevents (unlimited_send h)
  | recv data =>
    exact (unlimited_recv hc h).bind fun r hr ↦ Outcome.ensures_ret.mpr hr
  | notifyTimerFired kind => exact hhandled (frames_handling.notifyTimerFired kind)
  | notifyClosed =>
    refine hevents (notifyClosed_frame.mono fun r hr _ ↦ ?_)
    rw [hr]
    rfl
  | setPingreqSendInterval durationMs =>
    obtain ⟨c₀, rfl, hc₀⟩ := handling_setPingreqSendInterval (c := c) durationMs
    have h₀ : Unlimited ({ c with pingreqUserSendIntervalMs := durationMs } :
        GenericConnection w) := h
    exact Outcome.ensures_ret.mpr (h₀.of_handling hc₀)
  | acquirePacketId =>
    cases ha : c.pidMan.acquireUniqueId with
    | ok a =>
      rw [step_acquired (by rw [acquirePacketId, ha]; rfl)]
      exact Outcome.ensures_ret.mpr h
    | error e =>
      rw [step_unacquired (by rw [acquirePacketId, ha]; rfl)]
      exact Outcome.ensures_ret.mpr h
  | registerPacketId id =>
    cases ha : c.pidMan.registerId id with
    | ok man =>
      rw [step_registered (by rw [registerPacketId, ha]; rfl)]
      exact Outcome.ensures_ret.mpr h
    | error e =>
      rw [step_unregistered (by rw [registerPacketId, ha]; rfl)]
      exact Outcome.ensures_ret.mpr h
  | releasePacketId id => exact hhandled frames_handling.releaseIfUsed
  | restorePackets packets =>
    exact (handling_restorePackets packets).bind fun c' hc' ↦
      Outcome.ensures_ret.mpr (h.of_handling hc')
  | _ => exact Outcome.ensures_ret.mpr h

theorem reachable_unlimited (h : Reachable (system w) c) : Unlimited c := by
  have hboth : c.Reading ∧ Unlimited c := by
    refine h.invariant (I := fun c ↦ c.Reading ∧ Unlimited c) ?_ fun c op hI r hr ↦ ?_
    · rintro _ ⟨role, version, rfl⟩
      exact ⟨⟨[], .header⟩, fun _ ↦ rfl⟩
    · exact ⟨step_reading hI.1 op r hr, step_unlimited hI.1 hI.2 op r hr⟩
  exact hboth.2

end MqttProtocolCore.Connection.GenericConnection
