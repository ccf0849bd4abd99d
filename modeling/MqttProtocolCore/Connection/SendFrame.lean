import MqttProtocolCore.Connection.Frame

namespace MqttProtocolCore.Connection.GenericConnection

open General Packet

variable {w : IdWidth} {c c' : GenericConnection w} {packet : GenericPacket w} {id : PacketId w}
  {R : GenericConnection w → GenericConnection w → Prop} {stored : GenericStorePacket w}

def storedIdOf : GenericPacket w → Option (PacketId w)
  | .v311Publish p => p.packetId
  | .v50Publish p => p.packetId
  | .v311Pubrel p => some p.packetId
  | .v50Pubrel p => some p.packetId
  | _ => none

def Prepares (c : GenericConnection w) (packet : GenericPacket w) (stored : GenericStorePacket w) :
    Prop :=
  match packet with
  | .v311Publish p => stored = .v311Publish (p.setDup true)
  | .v50Publish p => ∃ q c', c.storablePublish p = .ret (some q, c') ∧ stored = .v50Publish q
  | .v311Pubrel p => stored = .v311Pubrel p
  | .v50Pubrel p => stored = .v50Pubrel p
  | _ => False

theorem Prepares.packetId (h : c.Prepares packet stored) : stored.packetId = storedIdOf packet := by
  cases packet with
  | v311Publish p =>
    obtain rfl : stored = .v311Publish (p.setDup true) := h
    rfl
  | v50Publish p =>
    obtain ⟨q, c', hq, rfl⟩ := h
    exact ((storablePublish_spec c p).of_ret hq).2.2.1.1
  | v311Pubrel p =>
    obtain rfl : stored = .v311Pubrel p := h
    rfl
  | v50Pubrel p =>
    obtain rfl : stored = .v50Pubrel p := h
    rfl
  | _ => exact h.elim

namespace CoreFrames

variable (hR : CoreFrames R)
include hR

theorem countPublish {o : Option (PacketId w)} :
    (c.countPublish o).Ensures fun r ↦ ∀ c' ∈ r, R c c' := by
  refine countPublish_frame.mono fun r hr c' hc' ↦ ?_
  rw [hr c' hc']
  exact hR.counted _

theorem notifyTimerFired (kind : TimerKind) :
    (c.notifyTimerFired kind).Ensures fun r ↦ R c r.1 := by
  have hping {c' : GenericConnection w} (hc : R c c') :
      c'.keepAlive.Ensures fun r ↦ R c r.1 := by
    unfold keepAlive
    split
    · split
      · exact build fun p ↦ Outcome.ensures_ret.mpr (hR.trans hc (hR.idle plain_sendPingreq.idle))
      · refine build fun p ↦ hR.ensures hc (hR.limited (Outcome.ensures_ret.mpr ?_))
        exact hR.idle plain_sendPingreq.idle
      · simp
    · exact Outcome.ensures_ret.mpr hc
  have htimeout {c' : GenericConnection w} (hc : R c c') :
      c'.keepAliveTimeout.Ensures fun r ↦ R c r.1 := by
    unfold keepAliveTimeout
    split
    · exact Outcome.ensures_ret.mpr hc
    · split
      · refine build fun p ↦ hR.ensures hc (hR.limited (Outcome.ensures_ret.mpr ?_))
        exact hR.idle plain_sendDisconnect.idle
      · exact Outcome.ensures_ret.mpr hc
    · simp
  cases kind with
  | pingreqSend => exact hping (hR.idle rfl)
  | pingreqRecv => exact htimeout (hR.idle rfl)
  | pingrespRecv => exact htimeout (hR.idle rfl)

theorem sendV50Publish (hsent : ∀ {c c'}, Realiased c c' → R c c') {p : V50.Publish w}
    {validated : Bool} {rel : Option (PacketId w)} :
    (c.sendV50Publish p validated rel).Ensures fun r ↦ R c r.1 := by
  unfold GenericConnection.sendV50Publish
  refine Outcome.Ensures.bind (P := fun r ↦ R c r.2) (fun r hr ↦ ?_) fun r hr ↦ ?_
  · exact hsent ((applyTopicAlias_spec validated).of_ret hr).2.1
  · split
    · exact hR.ensures hr hR.refuse
    · refine hR.countPublish.bind fun o ho ↦ ?_
      split
      · exact hR.ensures hr hR.refuse
      · exact Outcome.ensures_ret.mpr (hR.trans hr (hR.trans (ho _ rfl) hR.transmit))

theorem processSendV50Publish (hsent : ∀ {c c'}, Realiased c c' → R c c') (p : V50.Publish w)
    (hadd : ∀ q c', c.storablePublish p = .ret (some q, c') → AddsStored R (.v50Publish q)) :
    (c.processSendV50Publish p).Ensures fun r ↦ R c r.1 := by
  unfold GenericConnection.processSendV50Publish
  refine hR.limited ?_
  split
  · split
    · exact hR.refuse
    split
    · exact Outcome.ensures_ret.mpr (hR.refl c)
    split
    · intro r hr
      obtain ⟨⟨o, c₁⟩, hstorable, hr⟩ := Outcome.bind_eq_ret.mp hr
      have h₁ : R c c₁ := hsent ((storablePublish_spec c p).of_ret hstorable).1
      cases o with
      | none => exact hR.ensures h₁ hR.refuse r hr
      | some stored =>
        refine hR.ensures h₁ ((hadd stored c₁ hstorable c₁).bind fun c₂ h₂ ↦ ?_) r hr
        exact hR.ensures (hR.trans h₂ (hR.awaiting _ _)) (hR.sendV50Publish hsent)
    · exact hR.ensures (hR.awaiting _ _) (hR.sendV50Publish hsent)
  · split
    · exact Outcome.ensures_ret.mpr (hR.refl c)
    · exact hR.sendV50Publish hsent

/-- The handlers of packets that are sent, CONNECT, CONNACK and the answers to a PUBLISH apart. -/
theorem processSend
    (hsent : (∃ p, packet = .v50Publish p) → ∀ {c c'}, Realiased c c' → R c c')
    (hadd : ∀ stored, c.Prepares packet stored → AddsStored R stored)
    (hconnect : partOf packet ≠ .connect) (hconnack : partOf packet ≠ .connack)
    (hanswer : answersPublish packet = false) :
    (c.processSend packet).Ensures fun r ↦ R c r.1 := by
  have hrole {q : Prop} [Decidable q] {x : Outcome (Handled w)}
      (hx : x.Ensures fun r ↦ R c r.1) :
      (if q then x else .ret (c.reject .packetNotAllowedToSend)).Ensures fun r ↦ R c r.1 := by
    split
    · exact hx
    · exact Outcome.ensures_ret.mpr (hR.refl c)
  have hplain {r : Handled w} (hr : Idle c r.1) : (Outcome.ret r).Ensures fun r ↦ R c r.1 :=
    Outcome.ensures_ret.mpr (hR.idle hr)
  have hlimited {size : ℕ} {r : Handled w} (hr : Idle c r.1) :
      (c.limited size (.ret r)).Ensures fun r ↦ R c r.1 := hR.limited (hplain hr)
  cases packet with
  | v311Connect | v50Connect => exact (hconnect rfl).elim
  | v311Connack | v50Connack => exact (hconnack rfl).elim
  | v311Publish p => exact hR.processSendV311Publish p (hadd _ rfl)
  | v50Publish p =>
    exact hR.processSendV50Publish (hsent ⟨p, rfl⟩) p fun q c' hq ↦ hadd _ ⟨q, c', hq, rfl⟩
  | v311Puback p | v311Pubrec p | v311Pubcomp p => exact hplain plain_sendConnected.idle
  | v50Puback | v50Pubrec | v50Pubcomp => cases hanswer
  | v311Pubrel p => exact hR.sendPubrel (hadd _ rfl)
  | v50Pubrel p => exact hR.limited (hR.sendPubrel (hadd _ rfl))
  | v311Subscribe p | v311Unsubscribe p => exact hrole hR.sendSubscription
  | v50Subscribe p | v50Unsubscribe p => exact hrole (hR.limited hR.sendSubscription)
  | v311Suback p | v311Unsuback p | v311Pingresp p => exact hrole (hplain plain_sendConnected.idle)
  | v50Suback p | v50Unsuback p | v50Pingresp p => exact hrole (hlimited plain_sendConnected.idle)
  | v311Pingreq p => exact hrole (hplain plain_sendPingreq.idle)
  | v50Pingreq p => exact hrole (hlimited plain_sendPingreq.idle)
  | v311Disconnect p => exact hrole (hplain plain_sendDisconnect.idle)
  | v50Disconnect p => exact hlimited plain_sendDisconnect.idle
  | v50Auth p =>
    refine hR.limited ?_
    split
    · exact Outcome.ensures_ret.mpr (hR.refl c)
    · exact Outcome.ensures_ret.mpr hR.request

end CoreFrames

namespace Frames

variable (hR : Frames R)
include hR

/-- The handlers of packets that are sent, CONNECT and CONNACK apart. -/
theorem processSend
    (hsent : (∃ p, packet = .v50Publish p) → ∀ {c c'}, Realiased c c' → R c c')
    (hadd : ∀ stored, c.Prepares packet stored → AddsStored R stored)
    (hconnect : partOf packet ≠ .connect) (hconnack : partOf packet ≠ .connack) :
    (c.processSend packet).Ensures fun r ↦ R c r.1 := by
  cases packet with
  | v50Puback p | v50Pubcomp p => exact hR.answered (hR.noted _ _)
  | v50Pubrec p =>
    refine hR.answered ?_
    split
    · have hanswered : R c (c.answered p.packetId) := hR.noted c _
      exact hR.trans hanswered (hR.handled _)
    · exact hR.refl c
  | _ => exact hR.toCoreFrames.processSend hsent hadd hconnect hconnack rfl

end Frames

end MqttProtocolCore.Connection.GenericConnection
