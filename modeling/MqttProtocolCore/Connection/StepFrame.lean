import MqttProtocolCore.Connection.OpenFrame

namespace MqttProtocolCore.Connection.GenericConnection

open General Packet

variable {w : IdWidth} {c c' : GenericConnection w} {packet : GenericPacket w} {id : PacketId w}
  {R : GenericConnection w → GenericConnection w → Prop}

def Adjusts (c c' : GenericConnection w) : Prop :=
  c' = { c with
    protocolVersion := c'.protocolVersion
    packetBuilder := c'.packetBuilder
    needStore := c'.needStore
    offlinePublish := c'.offlinePublish
    autoPubResponse := c'.autoPubResponse
    autoPingResponse := c'.autoPingResponse
    autoMapTopicAliasSend := c'.autoMapTopicAliasSend
    autoReplaceTopicAliasSend := c'.autoReplaceTopicAliasSend
    pingreqUserSendIntervalMs := c'.pingreqUserSendIntervalMs
    pingrespRecvTimeoutMs := c'.pingrespRecvTimeoutMs
    pingreqSendSet := c'.pingreqSendSet
    qos2PublishHandled := c'.qos2PublishHandled }

structure LocalFrames (R : GenericConnection w → GenericConnection w → Prop) : Prop
    extends SessionFrames R where
  adjusted {c c' : GenericConnection w} : Adjusts c c' → R c c'
  adds (stored : GenericStorePacket w) : AddsStored R stored
  erases (response : ResponsePacket) (id : PacketId w) : ErasesStored R response id

namespace LocalFrames

variable (hR : LocalFrames R)
include hR

theorem processSend (hnoted : NotesReceived R)
    (hsent : (∃ p, packet = .v50Publish p) → ∀ {c c'}, Realiased c c' → R c c')
    (hconnect : partOf packet ≠ .connect) (hconnack : partOf packet ≠ .connack) :
    (c.processSend packet).Ensures fun r ↦ R c r.1 :=
  Frames.processSend ⟨hR.toCoreFrames, hnoted⟩ hsent (fun stored _ ↦ hR.adds stored) hconnect hconnack

theorem deliver (hnoted : NotesReceived R) (htold : (∃ p, packet = .v50Publish p) → TellsAlias R)
    (hconnect : partOf packet ≠ .connect) (hconnack : partOf packet ≠ .connack) :
    (c.deliver packet).Ensures fun r ↦ R c r.1 := by
  cases hack : ackOf packet with
  | none => exact Frames.deliver ⟨hR.toCoreFrames, hnoted⟩ hconnect hconnack hack htold
  | some a => exact hR.deliverAck hack (fun _ stored _ ↦ hR.adds stored) fun _ _ ↦ hR.erases _ _

/-- What is received respects the relation when the packet does that is delivered. -/
theorem recv (hc : c.Reading) (data : Bytes) (h : ∀ b v packet, c.arrival data = some (v, packet) →
    (({ c with packetBuilder := b }.determine v).deliver packet).Ensures fun r ↦
      R ({ c with packetBuilder := b }.determine v) r.1) :
    (c.recv data).Ensures fun r ↦ R c r.1.1 := by
  intro r hr
  have hread (b : PacketBuilder) (v : Version) :
      R c ({ c with packetBuilder := b }.determine v) := hR.adjusted rfl
  cases recv_cases hc hr with
  | incomplete => exact hR.adjusted rfl
  | @malformed b => exact hR.trans (hread b c.protocolVersion) (hR.idle rfl)
  | @refused b _ _ _ _ _ href =>
    obtain ⟨v, r', hr', hrefused, -⟩ := href.refused
    obtain rfl := Outcome.ret.inj hr'
    exact hR.trans (hread b v) (hR.idle hrefused.idle)
  | @delivered b _ _ v packet _ hfeed harr _ hdel =>
    have ha : c.arrival data = some (v, packet) := by simp [arrival, hfeed, harr]
    exact hR.trans (hread b v) (h b v packet ha _ hdel)

theorem releaseAll (ids : List (PacketId w)) : (c.releaseAll ids).Ensures fun r ↦ R c r.1 := by
  induction ids generalizing c with
  | nil => exact Outcome.ensures_ret.mpr (hR.refl c)
  | cons id ids ih =>
    refine hR.releaseIfUsed.bind fun r hr ↦ ih.bind fun r' hr' ↦ ?_
    exact Outcome.ensures_ret.mpr (hR.trans hr hr')

theorem drainAll (kinds : List AckKind) : (c.drainAll kinds).Ensures fun r ↦ R c r.1 := by
  induction kinds generalizing c with
  | nil => exact Outcome.ensures_ret.mpr (hR.refl c)
  | cons kind kinds ih =>
    have hempty : R c (c.setAwaiting kind ∅) := hR.awaiting kind ∅
    refine Outcome.Ensures.bind (hR.releaseAll _) fun r hr ↦ ih.bind fun r' hr' ↦ ?_
    exact Outcome.ensures_ret.mpr (hR.trans (hR.trans hempty hr) hr')

theorem setPingreqSendInterval (durationMs : Option ℕ) :
    R c (c.setPingreqSendInterval durationMs).1 := by
  unfold GenericConnection.setPingreqSendInterval
  cases durationMs with
  | none => exact hR.adjusted rfl
  | some ms =>
    dsimp only
    split
    · exact hR.adjusted rfl
    · split <;> exact hR.adjusted rfl

theorem restorePacket (packet : GenericStorePacket w) :
    (c.restorePacket packet).Ensures fun c' ↦ R c c' := by
  unfold GenericConnection.restorePacket
  split
  · exact Outcome.ensures_ret.mpr (hR.refl c)
  · simp
  · rename_i kind id _ _
    have hawait : R c (c.await kind id) := hR.awaiting _ _
    dsimp only
    split
    · exact Outcome.ensures_ret.mpr hawait
    · rename_i man _
      have hused : R c { c.await kind id with pidMan := man } := hR.trans hawait (hR.used man)
      split
      · rename_i store hstore
        have hadd : ({ c.await kind id with pidMan := man } : GenericConnection w).storeAdd packet =
            .ret { c.await kind id with pidMan := man, store := store } := by
          unfold storeAdd
          dsimp only
          rw [hstore]
          rfl
        exact Outcome.ensures_ret.mpr (hR.trans hused (hR.adds packet _ _ hadd))
      · exact Outcome.ensures_ret.mpr hused
      · simp

theorem restorePackets (packets : List (GenericStorePacket w)) :
    (c.restorePackets packets).Ensures fun c' ↦ R c c' := by
  unfold GenericConnection.restorePackets
  induction packets generalizing c with
  | nil => exact Outcome.ensures_ret.mpr (hR.refl c)
  | cons packet packets ih =>
    rw [List.foldlM_cons]
    exact (hR.restorePacket packet).bind fun c₁ h₁ ↦ ih.mono fun c₂ h₂ ↦ hR.trans h₁ h₂

/-- The operations that neither exchange a packet nor close the connection. -/
theorem step {op : Operation w} (hsend : ∀ packet, op ≠ .send packet)
    (hrecv : ∀ data, op ≠ .recv data) (hclosed : op ≠ .notifyClosed) :
    (c.step op).Ensures fun r ↦ R c r.1 := by
  have hevents {x : Outcome (Handled w)} (h : x.Ensures fun r ↦ R c r.1) :
      (x >>= fun r ↦ Outcome.ret (r.1, Reply.events r.2)).Ensures fun r ↦ R c r.1 :=
    h.bind fun _ hr ↦ Outcome.ensures_ret.mpr hr
  cases op with
  | send packet => exact (hsend packet rfl).elim
  | recv data => exact (hrecv data rfl).elim
  | notifyClosed => exact (hclosed rfl).elim
  | notifyTimerFired kind => exact hevents (hR.notifyTimerFired kind)
  | setPingreqSendInterval durationMs =>
    exact Outcome.ensures_ret.mpr (hR.setPingreqSendInterval durationMs)
  | acquirePacketId =>
    cases ha : c.pidMan.acquireUniqueId with
    | ok a =>
      rw [step_acquired (by rw [acquirePacketId, ha]; rfl)]
      exact Outcome.ensures_ret.mpr (hR.used _)
    | error e =>
      rw [step_unacquired (by rw [acquirePacketId, ha]; rfl)]
      exact Outcome.ensures_ret.mpr (hR.refl c)
  | registerPacketId id =>
    cases ha : c.pidMan.registerId id with
    | ok man =>
      rw [step_registered (by rw [registerPacketId, ha]; rfl)]
      exact Outcome.ensures_ret.mpr (hR.used _)
    | error e =>
      rw [step_unregistered (by rw [registerPacketId, ha]; rfl)]
      exact Outcome.ensures_ret.mpr (hR.refl c)
  | releasePacketId id => exact hevents hR.releaseIfUsed
  | restorePackets packets =>
    exact (hR.restorePackets packets).bind fun _ h ↦ Outcome.ensures_ret.mpr h
  | _ => exact Outcome.ensures_ret.mpr (hR.adjusted rfl)

end LocalFrames

/-- A relation that every operation respects. -/
structure StepFrames (R : GenericConnection w → GenericConnection w → Prop) : Prop
    extends Opens R, LocalFrames R where
  realiased {c c' : GenericConnection w} : Realiased c c' → R c c'

namespace StepFrames

variable (hR : StepFrames R)
include hR

theorem noted : NotesReceived R := fun _ _ ↦ hR.configured rfl

theorem send : (c.send packet).Ensures fun r ↦ R c r.1 := by
  unfold GenericConnection.send
  split
  · exact Outcome.ensures_ret.mpr (hR.refl c)
  by_cases hconnect : partOf packet = .connect
  · exact hR.toOpens.processSend (.inl hconnect)
  by_cases hconnack : partOf packet = .connack
  · exact hR.toOpens.processSend (.inr hconnack)
  · exact hR.toLocalFrames.processSend hR.noted (fun _ ↦ hR.realiased) hconnect hconnack

theorem deliver : (c.deliver packet).Ensures fun r ↦ R c r.1 := by
  by_cases hconnect : partOf packet = .connect
  · exact hR.toOpens.deliver (.inl hconnect)
  by_cases hconnack : partOf packet = .connack
  · exact hR.toOpens.deliver (.inr hconnack)
  · exact hR.toLocalFrames.deliver hR.noted (fun _ _ _ ↦ hR.configured rfl) hconnect hconnack

theorem notifyClosed : c.notifyClosed.Ensures fun r ↦ R c r.1 := by
  unfold GenericConnection.notifyClosed
  have hclosed : R c { c with
      maximumPacketSizeSend := mqttPacketSizeNoLimit
      maximumPacketSizeRecv := mqttPacketSizeNoLimit
      status := .disconnected
      topicAliasSend := none
      topicAliasRecv := none } := hR.configured rfl
  refine hR.ensures hclosed ((hR.drainAll _).bind fun r hr ↦ ?_)
  refine hR.ensures hr ((hR.respondIf ?_).bind fun r' hr' ↦ Outcome.ensures_ret.mpr ?_)
  · have hforget : R r.1 { r.1 with qos2PublishHandled := ∅ } := hR.adjusted rfl
    exact hR.ensures hforget (hR.drainAll _)
  · exact hR.trans hr' (hR.idle idle_cancelTimers)

/-- The relation holds between the states before and after every operation. -/
theorem step (hc : c.Reading) (op : Operation w) : (c.step op).Ensures fun r ↦ R c r.1 := by
  cases op with
  | send packet => exact hR.send.bind fun _ hr ↦ Outcome.ensures_ret.mpr hr
  | recv data =>
    exact (hR.toLocalFrames.recv hc data fun _ _ _ _ ↦ hR.deliver).bind
      fun _ hr ↦ Outcome.ensures_ret.mpr hr
  | notifyClosed => exact hR.notifyClosed.bind fun _ hr ↦ Outcome.ensures_ret.mpr hr
  | _ => exact hR.toLocalFrames.step (by simp) (by simp) (by simp)

end StepFrames

end MqttProtocolCore.Connection.GenericConnection
