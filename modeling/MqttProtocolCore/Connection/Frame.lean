import MqttProtocolCore.Connection.StepSpec

namespace MqttProtocolCore.Connection.GenericConnection

open General Packet

variable {w : IdWidth} {c c' c'' : GenericConnection w} {packet : GenericPacket w} {id : PacketId w}
  {x : Outcome (Handled w)} {r : Handled w}

variable {R : GenericConnection w → GenericConnection w → Prop} {stored : GenericStorePacket w}

def answersPublish : GenericPacket w → Bool
  | .v50Puback _ | .v50Pubrec _ | .v50Pubcomp _ => true
  | _ => false

def asksAnswer : GenericPacket w → Bool
  | .v50Publish _ | .v50Pubrel _ => true
  | _ => false

/-- A relation between the states before and after a handler that all its steps respect, those that
change the store and those that note an incoming PUBLISH apart. -/
structure CoreFrames (R : GenericConnection w → GenericConnection w → Prop) : Prop where
  refl (c : GenericConnection w) : R c c
  trans {c c' c'' : GenericConnection w} : R c c' → R c' c'' → R c c''
  idle {c c' : GenericConnection w} : Idle c c' → R c c'
  awaiting {c : GenericConnection w} (kind : AckKind) (ids : HashSet (PacketId w)) :
    R c (c.setAwaiting kind ids)
  used {c : GenericConnection w} (man : PacketIdManager w) : R c { c with pidMan := man }
  counted {c : GenericConnection w} (n : U16) : R c { c with publishSendCount := n }
  handled {c : GenericConnection w} (ids : HashSet (PacketId w)) :
    R c { c with qos2PublishHandled := ids }

def NotesReceived (R : GenericConnection w → GenericConnection w → Prop) : Prop :=
  ∀ (c : GenericConnection w) (ids : HashSet (PacketId w)), R c { c with publishRecv := ids }

/-- A relation between the states before and after a handler that all its steps respect, those that
change the store apart. -/
structure Frames (R : GenericConnection w → GenericConnection w → Prop) : Prop
    extends CoreFrames R where
  noted : NotesReceived R

def AddsStored (R : GenericConnection w → GenericConnection w → Prop)
    (stored : GenericStorePacket w) : Prop :=
  ∀ c : GenericConnection w, (c.storeAdd stored).Ensures fun c' ↦ R c c'

def TellsAlias (R : GenericConnection w → GenericConnection w → Prop) : Prop :=
  ∀ (c : GenericConnection w) (r : Option TopicAliasRecv), R c { c with topicAliasRecv := r }

def ErasesStored (R : GenericConnection w → GenericConnection w → Prop) (response : ResponsePacket)
    (id : PacketId w) : Prop :=
  ∀ c : GenericConnection w, R c (c.eraseStored response id)

namespace CoreFrames

variable (hR : CoreFrames R)
include hR

theorem ensures (h : R c c') (hx : x.Ensures fun r ↦ R c' r.1) : x.Ensures fun r ↦ R c r.1 :=
  hx.mono fun _ ↦ hR.trans h

theorem releaseIfUsed : (c.releaseIfUsed id).Ensures fun r ↦ R c r.1 := by
  intro r hr
  unfold GenericConnection.releaseIfUsed at hr
  split at hr
  · obtain ⟨man, -, hret⟩ := Outcome.bind_eq_ret.mp hr
    obtain rfl := Outcome.ret.inj hret
    exact hR.used man
  · obtain rfl := Outcome.ret.inj hr
    exact hR.refl c

theorem request {rel : Option (PacketId w)} : R c (c.request packet rel).1 := hR.idle idle_request

theorem received : R c (c.received packet).1 := hR.idle idle_received

theorem limited {size : ℕ} (hx : x.Ensures fun r ↦ R c r.1) :
    (c.limited size x).Ensures fun r ↦ R c r.1 := by
  unfold GenericConnection.limited
  split
  · exact hx
  · exact Outcome.ensures_ret.mpr (hR.refl c)

theorem respondIf {p : Prop} [Decidable p] (hx : x.Ensures fun r ↦ R c r.1) :
    (c.respondIf p x).Ensures fun r ↦ R c r.1 := by
  unfold GenericConnection.respondIf
  split
  · exact hx
  · exact Outcome.ensures_ret.mpr (hR.refl c)

omit hR in
theorem build {α : Type} {build : Outcome α} {send : α → Outcome (Handled w)}
    (h : ∀ a, (send a).Ensures fun r ↦ R c r.1) : (build >>= send).Ensures fun r ↦ R c r.1 := by
  refine Outcome.Ensures.bind (P := fun _ ↦ True) (fun _ _ ↦ trivial) fun a _ ↦ h a

theorem thenReceived (hx : x.Ensures fun r ↦ R c r.1) :
    (x >>= fun r ↦ Outcome.ret ((r.1.received packet).1, r.2 ++ (r.1.received packet).2)).Ensures
      fun r ↦ R c r.1 := by
  refine hx.bind fun r hr ↦ Outcome.ensures_ret.mpr (hR.trans hr ?_)
  have hreceived : R r.1 (r.1.received packet).1 := hR.received
  exact hreceived

theorem refusal (h : ∃ r, x = .ret r ∧ Refused c r) : x.Ensures fun r ↦ R c r.1 := by
  obtain ⟨r, rfl, hr⟩ := h
  exact Outcome.ensures_ret.mpr (hR.idle hr.idle)

theorem handleV50Error {e : MqttError} : (c.handleV50Error e).Ensures fun r ↦ R c r.1 :=
  hR.refusal (c.handleV50Error_spec e)

theorem sendConnected : R c (c.sendConnected packet).1 := hR.idle plain_sendConnected.idle

theorem answered {size : ℕ} {e : MqttError} (h : R c c') :
    (c.limited size (if c.status ≠ .connected then .ret (c.reject e)
      else .ret (c'.request packet none))).Ensures fun r ↦ R c r.1 := by
  refine hR.limited ?_
  split
  · exact Outcome.ensures_ret.mpr (hR.refl c)
  · exact Outcome.ensures_ret.mpr (hR.trans h hR.request)

theorem refuse {e : MqttError} {id : Option (PacketId w)} :
    (c.refuse e id).Ensures fun r ↦ R c r.1 := by
  cases id with
  | none => exact Outcome.ensures_ret.mpr (hR.refl c)
  | some id => exact hR.releaseIfUsed.bind fun r hr ↦ Outcome.ensures_ret.mpr hr

theorem transmit {rel : Option (PacketId w)} : R c (c.transmit packet rel).1 := by
  unfold GenericConnection.transmit
  split
  · exact hR.request
  · exact hR.refl c

theorem sendSubscription {kind : AckKind} :
    (c.sendSubscription kind id packet).Ensures fun r ↦ R c r.1 := by
  unfold GenericConnection.sendSubscription
  split
  · exact hR.refuse
  split
  · exact Outcome.ensures_ret.mpr (hR.refl c)
  · exact Outcome.ensures_ret.mpr (hR.trans (hR.awaiting _ _) hR.request)

theorem processSendV311Publish (p : V311.Publish w)
    (hadd : AddsStored R (.v311Publish (p.setDup true))) :
    (c.processSendV311Publish p).Ensures fun r ↦ R c r.1 := by
  unfold GenericConnection.processSendV311Publish
  split
  · split
    · exact hR.refuse
    split
    · exact Outcome.ensures_ret.mpr (hR.refl c)
    split
    · refine (hadd c).bind fun c' hc' ↦ Outcome.ensures_ret.mpr ?_
      exact hR.trans (hR.trans hc' (hR.awaiting _ _)) hR.transmit
    · exact Outcome.ensures_ret.mpr (hR.trans (hR.awaiting _ _) hR.transmit)
  · split
    · exact Outcome.ensures_ret.mpr (hR.refl c)
    · exact Outcome.ensures_ret.mpr hR.transmit

theorem sendPubrel (hadd : AddsStored R stored) : (c.sendPubrel id stored).Ensures fun r ↦ R c r.1 := by
  unfold GenericConnection.sendPubrel
  split
  · exact Outcome.ensures_ret.mpr (hR.refl c)
  split
  · exact Outcome.ensures_ret.mpr (hR.refl c)
  have hsend {c' : GenericConnection w} (h : R c c') :
      (if c'.status = .connected then
        Outcome.ret ((c'.await .pubcomp id).request stored.toPacket none)
      else .ret c'.sendPostProcess).Ensures fun r ↦ R c r.1 := by
    split
    · exact Outcome.ensures_ret.mpr (hR.trans (hR.trans h (hR.awaiting _ _)) hR.request)
    · exact Outcome.ensures_ret.mpr (hR.trans h (hR.idle idle_sendPostProcess))
  split
  · exact (hadd c).bind fun c' hc' ↦ hsend hc'
  · exact hsend (hR.refl c)

theorem countFinished : c.countFinished.Ensures fun c' ↦ R c c' := by
  unfold GenericConnection.countFinished
  split
  · split
    · simp
    · exact Outcome.ensures_ret.mpr (hR.counted _)
  · exact Outcome.ensures_ret.mpr (hR.refl c)

theorem settled {response : ResponsePacket} {kind : AckKind} (herase : ErasesStored R response id) :
    R c ((c.settle kind id).eraseStored response id) :=
  hR.trans (hR.awaiting _ _) (herase _)

theorem recvFinalAck {response : ResponsePacket} (herase : ErasesStored R response id)
    {kind : AckKind} {counted : Bool} {onError : GenericConnection w → MqttError → Outcome (Handled w)}
    (he : ∀ c e, ∃ r, onError c e = .ret r ∧ Refused c r) :
    (c.recvFinalAck response kind counted onError id packet).Ensures fun r ↦ R c r.1 := by
  unfold GenericConnection.recvFinalAck
  split
  swap
  · exact hR.refusal (he c _)
  have hsettle : R c ((c.settle kind id).eraseStored response id) := hR.settled herase
  refine hR.ensures hsettle (hR.releaseIfUsed.bind fun ⟨c₁, events⟩ hr ↦ ?_)
  have hnotify {c' : GenericConnection w} (h : R c₁ c') : (Outcome.ret
      ((c'.received packet).1, events ++ (c'.received packet).2)).Ensures fun r ↦
        R ((c.settle kind id).eraseStored response id) r.1 := by
    refine Outcome.ensures_ret.mpr (hR.trans (hR.trans hr h) ?_)
    have hreceived : R c' (c'.received packet).1 := hR.received
    exact hreceived
  dsimp only
  split
  · exact hR.countFinished.bind fun c' hc' ↦ hnotify hc'
  · exact hnotify (hR.refl _)

theorem recvSubscriptionAck {kind : AckKind}
    {onError : GenericConnection w → MqttError → Outcome (Handled w)}
    (he : ∀ c e, ∃ r, onError c e = .ret r ∧ Refused c r) :
    (c.recvSubscriptionAck kind onError id packet).Ensures fun r ↦ R c r.1 := by
  unfold GenericConnection.recvSubscriptionAck
  split
  · exact hR.thenReceived (hR.ensures (hR.awaiting _ _) hR.releaseIfUsed)
  · exact hR.refusal (he c _)

theorem recvV311Publish (p : V311.Publish w) : (c.recvV311Publish p).Ensures fun r ↦ R c r.1 := by
  unfold GenericConnection.recvV311Publish
  split
  · exact Outcome.ensures_ret.mpr hR.received
  · refine hR.thenReceived (hR.respondIf (build fun a ↦ ?_))
    exact Outcome.ensures_ret.mpr hR.sendConnected
  · rename_i id _ _
    have hmark : R c { c with qos2PublishHandled := c.qos2PublishHandled.insert id } := hR.handled _
    refine (hR.ensures hmark (hR.respondIf (build fun a ↦ ?_))).bind fun r hr ↦ ?_
    · exact Outcome.ensures_ret.mpr hR.sendConnected
    · exact Outcome.ensures_ret.mpr (hR.trans hr (hR.idle idle_refreshPingreqRecv))
  · simp

omit hR in
theorem resolveTopic (htold : TellsAlias R) (p : V50.Publish w) :
    (c.resolveTopic p).Ensures fun o ↦ ∀ a ∈ o, R c a.2 := by
  intro o ho a ha
  obtain ⟨-, -, hres⟩ := (resolveTopic_spec (c := c) (p := p)).of_ret ho
  rw [(hres a.1 a.2 ha).frame]
  exact htold _ _

theorem recvV311Pubrec (p : V311.Pubrec w)
    (hadd : ∀ a, a.packetId = p.packetId → AddsStored R (.v311Pubrel a))
    (herase : ErasesStored R .v311Pubrec p.packetId) :
    (c.recvV311Pubrec p).Ensures fun r ↦ R c r.1 := by
  unfold GenericConnection.recvV311Pubrec
  dsimp only
  split
  · refine hR.thenReceived (hR.ensures (hR.settled herase) (hR.respondIf ?_))
    obtain ⟨a, ha, hid, -⟩ := V311.Ack.build_spec (C := PubrelReasonCode) none p.packetId_ne
    rw [ha]
    exact hR.sendPubrel (hadd a hid)
  · exact hR.refusal (c.handleV311Error_spec _)

theorem recvV50Pubrec (p : V50.Pubrec w)
    (hadd : ∀ a, a.packetId = p.packetId → AddsStored R (.v50Pubrel a))
    (herase : ErasesStored R .v50Pubrec p.packetId) :
    (c.recvV50Pubrec p).Ensures fun r ↦ R c r.1 := by
  unfold GenericConnection.recvV50Pubrec
  dsimp only
  split
  · split
    · refine hR.thenReceived (hR.ensures (hR.settled herase) (hR.respondIf ?_))
      obtain ⟨a, ha, hid, -⟩ := V50.Ack.build_spec (C := PubrelReasonCode) none p.packetId_ne
      rw [ha]
      exact hR.limited (hR.sendPubrel (hadd a hid))
    · have hsettle : R c ((c.settle .pubrec p.packetId).eraseStored .v50Pubrec p.packetId) :=
        hR.settled herase
      refine hR.ensures hsettle (hR.releaseIfUsed.bind fun r hr ↦ ?_)
      refine hR.countFinished.bind fun c₂ hc₂ ↦ Outcome.ensures_ret.mpr ?_
      have hreceived : R c₂ (c₂.received (.v50Pubrec p)).1 := hR.received
      exact hR.trans (hR.trans hr hc₂) hreceived
  · exact hR.handleV50Error

theorem recvV311Pubrel (p : V311.Pubrel w) : (c.recvV311Pubrel p).Ensures fun r ↦ R c r.1 := by
  unfold GenericConnection.recvV311Pubrel
  have hmark : R c { c with qos2PublishHandled := c.qos2PublishHandled.remove p.packetId } :=
    hR.handled _
  refine hR.thenReceived (hR.ensures hmark ?_)
  exact hR.respondIf (build fun a ↦ Outcome.ensures_ret.mpr hR.sendConnected)

theorem recvV311Pingreq (p : V311.Pingreq) : (c.recvV311Pingreq p).Ensures fun r ↦ R c r.1 := by
  unfold GenericConnection.recvV311Pingreq
  refine hR.thenReceived (hR.respondIf (build fun a ↦ ?_))
  exact Outcome.ensures_ret.mpr hR.sendConnected

theorem recvV50Pingreq (p : V311.Pingreq) : (c.recvV50Pingreq p).Ensures fun r ↦ R c r.1 := by
  unfold GenericConnection.recvV50Pingreq
  refine hR.thenReceived (hR.respondIf (build fun a ↦ hR.limited ?_))
  exact Outcome.ensures_ret.mpr hR.sendConnected

/-- The delivery of a packet that opens no connection, acknowledges nothing and leaves the PUBLISHes
that wait for an answer alone. -/
theorem deliver (hconnect : partOf packet ≠ .connect) (hconnack : partOf packet ≠ .connack)
    (hack : ackOf packet = none) (hask : asksAnswer packet = false) :
    (c.deliver packet).Ensures fun r ↦ R c r.1 := by
  cases packet with
  | v311Connect | v50Connect => exact (hconnect rfl).elim
  | v311Connack | v50Connack => exact (hconnack rfl).elim
  | v311Puback | v50Puback | v311Pubrec | v50Pubrec | v311Pubcomp | v50Pubcomp | v311Suback
  | v50Suback | v311Unsuback | v50Unsuback => cases hack
  | v50Publish | v50Pubrel => cases hask
  | v311Publish p => exact hR.recvV311Publish p
  | v311Pubrel p => exact hR.recvV311Pubrel p
  | v311Pingreq p => exact hR.recvV311Pingreq p
  | v50Pingreq p => exact hR.recvV50Pingreq p
  | v311Pingresp | v50Pingresp => exact Outcome.ensures_ret.mpr (hR.idle rfl)
  | v311Disconnect | v50Disconnect => exact Outcome.ensures_ret.mpr (hR.idle rfl)
  | _ => exact Outcome.ensures_ret.mpr hR.received

/-- The delivery of an acknowledgement: the packet that it answers is erased, and PUBREL may take its
place. -/
theorem deliverAck {kind : AckKind} (hack : ackOf packet = some (kind, id))
    (hadd : kind = .pubrec → ∀ stored, stored.toPacket.pubrelOf = some id → AddsStored R stored)
    (herase : ∀ response, responseOf packet = some response → ErasesStored R response id) :
    (c.deliver packet).Ensures fun r ↦ R c r.1 := by
  have h311 : ∀ (c : GenericConnection w) e, ∃ r, c.handleV311Error e = .ret r ∧ Refused c r :=
    handleV311Error_spec
  have h50 : ∀ (c : GenericConnection w) e, ∃ r, c.handleV50Error e = .ret r ∧ Refused c r :=
    handleV50Error_spec
  cases packet with
  | v311Puback p | v311Pubcomp p =>
    obtain ⟨rfl, rfl⟩ := Prod.mk.inj (Option.some.inj hack)
    exact hR.recvFinalAck (herase _ rfl) h311
  | v50Puback p | v50Pubcomp p =>
    obtain ⟨rfl, rfl⟩ := Prod.mk.inj (Option.some.inj hack)
    exact hR.recvFinalAck (herase _ rfl) h50
  | v311Pubrec p =>
    obtain ⟨rfl, rfl⟩ := Prod.mk.inj (Option.some.inj hack)
    exact hR.recvV311Pubrec p (fun a ha ↦ hadd rfl _ (congrArg some ha)) (herase _ rfl)
  | v50Pubrec p =>
    obtain ⟨rfl, rfl⟩ := Prod.mk.inj (Option.some.inj hack)
    exact hR.recvV50Pubrec p (fun a ha ↦ hadd rfl _ (congrArg some ha)) (herase _ rfl)
  | v311Suback p | v311Unsuback p => exact hR.recvSubscriptionAck h311
  | v50Suback p | v50Unsuback p => exact hR.recvSubscriptionAck h50
  | _ => cases hack



end CoreFrames

namespace Frames

variable (hR : Frames R)
include hR

theorem respond {answer : Answer} {id : Option (PacketId w)} :
    (c.respond answer id).Ensures fun r ↦ R c r.1 := by
  unfold GenericConnection.respond
  split
  · exact Outcome.ensures_ret.mpr (hR.refl c)
  · exact CoreFrames.build fun a ↦ hR.answered (hR.noted _ _)
  · refine CoreFrames.build fun a ↦ hR.answered ?_
    split
    · exact hR.trans (hR.noted _ _) (hR.handled _)
    · exact hR.refl c
  · simp

theorem admitPublish (p : V50.Publish w) :
    (c.admitPublish p).Ensures fun o ↦ ∀ a ∈ o, R c a.2 := by
  unfold GenericConnection.admitPublish
  split
  · exact Outcome.ensures_ret.mpr (by simp [hR.refl])
  · split
    · simp
    · refine Outcome.ensures_ret.mpr fun a ha ↦ ?_
      obtain rfl := Option.some.inj ha
      exact hR.noted _ _
  · rename_i id _ _
    split
    · simp
    · refine Outcome.ensures_ret.mpr fun a ha ↦ ?_
      obtain rfl := Option.some.inj ha
      have hreceived : R c { c with publishRecv := c.publishRecv.insert id } := hR.noted c _
      exact hR.trans hreceived (hR.handled _)
  · simp

theorem recvV50Publish (htold : TellsAlias R) (p : V50.Publish w) :
    (c.recvV50Publish p).Ensures fun r ↦ R c r.1 := by
  unfold GenericConnection.recvV50Publish
  refine (hR.admitPublish p).bind fun o ho ↦ ?_
  split
  · exact hR.handleV50Error
  · rename_i admission c₁
    have h₁ : R c c₁ := ho _ rfl
    refine hR.ensures h₁ ((CoreFrames.resolveTopic htold p).bind fun o' ho' ↦ ?_)
    split
    · exact hR.handleV50Error
    · rename_i p' c₂
      have h₂ : R c₁ c₂ := ho' _ rfl
      refine (hR.ensures h₂ hR.respond).bind fun r hr ↦ ?_
      exact Outcome.ensures_ret.mpr (hR.trans hr (hR.idle idle_refreshPingreqRecv))

theorem recvV50Pubrel (p : V50.Pubrel w) : (c.recvV50Pubrel p).Ensures fun r ↦ R c r.1 := by
  unfold GenericConnection.recvV50Pubrel
  have hmark : R c { c with qos2PublishHandled := c.qos2PublishHandled.remove p.packetId } :=
    hR.handled _
  refine hR.thenReceived (hR.ensures hmark ?_)
  exact hR.respondIf (CoreFrames.build fun a ↦ hR.answered (hR.noted _ _))

/-- The delivery of a packet that opens no connection and acknowledges nothing. -/
theorem deliver (hconnect : partOf packet ≠ .connect) (hconnack : partOf packet ≠ .connack)
    (hack : ackOf packet = none) (htold : (∃ p, packet = .v50Publish p) → TellsAlias R) :
    (c.deliver packet).Ensures fun r ↦ R c r.1 := by
  cases packet with
  | v50Publish p => exact hR.recvV50Publish (htold ⟨p, rfl⟩) p
  | v50Pubrel p => exact hR.recvV50Pubrel p
  | _ => exact hR.toCoreFrames.deliver hconnect hconnack hack rfl

end Frames

/-- What the handlers of received packets, CONNECT and CONNACK apart, leave as it is: the
configuration, the limits, the aliases of the sender and the session flags. -/
def Handling (c c' : GenericConnection w) : Prop :=
  c' = { c with
    pidMan := c'.pidMan
    pidSuback := c'.pidSuback
    pidUnsuback := c'.pidUnsuback
    pidPuback := c'.pidPuback
    pidPubrec := c'.pidPubrec
    pidPubcomp := c'.pidPubcomp
    store := c'.store
    topicAliasRecv := c'.topicAliasRecv
    publishSendCount := c'.publishSendCount
    publishRecv := c'.publishRecv
    status := c'.status
    qos2PublishHandled := c'.qos2PublishHandled
    pingreqSendSet := c'.pingreqSendSet
    pingreqRecvSet := c'.pingreqRecvSet
    pingrespRecvSet := c'.pingrespRecvSet }

theorem Handling.refl (c : GenericConnection w) : Handling c c := rfl

theorem Handling.trans (h : Handling c c') (h' : Handling c' c'') : Handling c c'' := by
  unfold Handling at *
  rw [h'] at *
  rw [h]

theorem Handling.limits (h : Handling c c') : c'.topicAliasSend = c.topicAliasSend ∧
    c'.publishSendMax = c.publishSendMax ∧ c'.maximumPacketSizeSend = c.maximumPacketSizeSend := by
  unfold Handling at h
  rw [h]
  exact ⟨rfl, rfl, rfl⟩

theorem Idle.handling (h : Idle c c') : Handling c c' := by
  unfold Idle Handling at *
  rw [h]

theorem frames_handling : Frames (Handling (w := w)) where
  refl := Handling.refl
  trans := Handling.trans
  idle := Idle.handling
  awaiting kind ids := by cases kind <;> rfl
  used _ := rfl
  counted _ := rfl
  handled _ := rfl
  noted _ _ := rfl

theorem addsStored_handling : AddsStored Handling stored := by
  intro c
  unfold storeAdd
  refine Outcome.Ensures.bind (P := fun _ ↦ True) (fun _ _ ↦ trivial) fun s _ ↦ ?_
  exact Outcome.ensures_ret.mpr rfl

theorem erasesStored_handling {response : ResponsePacket} : ErasesStored Handling response id :=
  fun _ ↦ rfl

/-- A packet that is neither CONNECT nor CONNACK leaves the limits and the configuration alone. -/
theorem handling_deliver (h : partOf packet ≠ .connect) (h' : partOf packet ≠ .connack) :
    (c.deliver packet).Ensures fun r ↦ Handling c r.1 := by
  cases hack : ackOf packet with
  | some a =>
    obtain ⟨kind, id⟩ := a
    exact frames_handling.deliverAck hack (fun _ _ _ ↦ addsStored_handling)
      fun _ _ ↦ erasesStored_handling
  | none => exact frames_handling.deliver h h' hack fun _ _ _ ↦ rfl

def GivesBack (c c' : GenericConnection w) : Prop :=
  c' = { c with
    pidMan := c'.pidMan
    pidSuback := c'.pidSuback
    pidUnsuback := c'.pidUnsuback
    pidPuback := c'.pidPuback
    pidPubrec := c'.pidPubrec
    pidPubcomp := c'.pidPubcomp }

theorem GivesBack.trans (h : GivesBack c c') (h' : GivesBack c' c'') : GivesBack c c'' := by
  unfold GivesBack at *
  rw [h'] at *
  rw [h]

theorem givesBack_releaseIfUsed : (c.releaseIfUsed id).Ensures fun r ↦ GivesBack c r.1 := by
  unfold releaseIfUsed
  split
  · exact Outcome.Ensures.bind (P := fun _ ↦ True) (fun _ _ ↦ trivial)
      fun man _ ↦ Outcome.ensures_ret.mpr rfl
  · exact Outcome.ensures_ret.mpr rfl

theorem givesBack_releaseAll (ids : List (PacketId w)) :
    (c.releaseAll ids).Ensures fun r ↦ GivesBack c r.1 := by
  induction ids generalizing c with
  | nil => exact Outcome.ensures_ret.mpr rfl
  | cons id ids ih =>
    refine givesBack_releaseIfUsed.bind fun r hr ↦ ih.bind fun r' hr' ↦ ?_
    exact Outcome.ensures_ret.mpr (hr.trans hr')

theorem givesBack_drainAll (kinds : List AckKind) :
    (c.drainAll kinds).Ensures fun r ↦ GivesBack c r.1 := by
  induction kinds generalizing c with
  | nil => exact Outcome.ensures_ret.mpr rfl
  | cons kind kinds ih =>
    have hempty : GivesBack c (c.setAwaiting kind ∅) := by cases kind <;> rfl
    refine Outcome.Ensures.bind (givesBack_releaseAll _) fun r hr ↦ ih.bind fun r' hr' ↦ ?_
    exact Outcome.ensures_ret.mpr ((hempty.trans hr).trans hr')

def closedState (c : GenericConnection w) : GenericConnection w :=
  { c with
    maximumPacketSizeSend := mqttPacketSizeNoLimit
    maximumPacketSizeRecv := mqttPacketSizeNoLimit
    status := .disconnected
    topicAliasSend := none
    topicAliasRecv := none
    qos2PublishHandled := if c.needStore then c.qos2PublishHandled else ∅
    pingreqSendSet := false
    pingreqRecvSet := false
    pingrespRecvSet := false }

theorem notifyClosed_frame : c.notifyClosed.Ensures fun r ↦ GivesBack c.closedState r.1 := by
  unfold notifyClosed
  refine (givesBack_drainAll _).bind fun r hr ↦ ?_
  have hkeep : r.1.needStore = c.needStore := (congrArg needStore hr).trans rfl
  refine Outcome.Ensures.bind (P := fun r' ↦ GivesBack { r.1 with
    qos2PublishHandled := if c.needStore then r.1.qos2PublishHandled else ∅ } r'.1) ?_ fun r' hr' ↦ ?_
  · unfold respondIf
    by_cases hk : c.needStore
    · rw [if_neg (by simp [hkeep, hk])]
      refine Outcome.ensures_ret.mpr ?_
      simp [GivesBack, hk]
    · rw [if_pos (by simp [hkeep, hk])]
      simp only [hk]
      exact givesBack_drainAll _
  · refine Outcome.ensures_ret.mpr ?_
    unfold GivesBack at hr hr' ⊢
    dsimp only [cancelTimers]
    rw [hr', hr]
    rfl

end MqttProtocolCore.Connection.GenericConnection
