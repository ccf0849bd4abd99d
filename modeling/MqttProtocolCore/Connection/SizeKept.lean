import MqttProtocolCore.Connection.SizeLimit
import MqttProtocolCore.Connection.Closing

namespace MqttProtocolCore.Connection.GenericConnection

open General Packet

variable {w : IdWidth} {c c' : GenericConnection w} {packet : GenericPacket w} {id : PacketId w}
  {x : Outcome (Handled w)} {r : Handled w} {raw : RawPacket} {limit bound : ℕ} {v : Prop}
  {events : List (GenericEvent w)} {op : Operation w}

theorem within_disconnect (h : c.maximumPacketSizeSend = limit) (p : V50.Disconnect) :
    (c.processSendV50Disconnect p).Ensures (Within limit bound v) :=
  within_limited h fun hs ↦ Outcome.ensures_ret.mpr (within_sendDisconnect h fun _ _ ↦ hs)

theorem Within.append_quiet (hr : Within limit bound v r) (he : requested events = [])
    (hn : ∀ p ∈ notified events, ¬ opening p) : Within limit bound v (r.1, r.2 ++ events) := by
  have hquiet : Within limit bound v (r.1, events) := ⟨hr.kept, fun _ p hp ↦ by simp [he] at hp, hn⟩
  exact Within.append hr hquiet

theorem not_opens_error (e : MqttError) :
    ∀ p ∈ notified [(.notifyError e : GenericEvent w)], ¬ opening p := by
  intro p hp
  cases hp

theorem within_handleV50Error (h : c.maximumPacketSizeSend = limit) (e : MqttError) :
    (c.handleV50Error e).Ensures (Within limit bound v) := by
  unfold handleV50Error
  refine Outcome.Ensures.bind (P := fun _ ↦ True) (fun _ _ ↦ trivial) fun p _ ↦ ?_
  refine Outcome.Ensures.bind (P := Within limit bound v) (within_disconnect h p) fun r hr ↦ Outcome.ensures_ret.mpr ?_
  exact hr.append_quiet rfl (not_opens_error e)

theorem within_handleV311Error (h : c.maximumPacketSizeSend = limit) (e : MqttError) :
    (c.handleV311Error e).Ensures (Within limit bound v) := Outcome.ensures_ret.mpr (within_quiet h rfl rfl)

theorem Misread.within {connect : Prop} (h : c.maximumPacketSizeSend = limit) (hm : Misread c connect x) :
    x.Ensures (Within limit bound v) := by
  have h' : ({ c with status := .connecting } : GenericConnection w).maximumPacketSizeSend = limit :=
    h
  cases hm with
  | closed e => exact within_handleV311Error h e
  | disconnected e => exact within_handleV50Error h e
  | ignored e => exact Outcome.ensures_ret.mpr (within_reject h e)
  | refusedV311 e =>
    unfold refuseV311Connect processSendV311Connack
    refine Outcome.Ensures.bind (P := fun _ ↦ True) (fun _ _ ↦ trivial) fun p _ ↦ ?_
    refine Outcome.Ensures.bind (P := Within limit bound v) ?_ fun r hr ↦
      Outcome.ensures_ret.mpr (hr.append_quiet rfl (not_opens_error e))
    split
    · exact Outcome.ensures_ret.mpr (within_reject h' _)
    · exact within_finishConnack h' rfl
  | refusedV50 e =>
    unfold refuseV50Connect
    refine Outcome.Ensures.bind (P := fun _ ↦ True) (fun _ _ ↦ trivial) fun p _ ↦ ?_
    refine Outcome.Ensures.bind (P := Within limit bound v) (within_processSendV50Connack h' p) fun r hr ↦ ?_
    exact Outcome.ensures_ret.mpr (hr.append_quiet rfl (not_opens_error e))

theorem Refusal.within (h : c.maximumPacketSizeSend = limit) (hr : Refusal c raw x) :
    x.Ensures (Within limit bound v) := by
  cases hr with
  | tooLarge => exact within_handleV50Error h _
  | rejected e => exact Outcome.ensures_ret.mpr (within_reject h e)
  | @misread version _ _ _ _ h' =>
    have hkept : (c.determine version).maximumPacketSizeSend = limit := h
    exact h'.within hkept

theorem within_respondIf (h : c.maximumPacketSizeSend = limit) {q : Prop} [Decidable q]
    (hx : x.Ensures (Within limit bound v)) : (c.respondIf q x).Ensures (Within limit bound v) := by
  unfold respondIf
  split
  · exact hx
  · exact Outcome.ensures_ret.mpr (within_quiet h rfl rfl)

theorem within_build {α : Type} {build : Outcome α} {send : α → Outcome (Handled w)}
    (h : ∀ a, (send a).Ensures (Within limit bound v)) : (build >>= send).Ensures (Within limit bound v) :=
  Outcome.Ensures.bind (P := fun _ ↦ True) (fun _ _ ↦ trivial) fun a _ ↦ h a

theorem within_thenReceived (ho : ¬ opening packet) (hx : x.Ensures (Within limit bound v)) :
    (x >>= fun r ↦ Outcome.ret ((r.1.received packet).1, r.2 ++ (r.1.received packet).2)).Ensures
      (Within limit bound v) :=
  hx.bind fun _ hr ↦ Outcome.ensures_ret.mpr (hr.append (within_received hr.kept ho))

theorem within_recvFinalAck (h : c.maximumPacketSizeSend = limit) (ho : ¬ opening packet)
    {response : ResponsePacket}
    {kind : AckKind} {counted : Bool} {onError : GenericConnection w → MqttError → Outcome (Handled w)}
    (he : ∀ e, (onError c e).Ensures (Within limit bound v)) :
    (c.recvFinalAck response kind counted onError id packet).Ensures (Within limit bound v) := by
  unfold recvFinalAck
  split
  swap
  · exact he _
  have hsettle : ((c.settle kind id).eraseStored response id).maximumPacketSizeSend = limit :=
    limit_settle.trans h
  refine Outcome.Ensures.bind (P := Within limit bound v) (within_releaseIfUsed hsettle) ?_
  rintro ⟨c₁, released⟩ hr
  have hnotify {c₂ : GenericConnection w} (h₂ : c₂.maximumPacketSizeSend = limit) :
      (Outcome.ret ((c₂.received packet).1, released ++ (c₂.received packet).2)).Ensures
        (Within limit bound v) := Outcome.ensures_ret.mpr (hr.append (within_received h₂ ho))
  dsimp only
  split
  · exact frames_handling.countFinished.bind fun c₂ hc₂ ↦ hnotify (hc₂.limits.2.2.trans hr.kept)
  · exact hnotify hr.kept

theorem within_recvSubscriptionAck (h : c.maximumPacketSizeSend = limit) (ho : ¬ opening packet)
    {kind : AckKind}
    {onError : GenericConnection w → MqttError → Outcome (Handled w)}
    (he : ∀ e, (onError c e).Ensures (Within limit bound v)) :
    (c.recvSubscriptionAck kind onError id packet).Ensures (Within limit bound v) := by
  unfold recvSubscriptionAck
  split
  · exact within_thenReceived ho (within_releaseIfUsed (limit_settle.trans h))
  · exact he _

theorem within_respond (h : c.maximumPacketSizeSend = limit) {answer : Answer}
    {id : Option (PacketId w)} : (c.respond answer id).Ensures (Within limit bound v) := by
  unfold respond
  split
  · exact Outcome.ensures_ret.mpr (within_quiet h rfl rfl)
  · exact within_build fun a ↦ @within_answered _ _ _ (.v50Puback a) _ _ _ _ h h
  · refine within_build fun a ↦ @within_answered _ _ _ (.v50Pubrec a) _ _ _ _ h ?_
    split <;> exact h
  · simp

theorem within_recvV50Publish (h : c.maximumPacketSizeSend = limit) (p : V50.Publish w) :
    (c.recvV50Publish p).Ensures (Within limit bound v) := by
  unfold recvV50Publish
  refine (frames_handling.admitPublish p).bind fun o ho ↦ ?_
  cases o with
  | none => exact within_handleV50Error h _
  | some a =>
    have h₁ : a.2.maximumPacketSizeSend = limit := (ho a rfl).limits.2.2.trans h
    refine (CoreFrames.resolveTopic (R := Handling) (fun _ _ ↦ rfl) p).bind fun o ho ↦ ?_
    cases o with
    | none => exact within_handleV50Error h₁ _
    | some b =>
      have h₂ : b.2.maximumPacketSizeSend = limit := (ho b rfl).limits.2.2.trans h₁
      refine Outcome.Ensures.bind (P := Within limit bound v) (within_respond h₂) fun r hr ↦ Outcome.ensures_ret.mpr ?_
      have htimers : Within limit bound v r.1.refreshPingreqRecv :=
        within_idle hr.kept idle_refreshPingreqRecv timersOnly_refreshPingreqRecv
      refine (hr.append htimers).append_quiet ?_ ?_
      · split <;> rfl
      · intro p hp
        split at hp
        · cases hp
        · obtain rfl := List.mem_singleton.mp hp
          exact Bool.false_ne_true

theorem within_recvV311Publish (h : c.maximumPacketSizeSend = limit) (hv : ¬ v)
    (p : V311.Publish w) : (c.recvV311Publish p).Ensures (Within limit bound v) := by
  have hreceived {c' : GenericConnection w} (h' : c'.maximumPacketSizeSend = limit) :
      Within limit bound v (c'.received (.v311Publish p)) := within_received h' Bool.false_ne_true
  unfold recvV311Publish
  split
  · exact Outcome.ensures_ret.mpr (hreceived h)
  · refine within_thenReceived Bool.false_ne_true (within_respondIf h (within_build fun a ↦ ?_))
    exact Outcome.ensures_ret.mpr (within_sendConnected h fun h' _ ↦ (hv h').elim)
  · rename_i id _ _
    have hmark : ({ c with qos2PublishHandled := c.qos2PublishHandled.insert id } :
        GenericConnection w).maximumPacketSizeSend = limit := h
    refine Outcome.Ensures.bind (P := Within limit bound v) (within_respondIf hmark
      (within_build fun a ↦ Outcome.ensures_ret.mpr
        (within_sendConnected hmark fun h' _ ↦ (hv h').elim))) fun r hr ↦ ?_
    have htimers : Within limit bound v r.1.refreshPingreqRecv :=
      within_idle hr.kept idle_refreshPingreqRecv timersOnly_refreshPingreqRecv
    refine Outcome.ensures_ret.mpr ((hr.append htimers).append_quiet ?_ ?_)
    · split <;> rfl
    · intro q hq
      split at hq
      · cases hq
      · obtain rfl := List.mem_singleton.mp hq
        exact Bool.false_ne_true
  · simp

theorem within_recvV311Pubrec (h : c.maximumPacketSizeSend = limit) (hv : ¬ v)
    (p : V311.Pubrec w) : (c.recvV311Pubrec p).Ensures (Within limit bound v) := by
  unfold recvV311Pubrec
  dsimp only
  split
  · have hsettle : ((c.settle .pubrec p.packetId).eraseStored .v311Pubrec
        p.packetId).maximumPacketSizeSend = limit := h
    refine within_thenReceived Bool.false_ne_true
      (within_respondIf hsettle (within_build fun a ↦ ?_))
    exact within_sendPubrel hsettle fun h' ↦ (hv h').elim
  · exact within_handleV311Error h _

theorem within_recvV50Pubrec (h : c.maximumPacketSizeSend = limit) (p : V50.Pubrec w) :
    (c.recvV50Pubrec p).Ensures (Within limit bound v) := by
  unfold recvV50Pubrec
  dsimp only
  split
  · have hsettle : ((c.settle .pubrec p.packetId).eraseStored .v50Pubrec
        p.packetId).maximumPacketSizeSend = limit := h
    split
    · refine within_thenReceived Bool.false_ne_true
        (within_respondIf hsettle (within_build fun a ↦ ?_))
      exact within_limited hsettle fun hs ↦ within_sendPubrel hsettle fun _ ↦ hs
    · refine Outcome.Ensures.bind (P := Within limit bound v) (within_releaseIfUsed hsettle) ?_
      rintro ⟨c₁, released⟩ hr
      refine frames_handling.countFinished.bind fun c₂ hc₂ ↦ Outcome.ensures_ret.mpr ?_
      have hr₂ : Within limit bound v (c₂, released) :=
        ⟨hc₂.limits.2.2.trans hr.kept, hr.sizes, hr.opens⟩
      have hreceived : Within limit bound v (c₂.received (.v50Pubrec p)) :=
        within_received hr₂.kept Bool.false_ne_true
      exact hr₂.append hreceived
  · exact within_handleV50Error h _

theorem within_recvV311Pubrel (h : c.maximumPacketSizeSend = limit) (hv : ¬ v)
    (p : V311.Pubrel w) : (c.recvV311Pubrel p).Ensures (Within limit bound v) := by
  unfold recvV311Pubrel
  have hmark : ({ c with qos2PublishHandled := c.qos2PublishHandled.remove p.packetId } :
      GenericConnection w).maximumPacketSizeSend = limit := h
  refine within_thenReceived Bool.false_ne_true (within_respondIf hmark (within_build fun a ↦ ?_))
  exact Outcome.ensures_ret.mpr (within_sendConnected hmark fun h' _ ↦ (hv h').elim)

theorem within_recvV50Pubrel (h : c.maximumPacketSizeSend = limit) (p : V50.Pubrel w) :
    (c.recvV50Pubrel p).Ensures (Within limit bound v) := by
  unfold recvV50Pubrel
  have hmark : ({ c with qos2PublishHandled := c.qos2PublishHandled.remove p.packetId } :
      GenericConnection w).maximumPacketSizeSend = limit := h
  refine within_thenReceived Bool.false_ne_true (within_respondIf hmark (within_build fun a ↦ ?_))
  exact @within_answered _ _ _ (.v50Pubcomp a) _ _ _ _ hmark hmark

theorem within_recvV311Pingreq (h : c.maximumPacketSizeSend = limit) (hv : ¬ v)
    (p : V311.Pingreq) : (c.recvV311Pingreq p).Ensures (Within limit bound v) := by
  unfold recvV311Pingreq
  refine within_thenReceived Bool.false_ne_true (within_respondIf h (within_build fun a ↦ ?_))
  exact Outcome.ensures_ret.mpr (within_sendConnected h fun h' _ ↦ (hv h').elim)

theorem within_recvV50Pingreq (h : c.maximumPacketSizeSend = limit) (p : V311.Pingreq) :
    (c.recvV50Pingreq p).Ensures (Within limit bound v) := by
  unfold recvV50Pingreq
  refine within_thenReceived Bool.false_ne_true (within_respondIf h (within_build fun a ↦ ?_))
  exact within_limited h fun hs ↦ Outcome.ensures_ret.mpr (within_sendConnected h fun _ _ ↦ hs)

theorem within_notified (h : c.maximumPacketSizeSend = limit) (ho : ¬ opening packet)
    (he : TimersOnly events) : Within limit bound v (c, events ++ [.notifyPacketReceived packet]) := by
  refine (within_quiet h he.requested he.notified).append_quiet rfl fun p hp ↦ ?_
  obtain rfl := List.mem_singleton.mp hp
  exact ho

/-- A packet that does not open the connection is handled within the limit. -/
theorem within_deliver (h : c.maximumPacketSizeSend = limit)
    (hv : v → packet.protocolVersion = .v50) (ho : ¬ opening packet) :
    (c.deliver packet).Ensures (Within limit bound v) := by
  have hold (h311 : packet.protocolVersion = .v311) : ¬ v := fun h' ↦ by
    cases h311.symm.trans (hv h')
  cases packet with
  | v311Connect | v50Connect | v311Connack | v50Connack => exact (ho rfl).elim
  | v311Publish p => exact within_recvV311Publish h (hold rfl) p
  | v50Publish p => exact within_recvV50Publish h p
  | v311Puback p | v311Pubcomp p => exact within_recvFinalAck h ho (within_handleV311Error h)
  | v50Puback p | v50Pubcomp p => exact within_recvFinalAck h ho (within_handleV50Error h)
  | v311Pubrec p => exact within_recvV311Pubrec h (hold rfl) p
  | v50Pubrec p => exact within_recvV50Pubrec h p
  | v311Pubrel p => exact within_recvV311Pubrel h (hold rfl) p
  | v50Pubrel p => exact within_recvV50Pubrel h p
  | v311Suback p | v311Unsuback p => exact within_recvSubscriptionAck h ho (within_handleV311Error h)
  | v50Suback p | v50Unsuback p => exact within_recvSubscriptionAck h ho (within_handleV50Error h)
  | v311Pingreq p => exact within_recvV311Pingreq h (hold rfl) p
  | v50Pingreq p => exact within_recvV50Pingreq h p
  | v311Pingresp p | v50Pingresp p =>
    exact Outcome.ensures_ret.mpr (within_notified h ho (timersOnly_cancelEvents ..))
  | v311Disconnect p | v50Disconnect p =>
    exact Outcome.ensures_ret.mpr (within_notified h ho timersOnly_cancelTimers)
  | _ => exact Outcome.ensures_ret.mpr (within_received h ho)

end MqttProtocolCore.Connection.GenericConnection
