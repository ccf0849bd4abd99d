import MqttProtocolCore.Connection.RecvPublishSpec

namespace MqttProtocolCore.Connection.GenericConnection

open General Packet

variable {w : IdWidth} {c c' : GenericConnection w} {input : Input w} {packet : GenericPacket w}
  {id : PacketId w} {x : Outcome (Handled w)} {safe : Prop} {r : Handled w}
  {P : GenericPacket w → Prop}

def Uncounted (s : Session w) : Prop := s.quota.isSome ∧ s.count = 0

theorem countFinished_spec : c.countFinished.Spec
    (fun c' ↦ ¬ Uncounted c.session ∧ c'.session = c.session.finished .v50)
    (Uncounted c.session) := by
  have hun : Uncounted c.session ↔ c.publishSendMax.isSome ∧ c.publishSendCount = 0 := by
    simp only [Uncounted, session, Option.isSome_map, Fin.val_eq_zero_iff]
  unfold countFinished
  rw [hun]
  by_cases hq : c.publishSendMax.isSome
  · rw [if_pos hq]
    by_cases h0 : c.publishSendCount = 0
    · rw [if_pos h0]
      exact ⟨hq, h0⟩
    · rw [if_neg h0]
      refine ⟨fun h ↦ h0 h.2, ?_⟩
      rw [Session.finished, if_pos ⟨rfl, by simpa [session] using hq⟩]
      exact Session.ext rfl rfl rfl rfl rfl rfl rfl rfl rfl rfl
  · rw [if_neg hq]
    refine ⟨fun h ↦ hq h.1, ?_⟩
    rw [Session.finished, if_neg (by simpa [session] using hq)]

theorem isUsedId_congr (h : c'.session.used = c.session.used) (id : PacketId w) :
    c'.pidMan.isUsedId id = c.pidMan.isUsedId id := by
  have : id ∈ c'.session.used ↔ id ∈ c.session.used := by rw [h]
  exact Bool.eq_iff_iff.mpr this

theorem acts_recvFinalAck {response : ResponsePacket} {kind : AckKind} {counted : Bool}
    {onError : GenericConnection w → MqttError → Outcome (Handled w)}
    (hp : ackOf packet = some (kind, id)) (hk : kind = .puback ∨ kind = .pubcomp)
    (hr : responseOf packet = some response) (hv : counted ↔ packet.protocolVersion = .v50)
    (h0 : id ≠ 0) (he : ∀ e, ∃ r, onError c e = .ret r ∧ Refused c r) :
    c.Acts (.receive packet) (counted → id ∈ c.awaiting kind → ¬ Uncounted c.session)
      (c.recvFinalAck response kind counted onError id packet) := by
  unfold recvFinalAck
  by_cases haw : id ∈ c.awaiting kind
  swap
  · rw [if_neg haw]
    exact (acts_refusal (he _)).congr (by simp [haw])
  rw [if_pos haw]
  have hs : ((c.settle kind id).eraseStored response id).session =
      (c.session.settle kind id).erase response id := by simp
  have hchange := Change.acknowledged hp hk hr haw
  refine releaseIfUsed_spec.bind (fun ⟨c₁, events⟩ ⟨_, _, hs₁, hrep⟩ ↦ ?_) fun h ↦ (h0 h).elim
  have hu : ((c.settle kind id).eraseStored response id).pidMan.isUsedId id =
      c.pidMan.isUsedId id := isUsedId_congr (by rw [hs]; rfl) id
  dsimp only at hs₁ hrep ⊢
  rw [hs] at hs₁
  rw [hu] at hrep
  have hun : Uncounted c₁.session ↔ Uncounted c.session := by
    rw [hs₁]
    exact Iff.rfl
  have hcount : (if counted then c₁.countFinished else .ret c₁).Spec
      (fun c' ↦ (counted → ¬ Uncounted c.session) ∧
        c'.session = c₁.session.finished packet.protocolVersion)
      (¬ (counted → ¬ Uncounted c.session)) := by
    cases counted with
    | true =>
      rw [if_pos rfl, ← hun, hv.mp rfl]
      refine countFinished_spec.mono (fun c' ⟨h, h'⟩ ↦ ⟨fun _ ↦ h, h'⟩) fun h h' ↦ h' rfl h
    | false =>
      have hv' : packet.protocolVersion ≠ .v50 := fun h ↦ by simpa using hv.mpr h
      refine ⟨by simp, ?_⟩
      rw [Session.finished, if_neg (by simp [hv'])]
  suffices h : c.Acts (.receive packet) (counted → id ∈ c.awaiting kind → ¬ Uncounted c.session)
      ((if counted then c₁.countFinished else .ret c₁) >>= fun c₂ ↦
        .ret ((c₂.received packet).1, events ++ (c₂.received packet).2)) by
    cases counted <;> exact h
  refine hcount.bind (fun c₂ ⟨hsafe, hs₂⟩ ↦ ?_) fun h h' ↦ h fun hc ↦ h' hc haw
  exact ⟨fun hc _ ↦ hsafe hc, change_received (hs₂.trans (by rw [hs₁])) hrep hchange⟩

theorem acts_recvSubscriptionAck {kind : AckKind}
    {onError : GenericConnection w → MqttError → Outcome (Handled w)}
    (hp : ackOf packet = some (kind, id)) (hk : kind = .suback ∨ kind = .unsuback)
    (he : ∀ e, ∃ r, onError c e = .ret r ∧ Refused c r) :
    c.Acts (.receive packet) (id ∈ c.awaiting kind → id ≠ 0)
      (c.recvSubscriptionAck kind onError id packet) := by
  unfold recvSubscriptionAck
  by_cases haw : id ∈ c.awaiting kind
  swap
  · rw [if_neg haw]
    exact (acts_refusal (he _)).congr (by simp [haw])
  rw [if_pos haw]
  refine releaseIfUsed_spec.bind (fun ⟨c₁, events⟩ ⟨h0, _, hs₁, hrep⟩ ↦ ?_) fun h h' ↦ h' haw h
  have hu : (c.settle kind id).pidMan.isUsedId id = c.pidMan.isUsedId id :=
    isUsedId_congr (by rw [session_settle]; rfl) id
  dsimp only at hs₁ hrep ⊢
  rw [session_settle] at hs₁
  rw [hu] at hrep
  exact ⟨fun _ ↦ h0, change_received hs₁ hrep (.subscriptionAcked hp hk haw)⟩

def PubrecFits (c : GenericConnection w) (response : ResponsePacket) (id : PacketId w) : Prop :=
  c.needStore → c.pidMan.isUsedId id → (c.session.erase response id).stored id = none

theorem session_pubrec {response : ResponsePacket} :
    ((c.settle .pubrec id).eraseStored response id).session =
      (c.session.settle .pubrec id).erase response id := by
  simp

theorem pubrelFits_pubrec {response : ResponsePacket} :
    ((c.settle .pubrec id).eraseStored response id).PubrelFits id ↔ c.PubrecFits response id := by
  unfold PubrelFits PubrecFits
  rw [session_pubrec]
  exact Iff.rfl

/-- A PUBREC that reports success: its PUBLISH is erased, and the PUBREL may follow. -/
theorem acts_pubrecReceived {response : ResponsePacket} (hp : ackOf packet = some (.pubrec, id))
    (hr : responseOf packet = some response)
    (hok : packet.protocolVersion = .v311 ∨ (pubrecReasonOf packet).all (· = .success))
    (haw : id ∈ c.pidPubrec)
    (hx : x.Spec (fun r ↦ safe ∧
      (¬ c.FollowsUp packet id ∧
          AnswersWith ((c.settle .pubrec id).eraseStored response id) (fun _ ↦ False) r ∨
        c.status = .connected ∧ ∃ stored s, stored.toPacket.pubrelOf = some id ∧
          PubrelSent ((c.settle .pubrec id).eraseStored response id) id stored s r))
      (¬ safe)) :
    c.Acts (.receive packet) safe (x >>= fun r ↦
      .ret ((r.1.received packet).1, r.2 ++ (r.1.received packet).2)) := by
  refine hx.bind (fun r ⟨hsafe, h⟩ ↦ ⟨hsafe, ?_⟩) fun h ↦ h
  rcases h with ⟨hno, hs, req, err, hrep, hreq⟩ | ⟨hc, stored, s, hrel, hu, hkeep, hs, hrep⟩
  · refine change_received (hs.trans session_pubrec) hrep ?_
    have : req = [] := List.eq_nil_iff_forall_not_mem.mpr hreq
    exact .pubrecReceived hp hr hok haw (.inl ⟨this, hno, rfl⟩)
  · have hc' : ((c.settle .pubrec id).eraseStored response id).status = .connected := hc
    rw [if_pos hc'] at hs hrep
    rw [session_pubrec] at hkeep
    refine change_received hs hrep (.pubrecReceived hp hr hok haw (.inr ⟨hc, hu, _, hrel, rfl, ?_⟩))
    rcases hkeep with ⟨hn, rfl⟩ | ⟨hn, hnone, rfl⟩
    · exact .inl ⟨hn, rfl⟩
    · exact .inr ⟨hn, hnone, stored, rfl, rfl⟩

theorem respondPubrel_spec {α : Type} {fits : Prop} {build : Fallible MqttError α} {a : α}
    {send : α → Outcome (Handled w)} {stored : GenericStorePacket w} (hb : build = .ok a)
    (hrel : stored.toPacket.pubrelOf = some id)
    (hs : (send a).Spec
      (fun r ↦ fits ∧ (¬ c.FollowsUp packet id ∧ (∃ e, r = c.reject e) ∨
        ∃ s, c.PubrelSent id stored s r)) (¬ fits)) :
    (c.respondIf c.answers (build.unwrap >>= send)).Spec
      (fun r ↦ (c.answers → fits) ∧ (¬ c.FollowsUp packet id ∧ c.AnswersWith (fun _ ↦ False) r ∨
        c.status = .connected ∧ ∃ stored s, stored.toPacket.pubrelOf = some id ∧
          c.PubrelSent id stored s r))
      (¬ (c.answers → fits)) := by
  unfold respondIf
  by_cases hans : c.answers
  · have hc : c.status = .connected := by
      simp only [answers, decide_eq_true_eq] at hans
      exact hans.1
    rw [if_pos hans, hb, Fallible.unwrap_ok, Outcome.ret_bind]
    refine hs.mono ?_ fun h h' ↦ h (h' hans)
    rintro r ⟨hf, h⟩
    refine ⟨fun _ ↦ hf, ?_⟩
    rcases h with ⟨hno, e, rfl⟩ | ⟨s, h⟩
    · exact .inl ⟨hno, answersWith_reject e⟩
    · exact .inr ⟨hc, stored, s, hrel, h⟩
  · rw [if_neg hans]
    exact ⟨fun h ↦ (hans h).elim, .inl ⟨fun h ↦ hans h.1, answersWith_nothing⟩⟩

theorem followsUp_reject {e : Prop} (h : (c.status = .connected → ¬ c.pidMan.isUsedId id) ∧ e) :
    ¬ c.FollowsUp packet id ∧ e := by
  refine ⟨fun ⟨hans, hu, _⟩ ↦ h.1 ?_ hu, h.2⟩
  simp only [answers, decide_eq_true_eq] at hans
  exact hans.1

theorem acts_recvV311Pubrec (p : V311.Pubrec w) :
    c.Acts (.receive (.v311Pubrec p))
      (p.packetId ∈ c.pidPubrec → c.answers → c.PubrecFits .v311Pubrec p.packetId)
      (c.recvV311Pubrec p) := by
  unfold recvV311Pubrec
  by_cases haw : p.packetId ∈ c.pidPubrec
  swap
  · simp only [haw]
    exact (acts_refusal (c.handleV311Error_spec _)).congr (by simp)
  simp only [haw, if_true]
  suffices h : c.Acts (.receive (.v311Pubrec p))
      (c.answers → c.PubrecFits .v311Pubrec p.packetId) _ from h.congr (by simp)
  obtain ⟨a, ha, hid, -⟩ := V311.Ack.build_spec (C := PubrelReasonCode) none p.packetId_ne
  have hrel : (GenericStorePacket.v311Pubrel a).toPacket.pubrelOf = some p.packetId :=
    congrArg some hid
  have hkey : (GenericStorePacket.v311Pubrel a).packetId = some p.packetId := congrArg some hid
  refine @acts_pubrecReceived w c (.v311Pubrec p) _ _ _ .v311Pubrec rfl rfl (.inl rfl) haw
    (respondPubrel_spec ha hrel ?_)
  rw [← pubrelFits_pubrec]
  unfold processSendV311Pubrel
  rw [hid]
  exact (sendPubrel_spec hkey).mono (fun r h ↦ ⟨h.1, h.2.imp_left followsUp_reject⟩) fun h ↦ h

theorem acts_recvV50Pubrec (p : V50.Pubrec w) :
    c.Acts (.receive (.v50Pubrec p))
      (p.packetId ∈ c.pidPubrec →
        if p.reasonCode.all (· = .success) then
          c.answers → c.validateMaximumPacketSizeSend (2 + w.bufferSize) →
            c.PubrecFits .v50Pubrec p.packetId
        else ¬ Uncounted c.session)
      (c.recvV50Pubrec p) := by
  unfold recvV50Pubrec
  by_cases haw : p.packetId ∈ c.pidPubrec
  swap
  · simp only [haw]
    exact (acts_refusal (c.handleV50Error_spec _)).congr (by simp)
  simp only [haw, if_true]
  by_cases hok : p.reasonCode.all (· = .success)
  · simp only [hok, if_true]
    suffices h : c.Acts (.receive (.v50Pubrec p))
        (c.answers → c.validateMaximumPacketSizeSend (2 + w.bufferSize) →
          c.PubrecFits .v50Pubrec p.packetId) _ from h.congr (by simp)
    obtain ⟨a, ha, hid, -, hsize⟩ := V50.Ack.build_spec (C := PubrelReasonCode) none p.packetId_ne
    have hrel : (GenericStorePacket.v50Pubrel a).toPacket.pubrelOf = some p.packetId :=
      congrArg some hid
    have hkey : (GenericStorePacket.v50Pubrel a).packetId = some p.packetId := congrArg some hid
    refine @acts_pubrecReceived w c (.v50Pubrec p) _ _ _ .v50Pubrec rfl rfl (.inr hok) haw
      (respondPubrel_spec ha hrel ?_)
    rw [← pubrelFits_pubrec]
    unfold processSendV50Pubrel limited
    rw [hid, show a.size = 2 + w.bufferSize by simpa using hsize]
    have hval : validateMaximumPacketSizeSend
        ((c.settle .pubrec p.packetId).eraseStored .v50Pubrec p.packetId) (2 + w.bufferSize) =
        c.validateMaximumPacketSizeSend (2 + w.bufferSize) := rfl
    rw [hval]
    by_cases hv : c.validateMaximumPacketSizeSend (2 + w.bufferSize)
    · rw [if_pos hv]
      exact (sendPubrel_spec hkey).mono (fun r h ↦ ⟨fun _ ↦ h.1, h.2.imp_left followsUp_reject⟩)
        fun h h' ↦ h (h' hv)
    · rw [if_neg hv]
      exact ⟨fun h ↦ (hv h).elim, .inl ⟨fun h ↦ hv (h.2.2 rfl), _, rfl⟩⟩
  · simp only [hok]
    suffices h : c.Acts (.receive (.v50Pubrec p)) (¬ Uncounted c.session) _ from h.congr (by simp)
    have hs : ((c.settle .pubrec p.packetId).eraseStored .v50Pubrec p.packetId).session =
        (c.session.settle .pubrec p.packetId).erase .v50Pubrec p.packetId := session_pubrec
    have hu : ((c.settle .pubrec p.packetId).eraseStored .v50Pubrec p.packetId).pidMan.isUsedId
        p.packetId = c.pidMan.isUsedId p.packetId := isUsedId_congr (by rw [hs]; rfl) _
    refine releaseIfUsed_spec.bind ?_ fun h ↦ (p.packetId_ne h).elim
    rintro ⟨c₁, events⟩ ⟨-, -, hs₁, hrep⟩
    dsimp only at hs₁ hrep ⊢
    rw [hs] at hs₁
    rw [hu] at hrep
    have hun : Uncounted c₁.session ↔ Uncounted c.session := by
      rw [hs₁]
      exact Iff.rfl
    refine countFinished_spec.bind ?_ fun h h' ↦ h' (hun.mp h)
    rintro c₂ ⟨hc, hs₂⟩
    refine ⟨hun.not.mp hc, ?_⟩
    exact change_received (hs₂.trans (by rw [hs₁])) hrep (.pubrecFailed hok haw)

theorem session_removeHandled : { c with
    qos2PublishHandled := c.qos2PublishHandled.remove id }.session =
    { c.session with handled := c.session.handled \ {id} } := by
  refine Session.ext rfl rfl rfl rfl rfl rfl ?_ rfl rfl rfl
  ext u
  simp [session, and_comm]

theorem acts_recvV311Pubrel (p : V311.Pubrel w) :
    c.Acts (.receive (.v311Pubrel p)) True (c.recvV311Pubrel p) := by
  unfold recvV311Pubrel
  obtain ⟨a, ha, hid, -⟩ := V311.Ack.build_spec (C := PubcompReasonCode) none p.packetId_ne
  refine @acts_answer w c { c with qos2PublishHandled := c.qos2PublishHandled.remove p.packetId } _ _ _ _
    (fun q ↦ ackOf q = some (.pubcomp, p.packetId)) ?_ fun req err hreq ↦ ?_
  · refine (answer_spec (fun h ↦ (p.packetId_ne h).elim) fun h ↦ ⟨a, ha, _, rfl, ?_⟩).mono
      (fun r h ↦ ⟨trivial, h.2⟩) fun h ↦ (h fun _ ↦ p.packetId_ne).elim
    exact answersWith_sendConnected (by simp [ackOf, hid])
  · rw [session_removeHandled]
    exact .pubrelReceived rfl hreq

theorem acts_recvV50Pubrel (p : V50.Pubrel w) :
    c.Acts (.receive (.v50Pubrel p)) True (c.recvV50Pubrel p) := by
  unfold recvV50Pubrel
  obtain ⟨a, ha, hid, -⟩ := V50.Ack.build_spec (if p.packetId ∈ c.qos2PublishHandled then none
    else some PubcompReasonCode.packetIdentifierNotFound) p.packetId_ne
  refine @acts_answer w c { c with qos2PublishHandled := c.qos2PublishHandled.remove p.packetId } _ _ _ _
    (fun q ↦ ackOf q = some (.pubcomp, p.packetId)) ?_ fun req err hreq ↦ ?_
  · refine (answer_spec (fun h ↦ (p.packetId_ne h).elim) fun h ↦ ⟨a, ha, ?_⟩).mono
      (fun r h ↦ ⟨trivial, h.2⟩) fun h ↦ (h fun _ ↦ p.packetId_ne).elim
    exact answersWith_limitedRequest rfl (by simp [ackOf, hid])
  · rw [session_removeHandled]
    exact .pubrelReceived rfl hreq

/-- The conditions under which the handler of a packet that arrives does not panic. -/
def DeliverSafe (c : GenericConnection w) : GenericPacket w → Prop
  | .v50Connect p => c.status = .disconnected → AliasMaximumFits p.props
  | .v311Connack p => p.returnCode = .accepted → p.sessionPresent →
      c.CanResend c.maximumPacketSizeSend
  | .v50Connack p => p.reasonCode = .success → p.sessionPresent →
      c.CanResend (sizeLimitOf c.maximumPacketSizeSend p.props)
  | .v311Publish p => p.packetId = some 0 → ¬ c.answersZero p.qos
  | .v50Publish p => c.admits p →
      c.TopicFits p ∧ (c.Resolves p → p.packetId = some 0 → ¬ c.answersZero p.qos)
  | .v50Puback p => p.packetId ∈ c.pidPuback → ¬ Uncounted c.session
  | .v50Pubcomp p => p.packetId ∈ c.pidPubcomp → ¬ Uncounted c.session
  | .v311Pubrec p => p.packetId ∈ c.pidPubrec → c.answers → c.PubrecFits .v311Pubrec p.packetId
  | .v50Pubrec p => p.packetId ∈ c.pidPubrec →
      if p.reasonCode.all (· = .success) then
        c.answers → c.validateMaximumPacketSizeSend (2 + w.bufferSize) →
          c.PubrecFits .v50Pubrec p.packetId
      else ¬ Uncounted c.session
  | .v311Suback p => p.packetId ∈ c.pidSuback → p.packetId ≠ 0
  | .v50Suback p => p.packetId ∈ c.pidSuback → p.packetId ≠ 0
  | .v311Unsuback p => p.packetId ∈ c.pidUnsuback → p.packetId ≠ 0
  | .v50Unsuback p => p.packetId ∈ c.pidUnsuback → p.packetId ≠ 0
  | _ => True

/-- What the handler of a packet that arrives does, and when it returns. -/
theorem acts_deliver (packet : GenericPacket w) :
    c.Acts (.receive packet) (c.DeliverSafe packet) (c.deliver packet) := by
  have h311 := handleV311Error_spec c
  have h50 := handleV50Error_spec c
  cases packet with
  | v311Connect p => exact acts_recvV311Connect p
  | v50Connect p => exact acts_recvV50Connect p
  | v311Connack p => exact acts_recvV311Connack p
  | v50Connack p => exact acts_recvV50Connack p
  | v311Publish p => exact acts_recvV311Publish p
  | v50Publish p => exact acts_recvV50Publish p
  | v311Puback p =>
    exact (acts_recvFinalAck rfl (.inl rfl) rfl (by simp [GenericPacket.protocolVersion]) p.packetId_ne
      h311).congr (by simp [DeliverSafe])
  | v50Puback p =>
    exact (acts_recvFinalAck rfl (.inl rfl) rfl (by simp [GenericPacket.protocolVersion]) p.packetId_ne
      h50).congr (by simp [DeliverSafe, awaiting])
  | v311Pubrec p => exact acts_recvV311Pubrec p
  | v50Pubrec p => exact acts_recvV50Pubrec p
  | v311Pubrel p => exact acts_recvV311Pubrel p
  | v50Pubrel p => exact acts_recvV50Pubrel p
  | v311Pubcomp p =>
    exact (acts_recvFinalAck rfl (.inr rfl) rfl (by simp [GenericPacket.protocolVersion]) p.packetId_ne
      h311).congr (by simp [DeliverSafe])
  | v50Pubcomp p =>
    exact (acts_recvFinalAck rfl (.inr rfl) rfl (by simp [GenericPacket.protocolVersion]) p.packetId_ne
      h50).congr (by simp [DeliverSafe, awaiting])
  | v311Subscribe p => exact acts_received ⟨rfl, rfl, rfl, rfl, rfl⟩
  | v50Subscribe p => exact acts_received ⟨rfl, rfl, rfl, rfl, rfl⟩
  | v311Unsubscribe p => exact acts_received ⟨rfl, rfl, rfl, rfl, rfl⟩
  | v50Unsubscribe p => exact acts_received ⟨rfl, rfl, rfl, rfl, rfl⟩
  | v311Suback p => exact acts_recvSubscriptionAck rfl (.inl rfl) h311
  | v50Suback p => exact acts_recvSubscriptionAck rfl (.inl rfl) h50
  | v311Unsuback p => exact acts_recvSubscriptionAck rfl (.inr rfl) h311
  | v50Unsuback p => exact acts_recvSubscriptionAck rfl (.inr rfl) h50
  | v311Pingreq p => exact acts_recvV311Pingreq p
  | v50Pingreq p => exact acts_recvV50Pingreq p
  | v311Pingresp p => exact acts_recvPingresp ⟨rfl, rfl, rfl, rfl, rfl⟩
  | v50Pingresp p => exact acts_recvPingresp ⟨rfl, rfl, rfl, rfl, rfl⟩
  | v311Disconnect p => exact acts_recvDisconnect ⟨rfl, rfl, rfl, rfl, rfl⟩
  | v50Disconnect p => exact acts_recvDisconnect ⟨rfl, rfl, rfl, rfl, rfl⟩
  | v50Auth p => exact acts_received ⟨rfl, rfl, rfl, rfl, rfl⟩

end MqttProtocolCore.Connection.GenericConnection