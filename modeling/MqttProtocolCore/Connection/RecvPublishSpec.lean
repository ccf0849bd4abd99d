import MqttProtocolCore.Connection.RecvSpec

namespace MqttProtocolCore.Connection.GenericConnection

open General Packet

variable {w : IdWidth} {c c' : GenericConnection w} {input : Input w} {packet : GenericPacket w}
  {id : PacketId w} {x : Outcome (Handled w)} {safe : Prop} {r : Handled w}
  {P : GenericPacket w → Prop}

def Mild (packet : GenericPacket w) : Prop :=
  packet.connectOf = none ∧ packet.connackOf = none ∧ packet.publishOf = none ∧
    packet.pubrelOf = none ∧ ¬ failsPubrec packet

/-- A PUBLISH of quality of service 2 is answered, and notified when it is new. -/
theorem acts_answerOnce {notice : GenericPacket w}
    (hx : x.Spec (fun r ↦ safe ∧ c'.AnswersWith P r) (¬ safe))
    (hp : packet.publishOf = some (id, .exactlyOnce))
    (hn : notice.publishOf = some (id, .exactlyOnce))
    (hs : c'.session = { c.session with handled := insert id c.session.handled })
    (hP : ∀ p, P p → ackOf p = some (.pubrec, id) ∧ ¬ failsPubrec p) :
    c.Acts (.receive packet) safe (x >>= fun r ↦ .ret (r.1.refreshPingreqRecv.1,
      r.2 ++ r.1.refreshPingreqRecv.2 ++
        if decide (id ∈ c.qos2PublishHandled) then [] else [.notifyPacketReceived notice])) := by
  refine hx.bind (fun r ⟨hsafe, hr, req, err, hrep, hreq⟩ ↦ ⟨hsafe, ?_⟩) fun h ↦ h
  have ht := timersOnly_refreshPingreqRecv (c := r.1)
  have hsess : r.1.refreshPingreqRecv.1.session =
      { c.session with handled := insert id c.session.handled } := by
    rw [idle_refreshPingreqRecv.session, status_refreshPingreqRecv, ← hs, ← hr]
    rfl
  have hrep' : report (r.2 ++ r.1.refreshPingreqRecv.2 ++
      if decide (id ∈ c.qos2PublishHandled) then [] else [.notifyPacketReceived notice]) =
      ⟨req, if id ∈ c.qos2PublishHandled then [] else [notice], [], err⟩ := by
    simp only [report, Report.mk.injEq] at hrep ⊢
    split <;> simp_all [ht.requested, ht.notified, ht.released, ht.errors]
  rw [hsess, hrep']
  exact .publishReceived hp hn fun p h ↦ hP p (hreq p h)

def answersZero (c : GenericConnection w) (qos : Qos) : Bool :=
  c.answers ∨ qos = .exactlyOnce ∧ c.status = .connected ∧ 0 ∈ c.qos2PublishHandled

theorem acts_recvV311Publish (p : V311.Publish w) :
    c.Acts (.receive (.v311Publish p)) (p.packetId = some 0 → ¬ c.answersZero p.qos)
      (c.recvV311Publish p) := by
  have hsome : p.packetId.isSome ↔ p.qos ≠ .atMostOnce := p.id.2
  have hpub : (GenericPacket.v311Publish p).publishOf = p.packetId.map (·, p.qos) := rfl
  unfold recvV311Publish
  cases hq : p.qos with
  | atMostOnce =>
    have hid : p.packetId = none := by simpa [hq] using hsome
    simp only [hid]
    refine (acts_received ⟨rfl, rfl, ?_, rfl, rfl⟩).congr (by simp)
    simp [hpub, hid]
  | atLeastOnce =>
    obtain ⟨id, hid⟩ := Option.isSome_iff_exists.mp (hsome.mpr (by simp [hq]))
    simp only [hid]
    refine Acts.congr (acts_answer (P := Mild) (@answer_spec w _ id _ _ _ _ _ _ (fun h ↦ ?_) fun h ↦ ?_)
      fun req err hreq ↦ ?_) ?_
    · subst h
      exact ⟨_, V311.Ack.build_zero none⟩
    · obtain ⟨a, ha, -⟩ := V311.Ack.build_spec (C := PubackReasonCode) none h
      refine ⟨a, ha, _, rfl, answersWith_sendConnected ⟨rfl, rfl, rfl, rfl, ?_⟩⟩
      simp [failsPubrec, pubrecReasonOf]
    · have hp : (GenericPacket.v311Publish p).publishOf = some (id, .atLeastOnce) := by
        simp [hpub, hid, hq]
      refine .answered ⟨id, hp⟩ hreq fun q h ↦ ?_
      obtain rfl := List.mem_singleton.mp h
      exact ⟨rfl, rfl, by simp [hp], rfl, rfl⟩
    · simp [answersZero]
      grind
  | exactlyOnce =>
    obtain ⟨id, hid⟩ := Option.isSome_iff_exists.mp (hsome.mpr (by simp [hq]))
    have hp : (GenericPacket.v311Publish p).publishOf = some (id, .exactlyOnce) := by
      simp [hpub, hid, hq]
    simp only [hid]
    refine Acts.congr (acts_answerOnce (P := fun q ↦ ackOf q = some (.pubrec, id) ∧ ¬ failsPubrec q)
      (@answer_spec w _ id _ _ _ _ _ _ (fun h ↦ ?_) fun h ↦ ?_) hp hp ?_ fun q hq ↦ hq) ?_
    · subst h
      exact ⟨_, V311.Ack.build_zero none⟩
    · obtain ⟨a, ha, hid', hcode⟩ := V311.Ack.build_spec (C := PubrecReasonCode) none h
      refine ⟨a, ha, _, rfl, answersWith_sendConnected ⟨?_, ?_⟩⟩
      · simp [ackOf, hid']
      · simp [failsPubrec, pubrecReasonOf, hcode]
    · refine Session.ext rfl rfl rfl rfl rfl rfl ?_ rfl rfl rfl
      ext u
      simp [session]
    · simp [answersZero, answers]
      grind

section PublishV50

variable {p p' : V50.Publish w}

def TopicFits (c : GenericConnection w) (p : V50.Publish w) : Prop :=
  p.topicName.isEmpty → ∀ topic, c.recvTopic p = some topic → p.ExtractsTopic topic

def recvAlias (c : GenericConnection w) (a : U16) : Option Utf8String :=
  c.topicAliasRecv.bind fun r ↦ r.get a

structure Resolved (c c' : GenericConnection w) (p p' : V50.Publish w) : Prop where
  same : SameId p p'
  frame : c' = { c with topicAliasRecv := c'.topicAliasRecv }
  topic : if p.topicName.isEmpty then c.recvTopic p = some p'.topicName.asStr
    else p'.topicName = p.topicName
  fields : if p.topicName.isEmpty then V50.Publish.Relengthed
      { p with topicName := p'.topicName, topicNameExtracted := true } p' else p' = p
  max : c'.topicAliasRecv.map TopicAliasRecv.max = c.topicAliasRecv.map TopicAliasRecv.max
  aliases : ∀ a, c'.recvAlias a =
    if ¬ p.topicName.isEmpty ∧ (V50.topicAliasOf p.props).map Subtype.val = some a then
      some p.topicName.asStr else c.recvAlias a

theorem resolveTopic_spec : (c.resolveTopic p).Spec
    (fun r ↦ c.TopicFits p ∧ (r = none ↔ ¬ c.Resolves p) ∧
      ∀ p' c', r = some (p', c') → Resolved c c' p p') (¬ c.TopicFits p) := by
  unfold resolveTopic
  cases ha : V50.topicAliasOf p.props with
  | none =>
    have hfits : c.TopicFits p := fun _ topic h ↦ by simp [recvTopic, ha] at h
    by_cases ht : p.topicName.isEmpty
    · have hres : ¬ c.Resolves p := by simp [Resolves, ht, recvTopic, ha]
      simp only [ht, if_true]
      exact ⟨hfits, by simp [hres], by simp⟩
    · have hres : c.Resolves p := by simp [Resolves, ht, ha]
      simp only [ht]
      refine ⟨hfits, by simp [hres], fun p' c' h ↦ ?_⟩
      cases h
      exact ⟨⟨rfl, rfl⟩, rfl, by simp [ht], by simp [ht], rfl, by simp [ha]⟩
  | some ta =>
    cases hr : c.topicAliasRecv with
    | none =>
      have hfits : c.TopicFits p := fun _ topic h ↦ by simp [recvTopic, ha, hr] at h
      have hres : ¬ c.Resolves p := by simp [Resolves, recvTopic, ha, hr, validRecvAlias]
      exact ⟨hfits, by simp [hres], by simp⟩
    | some r =>
      dsimp only
      by_cases hv : c.validRecvAlias ta
      swap
      · have hfits : c.TopicFits p := fun _ topic h ↦ by simp [recvTopic, ha, hr, hv] at h
        have hres : ¬ c.Resolves p := by simp [Resolves, recvTopic, ha, hr, hv]
        rw [if_pos hv]
        exact ⟨hfits, by simp [hres], by simp⟩
      rw [if_neg (not_not.mpr hv)]
      by_cases ht : p.topicName.isEmpty
      · rw [if_pos ht]
        have htopic : c.recvTopic p = r.get ta := by simp [recvTopic, ha, hr, hv]
        cases hg : r.get ta with
        | none =>
          have hres : ¬ c.Resolves p := by simp [Resolves, ht, htopic, hg]
          exact ⟨fun _ topic h ↦ by simp [htopic, hg] at h, by simp [hres], by simp⟩
        | some topic =>
          have hfits : c.TopicFits p ↔ p.ExtractsTopic topic := by simp [TopicFits, ht, htopic, hg]
          have hres : c.Resolves p ↔ V50.Publish.IsTopicName topic := by
            simp [Resolves, ht, htopic, hg]
          have hspec := V50.Publish.addExtractedTopicName_spec ht topic
          dsimp only
          cases he : p.addExtractedTopicName topic with
          | ok p' =>
            rw [he] at hspec
            obtain ⟨hn, hex, hid, hqos, htop, hfields⟩ := hspec
            refine ⟨hfits.mpr hex, by simp [hres, hn], fun p'' c' h ↦ ?_⟩
            cases h
            exact ⟨⟨hid, hqos⟩, rfl, by simp [ht, htopic, hg, htop], by rwa [if_pos ht], rfl, by simp [ht]⟩
          | err e =>
            rw [he] at hspec
            exact ⟨hfits.mpr fun h ↦ (hspec h).elim, by simpa [hres] using hspec, by simp⟩
          | panic =>
            rw [he] at hspec
            exact hfits.not.mpr hspec
      · rw [if_neg ht]
        have hres : c.Resolves p := by simp [Resolves, ht, ha, hv]
        have hfits : c.TopicFits p := fun h ↦ (ht h).elim
        have hle : ta.val ≤ r.max := by simpa [validRecvAlias, hr] using hv
        have h1 : 1 ≤ ta.val := by
          have := Fin.val_ne_of_ne ta.property
          simp only [Fin.le_def, Fin.val_one, Fin.val_zero] at *
          omega
        refine (@TopicAliasRecv.insertOrUpdate_spec r p.topicName.asStr ta).bind
          (fun r' ⟨_, hmax, hget⟩ ↦ ?_) fun h ↦ (h ⟨ht, h1, hle⟩).elim
        refine ⟨hfits, by simp [hres], fun p' c' h ↦ ?_⟩
        cases h
        refine ⟨⟨rfl, rfl⟩, rfl, by simp [ht], by simp [ht], by simpa [hr, TopicAliasRecv.max] using hmax, fun a ↦ ?_⟩
        simp [recvAlias, hr, hget, ht, ha, eq_comm]

def AnswerTo (answer : Answer) (id : Option (PacketId w)) (q : GenericPacket w) : Prop :=
  answer ≠ .nothing ∧ Mild q ∧ (answer = .pubrec → ∃ u, id = some u ∧ ackOf q = some (.pubrec, u))

theorem respond_spec {answer : Answer} {id : Option (PacketId w)}
    (hid : answer ≠ .nothing → id.isSome) : (c.respond answer id).Spec
      (fun r ↦ (id = some 0 → answer = .nothing) ∧ c.AnswersWith (AnswerTo answer id) r)
      (¬ (id = some 0 → answer = .nothing)) := by
  cases answer with
  | nothing => exact ⟨fun _ ↦ rfl, answersWith_nothing⟩
  | puback =>
    obtain ⟨u, rfl⟩ := Option.isSome_iff_exists.mp (hid (by simp))
    unfold respond
    by_cases h0 : u = 0
    · subst h0
      simp [V50.Ack.build_zero]
    · obtain ⟨a, ha, -⟩ := V50.Ack.build_spec (C := PubackReasonCode) none h0
      obtain ⟨r, hr, hans⟩ := @answersWith_limitedRequest w c (c.answered a.packetId)
        (.v50Puback a) (AnswerTo .puback (some u)) a.size .packetNotAllowedToSend rfl
        ⟨by simp, ⟨rfl, rfl, rfl, rfl, by simp [failsPubrec, pubrecReasonOf]⟩, by simp⟩
      have : c.processSendV50Puback a = .ret r := hr
      simp only [ha, Fallible.unwrap_ok, Outcome.ret_bind, this]
      exact ⟨by simp [h0], hans⟩
  | pubrec =>
    obtain ⟨u, rfl⟩ := Option.isSome_iff_exists.mp (hid (by simp))
    unfold respond
    by_cases h0 : u = 0
    · subst h0
      simp [V50.Ack.build_zero]
    · obtain ⟨a, ha, hu, hcode, -⟩ := V50.Ack.build_spec (C := PubrecReasonCode) none h0
      obtain ⟨r, hr, hans⟩ := @answersWith_limitedRequest w c c
        (.v50Pubrec a) (AnswerTo .pubrec (some u)) a.size .packetNotAllowedToSend rfl
        ⟨by simp, ⟨rfl, rfl, rfl, rfl, by simp [failsPubrec, pubrecReasonOf, hcode]⟩,
          fun _ ↦ ⟨u, rfl, by simp [ackOf, hu]⟩⟩
      have : c.processSendV50Pubrec a = .ret r := by
        unfold processSendV50Pubrec
        simpa [hcode] using hr
      simp only [ha, Fallible.unwrap_ok, Outcome.ret_bind, this]
      exact ⟨by simp [h0], hans⟩

/-- The rest of the handler, once the identifier of the PUBLISH is noted. -/
theorem acts_admitted {admission : Admission} (hid : admission.answer ≠ .nothing → p.packetId.isSome)
    (hdrop : ∀ r, ¬ c'.Resolves p → Refused c' r → Change c (.receive (.v50Publish p)) r.1.session (report r.2))
    (hdone : ∀ p' requested errors, SameId p p' →
      (∀ q ∈ requested, AnswerTo admission.answer p.packetId q) →
      Change c (.receive (.v50Publish p)) c'.session
        ⟨requested, if admission.alreadyHandled then [] else [.v50Publish p'], [], errors⟩) :
    c.Acts (.receive (.v50Publish p))
      (c'.TopicFits p ∧ (c'.Resolves p → p.packetId = some 0 → admission.answer = .nothing))
      (do
        match ← c'.resolveTopic p with
        | none => c'.handleV50Error .topicAliasInvalid
        | some (p', c') =>
          let (c', events) ← c'.respond admission.answer p'.packetId
          let (c', timers) := c'.refreshPingreqRecv
          return (c', events ++ timers ++
            if admission.alreadyHandled then [] else [.notifyPacketReceived (.v50Publish p')])) := by
  refine resolveTopic_spec.bind (fun r ⟨hfits, hnone, hres⟩ ↦ ?_) fun h h' ↦ h h'.1
  cases r with
  | none =>
    obtain ⟨r, hr, href⟩ := c'.handleV50Error_spec .topicAliasInvalid
    dsimp only
    rw [hr]
    exact ⟨⟨hfits, fun h ↦ (hnone.mp rfl h).elim⟩, hdrop r (hnone.mp rfl) href⟩
  | some a =>
    obtain ⟨p', c₁⟩ := a
    have hr := hres p' c₁ rfl
    have hres' : c'.Resolves p := by
      by_contra h
      simpa using hnone.mpr h
    have hid' : p'.packetId = p.packetId := hr.same.1
    have hs₁ : c₁.session = c'.session := by
      rw [hr.frame]
      rfl
    dsimp only
    rw [hid']
    refine (respond_spec hid).bind (fun r ⟨hsafe, hs, req, err, hrep, hreq⟩ ↦ ?_)
      fun h h' ↦ h (h'.2 hres')
    have ht := timersOnly_refreshPingreqRecv (c := r.1)
    have hsess : r.1.refreshPingreqRecv.1.session = c'.session := by
      rw [idle_refreshPingreqRecv.session, status_refreshPingreqRecv, ← hs₁, ← hs]
      rfl
    have hrep' : report (r.2 ++ r.1.refreshPingreqRecv.2 ++
        if admission.alreadyHandled then [] else [.notifyPacketReceived (.v50Publish p')]) =
        ⟨req, if admission.alreadyHandled then [] else [.v50Publish p'], [], err⟩ := by
      simp only [report, Report.mk.injEq] at hrep ⊢
      split <;> simp_all [ht.requested, ht.notified, ht.released, ht.errors]
    suffices h : Change c (.receive (.v50Publish p)) r.1.refreshPingreqRecv.1.session
        (report (r.2 ++ r.1.refreshPingreqRecv.2 ++
          if admission.alreadyHandled then [] else [.notifyPacketReceived (.v50Publish p')])) from
      ⟨⟨hfits, fun _ ↦ hsafe⟩, h⟩
    rw [hsess, hrep']
    exact hdone p' req err hr.same hreq

theorem Refused.change_of (h : Refused c' r) (hs : c'.session = c.session) :
    Change c input r.1.session (report r.2) := by
  rw [h.idle.session, report, h.notified, h.released, hs]
  have hst : c'.status = c.status := congrArg Session.status hs
  exact .refused (.inl rfl) (fun hr ↦ hst ▸ h.status hr) h.requested h.errors

theorem acts_recvV50Publish (p : V50.Publish w) :
    c.Acts (.receive (.v50Publish p))
      (c.admits p → c.TopicFits p ∧ (c.Resolves p → p.packetId = some 0 → ¬ c.answersZero p.qos))
      (c.recvV50Publish p) := by
  have hsome : p.packetId.isSome ↔ p.qos ≠ .atMostOnce := p.id.2
  have hpub : (GenericPacket.v50Publish p).publishOf = p.packetId.map (·, p.qos) := rfl
  unfold recvV50Publish admitPublish
  cases hq : p.qos with
  | atMostOnce =>
    have hid : p.packetId = none := by simpa [hq] using hsome
    refine Acts.congr (@acts_admitted w c c p ⟨.nothing, false⟩ (by simp)
      (fun r _ h ↦ h.change) fun p' req err hsame hreq ↦ ?_) (by simp [admits, hq, hid])
    refine .idle ⟨rfl, rfl, by simp [hpub, hid], rfl, rfl⟩ (fun h ↦ h) (fun q hq ↦ ?_) fun q h ↦ ?_
    · exact ((hreq q hq).1 rfl).elim
    · obtain rfl := List.mem_singleton.mp h
      exact ⟨rfl, rfl, by simp [GenericPacket.publishOf, hsame.1, hid], rfl, rfl⟩
  | atLeastOnce =>
    obtain ⟨id, hid⟩ := Option.isSome_iff_exists.mp (hsome.mpr (by simp [hq]))
    simp only [hid]
    by_cases hm : c.recvMaximumReached
    · rw [if_pos hm]
      refine (acts_refusal (c.handleV50Error_spec _)).congr (by simp [admits, hq, hm])
    rw [if_neg hm]
    refine Acts.congr (@acts_admitted w c _ p ⟨if c.answers then .puback else .nothing, false⟩
      (by simp [hid]) (fun r _ h ↦ h.change_of rfl) fun p' req err hsame hreq ↦ ?_) ?_
    · refine .answered ⟨id, by simp [hpub, hid, hq]⟩ (fun q hq ↦ (hreq q hq).2.1) fun q h ↦ ?_
      obtain rfl := List.mem_singleton.mp h
      exact ⟨rfl, rfl, by simp [GenericPacket.publishOf, hsame.1, hsame.2, hid, hq], rfl, rfl⟩
    · have htopic : { c with publishRecv := c.publishRecv.insert id }.TopicFits p ↔ c.TopicFits p :=
        Iff.rfl
      have hres : { c with publishRecv := c.publishRecv.insert id }.Resolves p ↔ c.Resolves p :=
        Iff.rfl
      simp [htopic, hres, admits, hm, hid, answersZero]
  | exactlyOnce =>
    obtain ⟨id, hid⟩ := Option.isSome_iff_exists.mp (hsome.mpr (by simp [hq]))
    have hp : (GenericPacket.v50Publish p).publishOf = some (id, .exactlyOnce) := by
      simp [hpub, hid, hq]
    simp only [hid]
    by_cases hm : c.recvMaximumReached
    · rw [if_pos hm]
      refine (acts_refusal (c.handleV50Error_spec _)).congr (by simp [admits, hq, hm])
    rw [if_neg hm]
    have hs : { c with
        publishRecv := c.publishRecv.insert id
        qos2PublishHandled := c.qos2PublishHandled.insert id }.session =
        { c.session with handled := insert id c.session.handled } := by
      refine Session.ext rfl rfl rfl rfl rfl rfl ?_ rfl rfl rfl
      ext u
      simp [session]
    simp only [decide_eq_true_eq]
    refine Acts.congr (@acts_admitted w c _ p ⟨if c.status = .connected ∧
        (c.autoPubResponse ∨ id ∈ c.qos2PublishHandled) then .pubrec else .nothing,
        decide (id ∈ c.qos2PublishHandled)⟩ (by simp [hid]) (fun r hno h ↦ ?_)
      fun p' req err hsame hreq ↦ ?_) ?_
    · rw [h.idle.session, hs, report, h.notified, h.released]
      exact .publishDropped hid hq (by simp [admits, hm]) hno h.status h.requested h.errors
    · rw [hs]
      simp only [decide_eq_true_eq]
      refine .publishReceived hp (by simp [GenericPacket.publishOf, hsame.1, hsame.2, hid, hq])
        fun q h ↦ ?_
      obtain ⟨hne, hmild, hrec⟩ := hreq q h
      obtain ⟨u, hu, hack⟩ := hrec (by split at hne <;> simp_all)
      obtain rfl := Option.some.inj (hid.symm.trans hu)
      exact ⟨hack, hmild.2.2.2.2⟩
    · have htopic : { c with
          publishRecv := c.publishRecv.insert id
          qos2PublishHandled := c.qos2PublishHandled.insert id }.TopicFits p ↔ c.TopicFits p := Iff.rfl
      have hres : { c with
          publishRecv := c.publishRecv.insert id
          qos2PublishHandled := c.qos2PublishHandled.insert id }.Resolves p ↔ c.Resolves p := Iff.rfl
      simp only [htopic, hres, admits, hm, hid, answersZero, answers]
      grind

end PublishV50

end MqttProtocolCore.Connection.GenericConnection
