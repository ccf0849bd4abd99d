import MqttProtocolCore.Connection.PublishSpec

namespace MqttProtocolCore.Connection.GenericConnection

open General Packet

variable {w : IdWidth} {c c' : GenericConnection w} {input : Input w} {packet : GenericPacket w}
  {id : PacketId w} {x : Outcome (Handled w)} {safe : Prop} {r : Handled w}
  {P : GenericPacket w → Prop}

theorem acts_refusal (h : ∃ r, x = .ret r ∧ Refused c r) : c.Acts input True x := by
  obtain ⟨r, rfl, hr⟩ := h
  exact acts_of_change hr.change

theorem session_received : (c.received packet).1.session = c.session := by
  rw [idle_received.session, status_received]
  rfl

theorem change_received {s : Session w} {events : List (GenericEvent w)} {rep : Report w}
    (hs : c'.session = s) (hrep : report events = rep)
    (h : Change c input s { rep with notified := rep.notified ++ [packet] }) :
    Change c input (c'.received packet).1.session (report (events ++ (c'.received packet).2)) := by
  subst hs hrep
  rw [session_received]
  simpa [report] using h

theorem change_notified {s : Session w} (hs : c'.session = s)
    (h : Change c input s ⟨[], [packet], [], []⟩) :
    Change c input (c'.received packet).1.session (report (c'.received packet).2) :=
  @change_received w c c' input packet s [] ⟨[], [], [], []⟩ hs rfl h

theorem session_openedBy {b : Bool} {ms : ℕ} :
    (if 0 < ms then { { c with status := .connecting }.initializeState b with
        pingreqRecvTimeoutMs := ms * 1000 * 3 / 2 }
      else { c with status := .connecting }.initializeState b).session =
    c.session.opened c.protocolVersion false false none := by
  have : ({ c with status := .connecting }.initializeState b).session =
      c.session.opened c.protocolVersion false false none := by
    refine Session.ext rfl rfl rfl rfl ?_ rfl rfl rfl rfl rfl
    funext kind
    cases kind <;> simp [session, awaiting, initializeState, Session.opened, Session.publishes]
  split
  · exact this
  · exact this

theorem acts_recvV311Connect (p : V311.Connect) :
    c.Acts (.receive (.v311Connect p)) True (c.deliver (.v311Connect p)) := by
  change c.Acts _ _ (if c.status ≠ .disconnected then c.handleV311Error .protocolError
    else .ret ({ c with status := .connecting }.recvV311Connect p))
  by_cases hc : c.status = .disconnected
  · rw [if_neg (not_not.mpr hc)]
    refine acts_of_change (change_notified (session_clearedOrKept session_openedBy) ?_)
    exact @Change.connectReceived w c (.v311Connect p) p.cleanStart c.protocolVersion rfl hc (.inl rfl)
  · rw [if_pos hc]
    exact acts_refusal (c.handleV311Error_spec _)

def AliasMaximumFits (props : Properties) : Prop := ∀ v, .topicAliasMaximum v ∈ props → v ≠ 0

theorem noteConnect_spec (prop : Property) : (c.noteConnect prop).Spec
    (fun c' ↦ (∀ v, prop = .topicAliasMaximum v → v ≠ 0) ∧ c'.session = { c.session with
      keeps := expiresLater prop || c.session.keeps
      quota := receiveMaximumOf c.session.quota [prop] })
    (¬ ∀ v, prop = .topicAliasMaximum v → v ≠ 0) := by
  cases prop with
  | topicAliasMaximum v =>
    refine TopicAliasSend.new_spec.bind (fun s ⟨h0, _⟩ ↦ ⟨?_, rfl⟩) fun h h' ↦ h' v rfl h
    intro v' hv'
    cases hv'
    exact h0
  | sessionExpiryInterval v =>
    by_cases hv : v = 0 <;> simp [noteConnect, expiresLater, receiveMaximumOf, hv]
    rfl
  | _ => exact ⟨by simp, rfl⟩

theorem noteConnect_all (props : Properties) : (props.foldlM noteConnect c).Spec
    (fun c' ↦ AliasMaximumFits props ∧ c'.session = { c.session with
      keeps := props.any expiresLater || c.session.keeps
      quota := receiveMaximumOf c.session.quota props }) (¬ AliasMaximumFits props) := by
  induction props generalizing c with
  | nil => exact ⟨by simp [AliasMaximumFits], rfl⟩
  | cons prop props ih =>
    rw [List.foldlM_cons]
    have hcons : AliasMaximumFits (prop :: props) ↔
        (∀ v, prop = .topicAliasMaximum v → v ≠ 0) ∧ AliasMaximumFits props := by
      simp [AliasMaximumFits, forall_and, or_imp, eq_comm]
    rw [hcons]
    refine (noteConnect_spec prop).bind (fun c₁ ⟨h₁, hs₁⟩ ↦ ?_) fun h h' ↦ h h'.1
    refine ih.mono (fun c₂ ⟨h₂, hs₂⟩ ↦ ⟨⟨h₁, h₂⟩, ?_⟩) fun h h' ↦ h h'.2
    rw [hs₂, hs₁]
    simp [receiveMaximumOf, Bool.or_left_comm, Bool.or_assoc]

theorem acts_recvV50Connect (p : V50.Connect) :
    c.Acts (.receive (.v50Connect p)) (c.status = .disconnected → AliasMaximumFits p.props)
      (c.deliver (.v50Connect p)) := by
  change c.Acts _ _ (if c.status ≠ .disconnected then c.handleV50Error .protocolError
    else { c with status := .connecting }.recvV50Connect p)
  by_cases hc : c.status = .disconnected
  · rw [if_neg (not_not.mpr hc)]
    suffices h : c.Acts (.receive (.v50Connect p)) (AliasMaximumFits p.props)
        ({ c with status := .connecting }.recvV50Connect p) from h.congr (by simp [hc])
    unfold recvV50Connect
    refine (noteConnect_all p.props).bind ?_ fun h ↦ h
    rintro c' ⟨hfits, hs⟩
    refine ⟨hfits, change_notified ?_ (@Change.connectReceived w c (.v50Connect p) p.cleanStart
      c.protocolVersion rfl hc (.inl rfl))⟩
    refine hs.trans ((congrArg (fun s : Session w ↦ { s with
      keeps := p.props.any expiresLater || s.keeps
      quota := receiveMaximumOf s.quota p.props }) (session_cleared session_openedBy)).trans ?_)
    cases p.cleanStart <;> simp [Session.opened, Session.clear, keepsSession, quotaAfter]
  · rw [if_pos hc]
    exact (acts_refusal (c.handleV50Error_spec _)).congr (by simp [hc])

theorem canResend_congr {limit : ℕ} (hs : c'.session.stored = c.session.stored)
    (hu : c'.session.used = c.session.used) : c'.CanResend limit ↔ c.CanResend limit := by
  have hu' (id : PacketId w) : c'.pidMan.isUsedId id = c.pidMan.isUsedId id := by
    have : id ∈ c'.session.used ↔ id ∈ c.session.used := by rw [hu]
    exact Bool.eq_iff_iff.mpr this
  have hs' : c'.store.get = c.store.get := hs
  simp only [CanResend, Unreleasable, hu', hs']

structure Noted (c : GenericConnection w) (r : Handled w) (props : Properties) : Prop where
  session : r.1.session = { c.session with quota := receiveMaximumOf c.session.quota props }
  limit : r.1.maximumPacketSizeSend = sizeLimitOf c.maximumPacketSizeSend props
  timers : TimersOnly r.2

theorem noteConnack_spec (prop : Property) :
    ∃ r, c.noteConnack prop = .ret r ∧ Noted c r [prop] := by
  have hnone : TimersOnly ([] : List (GenericEvent w)) := ⟨rfl, rfl, rfl, rfl⟩
  cases prop with
  | topicAliasMaximum v =>
    by_cases hv : v > 0
    · have hs := @TopicAliasSend.new_spec v
      cases hn : TopicAliasSend.new v with
      | ret s =>
        refine ⟨({ c with topicAliasSend := some s }, []), ?_, rfl, rfl, hnone⟩
        simp only [noteConnack, hv, if_true, hn, Outcome.ret_bind, Outcome.pure_eq]
      | panic =>
        rw [hn] at hs
        exact absurd (show v = 0 from hs) (Fin.pos_iff_ne_zero.mp hv)
    · exact ⟨(c, []), by simp only [noteConnack, hv, if_false, Outcome.pure_eq], rfl, rfl, hnone⟩
  | serverKeepAlive v =>
    simp only [noteConnack]
    split
    · exact ⟨_, rfl, rfl, rfl, hnone⟩
    · split
      · exact ⟨_, rfl, rfl, rfl, timersOnly_cancelEvents ..⟩
      · exact ⟨_, rfl, rfl, rfl, ⟨rfl, rfl, rfl, rfl⟩⟩
  | _ => exact ⟨_, rfl, rfl, rfl, hnone⟩

theorem noteAll_spec (props : Properties) : ∃ r, c.noteAll props = .ret r ∧ Noted c r props := by
  induction props generalizing c with
  | nil => exact ⟨_, rfl, rfl, rfl, ⟨rfl, rfl, rfl, rfl⟩⟩
  | cons prop props ih =>
    obtain ⟨⟨c₁, events⟩, h₁, hs₁, hl₁, ht₁⟩ := noteConnack_spec (c := c) prop
    obtain ⟨⟨c₂, rest⟩, h₂, hs₂, hl₂, ht₂⟩ := ih (c := c₁)
    refine ⟨(c₂, events ++ rest), by simp [noteAll, h₁, h₂], ?_, ?_, ?_⟩
    · dsimp only at hs₁ hs₂ ⊢
      rw [hs₂, hs₁]
      rfl
    · dsimp only at hl₁ hl₂ ⊢
      rw [hl₂, hl₁]
      rfl
    · constructor
      · simp [ht₁.requested, ht₂.requested]
      · simp [ht₁.notified, ht₂.notified]
      · simp [ht₁.released, ht₂.released]
      · simp [ht₁.errors, ht₂.errors]

theorem acts_resumeSession {present : Bool} {before : List (GenericEvent w)}
    (hp : packet.connackOf = some present) (ht : TimersOnly before)
    (hs : c'.session = { c.session with
      status := .connected
      quota := quotaAfter c.session.quota packet })
    (hl : c'.maximumPacketSizeSend = limitAfter c.maximumPacketSizeSend packet) :
    c.Acts (.receive packet) (present → c.CanResend c'.maximumPacketSizeSend)
      (c'.resumeSession present >>= fun r ↦
        .ret (r.1, before ++ r.2 ++ [.notifyPacketReceived packet])) := by
  cases present with
  | true =>
    have hcan : c'.CanResend c'.maximumPacketSizeSend ↔ c.CanResend c'.maximumPacketSizeSend :=
      canResend_congr (by rw [hs]) (by rw [hs])
    refine sendStored_spec.bind (fun ⟨c₁, events⟩ ⟨hok, _, req, rel, hrep, hres⟩ ↦ ?_)
      fun h h' ↦ h (hcan.mpr (h' rfl))
    refine ⟨fun _ ↦ hcan.mp hok, ?_⟩
    have hrep' : report (before ++ events ++ [.notifyPacketReceived packet]) =
        ⟨req, [packet], rel, []⟩ := by
      simp only [report, Report.mk.injEq] at hrep ⊢
      simp [hrep, ht.requested, ht.notified, ht.released, ht.errors]
    rw [hs, hl] at hres
    suffices h : Change c (.receive packet) c₁.session
        (report (before ++ events ++ [.notifyPacketReceived packet])) from h
    rw [hrep']
    exact .connackResumes hp hres
  | false =>
    refine ⟨by simp, ?_⟩
    have hrep : report (before ++ [] ++ [.notifyPacketReceived packet]) =
        ⟨[], [packet], [], []⟩ := by
      simp [report, ht.requested, ht.notified, ht.released, ht.errors]
    suffices h : Change c (.receive packet) c'.clearStoreRelated.session
        (report (before ++ [] ++ [.notifyPacketReceived packet])) from h
    rw [hrep, session_clearStoreRelated, hs]
    exact .connackAnew hp

theorem change_calm (hp : (Input.receive packet).Calm) :
    Change c (.receive packet) c.session ⟨[], [packet], [], []⟩ := by
  refine @Change.idle w c (.receive packet) c.status [] [packet] [] hp (fun h ↦ h) (by simp) ?_
  intro p h
  obtain rfl := List.mem_singleton.mp h
  exact hp

theorem acts_recvV311Connack (p : V311.Connack) :
    c.Acts (.receive (.v311Connack p))
      (p.returnCode = .accepted → p.sessionPresent → c.CanResend c.maximumPacketSizeSend)
      (c.recvV311Connack p) := by
  unfold recvV311Connack
  by_cases hacc : p.returnCode = .accepted
  · rw [if_pos hacc]
    refine (@acts_resumeSession w c { c with status := .connected } (.v311Connack p)
      p.sessionPresent [] (if_pos hacc) ⟨rfl, rfl, rfl, rfl⟩ rfl rfl).congr (by simp [hacc])
  · rw [if_neg hacc]
    have hcalm : (Input.receive (.v311Connack p : GenericPacket w)).Calm :=
      ⟨rfl, if_neg hacc, rfl, rfl, rfl⟩
    exact (acts_of_change (change_calm hcalm)).congr (by simp [hacc])

theorem acts_recvV50Connack (p : V50.Connack) :
    c.Acts (.receive (.v50Connack p))
      (p.reasonCode = .success → p.sessionPresent →
        c.CanResend (sizeLimitOf c.maximumPacketSizeSend p.props))
      (c.recvV50Connack p) := by
  unfold recvV50Connack
  by_cases hacc : p.reasonCode = .success
  · obtain ⟨⟨c', events⟩, h, hs, hl, ht⟩ := noteAll_spec (c := { c with status := .connected }) p.props
    rw [if_pos hacc, h]
    dsimp only at hs hl ht
    refine (@acts_resumeSession w c c' (.v50Connack p) p.sessionPresent events (if_pos hacc) ht
      hs hl).congr ?_
    simp [hacc, hl]
  · rw [if_neg hacc]
    have hcalm : (Input.receive (.v50Connack p : GenericPacket w)).Calm :=
      ⟨rfl, if_neg hacc, rfl, rfl, rfl⟩
    exact (acts_of_change (change_calm hcalm)).congr (by simp [hacc])

def AnswersWith (c : GenericConnection w) (P : GenericPacket w → Prop) (r : Handled w) : Prop :=
  r.1.session = c.session ∧
    ∃ requested errors, report r.2 = ⟨requested, [], [], errors⟩ ∧ ∀ p ∈ requested, P p

theorem answersWith_nothing : c.AnswersWith P (c, []) := ⟨rfl, [], [], rfl, by simp⟩

theorem answersWith_reject (e : MqttError) : c.AnswersWith P (c.reject e) :=
  ⟨rfl, [], [e], rfl, by simp⟩

theorem answersWith_request (hs : c'.session = c.session) (hp : P packet) :
    c.AnswersWith P (c'.request packet none) := by
  refine ⟨?_, [packet], [], ?_, by simpa using hp⟩
  · rw [idle_request.session, status_request]
    exact hs
  · rw [report, requested_request, notified_request, released_request, errors_request]

theorem answersWith_sendConnected (hp : P packet) : c.AnswersWith P (c.sendConnected packet) := by
  unfold sendConnected
  split
  · exact answersWith_reject _
  · exact answersWith_request rfl hp

theorem answersWith_limited {size : ℕ} (h : c.AnswersWith P r) :
    ∃ r', c.limited size (.ret r) = .ret r' ∧ c.AnswersWith P r' := by
  unfold limited
  split
  · exact ⟨r, rfl, h⟩
  · exact ⟨_, rfl, answersWith_reject _⟩

theorem answersWith_limitedRequest {size : ℕ} {e : MqttError} (hs : c'.session = c.session)
    (hp : P packet) : ∃ r, c.limited size
      (if c.status ≠ .connected then .ret (c.reject e) else .ret (c'.request packet none)) = .ret r ∧
        c.AnswersWith P r := by
  by_cases hc : c.status = .connected
  · rw [if_neg (not_not.mpr hc)]
    exact answersWith_limited (answersWith_request hs hp)
  · rw [if_pos hc]
    exact answersWith_limited (answersWith_reject e)

theorem answer_spec {α : Type} {p : Prop} [Decidable p] {build : Fallible MqttError α}
    {send : α → Outcome (Handled w)} (h0 : id = 0 → ∃ e, build = .err e)
    (h : id ≠ 0 → ∃ a, build = .ok a ∧ ∃ r, send a = .ret r ∧ c.AnswersWith P r) :
    (c.respondIf p (build.unwrap >>= send)).Spec
      (fun r ↦ (p → id ≠ 0) ∧ c.AnswersWith P r) (¬ (p → id ≠ 0)) := by
  unfold respondIf
  by_cases hp : p
  · rw [if_pos hp]
    by_cases hid : id = 0
    · obtain ⟨e, he⟩ := h0 hid
      rw [he]
      exact fun h ↦ h hp hid
    · obtain ⟨a, ha, r, hr, hans⟩ := h hid
      rw [ha, Fallible.unwrap_ok, Outcome.ret_bind, hr]
      exact ⟨fun _ ↦ hid, hans⟩
  · rw [if_neg hp]
    exact ⟨fun h ↦ (hp h).elim, answersWith_nothing⟩

theorem acts_answer (hx : x.Spec (fun r ↦ safe ∧ c'.AnswersWith P r) (¬ safe))
    (hc : ∀ requested errors, (∀ p ∈ requested, P p) →
      Change c input c'.session ⟨requested, [packet], [], errors⟩) :
    c.Acts input safe (x >>= fun r ↦
      .ret ((r.1.received packet).1, r.2 ++ (r.1.received packet).2)) := by
  refine hx.bind (fun r ⟨hsafe, hs, req, err, hrep, hreq⟩ ↦ ?_) fun h ↦ h
  exact ⟨hsafe, change_received hs hrep (hc req err hreq)⟩

theorem acts_received (hp : (Input.receive packet).Calm) :
    c.Acts (.receive packet) True (.ret (c.received packet)) :=
  acts_of_change (change_notified rfl (change_calm hp))

theorem acts_recvV311Pingreq (p : V311.Pingreq) :
    c.Acts (.receive (.v311Pingreq p)) True (c.recvV311Pingreq p) := by
  obtain ⟨a, ha, -⟩ := V311.Empty.new_spec
  unfold recvV311Pingreq
  refine @acts_answer w c c _ _ _ True Silent ?_ fun req err hreq ↦ ?_
  · unfold respondIf
    split
    · simp only [ha, Fallible.unwrap_ok, Outcome.ret_bind]
      exact ⟨trivial, answersWith_sendConnected ⟨rfl, rfl, rfl, rfl, rfl⟩⟩
    · exact ⟨trivial, answersWith_nothing⟩
  · refine @Change.idle w c _ c.status req _ err ⟨rfl, rfl, rfl, rfl, rfl⟩ (fun h ↦ h) hreq ?_
    exact fun p hp ↦ List.mem_singleton.mp hp ▸ ⟨rfl, rfl, rfl, rfl, rfl⟩

theorem acts_recvV50Pingreq (p : V311.Pingreq) :
    c.Acts (.receive (.v50Pingreq p)) True (c.recvV50Pingreq p) := by
  obtain ⟨a, ha, -⟩ := V311.Empty.new_spec
  unfold recvV50Pingreq
  refine @acts_answer w c c _ _ _ True Silent ?_ fun req err hreq ↦ ?_
  · unfold respondIf
    split
    · simp only [ha, Fallible.unwrap_ok, Outcome.ret_bind]
      obtain ⟨r, hr, hans⟩ := @answersWith_limited w c _ _ a.size
        (@answersWith_sendConnected w c (.v50Pingresp a) Silent ⟨rfl, rfl, rfl, rfl, rfl⟩)
      unfold processSendV50Pingresp
      rw [Outcome.pure_eq, hr]
      exact ⟨trivial, hans⟩
    · exact ⟨trivial, answersWith_nothing⟩
  · refine @Change.idle w c _ c.status req _ err ⟨rfl, rfl, rfl, rfl, rfl⟩ (fun h ↦ h) hreq ?_
    exact fun p hp ↦ List.mem_singleton.mp hp ▸ ⟨rfl, rfl, rfl, rfl, rfl⟩

theorem acts_recvPingresp (hp : (Input.receive packet).Calm) :
    c.Acts (.receive packet) True (.ret (c.recvPingresp packet)) := by
  refine acts_of_change ?_
  have : report (c.recvPingresp packet).2 = ⟨[], [packet], [], []⟩ := by
    simp [recvPingresp, report]
  rw [this]
  exact change_calm hp

theorem acts_recvDisconnect (hp : (Input.receive packet).Calm) :
    c.Acts (.receive packet) True (.ret (c.recvDisconnect packet)) := by
  refine acts_of_change ?_
  have : report (c.recvDisconnect packet).2 = ⟨[], [packet], [], []⟩ := by
    simp [recvDisconnect, cancelTimers, report]
  rw [this]
  exact change_calm hp

end MqttProtocolCore.Connection.GenericConnection
