import MqttProtocolCore.Connection.Change

namespace MqttProtocolCore.Connection.GenericConnection

open General Packet

variable {w : IdWidth} {c c' : GenericConnection w} {r : Handled w} {input : Input w}
  {packet : GenericPacket w} {e : MqttError} {x : Outcome (Handled w)} {id : PacketId w}

/-- The code returns exactly when `safe` holds, and then makes a change that the input can make. -/
def Acts (c : GenericConnection w) (input : Input w) (safe : Prop) (x : Outcome (Handled w)) : Prop :=
  x.Spec (fun r ↦ safe ∧ Change c input r.1.session (report r.2)) (¬ safe)

variable {safe : Prop}

theorem acts_of_change (h : Change c input r.1.session (report r.2)) : c.Acts input True (.ret r) :=
  ⟨trivial, h⟩

theorem Acts.congr {safe' : Prop} (h : c.Acts input safe x) (hs : safe ↔ safe') :
    c.Acts input safe' x := propext hs ▸ h

theorem Refused.change (h : Refused c r) : Change c input r.1.session (report r.2) := by
  rw [h.idle.session, report, h.notified, h.released]
  exact .refused (.inl rfl) h.status h.requested h.errors

theorem acts_reject (e : MqttError) : c.Acts input True (.ret (c.reject e)) :=
  acts_of_change (refused_reject c e).change

theorem acts_guard {p : Prop} [Decidable p] (h : p → c.Acts input safe x) :
    c.Acts input (p → safe) (if p then x else .ret (c.reject e)) := by
  by_cases hp : p
  · rw [if_pos hp]
    exact (h hp).congr (by simp [hp])
  · rw [if_neg hp]
    exact (acts_reject e).congr (by simp [hp])

theorem acts_status {st : ConnectionStatus} (h : c.status = st → c.Acts input safe x) :
    c.Acts input (c.status = st → safe) (if c.status ≠ st then .ret (c.reject e) else x) := by
  by_cases hc : c.status = st
  · rw [if_neg (not_not.mpr hc)]
    exact (h hc).congr (by simp [hc])
  · rw [if_pos hc]
    exact (acts_reject e).congr (by simp [hc])

theorem acts_limited {size : ℕ} (h : c.Acts input safe x) :
    c.Acts input (c.validateMaximumPacketSizeSend size → safe) (c.limited size x) :=
  acts_guard fun _ ↦ h

theorem Acts.always {p : Prop} (h : c.Acts input (p → True) x) : c.Acts input True x :=
  h.congr (by simp)

theorem Plain.change (h : Plain c r packet) (hcalm : input.Calm) (hsilent : Silent packet)
    (hs : r.1.status = .connected → c.status = .connected) :
    Change c input r.1.session (report r.2) := by
  rw [h.idle.session, report, h.notified, h.released]
  refine .idle hcalm hs ?_ (by simp)
  rcases h.sends with ⟨hr, -⟩ | ⟨hr, -⟩ <;> simp [hr, hsilent]

theorem status_sendConnected : (c.sendConnected packet).1.status = c.status := by
  unfold sendConnected
  split
  · rfl
  · exact status_request

theorem status_sendPingreq : (c.sendPingreq packet).1.status = c.status := by
  unfold sendPingreq
  split
  · rfl
  · simp only [status_sendPostProcess, expectPingresp]
    split <;> rfl

theorem acts_sendConnected (hsilent : Silent packet) :
    c.Acts (.send packet) True (.ret (c.sendConnected packet)) :=
  acts_of_change (plain_sendConnected.change hsilent hsilent fun h ↦ status_sendConnected ▸ h)

theorem acts_sendPingreq (hsilent : Silent packet) :
    c.Acts (.send packet) True (.ret (c.sendPingreq packet)) :=
  acts_of_change (plain_sendPingreq.change hsilent hsilent fun h ↦ status_sendPingreq ▸ h)

theorem acts_sendDisconnect (hsilent : Silent packet) :
    c.Acts (.send packet) True (.ret (c.sendDisconnect packet)) :=
  acts_of_change (plain_sendDisconnect.change hsilent hsilent status_sendDisconnect)

theorem acts_sendAck (hack : (ackOf packet).isSome) (hfail : ¬ failsPubrec packet) :
    c.Acts (.send packet) True (.ret (c.sendConnected packet)) := by
  have hplain := @plain_sendConnected w c packet
  refine acts_of_change ?_
  rw [hplain.idle.session, status_sendConnected, report, hplain.notified,
    hplain.released]
  refine .answered hack ?_ (by simp)
  rcases hplain.sends with ⟨hr, -⟩ | ⟨hr, -⟩
  · rw [hr]
    intro p hp
    obtain rfl := List.mem_singleton.mp hp
    refine ⟨?_, ?_, ?_, ?_, hfail⟩ <;> cases p <;> first | rfl | cases hack
  · simp [hr]

theorem session_opened {b : Bool} {ms : ℕ} : { c.initializeState b with
      status := .connecting
      pingreqKeepAliveMs := ms }.session = c.session.opened c.protocolVersion false false none := by
  refine Session.ext rfl rfl rfl rfl ?_ rfl rfl rfl rfl rfl
  funext kind
  cases kind <;> simp [session, awaiting, initializeState, Session.opened, Session.publishes]

theorem session_announceConnect (prop : Property) : (c.announceConnect prop).session =
    { c.session with keeps := expiresLater prop || c.session.keeps } := by
  cases prop with
  | topicAliasMaximum v => by_cases hv : v = 0 <;> simp [announceConnect, hv] <;> rfl
  | sessionExpiryInterval v =>
    by_cases hv : v = 0 <;> simp [announceConnect, expiresLater, hv]
    rfl
  | _ => rfl

theorem session_announceConnect_all (props : Properties) : (props.foldl announceConnect c).session =
    { c.session with keeps := props.any expiresLater || c.session.keeps } := by
  induction props generalizing c with
  | nil => rfl
  | cons prop props ih =>
    rw [List.foldl_cons, ih, session_announceConnect, List.any_cons]
    simp only [Bool.or_left_comm, Bool.or_assoc]

theorem session_cleared {clean : Bool} {c₀ : GenericConnection w} {v : Version} {k : Bool}
    {q : Option ℕ} (h : c'.session = c₀.session.opened v false k q) :
    (if clean then c'.clearStoreRelated else c').session = c₀.session.opened v clean k q := by
  cases clean with
  | false => exact h
  | true =>
    rw [if_pos rfl, session_clearStoreRelated, h]
    rfl

theorem session_clearedOrKept {clean : Bool} {c₀ : GenericConnection w} {v : Version}
    {q : Option ℕ} (h : c'.session = c₀.session.opened v false false q) :
    (if clean then c'.clearStoreRelated else { c' with needStore := true }).session =
      c₀.session.opened v clean (!clean) q := by
  cases clean with
  | false => exact congrArg (fun s : Session w ↦ { s with keeps := true }) h
  | true =>
    rw [if_pos rfl, session_clearStoreRelated, h]
    rfl

theorem acts_connectSent {clean : Bool} (hc : c.status = .disconnected)
    (hp : packet.connectOf = some clean)
    (hs : c'.session = c.session.opened c.protocolVersion clean (keepsSession packet) none) :
    c.Acts (.send packet) True (.ret (c'.request packet none)) := by
  refine acts_of_change ?_
  rw [idle_request.session, status_request, report, requested_request,
    notified_request, released_request, errors_request]
  have : { c'.session with status := c'.status } = c'.session := rfl
  rw [this, hs]
  exact .connectSent hp hc

theorem acts_sendV311Connect (p : V311.Connect) :
    c.Acts (.send (.v311Connect p)) True (.ret (c.processSendV311Connect p)) := by
  unfold processSendV311Connect
  split
  · exact acts_reject _
  rename_i hc
  exact acts_connectSent (not_not.mp hc) rfl (session_clearedOrKept session_opened)

theorem acts_sendV50Connect (p : V50.Connect) :
    c.Acts (.send (.v50Connect p)) True (c.processSendV50Connect p) := by
  unfold processSendV50Connect
  refine (acts_limited ?_).always
  split
  · exact acts_reject _
  rename_i hc
  refine acts_connectSent (not_not.mp hc) rfl ?_
  rw [session_announceConnect_all, session_cleared session_opened, keepsSession]
  cases p.cleanStart <;> simp [Session.opened, Session.clear]

def Announced (c c' : GenericConnection w) : Prop :=
  c' = { c with
    topicAliasRecv := c'.topicAliasRecv
    publishRecvMax := c'.publishRecvMax
    maximumPacketSizeRecv := c'.maximumPacketSizeRecv
    pingreqRecvSet := c'.pingreqRecvSet
    pingreqRecvTimeoutMs := c'.pingreqRecvTimeoutMs }

theorem Announced.refl (c : GenericConnection w) : Announced c c := rfl

theorem Announced.trans {c'' : GenericConnection w} (h : Announced c c') (h' : Announced c' c'') :
    Announced c c'' := by
  unfold Announced at *
  rw [h'] at *
  rw [h]

theorem announced_announceConnack (prop : Property) : Announced c (c.announceConnack prop).1 := by
  unfold announceConnack
  split
  · split <;> rfl
  · rfl
  · rfl
  · split <;> rfl
  · rfl

theorem timersOnly_announceConnack (prop : Property) : TimersOnly (c.announceConnack prop).2 := by
  unfold announceConnack
  split
  · exact ⟨rfl, rfl, rfl, rfl⟩
  · exact ⟨rfl, rfl, rfl, rfl⟩
  · exact ⟨rfl, rfl, rfl, rfl⟩
  · split
    · exact timersOnly_cancelEvents ..
    · exact ⟨rfl, rfl, rfl, rfl⟩
  · exact ⟨rfl, rfl, rfl, rfl⟩

theorem announceAll_announceConnack (props : Properties) :
    Announced c (c.announceAll announceConnack props).1 ∧
      TimersOnly (c.announceAll announceConnack props).2 := by
  induction props generalizing c with
  | nil => exact ⟨rfl, rfl, rfl, rfl, rfl⟩
  | cons prop props ih =>
    have h := announced_announceConnack (c := c) prop
    have ht := timersOnly_announceConnack (c := c) prop
    obtain ⟨h', ht'⟩ := ih (c := (c.announceConnack prop).1)
    refine ⟨?_, ?_, ?_, ?_, ?_⟩
    · exact h.trans h'
    · simp [announceAll, ht.requested, ht'.requested]
    · simp [announceAll, ht.notified, ht'.notified]
    · simp [announceAll, ht.released, ht'.released]
    · simp [announceAll, ht.errors, ht'.errors]

/-- The server accepts a connection: the stored packets follow the CONNACK. -/
theorem acts_finishConnack_true {present : Bool} (hp : packet.connackOf = some present)
    (hc : c.status = .connecting) (hc' : Announced c c') :
    c.Acts (.send packet) (c.CanResend c.maximumPacketSizeSend)
      (c'.finishConnack true packet) := by
  unfold Announced at hc'
  unfold finishConnack
  rw [if_neg (by simp)]
  have hsend := sendStored_spec (c := { c' with status := .connected })
  have hcan : { c' with status := .connected }.CanResend c'.maximumPacketSizeSend ↔
      c.CanResend c.maximumPacketSizeSend := by
    rw [hc']
    exact Iff.rfl
  refine hsend.bind (fun ⟨c₁, events⟩ ⟨hok, hstate, req, rel, hrep, hres⟩ ↦ ?_) (hcan.not.mp ·)
  have hs : ({ c' with status := .connected } : GenericConnection w).session =
      { c.session with status := .connected } := by
    rw [hc']
    rfl
  have hl : ({ c' with status := .connected } : GenericConnection w).maximumPacketSizeSend =
      c.maximumPacketSizeSend := by
    rw [hc']
  rw [hs, hl] at hres
  have hrep' : report (.requestSendPacket packet none :: events ++ c₁.sendPostProcess.2) =
      ⟨packet :: req, [], rel, []⟩ := by
    have ht := timersOnly_sendPostProcess (c := c₁)
    simp only [report, Report.mk.injEq] at hrep ⊢
    simp [hrep, ht.requested, ht.notified, ht.released, ht.errors]
  have hsess : c₁.sendPostProcess.1.session = c₁.session := by
    rw [idle_sendPostProcess.session, status_sendPostProcess]
    rfl
  suffices h : Change c (.send packet) c₁.sendPostProcess.1.session
      (report (.requestSendPacket packet none :: events ++ c₁.sendPostProcess.2)) from
    ⟨hcan.mp hok, h⟩
  rw [hrep', hsess]
  exact .connackSent hp hc hres

/-- The events of a step may be preceded by some that only concern the timers. -/
theorem Acts.after {events : List (GenericEvent w)} (h : c.Acts input safe x)
    (ht : TimersOnly events) :
    c.Acts input safe (x >>= fun r ↦ .ret (r.1, events ++ r.2)) := by
  refine h.bind (fun r ⟨hsafe, hr⟩ ↦ ⟨hsafe, ?_⟩) id
  have : report (events ++ r.2) = report r.2 := by
    simp [report, ht.requested, ht.notified, ht.released, ht.errors]
  simpa only [this] using hr

theorem acts_finishConnack {accepted : Bool}
    (hp : accepted → ∃ present, packet.connackOf = some present) (hp' : ¬ accepted → Silent packet)
    (hc : c.status = .connecting) (hc' : Announced c c') :
    c.Acts (.send packet) (accepted → c.CanResend c.maximumPacketSizeSend)
      (c'.finishConnack accepted packet) := by
  cases accepted with
  | true =>
    obtain ⟨present, hpresent⟩ := hp rfl
    exact (acts_finishConnack_true hpresent hc hc').congr (by simp)
  | false =>
    obtain ⟨r, hr, hplain, hs⟩ := plain_finishConnack c' packet
    have hsess : c'.session = c.session := by
      rw [hc']
      rfl
    rw [hr]
    refine ⟨by simp, ?_⟩
    rw [hplain.idle.session, report, hplain.notified, hplain.released, hsess, hs]
    refine .idle (hp' (by simp)) (by simp) ?_ (by simp)
    rcases hplain.sends with ⟨hr, -⟩ | ⟨hr, -⟩ <;> simp [hr, hp' (by simp)]

theorem acts_sendV311Connack (p : V311.Connack) :
    c.Acts (.send (.v311Connack p))
      (c.status = .connecting → p.returnCode = .accepted → c.CanResend c.maximumPacketSizeSend)
      (c.processSendV311Connack p) := by
  unfold processSendV311Connack
  refine acts_status fun hc ↦ ?_
  refine (acts_finishConnack (fun h ↦ ?_) (fun h ↦ ?_) hc (.refl c)).congr (by simp)
  · exact ⟨p.sessionPresent, if_pos (by simpa using h)⟩
  · exact ⟨rfl, if_neg (by simpa using h), rfl, rfl, rfl⟩

theorem acts_sendV50Connack (p : V50.Connack) :
    c.Acts (.send (.v50Connack p))
      (c.validateMaximumPacketSizeSend p.size → c.status = .connecting → p.reasonCode = .success →
        c.CanResend c.maximumPacketSizeSend) (c.processSendV50Connack p) := by
  unfold processSendV50Connack
  refine acts_limited (acts_status fun hc ↦ ?_)
  obtain ⟨hann, ht⟩ := announceAll_announceConnack (c := c) p.props
  by_cases hacc : p.reasonCode = .success
  · simp only [hacc, decide_true, if_true]
    refine (acts_finishConnack (fun _ ↦ ?_) (by simp) hc hann).after ht |>.congr (by simp)
    exact ⟨p.sessionPresent, if_pos hacc⟩
  · simp only [hacc, decide_false, Bool.false_eq_true, if_false]
    refine (acts_finishConnack (by simp) (fun _ ↦ ?_) hc (.refl c)).after ⟨rfl, rfl, rfl, rfl⟩ |>.congr
      (by simp)
    exact ⟨rfl, if_neg hacc, rfl, rfl, rfl⟩

theorem change_request {s : Session w} {id : Option (PacketId w)} (hs : c'.session = s)
    (h : Change c input s ⟨[packet], [], [], []⟩) :
    Change c input (c'.request packet id).1.session (report (c'.request packet id).2) := by
  rw [idle_request.session, status_request, report, requested_request, notified_request,
    released_request, errors_request]
  have : { c'.session with status := c'.status } = c'.session := rfl
  rw [this, hs]
  exact h

theorem acts_sendV50Answer {size : ℕ} (hack : (ackOf packet).isSome) (hfail : ¬ failsPubrec packet)
    (hc' : c'.session = c.session) :
    c.Acts (.send packet) True (c.limited size <|
      if c.status ≠ .connected then .ret (c.reject e) else .ret (c'.request packet none)) := by
  refine (acts_limited (acts_status fun _ ↦ acts_of_change (change_request hc' ?_)).always).always
  refine .answered hack (fun p hp ↦ ?_) (by simp)
  obtain rfl := List.mem_singleton.mp hp
  refine ⟨?_, ?_, ?_, ?_, hfail⟩ <;> cases p <;> first | rfl | cases hack

theorem acts_sendV311Pubrec (p : V311.Pubrec w) :
    c.Acts (.send (.v311Pubrec p)) True (.ret (c.processSendV311Pubrec p)) := by
  by_cases hfail : failsPubrec (.v311Pubrec p)
  · unfold processSendV311Pubrec sendConnected
    split
    · exact acts_reject _
    · refine acts_of_change (change_request rfl ?_)
      exact @Change.pubrecSent w c (.v311Pubrec p) p.packetId rfl hfail
  · exact acts_sendAck rfl hfail

theorem acts_sendV50Auth (p : V50.Auth) :
    c.Acts (.send (.v50Auth p)) True (c.processSendV50Auth p) := by
  refine (acts_limited ?_).always
  split
  · exact acts_reject _
  · refine acts_of_change (change_request rfl (.idle ⟨rfl, rfl, rfl, rfl, rfl⟩ (fun h ↦ h)
      (fun q hq ↦ ?_) (by simp)))
    obtain rfl := List.mem_singleton.mp hq
    exact ⟨rfl, rfl, rfl, rfl, rfl⟩

theorem acts_sendV50Pubrec (p : V50.Pubrec w) :
    c.Acts (.send (.v50Pubrec p)) True (c.processSendV50Pubrec p) := by
  unfold processSendV50Pubrec
  by_cases hfail : p.reasonCode.any PubrecReasonCode.isFailure
  · simp only [hfail, if_true]
    refine (acts_limited (acts_status fun _ ↦ acts_of_change (change_request ?_
      (@Change.pubrecSent w c (.v50Pubrec p) p.packetId rfl hfail))).always).always
    refine Session.ext rfl rfl rfl rfl rfl rfl ?_ rfl rfl rfl
    ext u
    simp [session, answered, GenericPacket.protocolVersion, and_comm]
  · simp only [hfail]
    exact acts_sendV50Answer rfl hfail rfl

theorem refuse_spec (e : MqttError) : (c.refuse e (some id)).Spec
    (fun r ↦ id ≠ 0 ∧ r.1.session = c.session.free id ∧
      report r.2 = ⟨[], [], if c.pidMan.isUsedId id then [id] else [], [e]⟩) (¬ id ≠ 0) := by
  refine releaseIfUsed_spec.bind (fun r ⟨h0, _, hs, hrep⟩ ↦ ?_) (by simp)
  obtain ⟨c', events⟩ := r
  refine ⟨h0, hs, ?_⟩
  simp only [report, Report.mk.injEq] at hrep ⊢
  simp [hrep]

theorem acts_sendSubscription {kind : AckKind} (hp : subscriptionOf packet = some (kind, id)) :
    c.Acts (.send packet) (c.status ≠ .connected → id ≠ 0) (c.sendSubscription kind id packet) := by
  unfold sendSubscription
  by_cases hc : c.status = .connected
  · rw [if_neg (by simp [hc])]
    by_cases hu : c.pidMan.isUsedId id
    · rw [if_neg (by simp [hu])]
      exact (acts_of_change (change_request session_await (.subscribed hp hu))).congr (by simp [hc])
    · rw [if_pos hu]
      exact (acts_reject _).congr (by simp [hc])
  · rw [if_pos hc]
    refine (refuse_spec _).mono (fun r ⟨h0, hs, hrep⟩ ↦ ⟨fun _ ↦ h0, ?_⟩) (by simp [hc])
    rw [hs, hrep]
    exact .subscriptionRefused hp (by simp)

structure PubrelSent (c : GenericConnection w) (id : PacketId w) (stored : GenericStorePacket w)
    (s : Session w) (r : Handled w) : Prop where
  used : c.pidMan.isUsedId id
  keep : ¬ c.needStore ∧ s = c.session ∨
    c.needStore ∧ c.session.stored id = none ∧ s = c.session.keep id stored
  session : r.1.session = if c.status = .connected then s.await .pubcomp id else s
  report : report r.2 = ⟨if c.status = .connected then [stored.toPacket] else [], [], [], []⟩

def PubrelFits (c : GenericConnection w) (id : PacketId w) : Prop :=
  c.needStore → c.pidMan.isUsedId id → c.session.stored id = none

theorem sendPubrel_spec {stored : GenericStorePacket w} (hid : stored.packetId = some id) :
    (c.sendPubrel id stored).Spec
      (fun r ↦ c.PubrelFits id ∧
        ((c.status = .connected → ¬ c.pidMan.isUsedId id) ∧ (∃ e, r = c.reject e) ∨
          ∃ s, c.PubrelSent id stored s r))
      (¬ c.PubrelFits id) := by
  unfold sendPubrel
  by_cases hst : c.status ≠ .connected ∧ ¬ c.needStore
  · rw [if_pos hst]
    exact ⟨fun h ↦ (hst.2 h).elim, .inl ⟨fun h ↦ (hst.1 h).elim, _, rfl⟩⟩
  rw [if_neg hst]
  by_cases hu : c.pidMan.isUsedId id
  swap
  · rw [if_pos hu]
    exact ⟨fun _ h ↦ (hu h).elim, .inl ⟨fun _ ↦ hu, _, rfl⟩⟩
  rw [if_neg (not_not.mpr hu)]
  have hfinish {c' : GenericConnection w} {s : Session w} (hs : c'.session = s)
      (hkeep : ¬ c.needStore ∧ s = c.session ∨
        c.needStore ∧ c.session.stored id = none ∧ s = c.session.keep id stored)
      (hst' : c'.status = c.status) (hfits : c.PubrelFits id) :
      Outcome.Spec (if c'.status = .connected then
          Outcome.ret ((c'.await .pubcomp id).request stored.toPacket none)
        else .ret c'.sendPostProcess)
        (fun r ↦ c.PubrelFits id ∧
          ((c.status = .connected → ¬ c.pidMan.isUsedId id) ∧ (∃ e, r = c.reject e) ∨
            ∃ s, c.PubrelSent id stored s r))
        (¬ c.PubrelFits id) := by
    by_cases hc : c.status = .connected
    · rw [if_pos (hst'.trans hc)]
      refine ⟨hfits, .inr ⟨s, hu, hkeep, ?_, ?_⟩⟩
      · rw [if_pos hc, idle_request.session, status_request, ← hs]
        exact session_await
      · rw [if_pos hc, Connection.report, requested_request, notified_request, released_request,
          errors_request]
    · have ht := timersOnly_sendPostProcess (c := c')
      rw [if_neg (hst' ▸ hc)]
      refine ⟨hfits, .inr ⟨s, hu, hkeep, ?_, ?_⟩⟩
      · rw [if_neg hc, idle_sendPostProcess.session, status_sendPostProcess, ← hs]
        rfl
      · rw [if_neg hc, Connection.report, ht.requested, ht.notified, ht.released, ht.errors]
  by_cases hn : c.needStore
  · rw [if_pos hn]
    refine (storeAdd_spec hid).bind ?_ fun h h' ↦ h (h' hn hu)
    rintro c' ⟨hnone, heq, hs⟩
    exact hfinish hs (.inr ⟨hn, hnone, rfl⟩) (by rw [heq]) fun _ _ ↦ hnone
  · rw [if_neg hn]
    exact hfinish rfl (.inl ⟨hn, rfl⟩) rfl fun h ↦ (hn h).elim

theorem acts_sendPubrel {stored : GenericStorePacket w} (hp : stored.toPacket.pubrelOf = some id)
    (hid : stored.packetId = some id) :
    c.Acts (.send stored.toPacket) (c.PubrelFits id) (c.sendPubrel id stored) := by
  refine (sendPubrel_spec hid).mono (fun r ⟨hfits, hr⟩ ↦ ⟨hfits, ?_⟩) fun h ↦ h
  rcases hr with ⟨-, e, rfl⟩ | ⟨s, hu, hkeep, hs, hrep⟩
  · exact (acts_reject e).2
  · rw [hs, hrep]
    refine .pubrelSent hp hu ?_
    rcases hkeep with h | ⟨hn, hnone, h⟩
    · exact .inl h
    · exact .inr ⟨hn, hnone, stored, rfl, h⟩

theorem change_transmit {s : Session w} {rel : Option (PacketId w)} (hs : c'.session = s)
    (h : Change c input s ⟨if s.status = .connected then [packet] else [], [], [], []⟩) :
    Change c input (c'.transmit packet rel).1.session (report (c'.transmit packet rel).2) := by
  subst hs
  unfold transmit
  by_cases hc : c'.status = .connected
  · rw [if_pos hc]
    have : c'.session.status = .connected := hc
    rw [if_pos this] at h
    exact change_request rfl h
  · rw [if_neg hc]
    have : c'.session.status ≠ .connected := hc
    rwa [if_neg this] at h

def PublishFits (c : GenericConnection w) (id : PacketId w) : Prop :=
  (c.cannotPublish → id ≠ 0) ∧
    (¬ c.cannotPublish → c.pidMan.isUsedId id → c.storesPublish → c.session.stored id = none)

theorem acts_refusePublish {qos : Qos} (hp : packet.publishOf = some (id, qos)) (e : MqttError)
    (hs : c'.session = c.session) : c.Acts (.send packet) (id ≠ 0) (c'.refuse e (some id)) := by
  have hu : c'.pidMan.isUsedId id = c.pidMan.isUsedId id := by
    have : id ∈ c'.session.used ↔ id ∈ c.session.used := by rw [hs]
    exact Bool.eq_iff_iff.mpr this
  refine (refuse_spec e).mono (fun r ⟨h0, hr, hrep⟩ ↦ ⟨h0, ?_⟩) fun h ↦ h
  rw [hr, hrep, hs, hu]
  exact .publishRefused hp (by simp)

theorem acts_sendV311Publish (p : V311.Publish w) :
    c.Acts (.send (.v311Publish p)) (∀ id, p.packetId = some id → c.PublishFits id)
      (c.processSendV311Publish p) := by
  unfold processSendV311Publish
  cases hid : p.packetId with
  | none =>
    refine ((acts_status fun hc ↦ acts_of_change (change_transmit rfl ?_)).always).congr (by simp)
    have hsilent : Silent (.v311Publish p) :=
      ⟨rfl, rfl, by simp [GenericPacket.publishOf, hid], rfl, rfl⟩
    refine .idle hsilent (fun h ↦ h) (fun q hq ↦ ?_) (by simp)
    rw [if_pos (show c.session.status = .connected from hc)] at hq
    obtain rfl := List.mem_singleton.mp hq
    exact hsilent
  | some id =>
    have hpub : (GenericPacket.v311Publish p).publishOf = some (id, p.qos) := by
      simp [GenericPacket.publishOf, hid]
    suffices h : c.Acts (.send (.v311Publish p)) (c.PublishFits id) _ from h.congr (by simp)
    by_cases hcannot : c.cannotPublish
    · simp only [hcannot, if_true]
      exact (acts_refusePublish hpub _ rfl).congr (by simp [PublishFits, hcannot])
    simp only [hcannot, Bool.false_eq_true, if_false]
    by_cases hu : c.pidMan.isUsedId id
    swap
    · rw [if_pos hu]
      exact (acts_reject _).congr (by simp [PublishFits, hcannot, hu])
    rw [if_neg (not_not.mpr hu)]
    have hdone {s : Session w}
        (hkeep : ¬ c.storesPublish ∧ s = c.session ∨ c.storesPublish ∧ c.session.stored id = none ∧
          ∃ stored : GenericStorePacket w, stored.toPacket.publishOf = some (id, p.qos) ∧
            stored.toPacket.protocolVersion = .v311 ∧ s = c.session.keep id stored) :
        Change c (.send (.v311Publish p)) (s.await (publishAck p.qos) id)
          ⟨if c.status = .connected then [.v311Publish p] else [], [], [], []⟩ := by
      have := Change.published hpub (by simp [withdraws]) hu ⟨hpub, rfl⟩ hkeep
      rwa [Session.counted, if_neg (by simp [GenericPacket.protocolVersion])] at this
    by_cases hstores : c.storesPublish
    · rw [if_pos hstores]
      refine (@storeAdd_spec _ c id (.v311Publish (p.setDup true)) hid).bind ?_
        (by simp [PublishFits, hcannot, hu, hstores])
      rintro c' ⟨hnone, heq, hs⟩
      refine ⟨⟨by simp [hcannot], fun _ _ _ ↦ hnone⟩, ?_⟩
      refine change_transmit (session_await.trans (by rw [hs])) ?_
      exact hdone (.inr ⟨hstores, hnone, .v311Publish (p.setDup true), hpub, rfl, rfl⟩)
    · rw [if_neg hstores]
      exact (acts_of_change (change_transmit session_await (hdone (.inl ⟨hstores, rfl⟩)))).congr
        (by simp [PublishFits, hcannot, hstores])

end MqttProtocolCore.Connection.GenericConnection
