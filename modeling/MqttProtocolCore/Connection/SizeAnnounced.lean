import MqttProtocolCore.Connection.ClientRun
import MqttProtocolCore.Connection.SizeKept

namespace MqttProtocolCore.Connection

open General Packet

variable {w : IdWidth}

/-- The limit that a property list announces. -/
def announcedSize (announced : Option ℕ) (props : Properties) : Option ℕ :=
  props.foldl (fun announced prop ↦
    match prop with
    | .maximumPacketSize v => some v.val
    | _ => announced) announced

def announcedBy (announced : Option ℕ) : GenericPacket w → Option ℕ
  | .v311Connect _ => none
  | .v50Connect p => announcedSize none p.props
  | .v50Connack p => announcedSize announced p.props
  | _ => announced

namespace GenericConnection

variable {c c' : GenericConnection w} {packet : GenericPacket w} {x : Outcome (Handled w)}
  {r : Handled w} {raw : RawPacket} {limit bound : ℕ} {v : Prop} {op : Operation w}
  {events : List (GenericEvent w)} {announced : Option ℕ}

/-- The maximum packet size that the peer has announced on the current connection. -/
def readAnnounced (announced : Option ℕ)
    (t : Transition (GenericConnection w) (Operation w) (Reply w)) : Option ℕ :=
  match t.input with
  | .notifyClosed => none
  | .send packet =>
    if packet.connectOf.isSome ∧ packet ∈ requested t.output.toEvents then none else announced
  | _ => (notified t.output.toEvents).foldl announcedBy announced

/-- A packet may come to exceed what the peer takes: a PUBLISH grows past the limit when an alias
takes the place of its topic, or a CONNACK that refuses the connection announces a limit. -/
inductive Exceeds (c : GenericConnection w) (announced : Option ℕ) : Operation w → Prop where
  | aliased {p : V50.Publish w} {limit : ℕ} :
      announced = some limit → c.protocolVersion = .v50 → c.SendsAliased p →
      limit < p.aliasedSize → Exceeds c announced (.send (.v50Publish p))
  | refused {data : Bytes} {version : Version} {p : V50.Connack} {limit : ℕ} :
      c.arrival data = some (version, .v50Connack p) → p.reasonCode ≠ .success →
      announcedSize announced p.props = some limit → limit < c.maximumPacketSizeSend →
      Exceeds c announced (.recv data)

/-- What a step leaves: the limit in force covers the announced one, and what is requested in
version 5.0 stays within it. -/
def Covers (announced : Option ℕ) (v : Prop) (r : Handled w) : Prop :=
  ∀ limit, announced = some limit →
    r.1.maximumPacketSizeSend ≤ limit ∧ (v → ∀ p ∈ requested r.2, ¬ opening p → p.size ≤ limit)

def Announces (announced : Option ℕ) (v : Prop) (r : Handled w) : Prop :=
  Covers ((notified r.2).foldl announcedBy announced) v r

theorem announcedBy_of_not_opening (h : ¬ opening packet) :
    announcedBy announced packet = announced := by
  cases packet with
  | v311Connect | v50Connect | v50Connack => exact (h rfl).elim
  | _ => rfl

theorem foldl_announcedBy {packets : List (GenericPacket w)} (h : ∀ p ∈ packets, ¬ opening p) :
    packets.foldl announcedBy announced = announced := by
  induction packets with
  | nil => rfl
  | cons packet packets ih =>
    obtain ⟨hp, hps⟩ := List.forall_mem_cons.mp h
    rw [List.foldl_cons, announcedBy_of_not_opening hp]
    exact ih hps

theorem Within.covers (hr : Within limit bound v r)
    (hb : ∀ l, announced = some l → limit ≤ l ∧ (v → bound ≤ l)) : Covers announced v r := by
  intro l hl
  obtain ⟨hlimit, hbound⟩ := hb l hl
  exact ⟨hr.kept.trans_le hlimit,
    fun hv p hp ho ↦ (hr.sizes hv p hp ho).trans (max_le hlimit (hbound hv))⟩

theorem Within.announces (hr : Within limit 0 v r) (hI : ∀ l, announced = some l → limit ≤ l) :
    Announces announced v r := by
  unfold Announces
  rw [foldl_announcedBy hr.opens]
  exact hr.covers fun l hl ↦ ⟨hI l hl, fun _ ↦ Nat.zero_le l⟩

theorem announcedSize_of_le {props : Properties} (h : ∀ l, announced = some l → limit ≤ l) {l : ℕ}
    (hl : announcedSize announced props = some l) : sizeLimitOf limit props ≤ l := by
  induction props generalizing announced limit with
  | nil => exact h l hl
  | cons prop props ih =>
    unfold announcedSize sizeLimitOf at *
    rw [List.foldl_cons] at hl ⊢
    refine ih ?_ hl
    cases prop with
    | maximumPacketSize v =>
      intro l' hl'
      exact (Option.some.inj hl').le
    | _ => exact h

theorem noteConnect_limit (props : Properties) : (props.foldlM noteConnect c).Ensures fun c' ↦
    c'.maximumPacketSizeSend = sizeLimitOf c.maximumPacketSizeSend props := by
  induction props generalizing c with
  | nil => exact Outcome.ensures_ret.mpr rfl
  | cons prop props ih =>
    rw [List.foldlM_cons]
    refine Outcome.Ensures.bind (P := fun c' ↦ c'.maximumPacketSizeSend =
      sizeLimitOf c.maximumPacketSizeSend [prop]) ?_ fun c₁ h₁ ↦ ih.mono fun c₂ h₂ ↦ ?_
    · cases prop with
      | topicAliasMaximum v =>
        exact Outcome.Ensures.bind (P := fun _ ↦ True) (fun _ _ ↦ trivial)
          fun s _ ↦ Outcome.ensures_ret.mpr rfl
      | sessionExpiryInterval v =>
        refine Outcome.ensures_ret.mpr ?_
        split <;> rfl
      | _ => exact Outcome.ensures_ret.mpr rfl
    · rw [h₂, h₁]
      rfl

theorem Within.announces_notified (hr : Within limit 0 v r)
    (h : ∀ l, announcedBy announced packet = some l → limit ≤ l) :
    Announces announced v (r.1, r.2 ++ [.notifyPacketReceived packet]) := by
  intro l hl
  rw [notified_append, List.foldl_append, foldl_announcedBy hr.opens] at hl
  refine ⟨hr.kept.trans_le (h l hl), fun hv p hp ho ↦ ?_⟩
  rw [requested_append, List.mem_append] at hp
  have hp' : p ∈ requested r.2 := hp.resolve_right (by simp)
  exact (hr.sizes hv p hp' ho).trans (max_le (h l hl) (Nat.zero_le l))

theorem within_resumeSession (h : c.maximumPacketSizeSend = limit) {present : Bool} :
    (c.resumeSession present).Ensures (Within limit bound v) := by
  unfold resumeSession
  split
  · exact within_sendStored h
  · exact Outcome.ensures_ret.mpr (within_quiet h rfl rfl)

theorem announces_received (h : ∀ l, announcedBy announced packet = some l →
    c.maximumPacketSizeSend ≤ l) : Announces announced v (c.received packet) := by
  have ht := timersOnly_refreshPingreqRecv (c := c)
  have hr : Within c.maximumPacketSizeSend 0 v c.refreshPingreqRecv :=
    within_idle rfl idle_refreshPingreqRecv ht
  exact hr.announces_notified h

/-- A packet from the peer is handled within the limit that it leaves announced. -/
theorem announces_deliver (hI : ∀ l, announced = some l → c.maximumPacketSizeSend ≤ l)
    (hv : v → packet.protocolVersion = .v50)
    (hok : ∀ p l, packet = .v50Connack p → p.reasonCode ≠ .success →
      announcedSize announced p.props = some l → c.maximumPacketSizeSend ≤ l) :
    (c.deliver packet).Ensures (Announces announced v) := by
  have hrefused {x : Outcome (Handled w)}
      (h : x.Ensures (Within c.maximumPacketSizeSend 0 v)) : x.Ensures (Announces announced v) :=
    h.mono fun r hr ↦ hr.announces hI
  by_cases ho : opening packet
  swap
  · exact hrefused (within_deliver rfl hv ho)
  cases packet with
  | v311Connect p =>
    change (if c.status ≠ .disconnected then c.handleV311Error .protocolError
      else .ret ({ c with status := .connecting }.recvV311Connect p)).Ensures _
    split
    · exact hrefused (within_handleV311Error rfl _)
    · exact Outcome.ensures_ret.mpr (announces_received fun l hl ↦ by cases hl)
  | v50Connect p =>
    change (if c.status ≠ .disconnected then c.handleV50Error .protocolError
      else { c with status := .connecting }.recvV50Connect p).Ensures _
    split
    · exact hrefused (within_handleV50Error rfl _)
    · unfold recvV50Connect
      refine (noteConnect_limit p.props).bind fun c' hc' ↦ Outcome.ensures_ret.mpr ?_
      refine announces_received fun l hl ↦ ?_
      rw [hc']
      exact announcedSize_of_le (by simp) hl
  | v311Connack p =>
    change (c.recvV311Connack p).Ensures _
    unfold recvV311Connack
    split
    · refine Outcome.Ensures.bind (P := Within c.maximumPacketSizeSend 0 v)
        (within_resumeSession rfl) fun r hr ↦ Outcome.ensures_ret.mpr ?_
      exact hr.announces_notified hI
    · have hquiet : Within c.maximumPacketSizeSend 0 v (c, []) := within_quiet rfl rfl rfl
      exact Outcome.ensures_ret.mpr (hquiet.announces_notified hI)
  | v50Connack p =>
    change (c.recvV50Connack p).Ensures _
    unfold recvV50Connack
    split
    · obtain ⟨⟨c', events⟩, h, -, hl, ht⟩ :=
        noteAll_spec (c := { c with status := .connected }) p.props
      rw [h, Outcome.ret_bind]
      dsimp only at hl ht ⊢
      refine Outcome.Ensures.bind (P := Within c'.maximumPacketSizeSend 0 v)
        (within_resumeSession rfl) fun r hr ↦ Outcome.ensures_ret.mpr ?_
      have hnoted : Within c'.maximumPacketSizeSend 0 v (c', events) :=
        within_quiet rfl ht.requested ht.notified
      refine (hnoted.append hr).announces_notified fun l hl' ↦ ?_
      rw [hl]
      exact announcedSize_of_le hI hl'
    · rename_i hcode
      have hquiet : Within c.maximumPacketSizeSend 0 v (c, []) := within_quiet rfl rfl rfl
      exact Outcome.ensures_ret.mpr (hquiet.announces_notified
        fun l hl ↦ hok p l rfl hcode hl)
  | _ => exact absurd ho (by simp [opening, partOf])

theorem announces_recv (hc : c.Reading) {data : Bytes}
    (hI : ∀ l, announced = some l → c.maximumPacketSizeSend ≤ l)
    (hok : ¬ Exceeds c announced (.recv data)) : (c.recv data).Ensures fun r ↦
      Announces announced (c.protocolVersion = .v50) r.1 := by
  rintro ⟨r, rest⟩ hr
  cases recv_cases hc hr with
  | incomplete =>
    have hquiet (b : PacketBuilder) : Within c.maximumPacketSizeSend 0 (c.protocolVersion = .v50)
        ({ c with packetBuilder := b }, []) := within_quiet rfl rfl rfl
    exact (hquiet _).announces hI
  | malformed =>
    have hcancel (b : PacketBuilder) (e : MqttError) :
        Within c.maximumPacketSizeSend 0 (c.protocolVersion = .v50)
          ({ c with packetBuilder := b }.cancelTimers.1,
            c.cancelTimers.2 ++ [.requestClose, .notifyError e]) :=
      within_quiet rfl (by simp [timersOnly_cancelTimers.requested])
        (by simp [timersOnly_cancelTimers.notified])
    exact (hcancel _ _).announces hI
  | @refused b _ _ _ _ _ href =>
    have hkept : ({ c with packetBuilder := b } : GenericConnection w).maximumPacketSizeSend =
        c.maximumPacketSizeSend := rfl
    exact (href.within hkept r rfl).announces hI
  | @delivered b _ _ version packet _ hfeed harr hver hdel =>
    refine @announces_deliver w ({ c with packetBuilder := b }.determine version) packet _ _ hI
      (fun h ↦ ?_) (fun p l hp hcode hl ↦ ?_) r hdel
    · rw [(arrived_some harr).2.2]
      exact (hver.resolve_right (by simp [h])).trans h
    · have ha : c.arrival data = some (version, packet) := by simp [arrival, hfeed, harr]
      by_contra hlt
      exact hok (.refused (hp ▸ ha) hcode hl (not_le.mp hlt))

theorem within_keepAliveTimeout (h : c.maximumPacketSizeSend = limit) :
    c.keepAliveTimeout.Ensures (Within limit bound v) := by
  unfold keepAliveTimeout
  split
  · exact Outcome.ensures_ret.mpr (within_quiet h rfl rfl)
  · split
    · exact within_build fun p ↦ within_disconnect h p
    · exact Outcome.ensures_ret.mpr (within_quiet h rfl rfl)
  · simp

theorem within_keepAlive (h : c.maximumPacketSizeSend = limit)
    (hv : v → c.protocolVersion = .v50) : c.keepAlive.Ensures (Within limit bound v) := by
  unfold keepAlive
  split
  · split
    · rename_i hver
      refine within_build fun p ↦ Outcome.ensures_ret.mpr (within_sendPingreq h fun h' _ ↦ ?_)
      cases hver.symm.trans (hv h')
    · exact within_build fun p ↦ within_limited h fun hs ↦
        Outcome.ensures_ret.mpr (within_sendPingreq h fun _ _ ↦ hs)
    · simp
  · exact Outcome.ensures_ret.mpr (within_quiet h rfl rfl)

theorem within_notifyTimerFired (h : c.maximumPacketSizeSend = limit) {kind : TimerKind}
    (hv : v → c.protocolVersion = .v50) :
    (c.notifyTimerFired kind).Ensures (Within limit bound v) := by
  cases kind with
  | pingreqSend => exact @within_keepAlive w { c with pingreqSendSet := false } _ _ _ h hv
  | pingreqRecv => exact @within_keepAliveTimeout w { c with pingreqRecvSet := false } _ _ _ h
  | pingrespRecv => exact @within_keepAliveTimeout w { c with pingrespRecvSet := false } _ _ _ h

theorem within_send (h : c.maximumPacketSizeSend = limit) (hv : v → c.protocolVersion = .v50)
    (ha : ∀ p, packet = .v50Publish p → v → c.SendsAliased p → p.aliasedSize ≤ bound) :
    (c.send packet).Ensures (Within limit bound v) := by
  unfold send
  split
  · exact Outcome.ensures_ret.mpr (within_reject h _)
  · rename_i hsame
    exact within_processSend h (fun h' ↦ (not_not.mp hsame).symm.trans (hv h')) ha

theorem covers_send (hI : ∀ l, announced = some l → c.maximumPacketSizeSend ≤ l)
    (hok : ¬ Exceeds c announced (.send packet)) :
    (c.send packet).Ensures (Covers announced (c.protocolVersion = .v50)) := by
  by_cases hp : ∃ p, packet = .v50Publish p ∧ c.SendsAliased p
  · obtain ⟨p, rfl, hp⟩ := hp
    refine Outcome.Ensures.mono (P := Within c.maximumPacketSizeSend p.aliasedSize _)
      (within_send rfl id ?_) fun r hr ↦ hr.covers fun l hl ↦ ⟨hI l hl, fun hv ↦ ?_⟩
    · rintro _ ⟨⟩ - -
      exact le_rfl
    · by_contra hlt
      exact hok (.aliased hl hv hp (not_le.mp hlt))
  · refine Outcome.Ensures.mono (P := Within c.maximumPacketSizeSend 0 _)
      (within_send rfl id fun p h _ hs ↦ (hp ⟨p, h, hs⟩).elim) fun r hr ↦ hr.covers fun l hl ↦ ?_
    exact ⟨hI l hl, fun _ ↦ Nat.zero_le l⟩

theorem limit_restorePackets (packets : List (GenericStorePacket w)) :
    (c.restorePackets packets).Ensures fun c' ↦
      c'.maximumPacketSizeSend = c.maximumPacketSizeSend := by
  unfold restorePackets
  induction packets generalizing c with
  | nil => exact Outcome.ensures_ret.mpr rfl
  | cons packet packets ih =>
    rw [List.foldlM_cons]
    refine Outcome.Ensures.bind (P := fun c' ↦ c'.maximumPacketSizeSend = c.maximumPacketSizeSend)
      ?_ fun c₁ h₁ ↦ ih.mono fun c₂ h₂ ↦ h₂.trans h₁
    unfold restorePacket
    split
    · exact Outcome.ensures_ret.mpr rfl
    · simp
    · dsimp only
      split
      · exact Outcome.ensures_ret.mpr limit_await
      · split
        · exact Outcome.ensures_ret.mpr limit_await
        · exact Outcome.ensures_ret.mpr limit_await
        · simp

theorem limit_setPingreqSendInterval (durationMs : Option ℕ) :
    (c.setPingreqSendInterval durationMs).1.maximumPacketSizeSend = c.maximumPacketSizeSend := by
  unfold setPingreqSendInterval
  cases durationMs with
  | none => rfl
  | some ms =>
    dsimp only
    by_cases h0 : ms = 0
    · rw [if_pos h0]
    · rw [if_neg h0]
      split <;> rfl

/-- Every operation keeps what it requests within the limit that the peer has announced. -/
theorem step_covers (hc : c.Reading) (hI : ∀ l, announced = some l → c.maximumPacketSizeSend ≤ l)
    (hok : ¬ Exceeds c announced op) : (c.step op).Ensures fun r ↦
      Covers (readAnnounced announced ⟨c, op, r.1, r.2⟩) (c.protocolVersion = .v50)
        (r.1, r.2.toEvents) := by
  have hstill : Announces announced (c.protocolVersion = .v50) (c, []) :=
    (within_quiet rfl rfl rfl).announces hI
  have hhandled {x : Outcome (Handled w)}
      (h : x.Ensures (Within c.maximumPacketSizeSend 0 (c.protocolVersion = .v50))) :
      (x >>= fun r ↦ Outcome.ret (r.1, Reply.events r.2)).Ensures fun r ↦
        Announces announced (c.protocolVersion = .v50) (r.1, r.2.toEvents) :=
    h.bind fun r hr ↦ Outcome.ensures_ret.mpr (hr.announces hI)
  cases op with
  | send packet =>
    refine (covers_send hI hok).bind fun r hr ↦ Outcome.ensures_ret.mpr ?_
    dsimp only [readAnnounced]
    split
    · intro l hl
      cases hl
    · exact hr
  | recv data => exact (announces_recv hc hI hok).bind fun r hr ↦ Outcome.ensures_ret.mpr hr
  | notifyTimerFired kind => exact hhandled (within_notifyTimerFired rfl id)
  | notifyClosed =>
    intro r hr l hl
    cases hl
  | setPingreqSendInterval durationMs =>
    obtain ⟨-, ht⟩ := c.setPingreqSendInterval_spec durationMs
    have hr : Within c.maximumPacketSizeSend 0 (c.protocolVersion = .v50)
        (c.setPingreqSendInterval durationMs) :=
      within_quiet (limit_setPingreqSendInterval durationMs) ht.requested ht.notified
    exact Outcome.ensures_ret.mpr (hr.announces hI)
  | acquirePacketId =>
    cases ha : c.pidMan.acquireUniqueId with
    | ok a =>
      rw [step_acquired (by rw [acquirePacketId, ha]; rfl)]
      exact Outcome.ensures_ret.mpr hstill
    | error e =>
      rw [step_unacquired (by rw [acquirePacketId, ha]; rfl)]
      exact Outcome.ensures_ret.mpr hstill
  | registerPacketId id =>
    cases ha : c.pidMan.registerId id with
    | ok man =>
      rw [step_registered (by rw [registerPacketId, ha]; rfl)]
      exact Outcome.ensures_ret.mpr hstill
    | error e =>
      rw [step_unregistered (by rw [registerPacketId, ha]; rfl)]
      exact Outcome.ensures_ret.mpr hstill
  | releasePacketId id => exact hhandled (within_releaseIfUsed rfl)
  | restorePackets packets =>
    refine (limit_restorePackets packets).bind fun c' hc' ↦ Outcome.ensures_ret.mpr ?_
    exact (within_quiet hc' rfl rfl).announces hI
  | _ => exact Outcome.ensures_ret.mpr hstill

/-- In every run in which no packet comes to exceed what the peer takes, whatever is requested in
version 5.0 stays within the maximum packet size that the peer has announced. -/
theorem sizes_announced {trace : List (Transition _ _ _)}
    (h : Run ((system w).monitor none readAnnounced) (fun p op ↦ ¬ Exceeds p.1 p.2 op) trace
      (c, announced)) (hv : c.protocolVersion = .v50) (hok : ¬ Exceeds c announced op) :
    (c.step op).Ensures fun r ↦ ∀ limit,
      readAnnounced announced ⟨c, op, r.1, r.2⟩ = some limit →
        ∀ p ∈ requested r.2.toEvents, ¬ opening p → p.size ≤ limit := by
  have hinv : c.Reading ∧ ∀ l, announced = some l → c.maximumPacketSizeSend ≤ l := by
    refine h.monitored (I := fun c announced ↦ c.Reading ∧
      ∀ l, announced = some l → c.maximumPacketSizeSend ≤ l) ?_ ?_
    · rintro _ ⟨role, version, rfl⟩
      exact ⟨⟨[], .header⟩, by simp⟩
    · intro c announced op ⟨hc, hI⟩ hok r hr
      exact ⟨step_reading hc op r hr, fun l hl ↦ (step_covers hc hI hok r hr l hl).1⟩
  intro r hr limit hl
  exact (step_covers hinv.1 hinv.2 hok r hr limit hl).2 hv

theorem sizes_announced_publish : ∃ (c c' : GenericConnection .u16) (announced : Option ℕ)
    (op : Operation .u16) (reply : Reply .u16), c.step op = .ret (c', reply) ∧
      readAnnounced announced ⟨c, op, c', reply⟩ = some 20 ∧
      (∃ p ∈ requested reply.toEvents, ¬ opening p ∧ p.size = 6) ∧
      ∀ p ∈ requested reply.toEvents, ¬ opening p → p.size ≤ 20 := by
  obtain ⟨p, _, q, _, ⟨c₁, o₁⟩, h₁, haccepted, ⟨c₂, o₂⟩, h₂, hv, hauto, hsome, ⟨c₃, o₃⟩, h₃, hsix⟩ :
      (V50.Connect.parse [0, 4, 0x4d, 0x51, 0x54, 0x54, 5, 2, 0, 0, 0, 0, 1, 0x61]).unwrap.Attains
        fun p ↦ (V50.Publish.parse (w := .u16) 0 [0, 1, 0x61, 0]).unwrap.Attains fun q ↦
        ((new .client .u16 .v50).step (.send (.v50Connect p.1))).Attains fun r₁ ↦
        (r₁.1.arrival [0x20, 8, 0, 0, 5, 0x27, 0, 0, 0, 20]).bind (·.2.connackOf) = some false ∧
        (r₁.1.step (.recv [0x20, 8, 0, 0, 5, 0x27, 0, 0, 0, 20])).Attains fun r₂ ↦
          r₂.1.protocolVersion = .v50 ∧ ¬ r₂.1.mapsTopic q.1 ∧
          readAnnounced none ⟨r₁.1, .recv [0x20, 8, 0, 0, 5, 0x27, 0, 0, 0, 20], r₂.1, r₂.2⟩ =
            some 20 ∧
        (r₂.1.step (.send (.v50Publish q.1))).Attains fun r₃ ↦
          ∃ p ∈ requested r₃.2.toEvents, ¬ opening p ∧ p.size = 6 := by
    decide +kernel
  have hstart : Run ((system .u16).monitor none readAnnounced)
      (fun p op ↦ ¬ Exceeds p.1 p.2 op) [] (new .client .u16 .v50, none) :=
    .init ⟨⟨.client, .v50, rfl⟩, rfl⟩
  obtain ⟨_, hrun⟩ := run_step hstart (by rintro ⟨⟩) h₁
  rw [show readAnnounced none ⟨_, .send _, c₁, o₁⟩ = none from ite_self none] at hrun
  have haccepted : ¬ Exceeds c₁ none (.recv [0x20, 8, 0, 0, 5, 0x27, 0, 0, 0, 20]) := by
    intro hbad
    cases hbad with
    | refused ha hcode =>
      rw [ha] at haccepted
      simp [GenericPacket.connackOf, hcode] at haccepted
  obtain ⟨_, hrun⟩ := run_step hrun haccepted h₂
  rw [hsome] at hrun
  have hok : ¬ Exceeds c₂ (some 20) (.send (.v50Publish q.1)) := by
    intro hbad
    cases hbad with
    | aliased _ _ hs => exact hauto hs.maps
  have hlimit : readAnnounced (some 20) ⟨c₂, .send (.v50Publish q.1), c₃, o₃⟩ = some 20 := by
    simp [readAnnounced, GenericPacket.connectOf]
  exact ⟨c₂, c₃, some 20, _, o₃, h₃, hlimit, hsix, sizes_announced hrun hv hok _ h₃ 20 hlimit⟩

/-- A PUBLISH with a short topic grows past the limit when an alias takes the place of the topic. -/
theorem aliased_publish_exceeds : ¬ ∀ (c : GenericConnection .u16) (announced : Option ℕ)
    (op : Operation .u16) trace,
    Run ((system .u16).monitor none readAnnounced) (fun _ _ ↦ True) trace (c, announced) →
      c.protocolVersion = .v50 → (c.step op).Ensures fun r ↦ ∀ limit,
        readAnnounced announced ⟨c, op, r.1, r.2⟩ = some limit →
          ∀ p ∈ requested r.2.toEvents, ¬ opening p → p.size ≤ limit := by
  intro h
  obtain ⟨q, _, ⟨trace, c⟩, hrun, hv, hread, ⟨c', o⟩, hstep, hafter, packet, hp, ho, hsize⟩ :
      (V50.Publish.parse (w := .u16) 0 [0, 1, 0x61, 0]).unwrap.Attains fun q ↦
        (clientRun .v50 2 0 [0] [.setAutoMapTopicAliasSend true]
          [.recv [0x20, 11, 0, 0, 8, 0x22, 0, 10, 0x27, 0, 0, 0, 6]]).Attains fun r ↦
          r.2.protocolVersion = .v50 ∧ r.1.foldl readAnnounced none = some 6 ∧
          (r.2.step (.send (.v50Publish q.1))).Attains fun r' ↦
            readAnnounced (some 6) ⟨r.2, .send (.v50Publish q.1), r'.1, r'.2⟩ = some 6 ∧
            ∃ p ∈ requested r'.2.toEvents, ¬ opening p ∧ p.size = 8 := by
    decide +kernel
  obtain ⟨_, hrun⟩ := monitor_of_clientRun none readAnnounced hrun
  rw [hread] at hrun
  have hle := h _ _ _ _ hrun hv _ hstep 6 hafter packet hp ho
  rw [hsize] at hle
  exact absurd hle (by decide)

end GenericConnection

end MqttProtocolCore.Connection
