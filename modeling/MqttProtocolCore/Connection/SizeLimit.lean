import MqttProtocolCore.Connection.Frame

namespace MqttProtocolCore.Connection

open General Packet

variable {w : IdWidth}

def opening (packet : GenericPacket w) : Bool := partOf packet = .connect ∨ partOf packet = .connack

theorem size_toPacket (stored : GenericStorePacket w) : stored.toPacket.size = stored.size := by
  cases stored <;> rfl

namespace GenericConnection

variable {c c' : GenericConnection w} {packet : GenericPacket w} {id : PacketId w}
  {x : Outcome (Handled w)} {r : Handled w} {limit bound : ℕ} {v : Prop} {events : List (GenericEvent w)}

/-- A handler leaves the limit for outgoing packets as it is, in version 5.0 what it requests stays
within it or within a bound, and it does not open the connection. -/
structure Within (limit bound : ℕ) (v : Prop) (r : Handled w) : Prop where
  kept : r.1.maximumPacketSizeSend = limit
  sizes : v → ∀ p ∈ requested r.2, ¬ opening p → p.size ≤ max limit bound
  opens : ∀ p ∈ notified r.2, ¬ opening p

theorem within_quiet (h : c.maximumPacketSizeSend = limit) (he : requested events = [])
    (hn : notified events = []) : Within limit bound v (c, events) :=
  ⟨h, fun _ p hp ↦ by simp [he] at hp, fun p hp ↦ by simp [hn] at hp⟩

theorem within_idle (h : c.maximumPacketSizeSend = limit) (hi : Idle c r.1)
    (ht : TimersOnly r.2) : Within limit bound v r :=
  within_quiet (hi.handling.limits.2.2.trans h) ht.requested ht.notified

theorem within_sendPostProcess (h : c.maximumPacketSizeSend = limit) :
    Within limit bound v c.sendPostProcess := within_idle h idle_sendPostProcess timersOnly_sendPostProcess

theorem Within.append (h : Within limit bound v (c, events)) {r : Handled w} (hr : Within limit bound v r) :
    Within limit bound v (r.1, events ++ r.2) := by
  refine ⟨hr.kept, fun hv p hp ho ↦ ?_, fun p hp ↦ ?_⟩
  · rw [requested_append, List.mem_append] at hp
    exact hp.elim (fun hp ↦ h.sizes hv p hp ho) fun hp ↦ hr.sizes hv p hp ho
  · rw [notified_append, List.mem_append] at hp
    exact hp.elim (h.opens p) (hr.opens p)

theorem within_reject (h : c.maximumPacketSizeSend = limit) (e : MqttError) :
    Within limit bound v (c.reject e) := within_quiet h rfl rfl

theorem within_sent (h : c.maximumPacketSizeSend = limit) {rel : Option (PacketId w)}
    (hs : v → ¬ opening packet → packet.size ≤ max limit bound) :
    Within limit bound v (c, [.requestSendPacket packet rel]) := by
  refine ⟨h, fun hv p hp ho ↦ ?_, fun p hp ↦ by cases hp⟩
  obtain rfl : p = packet := by simpa using hp
  exact hs hv ho

theorem within_request (h : c.maximumPacketSizeSend = limit) {rel : Option (PacketId w)}
    (hs : v → ¬ opening packet → packet.size ≤ max limit bound) : Within limit bound v (c.request packet rel) :=
  (within_sent h hs).append (within_sendPostProcess h)

theorem within_received (h : c.maximumPacketSizeSend = limit) (ho : ¬ opening packet) :
    Within limit bound v (c.received packet) := by
  have hkept : Handling c (c.received packet).1 := frames_handling.received
  refine ⟨hkept.limits.2.2.trans h, fun _ p hp ↦ by simp at hp, fun p hp ↦ ?_⟩
  obtain rfl : p = packet := by simpa using hp
  exact ho

theorem within_releaseIfUsed (h : c.maximumPacketSizeSend = limit) :
    (c.releaseIfUsed id).Ensures (Within limit bound v) := by
  unfold releaseIfUsed
  split
  · exact Outcome.Ensures.bind (P := fun _ ↦ True) (fun _ _ ↦ trivial)
      fun man _ ↦ Outcome.ensures_ret.mpr (within_quiet h rfl rfl)
  · exact Outcome.ensures_ret.mpr (within_quiet h rfl rfl)

theorem within_refuse (h : c.maximumPacketSizeSend = limit) (e : MqttError)
    (id : Option (PacketId w)) : (c.refuse e id).Ensures (Within limit bound v) := by
  cases id with
  | none => exact Outcome.ensures_ret.mpr (within_reject h e)
  | some id =>
    refine Outcome.Ensures.bind (P := Within limit bound v) (within_releaseIfUsed h) fun r hr ↦ Outcome.ensures_ret.mpr ?_
    exact (within_reject h e).append hr

theorem within_checked (h : c.maximumPacketSizeSend = limit) {size : ℕ}
    (hx : size ≤ limit → x.Ensures (Within limit bound v)) :
    (c.limited size x).Ensures (Within limit bound v) := by
  unfold limited validateMaximumPacketSizeSend
  split
  · rename_i hsize
    exact hx (h ▸ of_decide_eq_true hsize)
  · exact Outcome.ensures_ret.mpr (within_reject h _)

theorem within_limited (h : c.maximumPacketSizeSend = limit) {size : ℕ}
    (hx : size ≤ max limit bound → x.Ensures (Within limit bound v)) :
    (c.limited size x).Ensures (Within limit bound v) :=
  within_checked h fun hs ↦ hx (le_max_of_le_left hs)

theorem within_sendConnected (h : c.maximumPacketSizeSend = limit)
    (hs : v → ¬ opening packet → packet.size ≤ max limit bound) : Within limit bound v (c.sendConnected packet) := by
  unfold sendConnected
  split
  · exact within_reject h _
  · exact within_request h hs

theorem within_answered {e : MqttError} (h : c.maximumPacketSizeSend = limit)
    (h' : c'.maximumPacketSizeSend = limit) :
    (c.limited packet.size (if c.status ≠ .connected then .ret (c.reject e)
      else .ret (c'.request packet none))).Ensures (Within limit bound v) := by
  refine within_limited h fun hsize ↦ ?_
  split
  · exact Outcome.ensures_ret.mpr (within_reject h _)
  · exact Outcome.ensures_ret.mpr (within_request h' fun _ _ ↦ hsize)

theorem limit_await {kind : AckKind} :
    (c.await kind id).maximumPacketSizeSend = c.maximumPacketSizeSend := by cases kind <;> rfl

theorem limit_settle {kind : AckKind} :
    (c.settle kind id).maximumPacketSizeSend = c.maximumPacketSizeSend := by cases kind <;> rfl

theorem within_sendPubrel (h : c.maximumPacketSizeSend = limit) {stored : GenericStorePacket w}
    (hs : v → stored.size ≤ max limit bound) : (c.sendPubrel id stored).Ensures (Within limit bound v) := by
  unfold sendPubrel
  split
  · exact Outcome.ensures_ret.mpr (within_reject h _)
  split
  · exact Outcome.ensures_ret.mpr (within_reject h _)
  have hsend {c' : GenericConnection w} (hc : c'.maximumPacketSizeSend = limit) :
      (if c'.status = .connected then
        Outcome.ret ((c'.await .pubcomp id).request stored.toPacket none)
      else .ret c'.sendPostProcess).Ensures (Within limit bound v) := by
    split
    · exact Outcome.ensures_ret.mpr (within_request (limit_await.trans hc)
        fun hv _ ↦ size_toPacket stored ▸ hs hv)
    · exact Outcome.ensures_ret.mpr (within_sendPostProcess hc)
  split
  · exact (addsStored_handling _).bind fun c' hc' ↦ hsend (hc'.limits.2.2.trans h)
  · exact hsend h

theorem within_sendSubscription (h : c.maximumPacketSizeSend = limit) {kind : AckKind}
    (hs : v → ¬ opening packet → packet.size ≤ max limit bound) :
    (c.sendSubscription kind id packet).Ensures (Within limit bound v) := by
  unfold sendSubscription
  split
  · exact within_refuse h _ _
  split
  · exact Outcome.ensures_ret.mpr (within_reject h _)
  · exact Outcome.ensures_ret.mpr (within_request (limit_await.trans h) hs)

theorem within_sendPingreq (h : c.maximumPacketSizeSend = limit)
    (hs : v → ¬ opening packet → packet.size ≤ max limit bound) : Within limit bound v (c.sendPingreq packet) := by
  unfold sendPingreq
  split
  · exact within_reject h _
  · have hwait : Within limit bound v c.expectPingresp :=
      within_idle h idle_expectPingresp timersOnly_expectPingresp
    exact ((within_sent h hs).append hwait).append (within_sendPostProcess hwait.kept)

theorem within_sendDisconnect (h : c.maximumPacketSizeSend = limit)
    (hs : v → ¬ opening packet → packet.size ≤ max limit bound) : Within limit bound v (c.sendDisconnect packet) := by
  unfold sendDisconnect
  split
  · exact within_reject h _
  · refine ⟨h, fun hv p hp ho ↦ ?_, fun p hp ↦ by simp [cancelTimers] at hp⟩
    obtain rfl : p = packet := by simpa [cancelTimers] using hp
    exact hs hv ho

theorem within_sendStored (h : c.maximumPacketSizeSend = limit) :
    c.sendStored.Ensures (Within limit bound v) := by
  intro r hr
  obtain ⟨-, hstate, req, rel, hrep, hres⟩ := sendStored_spec.of_ret hr
  have hnote : notified r.2 = [] := congrArg Report.notified hrep
  refine ⟨by rw [hstate, h], fun _ p hp _ ↦ ?_, fun p hp ↦ by simp [hnote] at hp⟩
  have hreq : requested r.2 = req := congrArg Report.requested hrep
  obtain ⟨_, stored, -, hsize, rfl⟩ := (hres.requested p).mp (hreq ▸ hp)
  rw [size_toPacket, ← h]
  exact le_max_of_le_left hsize

theorem within_finishConnack (h : c.maximumPacketSizeSend = limit) {accepted : Bool}
    (hp : opening packet) : (c.finishConnack accepted packet).Ensures (Within limit bound v) := by
  unfold finishConnack
  split
  · refine Outcome.ensures_ret.mpr ⟨h, fun _ p hp' ho ↦ ?_, fun p hp' ↦ by simp at hp'⟩
    obtain rfl : p = packet := by simpa [cancelTimers] using hp'
    exact (ho hp).elim
  · have hconn : ({ c with status := .connected } : GenericConnection w).maximumPacketSizeSend =
        limit := h
    refine Outcome.Ensures.bind (P := Within limit bound v) (within_sendStored hconn) fun r hr ↦ Outcome.ensures_ret.mpr ?_
    exact ((within_sent hconn fun _ ho ↦ (ho hp).elim).append hr).append
      (within_sendPostProcess hr.kept)

theorem within_processSendV311Connect (h : c.maximumPacketSizeSend = limit) (p : V311.Connect) :
    Within limit bound v (c.processSendV311Connect p) := by
  unfold processSendV311Connect
  split
  · exact within_reject h _
  · refine within_request ?_ fun _ ho ↦ (ho rfl).elim
    split <;> exact h

theorem announceConnect_limit (props : Properties) :
    (props.foldl announceConnect c).maximumPacketSizeSend = c.maximumPacketSizeSend := by
  induction props generalizing c with
  | nil => rfl
  | cons prop props ih =>
    rw [List.foldl_cons, ih]
    unfold announceConnect
    split
    · split <;> rfl
    · rfl
    · rfl
    · split <;> rfl
    · rfl

theorem within_processSendV50Connect (h : c.maximumPacketSizeSend = limit) (p : V50.Connect) :
    (c.processSendV50Connect p).Ensures (Within limit bound v) := by
  refine within_limited h fun _ ↦ ?_
  split
  · exact Outcome.ensures_ret.mpr (within_reject h _)
  · refine Outcome.ensures_ret.mpr (within_request ?_ fun _ ho ↦ (ho rfl).elim)
    rw [announceConnect_limit]
    split <;> exact h

theorem within_processSendV50Connack (h : c.maximumPacketSizeSend = limit) (p : V50.Connack) :
    (c.processSendV50Connack p).Ensures (Within limit bound v) := by
  refine within_limited h fun _ ↦ ?_
  split
  · exact Outcome.ensures_ret.mpr (within_reject h _)
  dsimp only
  split
  · obtain ⟨hframe, ht⟩ := announceAll_announceConnack (c := c) p.props
    have hkept : (c.announceAll announceConnack p.props).1.maximumPacketSizeSend = limit := by
      rw [hframe, h]
    refine Outcome.Ensures.bind (P := Within limit bound v) (within_finishConnack hkept rfl) fun r hr ↦ Outcome.ensures_ret.mpr ?_
    exact (within_quiet hkept ht.requested ht.notified).append hr
  · refine Outcome.Ensures.bind (P := Within limit bound v) (within_finishConnack h rfl) fun r hr ↦ Outcome.ensures_ret.mpr ?_
    exact (within_quiet h rfl rfl).append hr

theorem within_transmit (h : c.maximumPacketSizeSend = limit) {rel : Option (PacketId w)}
    (hs : c.status = .connected → v → packet.size ≤ max limit bound) :
    Within limit bound v (c.transmit packet rel) := by
  unfold transmit
  split
  · rename_i hc
    exact within_request h fun hv _ ↦ hs hc hv
  · exact within_quiet h rfl rfl

theorem within_processSendV311Publish (h : c.maximumPacketSizeSend = limit) (hv : ¬ v)
    (p : V311.Publish w) : (c.processSendV311Publish p).Ensures (Within limit bound v) := by
  unfold processSendV311Publish
  split
  · split
    · exact within_refuse h _ _
    split
    · exact Outcome.ensures_ret.mpr (within_reject h _)
    split
    · refine (addsStored_handling _).bind fun c' hc' ↦ Outcome.ensures_ret.mpr ?_
      exact within_transmit (limit_await.trans (hc'.limits.2.2.trans h)) fun _ h ↦ (hv h).elim
    · exact Outcome.ensures_ret.mpr (within_transmit (limit_await.trans h) fun _ h ↦ (hv h).elim)
  · split
    · exact Outcome.ensures_ret.mpr (within_reject h _)
    · exact Outcome.ensures_ret.mpr (within_transmit h fun _ h ↦ (hv h).elim)

/-- A PUBLISH goes out as it is, or with an automatic alias in the place of its topic. -/
theorem applyTopicAlias_size (p : V50.Publish w) (validated : Bool) :
    (c.applyTopicAlias p validated).Ensures fun r ↦ ∀ p', r.1 = some p' →
      p' = p ∨ c.mapsTopic p ∧ p'.size = p.aliasedSize := by
  have hsame {c' : GenericConnection w} : ∀ p', (some p, c').1 = some p' →
      p' = p ∨ c.mapsTopic p ∧ p'.size = p.aliasedSize := fun p' hp' ↦ .inl (Option.some.inj hp').symm
  have hnone {c' : GenericConnection w} : ∀ p', ((none : Option (V50.Publish w)), c').1 = some p' →
      p' = p ∨ c.mapsTopic p ∧ p'.size = p.aliasedSize := fun p' hp' ↦ by cases hp'
  have halias {a : U16} (ha : 1 ≤ a) (hm : c.mapsTopic p) :
      (p.removeTopicAddTopicAlias a).unwrap.Ensures fun p' ↦
        p' = p ∨ c.mapsTopic p ∧ p'.size = p.aliasedSize := by
    have h0 : a ≠ 0 := by
      rintro rfl
      exact absurd ha (by decide)
    exact (p.removeTopicAddTopicAlias_size ⟨a, h0⟩).mono fun _ hp' ↦ .inr ⟨hm, hp'⟩
  unfold applyTopicAlias
  split
  · split
    · exact Outcome.ensures_ret.mpr hsame
    · split
      · exact Outcome.ensures_ret.mpr hnone
      · exact Outcome.ensures_ret.mpr hsame
  rename_i ht
  split
  · split
    · exact Outcome.Ensures.bind (P := fun _ ↦ True) (fun _ _ ↦ trivial)
        fun _ _ ↦ Outcome.ensures_ret.mpr hsame
    · exact Outcome.ensures_ret.mpr hnone
  rename_i ha
  split
  · rename_i hauto
    refine Outcome.Ensures.bind (P := fun r ↦ r.1 = p ∨ c.mapsTopic p ∧ r.1.size = p.aliasedSize) ?_ ?_
    · unfold autoMapTopicAlias
      split
      · exact Outcome.ensures_ret.mpr (.inl rfl)
      rename_i s hs
      have hm : c.mapsTopic p := by simp [mapsTopic, ht, ha, hauto.1, hs, hauto.2]
      split
      · rename_i found hf
        have hle := (TopicAliasSend.inRange_of_peek (TopicAliasSend.findByTopic_spec hf)).1
        exact (halias hle hm).bind fun p' hp' ↦ Outcome.ensures_ret.mpr hp'
      · obtain ⟨lru, hlru, hle, -⟩ := s.getLruAlias_spec
        rw [hlru, Outcome.ret_bind]
        refine Outcome.Ensures.bind (P := fun _ ↦ True) (fun _ _ ↦ trivial) fun s' _ ↦ ?_
        exact (halias hle hm).bind fun p' hp' ↦ Outcome.ensures_ret.mpr hp'
    · rintro ⟨p', c'⟩ hp'
      refine Outcome.ensures_ret.mpr fun q hq ↦ ?_
      obtain rfl := Option.some.inj hq
      exact hp'
  split
  · rename_i hauto
    refine Outcome.Ensures.bind (P := fun p' ↦ p' = p ∨ c.mapsTopic p ∧ p'.size = p.aliasedSize) ?_ ?_
    · unfold autoReplaceTopicAlias
      split
      · rename_i found hf
        obtain ⟨s, hs, hf⟩ := Option.bind_eq_some_iff.mp hf
        have hm : c.mapsTopic p := by simp [mapsTopic, ht, ha, hauto.1, hs, hauto.2, hf]
        exact halias (TopicAliasSend.inRange_of_peek (TopicAliasSend.findByTopic_spec hf)).1 hm
      · exact Outcome.ensures_ret.mpr (.inl rfl)
    · intro p' hp'
      refine Outcome.ensures_ret.mpr fun q hq ↦ ?_
      obtain rfl := Option.some.inj hq
      exact hp'
  · exact Outcome.ensures_ret.mpr hsame

theorem limit_countPublish {id : Option (PacketId w)} :
    (c.countPublish id).Ensures fun o ↦ ∀ c' ∈ o,
      c'.maximumPacketSizeSend = c.maximumPacketSizeSend := by
  refine countPublish_frame.mono fun r hr c' hc' ↦ ?_
  rw [hr c' hc']

theorem storeAdd_frame {stored : GenericStorePacket w} :
    (c.storeAdd stored).Ensures fun c' ↦ c' = { c with store := c'.store } :=
  Outcome.Ensures.bind (P := fun _ ↦ True) (fun _ _ ↦ trivial) fun _ _ ↦ Outcome.ensures_ret.mpr rfl

structure SendsAliased (c : GenericConnection w) (p : V50.Publish w) : Prop where
  maps : c.mapsTopic p
  fits : p.size ≤ c.maximumPacketSizeSend
  counted : ∀ id, p.packetId = some id → c.pidMan.isUsedId id ∧ ¬ c.quotaReached

theorem within_sendV50Publish (h : c.maximumPacketSizeSend = limit) {p : V50.Publish w}
    {validated : Bool} {rel : Option (PacketId w)} (hs : p.size ≤ max limit bound)
    (ha : v → c.mapsTopic p → (∀ id, p.packetId = some id → ¬ c.quotaReached) →
      p.aliasedSize ≤ bound) :
    (c.sendV50Publish p validated rel).Ensures (Within limit bound v) := by
  unfold sendV50Publish
  refine Outcome.Ensures.bind (P := fun r ↦ Realiased c r.2 ∧ ∀ p', r.1 = some p' →
    p' = p ∨ c.mapsTopic p ∧ p'.size = p.aliasedSize) ?_ ?_
  · exact fun r hr ↦ ⟨((applyTopicAlias_spec validated).of_ret hr).2.1,
      applyTopicAlias_size p validated r hr⟩
  rintro ⟨o, c₁⟩ ⟨hre, hsize⟩
  dsimp only at hre hsize
  have h₁ : c₁.maximumPacketSizeSend = limit := by rw [hre, ← h]
  have hquota : c₁.quotaReached = c.quotaReached := by
    rw [hre]
    rfl
  cases o with
  | none => exact within_refuse h₁ _ _
  | some p' =>
    dsimp only
    refine Outcome.Ensures.bind (P := fun o ↦ ∀ c₂ ∈ o, c₂.maximumPacketSizeSend = limit ∧
      ∀ id, p.packetId = some id → ¬ c.quotaReached) (fun o ho c₂ hc₂ ↦ ⟨?_, ?_⟩) ?_
    · exact (limit_countPublish o ho c₂ hc₂).trans h₁
    · intro id hid
      rw [hid] at ho
      have hcount := ((countPublish_spec c₁ id).of_ret ho).2.1
      rw [← hquota, ← hcount]
      exact fun hnone ↦ by cases hnone.symm.trans hc₂
    · intro o ho
      cases o with
      | none => exact within_refuse h₁ _ _
      | some c₂ =>
        obtain ⟨h₂, hq⟩ := ho c₂ rfl
        refine Outcome.ensures_ret.mpr (within_transmit h₂ fun _ hv ↦ ?_)
        rcases hsize p' rfl with rfl | ⟨hm, hp'⟩
        · exact hs
        · exact hp'.trans_le (le_max_of_le_right (ha hv hm hq))

theorem within_processSendV50Publish (h : c.maximumPacketSizeSend = limit) (p : V50.Publish w)
    (ha : v → c.SendsAliased p → p.aliasedSize ≤ bound) :
    (c.processSendV50Publish p).Ensures (Within limit bound v) := by
  refine within_checked h fun hsize ↦ ?_
  have hs : p.size ≤ max limit bound := le_max_of_le_left hsize
  split
  · rename_i id hid
    split
    · exact within_refuse h _ _
    split
    · exact Outcome.ensures_ret.mpr (within_reject h _)
    rename_i hused
    have haliased (hm : c.mapsTopic p) (hq : ¬ c.quotaReached) : c.SendsAliased p := by
      refine ⟨hm, h ▸ hsize, fun id' hid' ↦ ⟨?_, hq⟩⟩
      obtain rfl := Option.some.inj (hid.symm.trans hid')
      simpa using hused
    split
    · refine Outcome.Ensures.bind (fun _ hx ↦ (storablePublish_spec c p).of_ret hx) ?_
      rintro ⟨o, c₁⟩ ⟨hre, hsame, -⟩
      dsimp only at hre hsame
      have h₁ : c₁.maximumPacketSizeSend = limit := by rw [hre, ← h]
      cases o with
      | none => exact within_refuse h₁ _ _
      | some stored =>
        refine storeAdd_frame.bind fun c₂ hc₂ ↦ ?_
        have hsend : SameSending c (c₂.await (publishAck p.qos) id) := by
          have h₂ := @sameSending_await w c₂ id (publishAck p.qos)
          rw [hc₂, hre] at h₂ ⊢
          exact ⟨h₂.status, h₂.autoMap, h₂.autoReplace, h₂.max, h₂.count⟩
        have halias (ht : ¬ p.topicName.isEmpty) :
            (c₂.await (publishAck p.qos) id).topicAliasSend = c.topicAliasSend := by
          rw [topicAliasSend_await, hc₂, hsame ht]
        have hkept : (c₂.await (publishAck p.qos) id).maximumPacketSizeSend = limit := by
          rw [limit_await, hc₂, h₁]
        refine within_sendV50Publish hkept hs fun hv hm hq ↦ ha hv (haliased ?_ ?_)
        · rwa [hsend.mapsTopic halias] at hm
        · rw [← hsend.quotaReached]
          exact hq id hid
    · refine within_sendV50Publish (limit_await.trans h) hs fun hv hm hq ↦ ha hv (haliased ?_ ?_)
      · rwa [sameSending_await.mapsTopic fun _ ↦ topicAliasSend_await] at hm
      · rw [← (sameSending_await (c := c)).quotaReached]
        exact hq id hid
  · rename_i hid
    split
    · exact Outcome.ensures_ret.mpr (within_reject h _)
    · refine within_sendV50Publish h hs fun hv hm _ ↦ ha hv ⟨hm, h ▸ hsize, fun id hid' ↦ ?_⟩
      cases hid.symm.trans hid'

theorem within_processSend (h : c.maximumPacketSizeSend = limit)
    (hv : v → packet.protocolVersion = .v50)
    (ha : ∀ p, packet = .v50Publish p → v → c.SendsAliased p → p.aliasedSize ≤ bound) :
    (c.processSend packet).Ensures (Within limit bound v) := by
  have hrole {q : Prop} [Decidable q] {x : Outcome (Handled w)} (hx : x.Ensures (Within limit bound v)) :
      (if q then x else .ret (c.reject .packetNotAllowedToSend)).Ensures (Within limit bound v) := by
    split
    · exact hx
    · exact Outcome.ensures_ret.mpr (within_reject h _)
  have hold (h311 : packet.protocolVersion = .v311) : ¬ v := fun h' ↦ by
    cases h311.symm.trans (hv h')
  have hsent {p : GenericPacket w} (hs : v → p.size ≤ max limit bound) :
      (Outcome.ret (c.sendConnected p)).Ensures (Within limit bound v) :=
    Outcome.ensures_ret.mpr (within_sendConnected h fun h' _ ↦ hs h')
  cases packet with
  | v311Connect p => exact hrole (Outcome.ensures_ret.mpr (within_processSendV311Connect h p))
  | v50Connect p => exact hrole (within_processSendV50Connect h p)
  | v311Connack p =>
    refine hrole ?_
    unfold processSendV311Connack
    split
    · exact Outcome.ensures_ret.mpr (within_reject h _)
    · exact within_finishConnack h rfl
  | v50Connack p => exact hrole (within_processSendV50Connack h p)
  | v311Publish p => exact within_processSendV311Publish h (hold rfl) p
  | v50Publish p => exact within_processSendV50Publish h p (ha p rfl)
  | v311Puback p | v311Pubrec p | v311Pubcomp p => exact hsent fun h' ↦ (hold rfl h').elim
  | v50Puback p => exact @within_answered _ _ _ (.v50Puback p) _ _ _ _ h h
  | v50Pubcomp p => exact @within_answered _ _ _ (.v50Pubcomp p) _ _ _ _ h h
  | v50Pubrec p =>
    refine @within_answered _ _ _ (.v50Pubrec p) _ _ _ _ h ?_
    split <;> exact h
  | v311Pubrel p => exact within_sendPubrel h fun h' ↦ (hold rfl h').elim
  | v50Pubrel p => exact within_limited h fun hs ↦ within_sendPubrel h fun _ ↦ hs
  | v311Subscribe p | v311Unsubscribe p =>
    exact hrole (within_sendSubscription h fun h' _ ↦ (hold rfl h').elim)
  | v50Subscribe p | v50Unsubscribe p =>
    exact hrole (within_limited h fun hs ↦ within_sendSubscription h fun _ _ ↦ hs)
  | v311Suback p | v311Unsuback p | v311Pingresp p => exact hrole (hsent fun h' ↦ (hold rfl h').elim)
  | v50Suback p | v50Unsuback p | v50Pingresp p =>
    exact hrole (within_limited h fun hs ↦ hsent fun _ ↦ hs)
  | v311Pingreq p =>
    exact hrole (Outcome.ensures_ret.mpr (within_sendPingreq h fun h' _ ↦ (hold rfl h').elim))
  | v50Pingreq p =>
    exact hrole (within_limited h fun hs ↦
      Outcome.ensures_ret.mpr (within_sendPingreq h fun _ _ ↦ hs))
  | v311Disconnect p =>
    exact hrole (Outcome.ensures_ret.mpr (within_sendDisconnect h fun h' _ ↦ (hold rfl h').elim))
  | v50Disconnect p =>
    exact within_limited h fun hs ↦ Outcome.ensures_ret.mpr (within_sendDisconnect h fun _ _ ↦ hs)
  | v50Auth p =>
    refine within_limited h fun hs ↦ ?_
    split
    · exact Outcome.ensures_ret.mpr (within_reject h _)
    · exact Outcome.ensures_ret.mpr (within_request h fun _ _ ↦ hs)

end GenericConnection

end MqttProtocolCore.Connection
