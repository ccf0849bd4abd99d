import MqttProtocolCore.Connection.Ticks

namespace MqttProtocolCore.Connection.GenericConnection

open General Packet

variable {w : IdWidth} {c c' : GenericConnection w} {packet : GenericPacket w} {id : PacketId w}
  {r : Handled w} {x : Outcome (Handled w)} {q q' : Prop} {events : List (GenericEvent w)}

structure Mirrors (c : GenericConnection w) (r : Handled w) : Prop where
  timers : r.1.timerSet = timersAfter c.timerSet r.2
  cancels : CancelsRunning c.timerSet r.2

structure TimersKept (q : Prop) (c : GenericConnection w) (r : Handled w) : Prop extends
    Mirrors c r where
  stopped : q → r.1.status = .disconnected →
    (c.status = .disconnected ∧ ∀ e ∈ r.2, ¬ isReset e) ∨ r.1.timerSet = fun _ ↦ false

/-- On a connection that goes on as it is, or ends, timers are started for their intervals, which stay
as they are; apart from the timer for PINGRESP, only the end cancels them. -/
structure Paced (q : Prop) (c : GenericConnection w) (r : Handled w) : Prop extends
    TimersKept q c r where
  status : r.1.status = c.status ∨ r.1.status = .disconnected
  intervals : r.1.interval = c.interval
  starts : ∀ e ∈ r.2, isReset e → c.Starts e
  halts : ∀ kind, .requestTimerCancel kind ∈ r.2 → kind = .pingrespRecv ∨ r.1.status = .disconnected

theorem isTimer_of_isReset {e : GenericEvent w} (h : isReset e) : isTimer e := by
  cases e with
  | requestTimerReset => rfl
  | _ => cases h

theorem mirrors_nothing : Mirrors c (c, []) := ⟨rfl, trivial⟩

theorem Mirrors.append {c₁ c₂ : GenericConnection w} {events' : List (GenericEvent w)}
    (h : Mirrors c (c₁, events)) (h' : Mirrors c₁ (c₂, events')) :
    Mirrors c (c₂, events ++ events') := by
  have ht : c₁.timerSet = timersAfter c.timerSet events := h.timers
  constructor
  · rw [timersAfter_append, ← ht]
    exact h'.timers
  · rw [cancelsRunning_append, ← ht]
    exact ⟨h.cancels, h'.cancels⟩

theorem mirrors_free (ht : c'.timerSet = c.timerSet) (he : ∀ e ∈ events, ¬ isTimer e) :
    Mirrors c (c', events) :=
  ⟨ht.trans (timersAfter_of_free he).symm, cancelsRunning_of_free he⟩

theorem mirrors_start (kind : TimerKind) (d : ℕ)
    (h : c'.timerSet = Function.update c.timerSet kind true) :
    Mirrors c (c', [.requestTimerReset kind d]) :=
  ⟨h, by simp [CancelsRunning]⟩

theorem mirrors_cancel (kind : TimerKind)
    (h : c'.timerSet = Function.update c.timerSet kind false) :
    Mirrors c (c', cancelEvents (c.timerSet kind) kind) := by
  unfold cancelEvents
  split
  · rename_i hset
    refine ⟨h, fun kind' he ↦ ?_, trivial⟩
    cases he
    exact hset
  · rename_i hset
    refine ⟨h.trans ?_, trivial⟩
    apply Function.update_eq_self_iff.mpr
    exact (Bool.eq_false_iff.mpr hset).symm

theorem mirrors_cancelTimers : Mirrors c c.cancelTimers := by
  refine ⟨timerSet_cancelTimers_eq.trans timersAfter_cancelTimers.symm, ?_⟩
  unfold cancelTimers cancelEvents
  cases h₁ : c.pingreqSendSet <;> cases h₂ : c.pingreqRecvSet <;> cases h₃ : c.pingrespRecvSet <;>
    simp [CancelsRunning, runAfter, timerSet, h₁, h₂, h₃, Function.update]

/-- What neither starts nor cancels a timer may be done on a connection that goes on. -/
theorem Ticks.opens (h : Ticks q' c' r) (ht : c'.timerSet = c.timerSet)
    (hs : c'.status ≠ .disconnected) : TimersKept q c r :=
  ⟨⟨by rw [h.timers, ht], h.cancels⟩, fun _ hd ↦ (hs (h.status.symm.trans hd)).elim⟩

theorem Ticks.cancelFree (h : Ticks q c r) (kind : TimerKind) : .requestTimerCancel kind ∉ r.2 := by
  intro hmem
  obtain ⟨_, he, -⟩ := h.starts _ hmem rfl
  cases he

theorem Ticks.paced (h : Ticks q' c r) (hq : q → c.status = .disconnected → q') : Paced q c r := by
  refine ⟨⟨⟨h.timers, h.cancels⟩, fun hq' hs ↦ ?_⟩, .inl h.status, h.intervals, fun e he hr ↦ ?_,
    fun kind hmem ↦ ?_⟩
  · have hd : c.status = .disconnected := h.status.symm.trans hs
    exact .inl ⟨hd, h.quiet hd (hq hq' hd)⟩
  · exact h.starts e he (isTimer_of_isReset hr)
  · exact (h.cancelFree kind hmem).elim

theorem ticks_sendStored : c.sendStored.Ensures (Ticks q c) := by
  unfold sendStored GenericStore.forEach
  simp only [bind_assoc]
  refine Outcome.Ensures.bind (P := fun r ↦ ∀ e ∈ r.2.2, ¬ isTimer e) ?_ fun r hr ↦ ?_
  · intro r hr
    obtain ⟨-, -, hev, -⟩ := (forEachLoop_resend c.store.keyed c.store.map.nodup).of_ret hr
    rw [hev]
    intro e he
    obtain ⟨entry, -, rfl⟩ := List.mem_map.mp he
    unfold resendEvent
    split <;> simp [isTimer]
  · exact Outcome.ensures_ret.mpr (Still.ticks ⟨rfl, rfl, rfl⟩ hr)

theorem TimersKept.append (hm : Mirrors c (c', events)) (hs : c'.status ≠ .disconnected)
    (h : TimersKept q c' r) : TimersKept q c (r.1, events ++ r.2) := by
  refine ⟨hm.append h.toMirrors, fun hq hd ↦ ?_⟩
  rcases h.stopped hq hd with ⟨hd', -⟩ | hoff
  · exact (hs hd').elim
  · exact .inr hoff

theorem kept_cancelled {before after : List (GenericEvent w)} (hc : c'.timerSet = c.timerSet)
    (hb : ∀ e ∈ before, ¬ isTimer e) (ha : ∀ e ∈ after, ¬ isTimer e) :
    TimersKept q c (c'.cancelTimers.1, before ++ c'.cancelTimers.2 ++ after) := by
  refine ⟨?_, fun _ _ ↦ .inr timerSet_cancelTimers_eq⟩
  have hbefore : Mirrors c (c', before) := mirrors_free hc hb
  exact (hbefore.append mirrors_cancelTimers).append (mirrors_free rfl ha)

theorem isReset_cancelEvents {set : Bool} {kind : TimerKind} {e : GenericEvent w}
    (h : e ∈ cancelEvents set kind) : ¬ isReset e := by
  unfold cancelEvents at h
  split at h
  · obtain rfl := List.mem_singleton.mp h
    simp [isReset]
  · cases h

theorem isReset_cancelTimers {e : GenericEvent w} (h : e ∈ c.cancelTimers.2) : ¬ isReset e := by
  simp only [cancelTimers, List.mem_append, or_assoc] at h
  obtain h | h | h := h <;> exact isReset_cancelEvents h

theorem paced_cancelled {before after : List (GenericEvent w)}
    (hc : Still { c with status := .disconnected } c') (hb : ∀ e ∈ before, ¬ isTimer e)
    (ha : ∀ e ∈ after, ¬ isTimer e) :
    Paced q c (c'.cancelTimers.1, before ++ c'.cancelTimers.2 ++ after) := by
  refine ⟨kept_cancelled hc.timers hb ha, .inr hc.status, hc.intervals, fun e he hr ↦ ?_,
    fun _ _ ↦ .inr hc.status⟩
  simp only [List.append_assoc, List.mem_append] at he
  obtain he | he | he := he
  · exact (hb e he (isTimer_of_isReset hr)).elim
  · exact (isReset_cancelTimers he hr).elim
  · exact (ha e he (isTimer_of_isReset hr)).elim

theorem kept_halted {after : List (GenericEvent w)} (hc : c'.timerSet = c.timerSet)
    (ha : ∀ e ∈ after, ¬ isTimer e) :
    TimersKept q c (c'.cancelTimers.1, c'.cancelTimers.2 ++ after) :=
  kept_cancelled hc (List.forall_mem_nil _) ha

theorem paced_halted {after : List (GenericEvent w)}
    (hc : Still { c with status := .disconnected } c') (ha : ∀ e ∈ after, ¬ isTimer e) :
    Paced q c (c'.cancelTimers.1, c'.cancelTimers.2 ++ after) :=
  paced_cancelled hc (List.forall_mem_nil _) ha

theorem paced_reject (e : MqttError) : Paced q c (c.reject e) :=
  (ticks_reject (q := True) e).paced fun _ _ ↦ trivial

theorem kept_limited {size : ℕ} (hx : x.Ensures (TimersKept q c)) :
    (c.limited size x).Ensures (TimersKept q c) := by
  unfold limited
  split
  · exact hx
  · exact Outcome.ensures_ret.mpr (paced_reject _).toTimersKept

theorem paced_limited {size : ℕ} (hx : x.Ensures (Paced q c)) :
    (c.limited size x).Ensures (Paced q c) := by
  unfold limited
  split
  · exact hx
  · exact Outcome.ensures_ret.mpr (paced_reject _)

theorem paced_refusedConnack : (c.finishConnack false packet).Ensures (Paced q c) := by
  have hsent : ∀ e ∈ [(.requestSendPacket packet none : GenericEvent w)], ¬ isTimer e := by
    simp [isTimer]
  have hclose : ∀ e ∈ [(.requestClose : GenericEvent w)], ¬ isTimer e := by simp [isTimer]
  exact Outcome.ensures_ret.mpr (paced_cancelled (.refl _) hsent hclose)

theorem ticks_acceptedConnack :
    (c.finishConnack true packet).Ensures (Ticks q { c with status := .connected }) := by
  have hconn : { c with status := .connected }.status ≠ ConnectionStatus.disconnected := by simp
  refine (ticks_sendStored (q := q)).bind fun r hr ↦ Outcome.ensures_ret.mpr ?_
  have hsend : Ticks q { c with status := .connected }
      ({ c with status := .connected }, [.requestSendPacket packet none]) :=
    Still.ticks (.refl _) (by simp [isTimer])
  have hpost : Ticks q r.1 r.1.sendPostProcess :=
    ticks_sendPostProcess.opened (by rw [hr.status]; exact hconn)
  exact (hsend.append hr).append hpost

theorem kept_finishConnack {accepted : Bool} :
    (c.finishConnack accepted packet).Ensures (TimersKept q c) := by
  cases accepted with
  | false => exact paced_refusedConnack.mono fun _ hr ↦ hr.toTimersKept
  | true => exact (ticks_acceptedConnack (q := True)).mono fun _ hr ↦ hr.opens rfl (by simp)

theorem mirrors_announceConnack (prop : Property) : Mirrors c (c.announceConnack prop) := by
  unfold announceConnack
  split
  · split <;> exact mirrors_free rfl (by simp)
  · exact mirrors_free rfl (by simp)
  · exact mirrors_free rfl (by simp)
  · split
    · exact mirrors_cancel .pingreqRecv (timerSet_update .pingreqRecv false).symm
    · exact mirrors_start .pingreqRecv _ (timerSet_update .pingreqRecv true).symm
  · exact mirrors_nothing

theorem mirrors_announceAll (props : Properties) :
    Mirrors c (c.announceAll announceConnack props) := by
  induction props generalizing c with
  | nil => exact mirrors_nothing
  | cons prop props ih => exact (mirrors_announceConnack prop).append ih

theorem kept_processSendV311Connect (p : V311.Connect) :
    TimersKept q c (c.processSendV311Connect p) := by
  unfold processSendV311Connect
  split
  · exact (paced_reject _).toTimersKept
  · cases p.cleanStart <;> exact Ticks.opens ticks_request rfl (by simp [initializeState, clearStoreRelated])

theorem announceConnect_still (props : Properties) : Still c (props.foldl announceConnect c) := by
  induction props generalizing c with
  | nil => exact .refl c
  | cons prop props ih =>
    refine Still.trans ?_ ih
    unfold announceConnect
    split
    · split <;> exact ⟨rfl, rfl, rfl⟩
    · exact ⟨rfl, rfl, rfl⟩
    · exact ⟨rfl, rfl, rfl⟩
    · split <;> exact ⟨rfl, rfl, rfl⟩
    · exact ⟨rfl, rfl, rfl⟩

theorem kept_processSendV50Connect (p : V50.Connect) :
    (c.processSendV50Connect p).Ensures (TimersKept q c) := by
  refine kept_limited ?_
  split
  · exact Outcome.ensures_ret.mpr (paced_reject _).toTimersKept
  · refine Outcome.ensures_ret.mpr ?_
    have hstill := announceConnect_still (c := if p.cleanStart then clearStoreRelated
      { c.initializeState true with
        status := .connecting
        pingreqKeepAliveMs := p.keepAlive * 1000 } else { c.initializeState true with
        status := .connecting
        pingreqKeepAliveMs := p.keepAlive * 1000 }) p.props
    refine Ticks.opens ticks_request (hstill.timers.trans ?_) ?_
    · split <;> rfl
    · rw [hstill.status]
      split <;> simp [clearStoreRelated]

theorem kept_processSendV50Connack (p : V50.Connack) :
    (c.processSendV50Connack p).Ensures (TimersKept q c) := by
  refine kept_limited ?_
  split
  · exact Outcome.ensures_ret.mpr (paced_reject _).toTimersKept
  · rename_i hs
    have hne : c.status ≠ .disconnected := by simp_all
    dsimp only
    split
    · refine (kept_finishConnack (q := q)).bind fun r hr ↦ Outcome.ensures_ret.mpr ?_
      refine .append (mirrors_announceAll p.props) ?_ hr
      have hframe := (announceAll_announceConnack (c := c) p.props).1
      rw [hframe]
      exact hne
    · refine (kept_finishConnack (q := q)).bind fun r hr ↦ Outcome.ensures_ret.mpr ?_
      exact .append mirrors_nothing hne hr

theorem ticks_transmit {rel : Option (PacketId w)} (h : Still c c') :
    Ticks q c (c'.transmit packet rel) := by
  unfold transmit
  split
  · rename_i hs
    exact (Ticks.after h ticks_request).opened fun hd ↦ by cases hs.symm.trans (h.status.trans hd)
  · exact Ticks.after h ticks_nothing

theorem still_await {kind : AckKind} : Still c (c.await kind id) := still_setAwaiting

theorem ticks_processSendV311Publish (p : V311.Publish w) :
    (c.processSendV311Publish p).Ensures (Ticks q c) := by
  unfold processSendV311Publish
  split
  · split
    · exact ticks_refuse _ _
    split
    · exact Outcome.ensures_ret.mpr (ticks_reject _)
    split
    · refine Outcome.Ensures.bind (P := Still c) ?_ fun c' hc' ↦ ?_
      · refine Outcome.Ensures.bind (P := fun _ ↦ True) (fun _ _ ↦ trivial) fun store _ ↦ ?_
        exact Outcome.ensures_ret.mpr ⟨rfl, rfl, rfl⟩
      · exact Outcome.ensures_ret.mpr (ticks_transmit (hc'.trans still_await))
    · exact Outcome.ensures_ret.mpr (ticks_transmit still_await)
  · split
    · exact Outcome.ensures_ret.mpr (ticks_reject _)
    · exact Outcome.ensures_ret.mpr (ticks_transmit (.refl c))

theorem Realiased.still (h : Realiased c c') : Still c c' := by
  rw [h]
  exact ⟨rfl, rfl, rfl⟩

theorem still_countPublish {id : Option (PacketId w)} :
    (c.countPublish id).Ensures fun o ↦ ∀ c' ∈ o, Still c c' := by
  refine countPublish_frame.mono fun r hr c' hc' ↦ ?_
  rw [hr c' hc']
  exact ⟨rfl, rfl, rfl⟩

theorem ticks_sendV50Publish {p : V50.Publish w} {validated : Bool} {rel : Option (PacketId w)} :
    (c.sendV50Publish p validated rel).Ensures (Ticks q c) := by
  unfold sendV50Publish
  refine Outcome.Ensures.bind (P := fun r ↦ Still c r.2) (fun r hr ↦ ?_) fun r hr ↦ ?_
  · exact ((applyTopicAlias_spec validated).of_ret hr).2.1.still
  · obtain ⟨o, c₁⟩ := r
    split
    · rename_i heq
      obtain ⟨rfl, rfl⟩ := Prod.mk.inj heq
      exact hr.ensures (ticks_refuse _ _)
    · rename_i heq
      obtain ⟨rfl, rfl⟩ := Prod.mk.inj heq
      refine still_countPublish.bind fun o ho ↦ ?_
      split
      · exact hr.ensures (ticks_refuse _ _)
      · exact Outcome.ensures_ret.mpr (ticks_transmit (hr.trans (ho _ rfl)))

theorem ticks_processSendV50Publish (p : V50.Publish w) :
    (c.processSendV50Publish p).Ensures (Ticks q c) := by
  refine ticks_limited ?_
  split
  · split
    · exact ticks_refuse _ _
    split
    · exact Outcome.ensures_ret.mpr (ticks_reject _)
    split
    · refine Outcome.Ensures.bind (P := fun r ↦ Still c r.2) (fun r hr ↦ ?_) fun r hr ↦ ?_
      · exact ((storablePublish_spec c p).of_ret hr).1.still
      · obtain ⟨o, c₁⟩ := r
        split
        · rename_i heq
          obtain ⟨rfl, rfl⟩ := Prod.mk.inj heq
          exact hr.ensures (ticks_refuse _ _)
        · rename_i heq
          obtain ⟨rfl, rfl⟩ := Prod.mk.inj heq
          refine Outcome.Ensures.bind (P := Still c) ?_ fun c' hc' ↦ ?_
          · refine Outcome.Ensures.bind (P := fun _ ↦ True) (fun _ _ ↦ trivial) fun store _ ↦ ?_
            exact Outcome.ensures_ret.mpr (hr.trans ⟨rfl, rfl, rfl⟩)
          · exact (hc'.trans still_await).ensures ticks_sendV50Publish
    · exact still_await.ensures ticks_sendV50Publish
  · split
    · exact Outcome.ensures_ret.mpr (ticks_reject _)
    · exact ticks_sendV50Publish

theorem ticks_sendSubscription {kind : AckKind} :
    (c.sendSubscription kind id packet).Ensures (Ticks q c) := by
  unfold sendSubscription
  split
  · exact ticks_refuse _ _
  rename_i hs
  have hne : c.status ≠ .disconnected := by simp_all
  split
  · exact Outcome.ensures_ret.mpr (ticks_reject _)
  · exact Outcome.ensures_ret.mpr ((Ticks.after still_await ticks_request).opened hne)

theorem ticks_sendPingreq : Ticks q c (c.sendPingreq packet) := by
  unfold sendPingreq
  split
  · exact ticks_reject _
  rename_i hs
  have hne : c.status ≠ .disconnected := by simp_all
  have hsend : Ticks q c (c, [.requestSendPacket packet none]) :=
    Still.ticks (.refl c) (by simp [isTimer])
  have hwait : Ticks q c c.expectPingresp := ticks_expectPingresp hne
  have hpost : Ticks q c.expectPingresp.1 c.expectPingresp.1.sendPostProcess :=
    ticks_sendPostProcess.opened (by rwa [hwait.status])
  exact (hsend.append hwait).append hpost

theorem paced_sendDisconnect : Paced q c (c.sendDisconnect packet) := by
  unfold sendDisconnect
  split
  · exact paced_reject _
  · exact paced_halted (.refl _) (by simp [isTimer])

def StartsOffline (c : GenericConnection w) (packet : GenericPacket w) : Prop :=
  c.status = .disconnected ∧ c.needStore ∧ c.isClient ∧ 0 < c.pingreqSendMs ∧
    (∃ id, packet.pubrelOf = some id ∧ c.pidMan.isUsedId id) ∧
    ∀ p, packet = .v50Pubrel p → p.size ≤ c.maximumPacketSizeSend

theorem paced_sendPubrel {stored : GenericStorePacket w}
    (h : q → c.status = .disconnected → c.needStore → c.pidMan.isUsedId id →
      ¬ (c.isClient ∧ c.pingreqSendMs > 0)) : (c.sendPubrel id stored).Ensures (Paced q c) := by
  by_cases hs : c.status = .disconnected
  · by_cases hk : c.needStore
    · by_cases hu : c.pidMan.isUsedId id
      · exact ticks_sendPubrel.mono fun r hr ↦ hr.paced fun hq _ ↦ h hq hs hk hu
      · unfold sendPubrel
        rw [if_neg (by simp [hk]), if_pos hu]
        exact Outcome.ensures_ret.mpr (paced_reject _)
    · unfold sendPubrel
      rw [if_pos ⟨by simp [hs], hk⟩]
      exact Outcome.ensures_ret.mpr (paced_reject _)
  · exact ticks_sendPubrel.mono fun r hr ↦ hr.paced fun _ hd ↦ (hs hd).elim

/-- Whatever is sent on a connection that is open or closed already is paced. -/
theorem paced_processSend (hconnect : partOf packet ≠ .connect) (hconnack : partOf packet ≠ .connack) :
    (c.processSend packet).Ensures (Paced (¬ c.StartsOffline packet) c) := by
  have hticks {x : Outcome (Handled w)} (hx : x.Ensures (Ticks True c)) :
      x.Ensures (Paced (¬ c.StartsOffline packet) c) :=
    hx.mono fun _ hr ↦ hr.paced fun _ _ ↦ trivial
  have hrole {p : Prop} [Decidable p] {x : Outcome (Handled w)}
      (hx : x.Ensures (Paced (¬ c.StartsOffline packet) c)) :
      (if p then x else .ret (c.reject .packetNotAllowedToSend)).Ensures
        (Paced (¬ c.StartsOffline packet) c) := by
    split
    · exact hx
    · exact Outcome.ensures_ret.mpr (paced_reject _)
  have hsent {p : GenericPacket w} :
      (Outcome.ret (c.sendConnected p)).Ensures (Paced (¬ c.StartsOffline packet) c) :=
    hticks (Outcome.ensures_ret.mpr ticks_sendConnected)
  cases packet with
  | v311Connect | v50Connect => exact (hconnect rfl).elim
  | v311Connack | v50Connack => exact (hconnack rfl).elim
  | v311Publish p => exact hticks (ticks_processSendV311Publish p)
  | v50Publish p => exact hticks (ticks_processSendV50Publish p)
  | v311Puback p | v311Pubrec p | v311Pubcomp p => exact hsent
  | v50Puback p | v50Pubcomp p => exact hticks (ticks_limited (ticks_connected ⟨rfl, rfl, rfl⟩))
  | v50Pubrec p =>
    refine hticks (ticks_limited (ticks_connected ?_))
    split <;> exact ⟨rfl, rfl, rfl⟩
  | v311Pubrel p =>
    refine paced_sendPubrel fun hq hs hk hu ht ↦ hq ⟨hs, hk, ht.1, ht.2, ⟨_, rfl, hu⟩, ?_⟩
    rintro _ ⟨⟩
  | v50Pubrel p =>
    change (c.limited _ _).Ensures _
    unfold limited
    split
    · rename_i hsize
      refine paced_sendPubrel fun hq hs hk hu ht ↦ hq ⟨hs, hk, ht.1, ht.2, ⟨_, rfl, hu⟩, ?_⟩
      rintro _ ⟨⟩
      simpa [validateMaximumPacketSizeSend] using hsize
    · exact Outcome.ensures_ret.mpr (paced_reject _)
  | v311Subscribe p | v311Unsubscribe p => exact hrole (hticks ticks_sendSubscription)
  | v50Subscribe p | v50Unsubscribe p => exact hrole (hticks (ticks_limited ticks_sendSubscription))
  | v311Suback p | v311Unsuback p | v311Pingresp p => exact hrole hsent
  | v50Suback p | v50Unsuback p | v50Pingresp p => exact hrole (paced_limited hsent)
  | v311Pingreq p => exact hrole (hticks (Outcome.ensures_ret.mpr ticks_sendPingreq))
  | v50Pingreq p =>
    exact hrole (hticks (ticks_limited (Outcome.ensures_ret.mpr ticks_sendPingreq)))
  | v311Disconnect p => exact hrole (Outcome.ensures_ret.mpr paced_sendDisconnect)
  | v50Disconnect p => exact paced_limited (Outcome.ensures_ret.mpr paced_sendDisconnect)
  | v50Auth p =>
    refine hticks (ticks_limited ?_)
    split
    · exact Outcome.ensures_ret.mpr (ticks_reject _)
    · exact Outcome.ensures_ret.mpr (ticks_request.opened ‹_›)

theorem kept_processSend :
    (c.processSend packet).Ensures (TimersKept (¬ c.StartsOffline packet) c) := by
  have hrole {p : Prop} [Decidable p] {x : Outcome (Handled w)}
      (hx : x.Ensures (TimersKept (¬ c.StartsOffline packet) c)) :
      (if p then x else .ret (c.reject .packetNotAllowedToSend)).Ensures
        (TimersKept (¬ c.StartsOffline packet) c) := by
    split
    · exact hx
    · exact Outcome.ensures_ret.mpr (paced_reject _).toTimersKept
  cases packet with
  | v311Connect p => exact hrole (Outcome.ensures_ret.mpr (kept_processSendV311Connect p))
  | v50Connect p => exact hrole (kept_processSendV50Connect p)
  | v311Connack p =>
    refine hrole ?_
    unfold processSendV311Connack
    split
    · exact Outcome.ensures_ret.mpr (paced_reject _).toTimersKept
    · exact kept_finishConnack
  | v50Connack p => exact hrole (kept_processSendV50Connack p)
  | _ =>
    exact (paced_processSend (by simp [partOf]) (by simp [partOf])).mono fun _ hr ↦ hr.toTimersKept

end MqttProtocolCore.Connection.GenericConnection
