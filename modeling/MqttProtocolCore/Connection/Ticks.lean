import MqttProtocolCore.Connection.Violation

namespace MqttProtocolCore.Connection.GenericConnection

open General Packet

variable {w : IdWidth} {c c' : GenericConnection w} {packet : GenericPacket w} {id : PacketId w}
  {r : Handled w} {x : Outcome (Handled w)} {q q' : Prop} {running : TimerKind → Bool}
  {events events' : List (GenericEvent w)}

def runAfter (running : TimerKind → Bool) : GenericEvent w → TimerKind → Bool
  | .requestTimerReset kind _ => Function.update running kind true
  | .requestTimerCancel kind => Function.update running kind false
  | _ => running

def timersAfter (running : TimerKind → Bool) (events : List (GenericEvent w)) : TimerKind → Bool :=
  events.foldl runAfter running

def isTimer : GenericEvent w → Bool
  | .requestTimerReset _ _ | .requestTimerCancel _ => true
  | _ => false

def isReset : GenericEvent w → Bool
  | .requestTimerReset _ _ => true
  | _ => false

@[simp] theorem timersAfter_nil : timersAfter running ([] : List (GenericEvent w)) = running := rfl

@[simp] theorem timersAfter_append :
    timersAfter running (events ++ events') = timersAfter (timersAfter running events) events' :=
  List.foldl_append

theorem timersAfter_of_free (h : ∀ e ∈ events, ¬ isTimer e) :
    timersAfter running events = running := by
  induction events with
  | nil => rfl
  | cons e events ih =>
    have he : runAfter running e = running := by
      cases e <;> first | rfl | exact (h _ List.mem_cons_self rfl).elim
    have hrest := ih fun e he ↦ h e (List.mem_cons_of_mem _ he)
    simpa [timersAfter, he] using hrest

theorem timersAfter_off (h : ∀ e ∈ events, ¬ isReset e) (hr : ∀ kind, ¬ running kind) :
    ∀ kind, ¬ timersAfter running events kind := by
  induction events generalizing running with
  | nil => exact hr
  | cons e events ih =>
    refine ih (fun e he ↦ h e (List.mem_cons_of_mem _ he)) fun kind ↦ ?_
    cases e with
    | requestTimerReset => exact (h _ List.mem_cons_self rfl).elim
    | requestTimerCancel kind' =>
      by_cases hk : kind = kind'
      · simp [runAfter, hk]
      · simpa [runAfter, hk] using hr kind
    | _ => exact hr kind

def CancelsRunning (running : TimerKind → Bool) : List (GenericEvent w) → Prop
  | [] => True
  | e :: events =>
    (∀ kind, e = .requestTimerCancel kind → running kind) ∧ CancelsRunning (runAfter running e) events

theorem cancelsRunning_append : CancelsRunning running (events ++ events') ↔
    CancelsRunning running events ∧ CancelsRunning (timersAfter running events) events' := by
  induction events generalizing running with
  | nil => simp [CancelsRunning]
  | cons e events ih =>
    simp only [List.cons_append, CancelsRunning, ih, and_assoc]
    rfl

theorem cancelsRunning_of_none (h : ∀ kind, .requestTimerCancel kind ∉ events) :
    CancelsRunning running events := by
  induction events generalizing running with
  | nil => trivial
  | cons e events ih =>
    constructor
    · intro kind he
      exact (h kind (he ▸ List.mem_cons_self)).elim
    · exact ih fun kind hmem ↦ h kind (List.mem_cons_of_mem _ hmem)

theorem cancelsRunning_of_free (h : ∀ e ∈ events, ¬ isTimer e) : CancelsRunning running events :=
  cancelsRunning_of_none fun _ hmem ↦ h _ hmem rfl

def interval (c : GenericConnection w) : TimerKind → ℕ
  | .pingreqSend => c.pingreqSendMs
  | .pingreqRecv => c.pingreqRecvTimeoutMs
  | .pingrespRecv => c.pingrespRecvTimeoutMs

def Starts (c : GenericConnection w) (e : GenericEvent w) : Prop :=
  ∃ kind, e = .requestTimerReset kind (c.interval kind) ∧ c.interval kind ≠ 0

/-- The flags of the timers follow the events, which start timers for their intervals and cancel
none; on a closed connection no timer is started when `q` holds. -/
structure Ticks (q : Prop) (c : GenericConnection w) (r : Handled w) : Prop where
  timers : r.1.timerSet = timersAfter c.timerSet r.2
  status : r.1.status = c.status
  intervals : r.1.interval = c.interval
  starts : ∀ e ∈ r.2, isTimer e → c.Starts e
  quiet : c.status = .disconnected → q → ∀ e ∈ r.2, ¬ isReset e

structure Still (c c' : GenericConnection w) : Prop where
  timers : c'.timerSet = c.timerSet
  status : c'.status = c.status
  intervals : c'.interval = c.interval

theorem Ticks.timeout (h : Ticks q c r) : r.1.pingreqRecvTimeoutMs = c.pingreqRecvTimeoutMs :=
  congrFun h.intervals .pingreqRecv

theorem Still.timeout (h : Still c c') : c'.pingreqRecvTimeoutMs = c.pingreqRecvTimeoutMs :=
  congrFun h.intervals .pingreqRecv

theorem Ticks.cancels (h : Ticks q c r) : CancelsRunning running r.2 := by
  refine cancelsRunning_of_none fun kind hmem ↦ ?_
  obtain ⟨_, he, -⟩ := h.starts _ hmem rfl
  cases he

theorem Still.refl (c : GenericConnection w) : Still c c := ⟨rfl, rfl, rfl⟩

theorem Still.trans {c'' : GenericConnection w} (h : Still c c') (h' : Still c' c'') : Still c c'' :=
  ⟨h'.timers.trans h.timers, h'.status.trans h.status, h'.intervals.trans h.intervals⟩

/-- Events without timers, after which the timers stand as before. -/
theorem Still.ticks (h : Still c c') (he : ∀ e ∈ events, ¬ isTimer e) : Ticks q c (c', events) := by
  refine ⟨?_, h.status, h.intervals, fun e hmem ht ↦ (he e hmem ht).elim, fun _ _ e hmem hres ↦
    he e hmem ?_⟩
  · rw [timersAfter_of_free he]
    exact h.timers
  · cases e <;> first | rfl | cases hres

theorem Ticks.after (h : Still c c') (ht : Ticks q c' r) : Ticks q c r := by
  refine ⟨?_, ht.status.trans h.status, ht.intervals.trans h.intervals, fun e he hres ↦ ?_,
    fun hs ↦ ht.quiet (h.status.trans hs)⟩
  · rw [ht.timers, h.timers]
  · have hstarts := ht.starts e he hres
    rwa [Starts, h.intervals] at hstarts

theorem Ticks.append {c₁ c₂ : GenericConnection w} (h : Ticks q c (c₁, events))
    (h' : Ticks q c₁ (c₂, events')) : Ticks q c (c₂, events ++ events') := by
  refine ⟨?_, h'.status.trans h.status, h'.intervals.trans h.intervals, fun e he ht ↦ ?_,
    fun hs hq e he ↦ ?_⟩
  · rw [timersAfter_append, ← h.timers]
    exact h'.timers
  · rcases List.mem_append.mp he with he | he
    · exact h.starts e he ht
    · have hstarts := h'.starts e he ht
      rwa [Starts, h.intervals] at hstarts
  · rcases List.mem_append.mp he with he | he
    · exact h.quiet hs hq e he
    · exact h'.quiet (h.status.trans hs) hq e he

theorem Ticks.mono (h : Ticks q c r) (hq : q' → q) : Ticks q' c r :=
  { h with quiet := fun hs h' ↦ h.quiet hs (hq h') }

theorem Ticks.opened (h : Ticks q c r) (hs : c.status ≠ .disconnected) : Ticks q' c r :=
  { h with quiet := fun hd ↦ (hs hd).elim }

theorem ticks_start (kind : TimerKind) (hi : c.interval kind ≠ 0)
    (hq : c.status = .disconnected → ¬ q) (ht : c'.timerSet = Function.update c.timerSet kind true)
    (hs : c'.status = c.status) (hc : c'.interval = c.interval) :
    Ticks q c (c', [.requestTimerReset kind (c.interval kind)]) := by
  refine ⟨ht, hs, hc, fun e he _ ↦ ?_, fun hd h ↦ (hq hd h).elim⟩
  exact ⟨kind, List.mem_singleton.mp he, hi⟩

theorem ticks_reject (e : MqttError) : Ticks q c (c.reject e) := Still.ticks (.refl c) (by simp [isTimer])

theorem ticks_nothing : Ticks q c (c, []) := Still.ticks (.refl c) (by simp)

theorem timerSet_update (kind : TimerKind) (b : Bool) : Function.update c.timerSet kind b =
    (match kind with
    | .pingreqSend => { c with pingreqSendSet := b }
    | .pingreqRecv => { c with pingreqRecvSet := b }
    | .pingrespRecv => { c with pingrespRecvSet := b } : GenericConnection w).timerSet := by
  funext k
  cases kind <;> cases k <;> rfl

theorem ticks_sendPostProcess :
    Ticks (¬ (c.isClient ∧ c.pingreqSendMs > 0)) c c.sendPostProcess := by
  unfold sendPostProcess
  split
  · rename_i h
    exact ticks_start .pingreqSend h.2.ne' (fun _ hq ↦ hq h) (timerSet_update .pingreqSend true).symm rfl rfl
  · exact ticks_nothing

theorem ticks_request {rel : Option (PacketId w)} :
    Ticks (¬ (c.isClient ∧ c.pingreqSendMs > 0)) c (c.request packet rel) := by
  have hrequest : Ticks (¬ (c.isClient ∧ c.pingreqSendMs > 0)) c
      (c, [.requestSendPacket packet rel]) := Still.ticks (.refl c) (by simp [isTimer])
  exact hrequest.append ticks_sendPostProcess

theorem ticks_refreshPingreqRecv : Ticks (c.pingreqRecvTimeoutMs = 0) c c.refreshPingreqRecv := by
  unfold refreshPingreqRecv
  split
  · exact ticks_start .pingreqRecv ‹_› (fun _ hq ↦ ‹_ ≠ 0› hq)
      (timerSet_update .pingreqRecv true).symm rfl rfl
  · exact ticks_nothing

theorem ticks_expectPingresp (hs : c.status ≠ .disconnected) : Ticks q c c.expectPingresp := by
  unfold expectPingresp
  split
  · exact ticks_start .pingrespRecv ‹_› (fun hd ↦ (hs hd).elim)
      (timerSet_update .pingrespRecv true).symm rfl rfl
  · exact ticks_nothing

theorem timersAfter_cancelTimers :
    timersAfter c.timerSet c.cancelTimers.2 = fun _ ↦ false := by
  funext kind
  cases h₁ : c.pingreqSendSet <;> cases h₂ : c.pingreqRecvSet <;> cases h₃ : c.pingrespRecvSet <;>
    cases kind <;>
    simp [cancelTimers, cancelEvents, timersAfter, runAfter, timerSet, h₁, h₂, h₃, Function.update]

theorem timerSet_cancelTimers_eq : c.cancelTimers.1.timerSet = fun _ ↦ false := by
  funext kind
  simpa using timerSet_cancelTimers kind

theorem ticks_releaseIfUsed : (c.releaseIfUsed id).Ensures (Ticks q c) := by
  unfold releaseIfUsed
  split
  · refine Outcome.Ensures.bind (P := fun _ ↦ True) (fun _ _ ↦ trivial) fun man _ ↦ ?_
    exact Outcome.ensures_ret.mpr (Still.ticks ⟨rfl, rfl, rfl⟩ (by simp [isTimer]))
  · exact Outcome.ensures_ret.mpr ticks_nothing

theorem ticks_refuse (e : MqttError) (id : Option (PacketId w)) :
    (c.refuse e id).Ensures (Ticks q c) := by
  unfold refuse
  split
  · refine (ticks_releaseIfUsed (q := q)).bind fun r hr ↦ Outcome.ensures_ret.mpr ?_
    have herror : Ticks q c (c, [.notifyError e]) := Still.ticks (.refl c) (by simp [isTimer])
    exact herror.append hr
  · exact Outcome.ensures_ret.mpr (ticks_reject e)

theorem ticks_sendConnected : Ticks q c (c.sendConnected packet) := by
  unfold sendConnected
  split
  · exact ticks_reject _
  · exact ticks_request.opened (by simp_all)

theorem ticks_limited {size : ℕ} (hx : x.Ensures (Ticks q c)) :
    (c.limited size x).Ensures (Ticks q c) := by
  unfold limited
  split
  · exact hx
  · exact Outcome.ensures_ret.mpr (ticks_reject _)

theorem ticks_connected {e : MqttError} {rel : Option (PacketId w)} (h : Still c c') :
    (if c.status ≠ .connected then Outcome.ret (c.reject e)
      else .ret (c'.request packet rel)).Ensures (Ticks q c) := by
  split
  · exact Outcome.ensures_ret.mpr (ticks_reject _)
  · rename_i hs
    have hne : c.status ≠ .disconnected := by simp_all
    exact Outcome.ensures_ret.mpr ((Ticks.after h ticks_request).opened hne)

theorem still_setAwaiting {kind : AckKind} {ids : HashSet (PacketId w)} :
    Still c (c.setAwaiting kind ids) := by
  cases kind <;> exact ⟨rfl, rfl, rfl⟩

theorem ticks_respondIf {p : Prop} [Decidable p] (hx : p → x.Ensures (Ticks q c)) :
    (c.respondIf p x).Ensures (Ticks q c) := by
  unfold respondIf
  split
  · exact hx ‹_›
  · exact Outcome.ensures_ret.mpr ticks_nothing

theorem ticks_build {α : Type} {build : Outcome α} {send : α → Outcome (Handled w)}
    (h : ∀ a, (send a).Ensures (Ticks q c)) : (build >>= send).Ensures (Ticks q c) :=
  Outcome.Ensures.bind (P := fun _ ↦ True) (fun _ _ ↦ trivial) fun a _ ↦ h a

structure Refreshed (c : GenericConnection w) (r : Handled w) : Prop extends
    Ticks (c.pingreqRecvTimeoutMs = 0) c r where
  rearms : c.pingreqRecvTimeoutMs ≠ 0 →
    .requestTimerReset .pingreqRecv c.pingreqRecvTimeoutMs ∈ r.2

theorem refreshed_refreshPingreqRecv : Refreshed c c.refreshPingreqRecv := by
  refine ⟨ticks_refreshPingreqRecv, fun h ↦ ?_⟩
  rw [refreshPingreqRecv, if_pos h]
  exact List.mem_singleton_self _

theorem Refreshed.append_free (h : Refreshed c r) (he : ∀ e ∈ events, ¬ isTimer e) :
    Refreshed c (r.1, r.2 ++ events) :=
  ⟨h.toTicks.append (Still.ticks (.refl _) he), fun ht ↦ List.mem_append_left _ (h.rearms ht)⟩

theorem refreshed_received : Refreshed c (c.received packet) :=
  refreshed_refreshPingreqRecv.append_free (by simp [isTimer])

theorem Ticks.refreshed {c₁ : GenericConnection w} (h : Ticks (c.pingreqRecvTimeoutMs = 0) c (c₁, events))
    (h' : Refreshed c₁ r) : Refreshed c (r.1, events ++ r.2) := by
  have hsame : c₁.pingreqRecvTimeoutMs = c.pingreqRecvTimeoutMs := h.timeout
  refine ⟨h.append (h'.toTicks.mono fun ht ↦ hsame.trans ht), fun ht ↦ List.mem_append_right _ ?_⟩
  rw [← hsame] at ht ⊢
  exact h'.rearms ht

theorem Refreshed.after (h : Still c c') (h' : Refreshed c' r) : Refreshed c r := by
  refine ⟨Ticks.after h (h'.toTicks.mono fun ht ↦ h.timeout.trans ht), fun ht ↦ ?_⟩
  rw [← h.timeout] at ht ⊢
  exact h'.rearms ht

theorem refreshed_thenReceived (hx : x.Ensures (Ticks (c.pingreqRecvTimeoutMs = 0) c)) :
    (x >>= fun r ↦ Outcome.ret ((r.1.received packet).1, r.2 ++ (r.1.received packet).2)).Ensures
      (Refreshed c) :=
  hx.bind fun _ hr ↦ Outcome.ensures_ret.mpr (hr.refreshed refreshed_received)

theorem Still.ensures (h : Still c c') (hx : x.Ensures (Ticks q c')) : x.Ensures (Ticks q c) :=
  hx.mono fun _ ↦ Ticks.after h

section Deliver

variable {response : ResponsePacket} {kind : AckKind} {counted : Bool}
  {onError : GenericConnection w → MqttError → Outcome (Handled w)}

theorem still_countFinished : c.countFinished.Ensures (Still c) := by
  unfold countFinished
  split
  · split
    · simp
    · exact Outcome.ensures_ret.mpr ⟨rfl, rfl, rfl⟩
  · exact Outcome.ensures_ret.mpr (.refl c)

theorem refreshed_recvFinalAck (hid : id ∈ c.awaiting kind) :
    (c.recvFinalAck response kind counted onError id packet).Ensures (Refreshed c) := by
  unfold recvFinalAck
  rw [if_pos hid]
  have hsettle : Still c ((c.settle kind id).eraseStored response id) :=
    still_setAwaiting.trans ⟨rfl, rfl, rfl⟩
  have hrel : (((c.settle kind id).eraseStored response id).releaseIfUsed id).Ensures
      (Ticks (c.pingreqRecvTimeoutMs = 0) c) := hsettle.ensures ticks_releaseIfUsed
  refine hrel.bind fun ⟨c₁, released⟩ hr ↦ ?_
  have hnotify {c₂ : GenericConnection w} (h : Still c₁ c₂) :
      Refreshed c ((c₂.received packet).1, released ++ (c₂.received packet).2) :=
    hr.refreshed (refreshed_received.after h)
  dsimp only
  split
  · exact still_countFinished.bind fun c₂ h ↦ Outcome.ensures_ret.mpr (hnotify h)
  · exact Outcome.ensures_ret.mpr (hnotify (.refl c₁))

theorem refreshed_recvSubscriptionAck (hid : id ∈ c.awaiting kind) :
    (c.recvSubscriptionAck kind onError id packet).Ensures (Refreshed c) := by
  unfold recvSubscriptionAck
  rw [if_pos hid]
  exact refreshed_thenReceived (still_setAwaiting.ensures ticks_releaseIfUsed)

theorem refreshed_recvV311Publish (p : V311.Publish w) :
    (c.recvV311Publish p).Ensures (Refreshed c) := by
  unfold recvV311Publish
  split
  · exact Outcome.ensures_ret.mpr refreshed_received
  · refine refreshed_thenReceived (ticks_respondIf fun _ ↦ ticks_build fun a ↦ ?_)
    exact Outcome.ensures_ret.mpr ticks_sendConnected
  · rename_i id _ _
    have hmark : Still c { c with qos2PublishHandled := c.qos2PublishHandled.insert id } :=
      ⟨rfl, rfl, rfl⟩
    refine Outcome.Ensures.bind (P := Ticks (c.pingreqRecvTimeoutMs = 0) c)
      (hmark.ensures (ticks_respondIf fun _ ↦ ticks_build fun a ↦ ?_)) fun r hr ↦ ?_
    · exact Outcome.ensures_ret.mpr ticks_sendConnected
    · refine Outcome.ensures_ret.mpr ?_
      exact (hr.refreshed refreshed_refreshPingreqRecv).append_free (by split <;> simp [isTimer])
  · simp

theorem ticks_respond {answer : Answer} {id : Option (PacketId w)} :
    (c.respond answer id).Ensures (Ticks q c) := by
  unfold respond
  split
  · exact Outcome.ensures_ret.mpr ticks_nothing
  · exact ticks_build fun a ↦ ticks_limited (ticks_connected ⟨rfl, rfl, rfl⟩)
  · refine ticks_build fun a ↦ ticks_limited (ticks_connected ?_)
    split <;> exact ⟨rfl, rfl, rfl⟩
  · simp

theorem refreshed_recvV50Publish {p : V50.Publish w} (h : c.admits p ∧ c.Resolves p) :
    (c.recvV50Publish p).Ensures (Refreshed c) := by
  obtain ⟨o, ho, hnone, hframe⟩ := c.admitPublish_spec p
  unfold recvV50Publish
  rw [ho, Outcome.ret_bind]
  cases o with
  | none => exact (hnone.mp rfl h.1).elim
  | some a =>
    obtain ⟨admission, c₁⟩ := a
    have hc₁ : Admitted c c₁ := hframe _ rfl
    have hstill : Still c c₁ := by
      rw [hc₁]
      exact ⟨rfl, rfl, rfl⟩
    have hres : c₁.Resolves p := by
      rw [hc₁]
      exact h.2
    refine Outcome.Ensures.bind (P := fun o ↦ ∃ p' c₂, o = some (p', c₂) ∧ Still c c₂) ?_ ?_
    · intro o ho
      obtain ⟨-, hnone', hsome⟩ := resolveTopic_spec.of_ret ho
      cases o with
      | none => exact (hnone'.mp rfl hres).elim
      | some a =>
        have hframe₂ := (hsome a.1 a.2 rfl).frame
        refine ⟨a.1, a.2, rfl, hstill.trans ?_⟩
        rw [hframe₂]
        exact ⟨rfl, rfl, rfl⟩
    · rintro _ ⟨p', c₂, rfl, hc₂⟩
      refine Outcome.Ensures.bind (P := Ticks (c.pingreqRecvTimeoutMs = 0) c)
        (hc₂.ensures ticks_respond) fun r hr ↦ Outcome.ensures_ret.mpr ?_
      exact (hr.refreshed refreshed_refreshPingreqRecv).append_free (by split <;> simp [isTimer])

theorem ticks_sendPubrel {stored : GenericStorePacket w} :
    (c.sendPubrel id stored).Ensures (Ticks (¬ (c.isClient ∧ c.pingreqSendMs > 0)) c) := by
  unfold sendPubrel
  split
  · exact Outcome.ensures_ret.mpr (ticks_reject _)
  split
  · exact Outcome.ensures_ret.mpr (ticks_reject _)
  have hsend {c' : GenericConnection w} (h : c' = { c with store := c'.store }) :
      (if c'.status = .connected then
        Outcome.ret ((c'.await .pubcomp id).request stored.toPacket none)
      else .ret c'.sendPostProcess).Ensures (Ticks (¬ (c.isClient ∧ c.pingreqSendMs > 0)) c) := by
    have hstill : Still c c' := by
      rw [h]
      exact ⟨rfl, rfl, rfl⟩
    have hms : c'.pingreqSendMs = c.pingreqSendMs ∧ c'.isClient = c.isClient := by
      rw [h]
      exact ⟨rfl, rfl⟩
    split
    · rename_i hs
      have hne : c.status ≠ .disconnected := by
        intro hd
        cases hs.symm.trans (hstill.status.trans hd)
      have hrequest : Ticks _ _ ((c'.await .pubcomp id).request stored.toPacket none) :=
        ticks_request
      have hticks := Ticks.after (hstill.trans still_setAwaiting) hrequest
      exact Outcome.ensures_ret.mpr (hticks.opened hne)
    · refine Outcome.ensures_ret.mpr (Ticks.after hstill (ticks_sendPostProcess.mono fun hq ↦ ?_))
      rwa [hms.1, hms.2]
  split
  · refine Outcome.Ensures.bind (P := fun c' ↦ c' = { c with store := c'.store }) ?_ fun c' hc' ↦ hsend hc'
    intro c' hc'
    obtain ⟨store, -, hret⟩ := Outcome.bind_eq_ret.mp hc'
    obtain rfl := Outcome.ret.inj hret
    rfl
  · exact hsend rfl

theorem answers_open (h : c.answers) : c.status ≠ .disconnected := by
  simp_all [answers]

theorem refreshed_recvV311Pubrec {p : V311.Pubrec w} (hid : p.packetId ∈ c.pidPubrec) :
    (c.recvV311Pubrec p).Ensures (Refreshed c) := by
  unfold recvV311Pubrec
  dsimp only
  rw [if_pos hid]
  have hsettle : Still c ((c.settle .pubrec p.packetId).eraseStored .v311Pubrec p.packetId) :=
    still_setAwaiting.trans ⟨rfl, rfl, rfl⟩
  refine refreshed_thenReceived (hsettle.ensures (ticks_respondIf fun ha ↦ ticks_build fun a ↦ ?_))
  exact ticks_sendPubrel.mono fun r hr ↦ hr.opened (answers_open ha)

theorem refreshed_recvV50Pubrec {p : V50.Pubrec w} (hid : p.packetId ∈ c.pidPubrec) :
    (c.recvV50Pubrec p).Ensures (Refreshed c) := by
  unfold recvV50Pubrec
  dsimp only
  rw [if_pos hid]
  have hsettle : Still c ((c.settle .pubrec p.packetId).eraseStored .v50Pubrec p.packetId) :=
    still_setAwaiting.trans ⟨rfl, rfl, rfl⟩
  split
  · refine refreshed_thenReceived (hsettle.ensures (ticks_respondIf fun ha ↦ ticks_build fun a ↦ ?_))
    exact ticks_limited (ticks_sendPubrel.mono fun r hr ↦ hr.opened (answers_open ha))
  · have hrel : (((c.settle .pubrec p.packetId).eraseStored .v50Pubrec p.packetId).releaseIfUsed
        p.packetId).Ensures (Ticks (c.pingreqRecvTimeoutMs = 0) c) :=
      hsettle.ensures ticks_releaseIfUsed
    refine hrel.bind ?_
    rintro ⟨c₁, released⟩ hr
    refine still_countFinished.bind fun c₂ h ↦ ?_
    exact Outcome.ensures_ret.mpr (hr.refreshed (refreshed_received.after h))

theorem refreshed_recvV311Pubrel (p : V311.Pubrel w) :
    (c.recvV311Pubrel p).Ensures (Refreshed c) := by
  unfold recvV311Pubrel
  have hmark : Still c { c with qos2PublishHandled := c.qos2PublishHandled.remove p.packetId } :=
    ⟨rfl, rfl, rfl⟩
  refine refreshed_thenReceived (hmark.ensures (ticks_respondIf fun _ ↦ ticks_build fun a ↦ ?_))
  exact Outcome.ensures_ret.mpr ticks_sendConnected

theorem refreshed_recvV50Pubrel (p : V50.Pubrel w) :
    (c.recvV50Pubrel p).Ensures (Refreshed c) := by
  unfold recvV50Pubrel
  have hmark : Still c { c with qos2PublishHandled := c.qos2PublishHandled.remove p.packetId } :=
    ⟨rfl, rfl, rfl⟩
  refine refreshed_thenReceived (hmark.ensures (ticks_respondIf fun _ ↦ ticks_build fun a ↦ ?_))
  exact ticks_limited (ticks_connected ⟨rfl, rfl, rfl⟩)

theorem refreshed_recvV311Pingreq (p : V311.Pingreq) :
    (c.recvV311Pingreq p).Ensures (Refreshed c) :=
  refreshed_thenReceived (ticks_respondIf fun _ ↦ ticks_build fun _ ↦
    Outcome.ensures_ret.mpr ticks_sendConnected)

theorem refreshed_recvV50Pingreq (p : V311.Pingreq) :
    (c.recvV50Pingreq p).Ensures (Refreshed c) :=
  refreshed_thenReceived (ticks_respondIf fun _ ↦ ticks_build fun _ ↦
    ticks_limited (Outcome.ensures_ret.mpr ticks_sendConnected))

def Refreshes (packet : GenericPacket w) : Prop :=
  match packet with
  | .v311Connect _ | .v50Connect _ | .v311Connack _ | .v50Connack _ | .v311Pingresp _
  | .v50Pingresp _ | .v311Disconnect _ | .v50Disconnect _ => False
  | _ => True

theorem refreshed_deliver (hp : Refreshes packet) (h : c.Accepts packet) :
    (c.deliver packet).Ensures (Refreshed c) := by
  cases packet with
  | v311Publish p => exact refreshed_recvV311Publish p
  | v50Publish p => exact refreshed_recvV50Publish h
  | v311Puback p | v50Puback p | v311Pubcomp p | v50Pubcomp p =>
    exact refreshed_recvFinalAck (h _ _ rfl)
  | v311Pubrec p => exact refreshed_recvV311Pubrec (h _ _ rfl)
  | v50Pubrec p => exact refreshed_recvV50Pubrec (h _ _ rfl)
  | v311Pubrel p => exact refreshed_recvV311Pubrel p
  | v50Pubrel p => exact refreshed_recvV50Pubrel p
  | v311Suback p | v50Suback p | v311Unsuback p | v50Unsuback p =>
    exact refreshed_recvSubscriptionAck (h _ _ rfl)
  | v311Pingreq p => exact refreshed_recvV311Pingreq p
  | v50Pingreq p => exact refreshed_recvV50Pingreq p
  | v311Subscribe | v50Subscribe | v311Unsubscribe | v50Unsubscribe | v50Auth =>
    exact Outcome.ensures_ret.mpr refreshed_received
  | _ => exact hp.elim

end Deliver

end MqttProtocolCore.Connection.GenericConnection
