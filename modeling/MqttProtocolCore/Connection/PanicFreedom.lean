import MqttProtocolCore.Connection.ClientRun
import MqttProtocolCore.Connection.Frame

namespace MqttProtocolCore.Connection.GenericConnection

open General Packet

variable {w : IdWidth} {c c' : GenericConnection w} {packet : GenericPacket w} {op : Operation w}

def timerSet (c : GenericConnection w) : TimerKind → Bool
  | .pingreqSend => c.pingreqSendSet
  | .pingreqRecv => c.pingreqRecvSet
  | .pingrespRecv => c.pingrespRecvSet

def FiresSet (c : GenericConnection w) (op : Operation w) : Prop :=
  ∀ kind, op = .notifyTimerFired kind → c.timerSet kind

/-- While the version is open, there is no connection and no timer runs. -/
def Settled (c : GenericConnection w) : Prop :=
  c.protocolVersion = .undetermined → c.status = .disconnected ∧ ∀ kind, ¬ c.timerSet kind

theorem processRecvPacket_open {h : UInt8} {body : Bytes}
    (hmax : body.length < VariableByteInteger.max) (hs : c.status ≠ .connected) :
    (c.processRecvPacket (rawPacket h body)).Ensures
      fun r ↦ r.1 = c ∨ r.1.protocolVersion ≠ .undetermined := by
  intro r hr
  have hdel := c.processRecvPacket_delivers (h := h) hmax
  cases ha : c.arrived (rawPacket h body) with
  | none =>
    rw [ha, hr] at hdel
    generalize hx : Outcome.ret r = x at hdel
    cases hdel with
    | tooLarge =>
      obtain ⟨hd, -⟩ | ⟨-, e, hret⟩ := c.handleV50Error_cases .packetTooLarge
      · simp [canDisconnect, hs] at hd
      · rw [hret] at hx
        obtain rfl := Outcome.ret.inj hx
        exact .inl rfl
    | rejected =>
      obtain rfl := Outcome.ret.inj hx
      exact .inl rfl
    | @misread v _ _ _ _ h =>
      obtain ⟨r', hr', href⟩ := h.refused
      obtain rfl := Outcome.ret.inj (hx.trans hr')
      have hver : r.1.protocolVersion = v := congrArg protocolVersion href.idle
      right
      rw [hver]
      cases h with
      | closed _ hv => exact fun h ↦ by simp [determine, h] at hv
      | disconnected _ hv => exact fun h ↦ by simp [determine, h] at hv
      | ignored _ hv => exact fun h ↦ by simp [determine, h] at hv
      | refusedV311 _ hv => exact fun h ↦ by simp [determine, h] at hv
      | refusedV50 _ hv => exact fun h ↦ by simp [determine, h] at hv
  | some a =>
    rw [ha] at hdel
    have hchange := ((acts_deliver a.2).of_ret (hdel.1 ▸ hr)).2
    have hne : (c.determine a.1).protocolVersion ≠ .undetermined := arrived_version ha
    right
    have hver : r.1.protocolVersion = (c.determine a.1).protocolVersion :=
      hchange.frame.2.resolve_right hne
    exact hver ▸ hne

theorem timerSet_cancelTimers (kind : TimerKind) : ¬ c.cancelTimers.1.timerSet kind := by
  cases kind <;> simp [cancelTimers, timerSet]

theorem recv_open (hc : c.Reading) (hs : c.Settled) (hv : c.protocolVersion = .undetermined)
    (data : Bytes) : (c.recv data).Ensures fun r ↦ r.1.1.Settled := by
  obtain ⟨hst, ht⟩ := hs hv
  obtain ⟨p, hp⟩ := hc
  obtain ⟨b, result, rest, hfeed, hfed⟩ := PacketBuilder.feed_spec hp data
  unfold recv
  rw [hfeed]
  cases hfed with
  | incomplete => exact Outcome.ensures_ret.mpr fun _ ↦ ⟨hst, ht⟩
  | error => exact Outcome.ensures_ret.mpr fun _ ↦ ⟨hst, timerSet_cancelTimers⟩
  | complete =>
    obtain ⟨-, h, body, heq, hmax⟩ := Reading.complete ⟨p, hp⟩ hfeed
    rw [heq]
    refine (@processRecvPacket_open w { c with packetBuilder := .new } h body hmax (by simp [hst])).bind
      fun r hr ↦ Outcome.ensures_ret.mpr fun hr' ↦ ?_
    rcases hr with hr | hr
    · dsimp only at hr' ⊢
      rw [hr]
      exact ⟨hst, ht⟩
    · exact (hr hr').elim

theorem notifyClosed_timers :
    c.notifyClosed.Ensures fun r ↦ r.1.status = .disconnected ∧ ∀ kind, ¬ r.1.timerSet kind := by
  intro r hr
  have hframe := notifyClosed_frame r hr
  unfold GivesBack at hframe
  rw [hframe]
  refine ⟨rfl, fun kind ↦ ?_⟩
  cases kind <;> simp [timerSet, closedState]

theorem setPingreqSendInterval_timers (hs : c.status ≠ .connected) (durationMs : Option ℕ)
    (kind : TimerKind) :
    (c.setPingreqSendInterval durationMs).1.timerSet kind → c.timerSet kind := by
  unfold setPingreqSendInterval
  cases durationMs with
  | none => cases kind <;> exact id
  | some ms =>
    dsimp only
    rw [if_neg hs]
    split <;> cases kind <;> simp [timerSet]

theorem SameTimers.timerSet (h : SameTimers c c') (kind : TimerKind) :
    c'.timerSet kind = c.timerSet kind := by
  obtain ⟨h₁, h₂, h₃⟩ := h
  cases kind with
  | pingreqSend => exact h₁
  | pingreqRecv => exact h₂
  | pingrespRecv => exact h₃

theorem step_open (hc : c.Reading) (hs : c.Settled) (hv : c.protocolVersion = .undetermined)
    (op : Operation w) : (c.step op).Ensures fun r ↦ r.1.Settled := by
  obtain ⟨hst, ht⟩ := hs hv
  have hstay {c' : GenericConnection w} {reply : Reply w} (h : c'.status = c.status)
      (h' : SameTimers c c') : (Outcome.ret (c', reply)).Ensures fun r ↦ r.1.Settled := by
    refine Outcome.ensures_ret.mpr fun _ ↦ ⟨h ▸ hst, fun kind ↦ ?_⟩
    rw [h'.timerSet]
    exact ht kind
  cases op with
  | send packet =>
    have hreject : c.send packet = .ret (c.reject .versionMismatch) :=
      if_pos (hv ▸ (protocolVersion_ne packet).symm)
    have hstep : c.step (.send packet) =
      (c.send packet >>= fun r ↦ Outcome.ret (r.1, Reply.events r.2)) := rfl
    rw [hstep, hreject]
    exact hstay rfl ⟨rfl, rfl, rfl⟩
  | recv data =>
    have hstep : c.step (.recv data) =
      (c.recv data >>= fun r ↦ Outcome.ret (r.1.1, Reply.received r.1.2 r.2)) := rfl
    rw [hstep]
    exact (recv_open hc hs hv data).bind fun r hr ↦ Outcome.ensures_ret.mpr hr
  | notifyTimerFired kind =>
    cases kind with
    | pingreqSend =>
      have hstep : c.step (.notifyTimerFired .pingreqSend) = .ret
          ({ c with pingreqSendSet := false }, Reply.events []) := by
        simp only [step, notifyTimerFired, keepAlive, hst]
        rfl
      rw [hstep]
      refine Outcome.ensures_ret.mpr fun _ ↦ ⟨hst, fun kind ↦ ?_⟩
      cases kind with
      | pingreqSend => simp [timerSet]
      | pingreqRecv => exact ht .pingreqRecv
      | pingrespRecv => exact ht .pingrespRecv
    | pingreqRecv => simp [step, notifyTimerFired, keepAliveTimeout, hv]
    | pingrespRecv => simp [step, notifyTimerFired, keepAliveTimeout, hv]
  | notifyClosed =>
    have hstep : c.step .notifyClosed =
      (c.notifyClosed >>= fun r ↦ Outcome.ret (r.1, Reply.events r.2)) := rfl
    rw [hstep]
    intro r hr
    obtain ⟨r', hr', hret⟩ := Outcome.bind_eq_ret.mp hr
    obtain rfl := Outcome.ret.inj hret
    exact fun _ ↦ notifyClosed_timers r' hr'
  | setPingreqSendInterval durationMs =>
    obtain ⟨hs', -⟩ := c.setPingreqSendInterval_spec durationMs
    have hst' : (c.setPingreqSendInterval durationMs).1.status = c.status :=
      congrArg Session.status hs'
    refine Outcome.ensures_ret.mpr fun _ ↦ ⟨hst'.trans hst, fun kind h ↦ ?_⟩
    exact ht kind (setPingreqSendInterval_timers (by simp [hst]) durationMs kind h)
  | acquirePacketId =>
    cases ha : c.pidMan.acquireUniqueId with
    | error e =>
      rw [step_unacquired (by rw [acquirePacketId, ha]; rfl)]
      exact hstay rfl ⟨rfl, rfl, rfl⟩
    | ok r =>
      rw [step_acquired (by rw [acquirePacketId, ha]; rfl)]
      exact hstay rfl ⟨rfl, rfl, rfl⟩
  | registerPacketId id =>
    cases hr : c.pidMan.registerId id with
    | error e =>
      rw [step_unregistered (by rw [registerPacketId, hr]; rfl)]
      exact hstay rfl ⟨rfl, rfl, rfl⟩
    | ok r =>
      rw [step_registered (by rw [registerPacketId, hr]; rfl)]
      exact hstay rfl ⟨rfl, rfl, rfl⟩
  | releasePacketId id =>
    have hstep : c.step (.releasePacketId id) =
      (c.releaseIfUsed id >>= fun r ↦ Outcome.ret (r.1, Reply.events r.2)) := rfl
    rw [hstep]
    intro r hr
    obtain ⟨r', hr', hret⟩ := Outcome.bind_eq_ret.mp hr
    obtain rfl := Outcome.ret.inj hret
    have hframe := (releaseIfUsed_spec.of_ret hr').2.1
    exact @hstay r'.1 _ (by rw [hframe]) (by rw [hframe]; exact ⟨rfl, rfl, rfl⟩) _ rfl
  | restorePackets packets =>
    obtain ⟨c', hc', hs', ht'⟩ := c.restorePackets_spec packets
    have hstep : c.step (.restorePackets packets) =
      (c.restorePackets packets >>= fun c ↦ Outcome.ret (c, Reply.unit)) := rfl
    rw [hstep, hc']
    have hst' : c'.status = c.status := by
      have := congrArg Session.status hs'
      rwa [foldl_restore_frame] at this
    exact hstay hst' ht'
  | _ => exact hstay rfl ⟨rfl, rfl, rfl⟩

theorem step_settled (hc : c.Reading) (hs : c.Settled) (op : Operation w) :
    (c.step op).Ensures fun r ↦ r.1.Settled := by
  by_cases hv : c.protocolVersion = .undetermined
  · exact step_open hc hs hv op
  · intro r hr hv'
    obtain ⟨-, c₀, ⟨-, -, hv₀⟩, hchange⟩ := (step_spec hc op).of_ret hr
    have h₀ := hv₀.resolve_right hv
    have h₁ : r.1.protocolVersion = c₀.protocolVersion :=
      hchange.frame.2.resolve_right (h₀ ▸ hv)
    exact (hv (h₀ ▸ h₁ ▸ hv')).elim

theorem reachable_settled (h : Reachable (system w) c) : c.Settled := by
  have hboth : c.Reading ∧ c.Settled := by
    refine h.invariant (I := fun c ↦ c.Reading ∧ c.Settled) ?_ fun c op hc r hr ↦
      ⟨step_reading hc.1 op r hr, step_settled hc.1 hc.2 op r hr⟩
    rintro _ ⟨role, version, rfl⟩
    refine ⟨⟨[], .header⟩, fun _ ↦ ⟨by simp [new], fun kind ↦ ?_⟩⟩
    cases kind <;> simp [new, timerSet]
  exact hboth.2

/-- `recv` returns exactly when the handler of the packet that arrives does not panic. -/
theorem recv_returns_iff (h : Reachable (system w) c) (data : Bytes) :
    (c.recv data).Returns ↔ c.RecvSafe data := by
  have hstep : c.step (.recv data) =
    (c.recv data >>= fun r ↦ Outcome.ret (r.1.1, Reply.received r.1.2 r.2)) := rfl
  have hiff := (step_spec (reachable_reading h) (.recv data)).returns_iff fun _ h h' ↦ h' h.1
  rw [hstep, Outcome.returns_bind, not_not] at hiff
  rw [← show c.OperationSafe (.recv data) ↔ c.RecvSafe data from Iff.rfl, ← hiff]
  exact ⟨fun ⟨r, hr⟩ ↦ ⟨r, hr, Outcome.returns_ret _⟩, fun ⟨r, hr, _⟩ ↦ ⟨r, hr⟩⟩

theorem recv_returns_iff_connect : (new .server .u16 .v50).RecvSafe
    [0x10, 0x0d, 0, 4, 0x4d, 0x51, 0x54, 0x54, 5, 2, 0, 0, 0, 0, 0] :=
  (recv_returns_iff (.init ⟨.server, .v50, rfl⟩) _).mp (by decide +kernel)

/-- A CONNECT that announces a topic alias maximum of 0. -/
theorem recv_panics_alias_maximum : ¬ ∀ c : GenericConnection .u16, Reachable (system .u16) c →
    ∀ data, (c.recv data).Returns := by
  intro h
  have hret := h (new .server .u16 .v50) (.init ⟨.server, .v50, rfl⟩)
    [0x10, 0x10, 0, 4, 0x4d, 0x51, 0x54, 0x54, 5, 2, 0, 0, 3, 0x22, 0, 0, 0, 0]
  exact absurd hret (by decide +kernel)

def isLocal : Operation w → Bool
  | .recv _ => false
  | _ => true

/-- The conditions under which an operation of the application does not panic. -/
def LocalSafe (c : GenericConnection w) : Operation w → Prop
  | .send packet => c.protocolVersion = packet.protocolVersion → c.SendSafe packet
  | .notifyClosed => 0 ∉ c.session.drained
  | .releasePacketId id => id ≠ 0
  | _ => True

/-- An operation of the application returns exactly when it is safe; a timer that fires is set. -/
theorem local_returns_iff (h : Reachable (system w) c) (op : Operation w) (hl : isLocal op)
    (ht : ∀ kind, op = .notifyTimerFired kind → c.timerSet kind) :
    (c.step op).Returns ↔ c.LocalSafe op := by
  have hsafe : c.OperationSafe op ↔ c.LocalSafe op := by
    cases op with
    | recv data => simp [isLocal] at hl
    | notifyTimerFired kind =>
      have hv : c.protocolVersion ≠ .undetermined := fun hv ↦
        (reachable_settled h hv).2 kind (ht kind rfl)
      refine iff_of_true ?_ trivial
      cases kind with
      | pingreqSend => exact fun _ ↦ hv
      | pingreqRecv => exact hv
      | pingrespRecv => exact hv
    | _ => exact Iff.rfl
  rw [← hsafe, (step_spec (reachable_reading h) op).returns_iff fun _ h h' ↦ h' h.1, not_not]

/-- The timer of a connection with a PUBLISH in its store fires, and the identifier of the PUBLISH is
released. -/
theorem local_returns_iff_stored : ∃ c : GenericConnection .u16, c.store.containsKey 1 ∧
    c.timerSet .pingreqSend ∧ (c.step (.notifyTimerFired .pingreqSend)).Returns ∧
    (c.step (.releasePacketId 1)).Returns := by
  obtain ⟨publish, _, ⟨_, c⟩, hrun, hstored, hset⟩ :
      (V311.Publish.parse (w := .u16) 2 [0, 1, 0x61, 0, 1]).unwrap.Attains
          fun publish ↦
          (clientRun .v311 0 10 [] []
            [.recv [0x20, 2, 0, 0], .acquirePacketId,
              .send (.v311Publish publish.1)]).Attains fun r ↦
        r.2.store.containsKey 1 ∧ r.2.timerSet .pingreqSend := by
    decide +kernel
  have hreach := (run_of_clientRun hrun).reachable
  refine ⟨c, hstored, hset, ?_, ?_⟩
  · apply (local_returns_iff hreach (.notifyTimerFired .pingreqSend) rfl ?_).mpr trivial
    intro kind hkind
    obtain rfl := Operation.notifyTimerFired.inj hkind
    exact hset
  · exact (local_returns_iff hreach (.releasePacketId 1) rfl (by simp)).mpr
      (show (1 : PacketId .u16) ≠ 0 by decide)

/-- The identifier 0 counts as used, but lies outside the range of the allocator. -/
theorem step_panics_release_zero : ¬ ∀ c : GenericConnection .u16, Reachable (system .u16) c →
    ∀ op, isLocal op → (∀ kind, op = .notifyTimerFired kind → c.timerSet kind) →
      (c.step op).Returns := by
  intro h
  have hret := h (new .client .u16 .v311) (.init ⟨.client, .v311, rfl⟩) (.releasePacketId 0) rfl
    (by simp)
  exact absurd hret (by decide +kernel)

end MqttProtocolCore.Connection.GenericConnection
