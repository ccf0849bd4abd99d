import MqttProtocolCore.Connection.ClientRun
import MqttProtocolCore.Connection.TimersKept

namespace MqttProtocolCore.Connection.GenericConnection

open General Packet

variable {w : IdWidth} {c c' : GenericConnection w} {packet : GenericPacket w} {id : PacketId w}
  {r : Handled w} {x : Outcome (Handled w)} {op : Operation w} {data : Bytes} {raw : RawPacket} {q : Prop}
  {events : List (GenericEvent w)}

theorem TimersKept.of_still (h : Still c c') (hk : TimersKept q c' r) : TimersKept q c r := by
  refine ⟨⟨by rw [hk.timers, h.timers], h.timers ▸ hk.cancels⟩, fun hq hs ↦ ?_⟩
  rw [← h.status]
  exact hk.stopped hq hs

theorem Paced.of_still (h : Still c c') (hk : Paced q c' r) : Paced q c r := by
  refine ⟨hk.toTimersKept.of_still h, ?_, hk.intervals.trans h.intervals, fun e he hr ↦ ?_, hk.halts⟩
  · rw [← h.status]
    exact hk.status
  · have hstarts := hk.starts e he hr
    rwa [Starts, h.intervals] at hstarts

theorem Paced.of_closed (hk : Paced q c' r) (hd : r.1.status = .disconnected)
    (ht : c'.timerSet = c.timerSet) (hi : c'.interval = c.interval)
    (hs : c'.status ≠ .disconnected) : Paced q c r := by
  have hopen : Mirrors c (c', []) := mirrors_free ht (by simp)
  refine ⟨TimersKept.append hopen hs hk.toTimersKept, .inr hd, hk.intervals.trans hi,
    fun e he hr ↦ ?_, hk.halts⟩
  have hstarts := hk.starts e he hr
  rwa [Starts, hi] at hstarts

theorem Still.paced (h : Still c c') (he : ∀ e ∈ events, ¬ isTimer e) : Paced q c (c', events) :=
  (Still.ticks (q := True) h he).paced fun _ _ ↦ trivial

theorem TimersKept.append_free (hk : TimersKept q c r) (he : ∀ e ∈ events, ¬ isTimer e) :
    TimersKept q c (r.1, r.2 ++ events) := by
  refine ⟨hk.toMirrors.append (mirrors_free rfl he), fun hq hs ↦ ?_⟩
  rcases hk.stopped hq hs with ⟨hd, hquiet⟩ | hoff
  · refine .inl ⟨hd, fun e hmem hres ↦ ?_⟩
    rcases List.mem_append.mp hmem with hmem | hmem
    · exact hquiet e hmem hres
    · exact he e hmem (isTimer_of_isReset hres)
  · exact .inr hoff

theorem Paced.append_free (hk : Paced q c r) (he : ∀ e ∈ events, ¬ isTimer e) :
    Paced q c (r.1, r.2 ++ events) := by
  refine ⟨hk.toTimersKept.append_free he, hk.status, hk.intervals, fun e hmem hr ↦ ?_, fun kind hmem ↦ ?_⟩
  · rcases List.mem_append.mp hmem with hmem | hmem
    · exact hk.starts e hmem hr
    · exact (he e hmem (isTimer_of_isReset hr)).elim
  · rcases List.mem_append.mp hmem with hmem | hmem
    · exact hk.halts kind hmem
    · exact (he _ hmem rfl).elim

theorem paced_handleV50Error (e : MqttError) : (c.handleV50Error e).Ensures (Paced q c) := by
  rcases c.handleV50Error_cases e with ⟨-, p, -, hr⟩ | ⟨-, e', hr⟩
  · rw [hr]
    exact Outcome.ensures_ret.mpr (paced_halted (.refl _) (by simp [isTimer]))
  · rw [hr]
    exact Outcome.ensures_ret.mpr (Still.paced (.refl c) (by simp [isTimer]))

theorem paced_handleV311Error (e : MqttError) : (c.handleV311Error e).Ensures (Paced q c) :=
  Outcome.ensures_ret.mpr (Still.paced (.refl c) (by simp [isTimer]))

theorem refusedConnack_status : (c.finishConnack false packet).Ensures fun r ↦
    r.1.status = .disconnected := Outcome.ensures_ret.mpr rfl

theorem paced_refuseV311Connect (e : MqttError) :
    ({ c with status := .connecting }.refuseV311Connect e).Ensures (Paced q c) := by
  obtain ⟨p, hp, -, hcode⟩ := V311.Connack.build_spec false (connackRefusal e)
  have hacc : p.returnCode ≠ .accepted := hcode ▸ connackRefusal_ne e
  unfold refuseV311Connect processSendV311Connack
  simp only [hp, Fallible.unwrap_ok, Outcome.ret_bind]
  rw [if_neg (by simp), decide_eq_false hacc]
  refine Outcome.Ensures.bind (P := fun r ↦ Paced q c r) ?_ fun r hr ↦
    Outcome.ensures_ret.mpr (hr.append_free (by simp [isTimer]))
  intro r hr
  exact (paced_refusedConnack r hr).of_closed (refusedConnack_status r hr) rfl rfl (by simp)

/-- Not even the CONNACK that refuses a CONNECT fits, and the connection stays open. -/
def Muted (c : GenericConnection w) (r : Handled w) : Prop :=
  c.status = .disconnected ∧ c.maximumPacketSizeSend < 5 ∧
    Still { c with status := .connecting } r.1 ∧ ∀ e ∈ r.2, ¬ isTimer e

theorem paced_refuseV50Connect (e : MqttError) (hd : c.status = .disconnected) :
    ({ c with status := .connecting }.refuseV50Connect e).Ensures fun r ↦
      Paced q c r ∨ Muted c r := by
  obtain ⟨p, hp, -, hcode, -, hsize⟩ := V50.Connack.build_spec false (connackReason e)
  have hacc : p.reasonCode ≠ .success := hcode ▸ connackReason_ne e
  unfold refuseV50Connect processSendV50Connack limited
  simp only [hp, Fallible.unwrap_ok, Outcome.ret_bind]
  rw [decide_eq_false hacc, hsize]
  split
  · rw [if_neg (by simp)]
    refine Outcome.Ensures.bind (P := fun r ↦ Paced q c r) ?_ fun r hr ↦
      Outcome.ensures_ret.mpr (.inl (hr.append_free (by simp [isTimer])))
    intro r hr
    obtain ⟨r', hr', hret⟩ := Outcome.bind_eq_ret.mp hr
    obtain rfl := Outcome.ret.inj hret
    exact (paced_refusedConnack r' hr').of_closed (refusedConnack_status r' hr') rfl rfl (by simp)
  · rename_i hlarge
    refine Outcome.ensures_ret.mpr (.inr ⟨hd, ?_, .refl _, by simp [isTimer, reject]⟩)
    simpa [validateMaximumPacketSizeSend] using hlarge

theorem Misread.paced {connect : Prop} (h : Misread c connect x) : x.Ensures fun r ↦
    Paced q c r ∨ connect ∧ c.protocolVersion = .v50 ∧ Muted c r := by
  cases h with
  | closed e => exact (paced_handleV311Error e).mono fun _ ↦ .inl
  | disconnected e => exact (paced_handleV50Error e).mono fun _ ↦ .inl
  | ignored e => exact Outcome.ensures_ret.mpr (.inl (paced_reject e))
  | refusedV311 e => exact (paced_refuseV311Connect e).mono fun _ ↦ .inl
  | refusedV50 e hv hd hconnect =>
    exact (paced_refuseV50Connect e hd).mono fun _ hr ↦ hr.imp_right fun h ↦ ⟨hconnect, hv, h⟩

theorem still_determine (v : Version) : Still c (c.determine v) := ⟨rfl, rfl, rfl⟩

theorem Muted.of_still (hs : Still c c') (hm : c'.maximumPacketSizeSend = c.maximumPacketSizeSend)
    (h : Muted c' r) : Muted c r := by
  obtain ⟨hd, hsize, hstill, hquiet⟩ := h
  refine ⟨hs.status.symm.trans hd, hm ▸ hsize, ?_, hquiet⟩
  exact ⟨hstill.timers.trans hs.timers, hstill.status, hstill.intervals.trans hs.intervals⟩

def ReadsConnect (c : GenericConnection w) (raw : RawPacket) : Prop :=
  ¬ c.oversize raw ∧ c.takes raw ∧ raw.packetType = 1 ∧ c.protocolVersion ≠ .v311

theorem Refusal.paced (h : Refusal c raw x) : x.Ensures fun r ↦
    Paced q c r ∨ c.ReadsConnect raw ∧ Muted c r := by
  cases h with
  | tooLarge => exact (paced_handleV50Error _).mono fun _ ↦ .inl
  | rejected e => exact Outcome.ensures_ret.mpr (.inl (paced_reject e))
  | @misread v _ hsize htakes hver h =>
    refine (Misread.paced (q := q) h).mono fun r hr ↦ ?_
    rcases hr with hr | ⟨hconnect, hv, hmuted⟩
    · exact .inl (hr.of_still (still_determine v))
    · refine .inr ⟨⟨hsize, htakes, hconnect, fun h311 ↦ ?_⟩, hmuted.of_still (still_determine v) rfl⟩
      have hv' : v = .v50 := hv
      rcases hver with hver | hver
      · cases hv'.symm.trans (hver.trans h311)
      · cases hver.symm.trans h311

theorem Muted.kept (h : Muted c r) : TimersKept q c r := by
  obtain ⟨-, -, hstill, hquiet⟩ := h
  refine ⟨mirrors_free hstill.timers hquiet, fun _ hd ↦ ?_⟩
  cases hstill.status.symm.trans hd

theorem Violation.paced (h : Violation c packet r) : Paced q c r := by
  cases h with
  | closed e _ hr => exact paced_handleV311Error e r hr
  | disconnected c' e _ hc hr =>
    have hstill : Still c c' := by
      rw [hc]
      exact ⟨rfl, rfl, rfl⟩
    exact (paced_handleV50Error e r hr).of_still hstill

theorem kept_recvConnect {c₁ : GenericConnection w} (ht : c₁.timerSet = c.timerSet)
    (hs : c₁.status = .connecting) : TimersKept q c (c₁.received packet) :=
  refreshed_received.toTicks.opens ht (by simp [hs])

theorem noteConnect_still (prop : Property) : (c.noteConnect prop).Ensures (Still c) := by
  unfold noteConnect
  split
  · exact Outcome.Ensures.bind (P := fun _ ↦ True) (fun _ _ ↦ trivial)
      fun _ _ ↦ Outcome.ensures_ret.mpr ⟨rfl, rfl, rfl⟩
  · exact Outcome.ensures_ret.mpr ⟨rfl, rfl, rfl⟩
  · exact Outcome.ensures_ret.mpr ⟨rfl, rfl, rfl⟩
  · refine Outcome.ensures_ret.mpr ?_
    split <;> exact ⟨rfl, rfl, rfl⟩
  · exact Outcome.ensures_ret.mpr (.refl c)

theorem noteConnect_stills (props : Properties) :
    (props.foldlM noteConnect c).Ensures (Still c) := by
  induction props generalizing c with
  | nil => exact Outcome.ensures_ret.mpr (.refl c)
  | cons prop props ih =>
    rw [List.foldlM_cons]
    exact (noteConnect_still prop).bind fun c' h ↦ ih.mono fun _ ↦ h.trans

theorem mirrors_noteConnack (prop : Property) : (c.noteConnack prop).Ensures fun r ↦
    Mirrors c r ∧ r.1.status = c.status := by
  unfold noteConnack
  split
  · split
    · exact Outcome.Ensures.bind (P := fun _ ↦ True) (fun _ _ ↦ trivial)
        fun _ _ ↦ Outcome.ensures_ret.mpr ⟨mirrors_free rfl (by simp), rfl⟩
    · exact Outcome.ensures_ret.mpr ⟨mirrors_nothing, rfl⟩
  · exact Outcome.ensures_ret.mpr ⟨mirrors_free rfl (by simp), rfl⟩
  · exact Outcome.ensures_ret.mpr ⟨mirrors_free rfl (by simp), rfl⟩
  · dsimp only
    split
    · exact Outcome.ensures_ret.mpr ⟨mirrors_free rfl (by simp), rfl⟩
    split
    · refine Outcome.ensures_ret.mpr ⟨?_, rfl⟩
      exact mirrors_cancel .pingreqSend (timerSet_update .pingreqSend false).symm
    · refine Outcome.ensures_ret.mpr ⟨?_, rfl⟩
      exact mirrors_start .pingreqSend _ (timerSet_update .pingreqSend true).symm
  · exact Outcome.ensures_ret.mpr ⟨mirrors_nothing, rfl⟩

theorem mirrors_noteAll (props : Properties) : (c.noteAll props).Ensures fun r ↦
    Mirrors c r ∧ r.1.status = c.status := by
  induction props generalizing c with
  | nil => exact Outcome.ensures_ret.mpr ⟨mirrors_nothing, rfl⟩
  | cons prop props ih =>
    refine (mirrors_noteConnack prop).bind fun r hr ↦ ih.bind fun r' hr' ↦ ?_
    exact Outcome.ensures_ret.mpr ⟨hr.1.append hr'.1, hr'.2.trans hr.2⟩

theorem ticks_resumeSession {present : Bool} : (c.resumeSession present).Ensures (Ticks q c) := by
  unfold resumeSession
  split
  · exact ticks_sendStored
  · exact Outcome.ensures_ret.mpr (Still.ticks ⟨rfl, rfl, rfl⟩ (by simp))

theorem Ticks.mirrors (h : Ticks q c r) : Mirrors c r := ⟨h.timers, h.cancels⟩

theorem kept_notified (hs : c'.status ≠ .disconnected) (hm : Mirrors c (c', events)) :
    TimersKept q c (c', events ++ [.notifyPacketReceived packet]) :=
  ⟨hm.append (mirrors_free rfl (by simp [isTimer])), fun _ hd ↦ (hs hd).elim⟩

theorem kept_connack (hp : partOf packet = .connack) :
    (c.deliver packet).Ensures (TimersKept q c) := by
  have hquiet : TimersKept q c (c, [.notifyPacketReceived packet]) :=
    (Still.paced (.refl c) (by simp [isTimer])).toTimersKept
  have hopen : { c with status := .connected }.status ≠ ConnectionStatus.disconnected := by simp
  cases packet with
  | v311Connack p =>
    change (c.recvV311Connack p).Ensures _
    unfold recvV311Connack
    split
    · refine (ticks_resumeSession (q := True)).bind fun r hr ↦ Outcome.ensures_ret.mpr ?_
      exact kept_notified (by rw [hr.status]; exact hopen) ⟨hr.timers, hr.cancels⟩
    · exact Outcome.ensures_ret.mpr hquiet
  | v50Connack p =>
    change (c.recvV50Connack p).Ensures _
    unfold recvV50Connack
    split
    · refine (mirrors_noteAll p.props).bind fun r hr ↦
        (ticks_resumeSession (q := True)).bind fun r' hr' ↦ Outcome.ensures_ret.mpr ?_
      have hnoted : Mirrors c r := ⟨hr.1.timers, hr.1.cancels⟩
      refine kept_notified ?_ (hnoted.append hr'.mirrors)
      rw [hr'.status, hr.2]
      exact hopen
    · exact Outcome.ensures_ret.mpr hquiet
  | _ => cases hp

theorem kept_connect (hp : partOf packet = .connect) (h : c.Accepts packet) :
    (c.deliver packet).Ensures (TimersKept q c) := by
  cases packet with
  | v311Connect p =>
    have hs : ¬ c.status ≠ .disconnected := not_not.mpr h
    change (if c.status ≠ .disconnected then _ else _ : Outcome (Handled w)).Ensures _
    rw [if_neg hs]
    refine Outcome.ensures_ret.mpr (kept_recvConnect ?_ ?_)
    · split <;> split <;> rfl
    · split <;> split <;> rfl
  | v50Connect p =>
    have hs : ¬ c.status ≠ .disconnected := not_not.mpr h
    change (if c.status ≠ .disconnected then _ else _ : Outcome (Handled w)).Ensures _
    rw [if_neg hs]
    unfold recvV50Connect
    refine (noteConnect_stills p.props).bind fun c' hc' ↦ Outcome.ensures_ret.mpr ?_
    refine kept_recvConnect (hc'.timers.trans ?_) (hc'.status.trans ?_)
    · split <;> split <;> rfl
    · split <;> split <;> rfl
  | _ => cases hp

theorem paced_pingresp : Paced q c (c.recvPingresp packet) := by
  unfold recvPingresp
  have hcancel : Mirrors c ({ c with pingrespRecvSet := false },
      cancelEvents c.pingrespRecvSet .pingrespRecv) :=
    mirrors_cancel .pingrespRecv (timerSet_update .pingrespRecv false).symm
  have hreset : ∀ e ∈ cancelEvents c.pingrespRecvSet .pingrespRecv ++
      [(.notifyPacketReceived packet : GenericEvent w)], ¬ isReset e := by
    intro e he
    rcases List.mem_append.mp he with he | he
    · exact isReset_cancelEvents he
    · obtain rfl := List.mem_singleton.mp he
      simp [isReset]
  refine ⟨⟨hcancel.append (mirrors_free rfl (by simp [isTimer])), fun _ hs ↦ .inl ⟨hs, hreset⟩⟩,
    .inl rfl, rfl, fun e he hr ↦ (hreset e he hr).elim, fun kind hmem ↦ .inl ?_⟩
  rcases List.mem_append.mp hmem with hmem | hmem
  · unfold cancelEvents at hmem
    split at hmem
    · cases List.mem_singleton.mp hmem
      rfl
    · cases hmem
  · cases List.mem_singleton.mp hmem

theorem kept_recvDisconnect : TimersKept q c (c.recvDisconnect packet) :=
  kept_halted rfl (by simp [isTimer])

def Dismisses (packet : GenericPacket w) : Prop :=
  match packet with
  | .v311Disconnect _ | .v50Disconnect _ => True
  | _ => False

/-- Whatever is received on a connection, apart from what opens it or ends it, is paced. -/
theorem paced_deliver (hconnect : partOf packet = .connect → ¬ c.Accepts packet)
    (hconnack : partOf packet ≠ .connack) (hend : ¬ Dismisses packet)
    (h : q → c.status = .disconnected → Refreshes packet → c.Accepts packet →
      c.pingreqRecvTimeoutMs = 0) : (c.deliver packet).Ensures (Paced q c) := by
  by_cases hacc : c.Accepts packet
  swap
  · exact (deliver_violation hacc).mono fun _ ↦ Violation.paced
  by_cases href : Refreshes packet
  · exact (refreshed_deliver href hacc).mono fun r hr ↦ hr.toTicks.paced fun hq hs ↦ h hq hs href hacc
  cases packet with
  | v311Connect | v50Connect => exact (hconnect rfl hacc).elim
  | v311Connack | v50Connack => exact (hconnack rfl).elim
  | v311Pingresp | v50Pingresp => exact Outcome.ensures_ret.mpr paced_pingresp
  | v311Disconnect | v50Disconnect => exact (hend trivial).elim
  | _ => exact (href trivial).elim

/-- The handler of a packet stops the timers of a connection that it finds or leaves closed. -/
theorem kept_deliver (h : q → c.status = .disconnected → Refreshes packet → c.Accepts packet →
    c.pingreqRecvTimeoutMs = 0) : (c.deliver packet).Ensures (TimersKept q c) := by
  by_cases hconnack : partOf packet = .connack
  · exact kept_connack hconnack
  by_cases hconnect : partOf packet = .connect ∧ c.Accepts packet
  · exact kept_connect hconnect.1 hconnect.2
  by_cases hend : Dismisses packet
  · cases packet with
    | v311Disconnect | v50Disconnect => exact Outcome.ensures_ret.mpr kept_recvDisconnect
    | _ => exact hend.elim
  · have hrefused (hp : partOf packet = .connect) : ¬ c.Accepts packet := fun ha ↦ hconnect ⟨hp, ha⟩
    exact (paced_deliver hrefused hconnack hend h).mono fun _ hr ↦ hr.toTimersKept

def RefreshesOffline (c : GenericConnection w) (data : Bytes) : Prop :=
  c.status = .disconnected ∧ c.pingreqRecvTimeoutMs ≠ 0 ∧
    ∃ v packet, c.arrival data = some (v, packet) ∧ Refreshes packet ∧ c.Accepts packet

theorem kept_recv (hc : c.Reading) :
    (c.recv data).Ensures fun r ↦ TimersKept (¬ c.RefreshesOffline data) c r.1 := by
  intro r hr
  cases recv_cases hc hr with
  | @incomplete b _ =>
    have hstill : Still c { c with packetBuilder := b } := ⟨rfl, rfl, rfl⟩
    exact (hstill.paced (by simp)).toTimersKept
  | @malformed b e _ _ =>
    have hread : ({ c with packetBuilder := b } : GenericConnection w).timerSet = c.timerSet := rfl
    exact kept_halted hread (by simp [isTimer])
  | @refused b _ _ _ _ _ href =>
    have hstill : Still c { c with packetBuilder := b } := ⟨rfl, rfl, rfl⟩
    rcases href.paced _ rfl with hpaced | ⟨-, hmuted⟩
    · exact (Paced.of_still hstill hpaced).toTimersKept
    · exact (Muted.of_still hstill rfl hmuted).kept
  | @delivered b raw _ v packet _ hfeed harr _ hdel =>
    have hstill : Still c ({ c with packetBuilder := b }.determine v) := ⟨rfl, rfl, rfl⟩
    refine (kept_deliver (fun hq hs hp hacc ↦ ?_) _ hdel).of_still hstill
    by_contra ht
    have ha : c.arrival data = some (v, packet) := by
      simp only [arrival, hfeed]
      exact harr
    exact hq ⟨hs, ht, v, packet, ha, hp, accepts_prepared.mp hacc⟩

theorem paced_keepAlive : c.keepAlive.Ensures (Paced q c) := by
  unfold keepAlive
  split
  · split
    · refine Outcome.Ensures.bind (P := fun _ ↦ True) (fun _ _ ↦ trivial) fun p _ ↦ ?_
      exact Outcome.ensures_ret.mpr ((ticks_sendPingreq (q := True)).paced fun _ _ ↦ trivial)
    · refine Outcome.Ensures.bind (P := fun _ ↦ True) (fun _ _ ↦ trivial) fun p _ ↦ ?_
      refine paced_limited (Outcome.ensures_ret.mpr ?_)
      exact (ticks_sendPingreq (q := True)).paced fun _ _ ↦ trivial
    · simp
  · exact Outcome.ensures_ret.mpr (Still.paced (.refl c) (by simp))

theorem paced_keepAliveTimeout : c.keepAliveTimeout.Ensures (Paced q c) := by
  unfold keepAliveTimeout
  split
  · exact Outcome.ensures_ret.mpr (Still.paced (.refl c) (by simp [isTimer]))
  · split
    · refine Outcome.Ensures.bind (P := fun _ ↦ True) (fun _ _ ↦ trivial) fun p _ ↦ ?_
      exact paced_limited (Outcome.ensures_ret.mpr paced_sendDisconnect)
    · exact Outcome.ensures_ret.mpr (Still.paced (.refl c) (by simp))
  · simp

theorem kept_setPingreqSendInterval (durationMs : Option ℕ) :
    TimersKept q c (c.setPingreqSendInterval durationMs) := by
  unfold setPingreqSendInterval
  cases durationMs with
  | none => exact ⟨mirrors_free rfl (by simp), fun _ hs ↦ .inl ⟨hs, by simp⟩⟩
  | some ms =>
    dsimp only
    split
    · exact ⟨mirrors_cancel .pingreqSend (timerSet_update .pingreqSend false).symm,
        fun _ hs ↦ .inl ⟨hs, fun _ ↦ isReset_cancelEvents⟩⟩
    · split
      · rename_i hs
        refine ⟨mirrors_start .pingreqSend _ (timerSet_update .pingreqSend true).symm, fun _ hd ↦ ?_⟩
        cases hs.symm.trans hd
      · exact ⟨mirrors_free rfl (by simp), fun _ hs ↦ .inl ⟨hs, by simp⟩⟩

theorem isTimer_released {es : List (GenericEvent w)} (h : ∀ e ∈ es, e.release.isSome) :
    ∀ e ∈ es, ¬ isTimer e := by
  intro e he
  have := h e he
  cases e <;> simp_all [isTimer]

theorem drainAll_released (kinds : List AckKind) :
    (c.drainAll kinds).Ensures fun r ↦ ∀ e ∈ r.2, e.release.isSome := by
  have hrelease {c : GenericConnection w} {id : PacketId w} :
      (c.releaseIfUsed id).Ensures fun r ↦ ∀ e ∈ r.2, e.release.isSome := by
    unfold releaseIfUsed
    split
    · exact Outcome.Ensures.bind (P := fun _ ↦ True) (fun _ _ ↦ trivial)
        fun _ _ ↦ Outcome.ensures_ret.mpr (by simp)
    · exact Outcome.ensures_ret.mpr (by simp)
  have hall {c : GenericConnection w} (ids : List (PacketId w)) :
      (c.releaseAll ids).Ensures fun r ↦ ∀ e ∈ r.2, e.release.isSome := by
    induction ids generalizing c with
    | nil => exact Outcome.ensures_ret.mpr (by simp)
    | cons id ids ih =>
      refine hrelease.bind fun r hr ↦ ih.bind fun r' hr' ↦ Outcome.ensures_ret.mpr fun e he ↦ ?_
      exact (List.mem_append.mp he).elim (hr e) (hr' e)
  induction kinds generalizing c with
  | nil => exact Outcome.ensures_ret.mpr (by simp)
  | cons kind kinds ih =>
    refine Outcome.Ensures.bind (hall _) fun r hr ↦ ih.bind fun r' hr' ↦
      Outcome.ensures_ret.mpr fun e he ↦ ?_
    exact (List.mem_append.mp he).elim (hr e) (hr' e)

theorem GivesBack.still (h : GivesBack c c') : Still c c' := by
  rw [h]
  exact ⟨rfl, rfl, rfl⟩

theorem paced_notifyClosed : c.notifyClosed.Ensures (Paced q c) := by
  unfold notifyClosed
  have hdrain {c : GenericConnection w} (kinds : List AckKind) : (c.drainAll kinds).Ensures
      fun r ↦ Still c r.1 ∧ ∀ e ∈ r.2, ¬ isTimer e := fun r hr ↦
    ⟨(givesBack_drainAll kinds r hr).still, isTimer_released (drainAll_released kinds r hr)⟩
  refine (hdrain _).bind fun r hr ↦ ?_
  refine Outcome.Ensures.bind (P := fun r' ↦ Still r.1 r'.1 ∧ ∀ e ∈ r'.2, ¬ isTimer e)
    ?_ fun r' hr' ↦ Outcome.ensures_ret.mpr ?_
  · unfold respondIf
    split
    · exact (hdrain _).mono fun r' hr' ↦ ⟨⟨hr'.1.timers, hr'.1.status, hr'.1.intervals⟩, hr'.2⟩
    · exact Outcome.ensures_ret.mpr ⟨.refl _, by simp⟩
  · have hdrained : ∀ e ∈ r.2 ++ r'.2, ¬ isTimer e := fun e he ↦
      (List.mem_append.mp he).elim (hr.2 e) (hr'.2 e)
    have hclosed : Still { c with status := .disconnected } r'.1 :=
      Still.trans ⟨hr.1.timers, hr.1.status, hr.1.intervals⟩ hr'.1
    have hpaced := paced_cancelled (q := q) hclosed hdrained (List.forall_mem_nil _)
    rw [List.append_nil] at hpaced
    exact hpaced

def expire (running : TimerKind → Bool) : Operation w → TimerKind → Bool
  | .notifyTimerFired kind => Function.update running kind false
  | _ => running

def lapse (c : GenericConnection w) : Operation w → GenericConnection w
  | .notifyTimerFired .pingreqSend => { c with pingreqSendSet := false }
  | .notifyTimerFired .pingreqRecv => { c with pingreqRecvSet := false }
  | .notifyTimerFired .pingrespRecv => { c with pingrespRecvSet := false }
  | _ => c

theorem lapse_timerSet : (c.lapse op).timerSet = expire c.timerSet op := by
  cases op with
  | notifyTimerFired kind =>
    cases kind with
    | pingreqSend => exact (timerSet_update .pingreqSend false).symm
    | pingreqRecv => exact (timerSet_update .pingreqRecv false).symm
    | pingrespRecv => exact (timerSet_update .pingrespRecv false).symm
  | _ => rfl

theorem lapse_status : (c.lapse op).status = c.status := by
  cases op with
  | notifyTimerFired kind => cases kind <;> rfl
  | _ => rfl

def readTimers (running : TimerKind → Bool)
    (t : Transition (GenericConnection w) (Operation w) (Reply w)) : TimerKind → Bool :=
  timersAfter (expire running t.input) t.output.toEvents

/-- An operation starts no timer on a connection that is closed. -/
def LeavesTimers (c : GenericConnection w) : Operation w → Prop
  | .send packet => ¬ c.StartsOffline packet
  | .recv data => ¬ c.RefreshesOffline data
  | _ => True

/-- The flags agree with the timers that run, and a closed connection has none. -/
structure TimersSound (c : GenericConnection w) (running : TimerKind → Bool) : Prop where
  flags : c.timerSet = running
  stopped : c.status = .disconnected → running = fun _ ↦ false

theorem TimersKept.sound {running : TimerKind → Bool} (hk : TimersKept q c r) (hq : q)
    (h : TimersSound c running) : TimersSound r.1 (timersAfter running r.2) := by
  refine ⟨by rw [hk.timers, h.flags], fun hs ↦ ?_⟩
  rcases hk.stopped hq hs with ⟨hd, hquiet⟩ | hoff
  · have hrun := h.stopped hd
    funext kind
    simpa using timersAfter_off hquiet (by simp [hrun]) kind
  · rw [← h.flags, ← hk.timers]
    exact hoff

theorem TimersSound.lapse {running : TimerKind → Bool} (h : TimersSound c running) (op : Operation w) :
    TimersSound (c.lapse op) (expire running op) := by
  refine ⟨by rw [lapse_timerSet, h.flags], fun hd ↦ ?_⟩
  have hoff : running = fun _ ↦ false := h.stopped (lapse_status.symm.trans hd)
  cases op with
  | notifyTimerFired kind =>
    rw [expire, hoff]
    exact Function.update_eq_self kind fun _ ↦ false
  | _ => exact hoff

theorem kept_silent (ht : c'.timerSet = c.timerSet) (hs : c'.status = c.status) :
    TimersKept q c (c', []) :=
  ⟨mirrors_free ht (by simp), fun _ hd ↦ .inl ⟨hs.symm.trans hd, by simp⟩⟩

/-- Every operation keeps the flags of the timers in step with the events. -/
theorem step_kept (hc : c.Reading) (op : Operation w) : (c.step op).Ensures fun r ↦
    TimersKept (c.LeavesTimers op) (c.lapse op) (r.1, r.2.toEvents) := by
  have hevents {y : Outcome (Handled w)}
      (hy : y.Ensures (TimersKept (c.LeavesTimers op) (c.lapse op))) :
      (y >>= fun r ↦ Outcome.ret (r.1, Reply.events r.2)).Ensures fun r ↦
        TimersKept (c.LeavesTimers op) (c.lapse op) (r.1, r.2.toEvents) :=
    hy.bind fun _ hr ↦ Outcome.ensures_ret.mpr hr
  cases op with
  | send packet =>
    refine hevents ?_
    unfold send
    split
    · exact Outcome.ensures_ret.mpr (paced_reject _).toTimersKept
    · exact kept_processSend
  | recv data => exact (kept_recv hc).bind fun r hr ↦ Outcome.ensures_ret.mpr hr
  | notifyTimerFired kind =>
    refine hevents ?_
    cases kind with
    | pingreqSend => exact paced_keepAlive.mono fun _ hr ↦ hr.toTimersKept
    | pingreqRecv => exact paced_keepAliveTimeout.mono fun _ hr ↦ hr.toTimersKept
    | pingrespRecv => exact paced_keepAliveTimeout.mono fun _ hr ↦ hr.toTimersKept
  | notifyClosed => exact hevents (paced_notifyClosed.mono fun _ hr ↦ hr.toTimersKept)
  | setPingreqSendInterval ms => exact Outcome.ensures_ret.mpr (kept_setPingreqSendInterval ms)
  | acquirePacketId =>
    cases ha : c.pidMan.acquireUniqueId with
    | ok r =>
      rw [step_acquired (by rw [acquirePacketId, ha]; rfl)]
      exact Outcome.ensures_ret.mpr (kept_silent rfl rfl)
    | error e =>
      rw [step_unacquired (by rw [acquirePacketId, ha]; rfl)]
      exact Outcome.ensures_ret.mpr (kept_silent rfl rfl)
  | registerPacketId id =>
    cases hr : c.pidMan.registerId id with
    | ok man =>
      rw [step_registered (by rw [registerPacketId, hr]; rfl)]
      exact Outcome.ensures_ret.mpr (kept_silent rfl rfl)
    | error e =>
      rw [step_unregistered (by rw [registerPacketId, hr]; rfl)]
      exact Outcome.ensures_ret.mpr (kept_silent rfl rfl)
  | releasePacketId id =>
    refine hevents ((ticks_releaseIfUsed (q := True)).mono fun r hr ↦ ?_)
    exact (hr.paced fun _ _ ↦ trivial).toTimersKept
  | restorePackets packets =>
    obtain ⟨c', hc', hs, ht⟩ := c.restorePackets_spec packets
    have hstatus : c'.status = c.status := by
      have := congrArg Session.status hs
      rwa [foldl_restore_frame] at this
    refine Outcome.Ensures.bind (P := fun r ↦ r = c') (fun r hr ↦ ?_) ?_
    · exact (Outcome.ret.inj (hc'.symm.trans hr)).symm
    · rintro _ rfl
      exact Outcome.ensures_ret.mpr (kept_silent (funext ht.timerSet) hstatus)
  | _ => exact Outcome.ensures_ret.mpr (kept_silent rfl rfl)

theorem step_timers (hc : c.Reading) {running : TimerKind → Bool} (h : TimersSound c running)
    (hok : c.LeavesTimers op) : (c.step op).Ensures fun r ↦
      TimersSound r.1 (readTimers running ⟨c, op, r.1, r.2⟩) :=
  (step_kept hc op).mono fun _ hr ↦ hr.sound hok (h.lapse op)

/-- In every run whose operations start no timer on a closed connection, a closed connection has
none running: each one that was requested has been cancelled or has fired. -/
theorem timers_stopped {running : TimerKind → Bool} {trace : List (Transition _ _ _)}
    (h : Run ((system w).monitor (fun _ ↦ false) readTimers) (fun p op ↦ p.1.LeavesTimers op) trace
      (c, running)) (hs : c.status = .disconnected) :
    ∀ kind, ¬ running kind ∧ ¬ c.timerSet kind := by
  have hsound : c.Reading ∧ TimersSound c running := by
    refine h.monitored (I := fun c running ↦ c.Reading ∧ TimersSound c running) ?_ ?_
    · rintro _ ⟨role, version, rfl⟩
      refine ⟨⟨[], .header⟩, ?_, fun _ ↦ rfl⟩
      funext kind
      cases kind <;> rfl
    · intro c running op ⟨hc, ht⟩ hok r hr
      exact ⟨step_reading hc op r hr, step_timers hc ht hok r hr⟩
  intro kind
  rw [hsound.2.flags, hsound.2.stopped hs]
  simp

theorem timers_stopped_disconnect : ∃ (c : GenericConnection .u16) (running : TimerKind → Bool),
    c.status = .disconnected ∧ ∀ kind, ¬ running kind ∧ ¬ c.timerSet kind := by
  obtain ⟨p, _, d, _, ⟨c₁, o₁⟩, h₁, hs₁, ⟨c₂, o₂⟩, h₂, hs₂, hr₂, ⟨c₃, o₃⟩, h₃, hs₃⟩ :
      (V311.Connect.parse [0, 4, 0x4d, 0x51, 0x54, 0x54, 4, 0, 0, 10, 0, 1, 0x61]).unwrap.Attains
        fun p ↦ (V311.Empty.new : Fallible MqttError V311.Disconnect).unwrap.Attains fun d ↦
        ((new .client .u16 .v311).step (.send (.v311Connect p.1))).Attains fun r₁ ↦
        r₁.1.status = .connecting ∧ (r₁.1.step (.recv [0x20, 2, 0, 0])).Attains fun r₂ ↦
        r₂.1.status = .connected ∧ r₂.1.pingreqSendSet ∧
        (r₂.1.step (.send (.v311Disconnect d))).Attains fun r₃ ↦ r₃.1.status = .disconnected := by
    decide +kernel
  have hstart : Run ((system .u16).monitor (fun _ ↦ false) readTimers)
      (fun p op ↦ p.1.LeavesTimers op) [] (new .client .u16 .v311, fun _ ↦ false) :=
    .init ⟨⟨.client, .v311, rfl⟩, rfl⟩
  obtain ⟨_, hrun₁⟩ := run_step hstart (by rintro ⟨-, -, -, -, ⟨_, ⟨⟩, -⟩, -⟩) h₁
  obtain ⟨_, hrun₂⟩ := run_step hrun₁ (by rintro ⟨h, -⟩; cases h.symm.trans hs₁) h₂
  obtain ⟨_, hrun₃⟩ := run_step hrun₂ (by rintro ⟨h, -⟩; cases h.symm.trans hs₂) h₃
  exact ⟨c₃, _, hs₃, timers_stopped hrun₃ hs₃⟩

/-- A PUBREL that is stored after the connection was closed starts the timer of the client. -/
theorem timer_started_offline : ¬ ∀ (c : GenericConnection .u16) running trace,
    Run ((system .u16).monitor (fun _ ↦ false) readTimers) (fun _ _ ↦ True) trace (c, running) →
      c.status = .disconnected → ∀ kind, ¬ running kind ∧ ¬ c.timerSet kind := by
  intro h
  obtain ⟨pubrel, _, ⟨trace, c⟩, hrun, hs, hset⟩ :
      (V311.Ack.build 1 none : Fallible MqttError (V311.Pubrel .u16)).unwrap.Attains
        fun pubrel ↦
        (clientRun .v311 0 10 [] []
          [.recv [0x20, 2, 0, 0], .notifyClosed, .acquirePacketId,
            .send (.v311Pubrel pubrel)]).Attains fun r ↦
        r.2.status = .disconnected ∧ r.2.timerSet .pingreqSend := by
    decide +kernel
  obtain ⟨_, hrun'⟩ := monitor_of_clientRun _ _ hrun
  exact (h c _ _ hrun' hs .pingreqSend).2 hset

end MqttProtocolCore.Connection.GenericConnection
