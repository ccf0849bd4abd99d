import MqttProtocolCore.Connection.Pacing

namespace MqttProtocolCore.Connection

open General Packet

variable {w : IdWidth}

/-- What the handshake of the current network connection says about the keep-alive, in seconds. -/
structure Handshake where
  keepAlive : Option ℕ
  serverKeepAlive : Option ℕ

def keepAliveOf : GenericPacket w → Option ℕ
  | .v311Connect p => some p.keepAlive.val
  | .v50Connect p => some p.keepAlive.val
  | _ => none

def serverKeepAliveIn (sent : Option ℕ) (props : Properties) : Option ℕ :=
  props.foldl (fun sent prop ↦
    match prop with
    | .serverKeepAlive v => some v.val
    | _ => sent) sent

def serverKeepAliveOf : GenericPacket w → Option ℕ
  | .v50Connack p => if p.reasonCode = .success then serverKeepAliveIn none p.props else none
  | _ => none

namespace Handshake

def next (h : Handshake) (before : ConnectionStatus) (events : List (GenericEvent w)) : Handshake :=
  if before = .disconnected then ⟨(notified events).findSome? keepAliveOf, none⟩
  else { h with
    serverKeepAlive := ((requested events).findSome? serverKeepAliveOf).or h.serverKeepAlive }

/-- The time in milliseconds without a packet after which the peer is taken for lost, for the keep
alive `k` of the CONNECT. -/
def timeout (h : Handshake) (k : ℕ) : ℕ := 1500 * h.serverKeepAlive.getD k

end Handshake

namespace GenericConnection

variable {c c' : GenericConnection w} {packet : GenericPacket w} {op : Operation w} {r : Handled w}
  {reply : Reply w} {events : List (GenericEvent w)}

def readHandshake (hs : Handshake)
    (t : Transition (GenericConnection w) (Operation w) (Reply w)) : Handshake :=
  hs.next t.before.status t.output.toEvents

/-- The timeout for the packets of the peer stays as it is, and the timer is started with it. -/
structure Abides (c : GenericConnection w) (r : Handled w) : Prop where
  timeout : r.1.pingreqRecvTimeoutMs = c.pingreqRecvTimeoutMs
  armed : r.1.pingreqRecvSet → c.pingreqRecvSet ∨ c.pingreqRecvTimeoutMs ≠ 0
  status : r.1.status = c.status ∨ r.1.status = .disconnected ∨ c.status = .disconnected
  starts : ∀ d, .requestTimerReset .pingreqRecv d ∈ r.2 →
    d = c.pingreqRecvTimeoutMs ∧ c.pingreqRecvTimeoutMs ≠ 0

theorem Paced.abides_lapse {q : Prop} (h : Paced q (c.lapse op) r) : Abides c r := by
  have hsame : (c.lapse op).interval .pingreqRecv = c.pingreqRecvTimeoutMs := by
    rw [lapse_interval]
    rfl
  have hstarts : ∀ d, .requestTimerReset .pingreqRecv d ∈ r.2 →
      d = c.pingreqRecvTimeoutMs ∧ c.pingreqRecvTimeoutMs ≠ 0 := by
    intro d hd
    have := h.started hd
    rwa [hsame] at this
  refine ⟨?_, fun hset ↦ ?_, (lapse_status (c := c) ▸ h.status).imp_right .inl, hstarts⟩
  · rw [← hsame]
    exact congrFun h.intervals .pingreqRecv
  · have hrun : timersAfter (expire c.timerSet op) r.2 .pingreqRecv := by
      rw [← lapse_timerSet, ← h.timers]
      exact hset
    obtain hrun | ⟨d, hd⟩ := running_of_timersAfter hrun
    · exact .inl (expire_le hrun)
    · exact .inr (hstarts d hd).2

theorem Paced.abides {q : Prop} (h : Paced q c r) : Abides c r := by
  have hlapse : Paced q (c.lapse .acquirePacketId) r := h
  exact hlapse.abides_lapse

theorem Muted.abides (h : Muted c r) : Abides c r := by
  obtain ⟨hd, -, hstill, hquiet⟩ := h
  refine ⟨hstill.timeout, fun hset ↦ .inl ?_, .inr (.inr hd), fun d hmem ↦ (hquiet _ hmem rfl).elim⟩
  have hsame : r.1.pingreqRecvSet = c.pingreqRecvSet := congrFun hstill.timers .pingreqRecv
  exact hsame ▸ hset

def Shakes (c : GenericConnection w) (op : Operation w) : Prop :=
  (∃ packet present, op = .send packet ∧ packet.connackOf = some present ∧
    c.protocolVersion = packet.protocolVersion ∧
    (∀ p, packet = .v50Connack p → p.size ≤ c.maximumPacketSizeSend) ∧ c.status = .connecting) ∨
  ∃ data v packet, op = .recv data ∧ c.arrival data = some (v, packet) ∧
    partOf packet = .connect ∧ c.status = .disconnected

theorem abides_quiet (ht : c'.pingreqRecvTimeoutMs = c.pingreqRecvTimeoutMs)
    (hset : c'.pingreqRecvSet → c.pingreqRecvSet)
    (hst : c'.status = c.status ∨ c'.status = .disconnected)
    (he : ∀ d, .requestTimerReset .pingreqRecv d ∉ events) : Abides c (c', events) :=
  ⟨ht, fun h ↦ .inl (hset h), hst.imp_right .inl, fun d hd ↦ (he d hd).elim⟩

theorem paced_processSend_connack (hp : partOf packet = .connack)
    (h : packet.connackOf = none ∨ c.status ≠ .connecting ∨
      ∃ p, packet = .v50Connack p ∧ c.maximumPacketSizeSend < p.size) :
    (c.processSend packet).Ensures (Paced False c) := by
  have hrole {q : Prop} [Decidable q] {x : Outcome (Handled w)} (hx : x.Ensures (Paced False c)) :
      (if q then x else .ret (c.reject .packetNotAllowedToSend)).Ensures (Paced False c) := by
    split
    · exact hx
    · exact Outcome.ensures_ret.mpr (paced_reject _)
  cases packet with
  | v311Connack p =>
    refine hrole ?_
    unfold processSendV311Connack
    split
    · exact Outcome.ensures_ret.mpr (paced_reject _)
    · rename_i hs
      have hacc : p.returnCode ≠ .accepted := by
        intro hacc
        obtain hnone | hst | ⟨_, ⟨⟩, -⟩ := h
        · simp [GenericPacket.connackOf, hacc] at hnone
        · exact hs hst
      rw [decide_eq_false hacc]
      exact paced_refusedConnack
  | v50Connack p =>
    refine hrole ?_
    unfold processSendV50Connack limited
    split
    · rename_i hsize
      split
      · exact Outcome.ensures_ret.mpr (paced_reject _)
      · rename_i hs
        have hacc : p.reasonCode ≠ .success := by
          intro hacc
          obtain hnone | hst | ⟨_, ⟨⟩, hlt⟩ := h
          · simp [GenericPacket.connackOf, hacc] at hnone
          · exact hs hst
          · simp only [validateMaximumPacketSizeSend, decide_eq_true_eq] at hsize
            omega
        rw [decide_eq_false hacc]
        exact paced_refusedConnack.bind fun r hr ↦ Outcome.ensures_ret.mpr hr
    · exact Outcome.ensures_ret.mpr (paced_reject _)
  | _ => cases hp

theorem abides_setPingreqSendInterval (durationMs : Option ℕ) :
    Abides c (c.setPingreqSendInterval durationMs) := by
  unfold setPingreqSendInterval
  cases durationMs with
  | none => exact abides_quiet rfl id (.inl rfl) (by simp)
  | some ms =>
    dsimp only
    split
    · exact abides_quiet rfl id (.inl rfl) fun d hd ↦ isReset_cancelEvents hd rfl
    · split <;> exact abides_quiet rfl id (.inl rfl) (by simp)

/-- Outside of the handshake nothing changes the timeout of a server. -/
theorem step_abides (hc : c.Reading) (hrole : c.role = .server) (h : ¬ c.Shakes op) :
    (c.step op).Ensures fun r ↦ Abides c (r.1, r.2.toEvents) := by
  by_cases hturn : c.Turning op
  swap
  · refine (step_paced hc hturn).mono fun r hr ↦ ?_
    rcases hr with hpaced | ⟨-, -, -, hmuted⟩
    · exact hpaced.abides_lapse
    · exact hmuted.abides
  have hevents {y : Outcome (Handled w)} (hy : y.Ensures (Abides c)) :
      (y >>= fun r ↦ Outcome.ret (r.1, Reply.events r.2)).Ensures fun r ↦
        Abides c (r.1, r.2.toEvents) :=
    hy.bind fun _ hr ↦ Outcome.ensures_ret.mpr hr
  have hpaced {y : Outcome (Handled w)} (hy : y.Ensures (Paced False c)) : y.Ensures (Abides c) :=
    hy.mono fun r hr ↦ hr.abides
  cases op with
  | send packet =>
    refine hevents (hpaced ?_)
    unfold send
    split
    · exact Outcome.ensures_ret.mpr (paced_reject _)
    rename_i hver
    obtain hp | hp := hturn
    · cases packet with
      | v311Connect p | v50Connect p =>
        change (if actsAsClient c.role then _ else _ : Outcome (Handled w)).Ensures _
        rw [if_neg (by simp [actsAsClient, hrole])]
        exact Outcome.ensures_ret.mpr (paced_reject _)
      | _ => cases hp
    · apply paced_processSend_connack hp
      by_contra hno
      simp only [not_or, not_exists, not_and, not_lt, ← ne_eq, Option.ne_none_iff_exists',
        not_not] at hno
      obtain ⟨⟨present, hpresent⟩, hst, hsize⟩ := hno
      exact h (.inl ⟨packet, present, rfl, hpresent, not_not.mp hver, hsize, hst⟩)
  | recv data =>
    intro r hr
    obtain ⟨⟨r', rest⟩, hr', hret⟩ := Outcome.bind_eq_ret.mp hr
    obtain rfl := Outcome.ret.inj hret
    have hcancelled (c' : GenericConnection w) (after : List (GenericEvent w))
        (ht : c'.pingreqRecvTimeoutMs = c.pingreqRecvTimeoutMs) (hst : c'.status = c.status)
        (ha : ∀ e ∈ after, ¬ isTimer e) :
        Abides c (c'.cancelTimers.1, c'.cancelTimers.2 ++ after) := by
      refine abides_quiet ht (by simp [cancelTimers]) (.inl hst) fun d hd ↦ ?_
      rcases List.mem_append.mp hd with hd | hd
      · exact isReset_cancelTimers hd rfl
      · exact ha _ hd rfl
    cases recv_cases hc hr' with
    | @incomplete b _ => exact abides_quiet rfl id (.inl rfl) fun d hd ↦ by cases hd
    | @malformed b e _ _ =>
      exact hcancelled { c with packetBuilder := b } _ rfl rfl (by simp [isTimer])
    | @refused b _ _ _ _ _ href =>
      have hstill : Still c { c with packetBuilder := b } := ⟨rfl, rfl, rfl⟩
      rcases href.paced _ rfl with hpaced | ⟨-, hmuted⟩
      · have hkept : Paced False c r' := hpaced.of_still hstill
        exact hkept.abides
      · exact (Muted.of_still hstill rfl hmuted).abides
    | @delivered b raw _ v packet _ hfeed harr _ hdel =>
      have ha : c.arrival data = some (v, packet) := by simp [arrival, hfeed, harr]
      have hstill : Still c ({ c with packetBuilder := b }.determine v) := ⟨rfl, rfl, rfl⟩
      by_cases hend : Dismisses packet
      · cases packet with
        | v311Disconnect p =>
          cases hdel
          exact hcancelled ({ c with packetBuilder := b }.determine v)
            [.notifyPacketReceived (.v311Disconnect p)] rfl rfl (by simp [isTimer])
        | v50Disconnect p =>
          cases hdel
          exact hcancelled ({ c with packetBuilder := b }.determine v)
            [.notifyPacketReceived (.v50Disconnect p)] rfl rfl (by simp [isTimer])
        | _ => exact hend.elim
      · have hconnack : partOf packet ≠ .connack := fun hp ↦
          (arrival_role ha).2 (by cases packet <;> first | rfl | cases hp) hrole
        have hconnect (hp : partOf packet = .connect) :
            ¬ ({ c with packetBuilder := b }.determine v).Accepts packet := by
          intro hacc
          refine h (.inr ⟨data, v, packet, rfl, ha, hp, ?_⟩)
          cases packet <;> first | exact hacc | cases hp
        have hpaced : Paced False c r' :=
          (paced_deliver hconnect hconnack hend (by simp) _ hdel).of_still hstill
        exact hpaced.abides
  | setPingreqSendInterval durationMs =>
    exact Outcome.ensures_ret.mpr (abides_setPingreqSendInterval durationMs)
  | setPingrespRecvTimeout timeoutMs =>
    exact Outcome.ensures_ret.mpr (abides_quiet rfl id (.inl rfl) fun d hd ↦ by cases hd)
  | _ => exact hturn.elim

/-- A CONNACK that is sent is of the version of the connection and not too large. -/
theorem fits_of_requested {p : V50.Connack} (hstep : c.step (.send (.v50Connack p)) = .ret (c', reply))
    (hreq : .v50Connack p ∈ requested reply.toEvents) :
    c.protocolVersion = .v50 ∧ p.size ≤ c.maximumPacketSizeSend := by
  obtain ⟨r, hr, hret⟩ := Outcome.bind_eq_ret.mp hstep
  obtain ⟨rfl, rfl⟩ := Prod.mk.inj (Outcome.ret.inj hret)
  by_contra hno
  have hrejected : ∃ e, c.send (.v50Connack p) = .ret (c.reject e) := by
    unfold send
    by_cases hv : c.protocolVersion = .v50
    · have hlt : ¬ c.validateMaximumPacketSizeSend p.size := fun hs ↦
        hno ⟨hv, by simpa [validateMaximumPacketSizeSend] using hs⟩
      rw [if_neg (by simp [hv, GenericPacket.protocolVersion])]
      have hlarge : c.processSendV50Connack p = .ret (c.reject .packetTooLarge) := if_neg hlt
      unfold processSend
      dsimp only
      rw [hlarge]
      split <;> exact ⟨_, rfl⟩
    · exact ⟨_, if_pos hv⟩
  obtain ⟨e, he⟩ := hrejected
  cases he.symm.trans hr
  exact absurd hreq List.not_mem_nil

theorem silent_requested (hc : c.Reading) (h : ¬ c.Shakes op) (hstep : c.step op = .ret (c', reply)) :
    ∀ q ∈ requested reply.toEvents, serverKeepAliveOf q = none := by
  intro q hq
  cases q with
  | v50Connack p =>
    by_contra hne
    have hcode : p.reasonCode = .success := by
      by_contra hcode
      exact hne (if_neg hcode)
    have hconnack : (GenericPacket.v50Connack p : GenericPacket w).connackOf = some p.sessionPresent :=
      if_pos hcode
    obtain ⟨-, c₀, hprep, hchange⟩ := (step_spec hc op).of_ret hstep
    obtain ⟨hin, hst⟩ := hchange.connack_requested hconnack hq
    obtain rfl := send_of_inputOf hin
    obtain ⟨hv, hsize⟩ := fits_of_requested hstep hq
    have hstatus : c₀.status = c.status := congrArg Session.status hprep.session
    refine h (.inl ⟨_, _, rfl, hconnack, hv, ?_, hstatus ▸ hst⟩)
    rintro _ ⟨⟩
    exact hsize
  | _ => rfl

theorem silent_notified (hc : c.Reading) (h : ¬ c.Shakes op) (hstep : c.step op = .ret (c', reply)) :
    ∀ q ∈ notified reply.toEvents, keepAliveOf q = none := by
  intro q hq
  by_contra hne
  have hconnect : ∃ clean, q.connectOf = some clean := by
    cases q with
    | v311Connect p => exact ⟨_, rfl⟩
    | v50Connect p => exact ⟨_, rfl⟩
    | _ => exact (hne rfl).elim
  obtain ⟨clean, hclean⟩ := hconnect
  obtain ⟨-, c₀, hprep, hchange⟩ := (step_spec hc op).of_ret hstep
  obtain ⟨hin, hst⟩ := hchange.connect_notified hclean hq
  obtain ⟨data, v, hop, ha⟩ := arrival_of_inputOf hin
  have hstatus : c₀.status = c.status := congrArg Session.status hprep.session
  exact h (.inr ⟨data, v, q, hop, ha, partOf_connect hclean, hstatus ▸ hst⟩)

end GenericConnection

end MqttProtocolCore.Connection
