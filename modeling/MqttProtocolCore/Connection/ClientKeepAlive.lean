import MqttProtocolCore.Connection.ClientRun
import MqttProtocolCore.Connection.ClientTimer

namespace MqttProtocolCore.Connection.GenericConnection

open General Packet

variable {w : IdWidth} {c c' : GenericConnection w} {packet : GenericPacket w} {op : Operation w}
  {r : Handled w} {events : List (GenericEvent w)} {hb : Heartbeat} {clock : Option ℕ} {data : Bytes}
  {v : Version} {present : Bool} {d : ℕ}

def Pings (c : GenericConnection w) : Prop := c.role = .client ∨ c.isClient

/-- The timer for PINGREQ comes to differ from the interval. -/
inductive Disarms (c : GenericConnection w) (clock : Option ℕ) : Operation w → Prop where
  | unset : c.Pings → c.status ≠ .disconnected →
      c.pingreqServerKeepAliveMs.getD c.pingreqKeepAliveMs ≠ c.pingreqSendMs →
      Disarms c clock (.setPingreqSendInterval none)
  | early {ms : ℕ} : c.Pings → c.status = .connecting → 0 < ms → ms ≠ c.pingreqSendMs →
      Disarms c clock (.setPingreqSendInterval (some ms))
  | fires : c.Pings → c.status ≠ .disconnected → 0 < c.pingreqSendMs → ¬ c.Pingable →
      Disarms c clock (.notifyTimerFired .pingreqSend)
  | ended {data : Bytes} : c.Pings → c.status ≠ .disconnected → 0 < c.pingreqSendMs →
      (c.Breaks data ∨ ∃ v packet, c.arrival data = some (v, packet) ∧ Dismisses packet) →
      Disarms c clock (.recv data)
  | unasked {data : Bytes} {v : Version} {packet : GenericPacket w} {present : Bool} :
      c.Pings → c.status = .disconnected → c.arrival data = some (v, packet) →
      packet.connackOf = some present →
      (c.pingreqUserSendIntervalMs.isSome ∨ serverKeepAliveOf packet = none) → ¬ c.Armed clock →
      Disarms c clock (.recv data)
  | muted {data : Bytes} : c.Pings → c.status = .disconnected → c.maximumPacketSizeSend < 5 →
      c.Garbles data → ¬ c.Armed clock → Disarms c clock (.recv data)
  | residue {packet : GenericPacket w} {k : ℕ} : c.Connects packet → keepAliveOf packet = some k →
      c.pingreqUserSendIntervalMs.getD (k * 1000) = 0 → c.pingreqSendSet →
      Disarms c clock (.send packet)

/-- The heartbeat agrees with the settings of a client, and with its timer while it is not
disconnected. -/
structure Beating (c : GenericConnection w) (hb : Heartbeat) : Prop where
  override : hb.override = c.pingreqUserSendIntervalMs
  clock : hb.clock.isSome = c.pingreqSendSet
  keepAlive : c.Pings → c.pingreqKeepAliveMs = hb.keepAlive * 1000
  serverKeepAlive : c.Pings → c.pingreqServerKeepAliveMs = hb.serverKeepAlive.map (· * 1000)
  armed : c.Pings → c.status ≠ .disconnected → c.Armed hb.clock

theorem Beating.interval (h : Beating c hb) (hp : c.Pings) : c.pingreqSendMs = hb.interval := by
  unfold pingreqSendMs Heartbeat.interval
  rw [h.override, h.serverKeepAlive hp, h.keepAlive hp]
  cases hb.serverKeepAlive <;> rfl

theorem Steady.pings (h : Steady c c') : c'.Pings ↔ c.Pings := by
  unfold Pings
  rw [h.role, h.client]

theorem Steady.interval (h : Steady c c') : c'.pingreqSendMs = c.pingreqSendMs := by
  unfold pingreqSendMs
  rw [h.override, h.keepAlive, h.serverKeepAlive]

theorem step_clock (hc : c.Reading) (h : hb.clock.isSome = c.pingreqSendSet) :
    (c.step op).Ensures fun r ↦ (hb.next op r.2.toEvents).clock.isSome = r.1.pingreqSendSet := by
  intro r hr
  have htimers := (step_kept hc op r hr).timers
  have hbefore : (Heartbeat.clockBefore hb.clock op).isSome =
      (c.lapse op).timerSet .pingreqSend := by
    cases op with
    | notifyTimerFired kind => cases kind <;> first | rfl | exact h
    | _ => exact h
  exact (clock_isSome hbefore).trans (congrFun htimers .pingreqSend).symm

/-- What leaves the settings alone keeps the heartbeat, if it keeps the timer. -/
theorem Beating.steady (h : Beating c hb) (hs : Steady c r.1)
    (hnext : hb.next op r.2 =
      { hb with clock := r.2.foldl clockAfter (Heartbeat.clockBefore hb.clock op) })
    (hclock : (hb.next op r.2).clock.isSome = r.1.pingreqSendSet)
    (harmed : c.Pings → r.1.status ≠ .disconnected → r.1.Armed (hb.next op r.2).clock) :
    Beating r.1 (hb.next op r.2) := by
  refine ⟨?_, hclock, fun hp ↦ ?_, fun hp ↦ ?_, fun hp hopen ↦ harmed (hs.pings.mp hp) hopen⟩
  · rw [hnext, hs.override]
    exact h.override
  · rw [hnext, hs.keepAlive]
    exact h.keepAlive (hs.pings.mp hp)
  · rw [hnext, hs.serverKeepAlive]
    exact h.serverKeepAlive (hs.pings.mp hp)

theorem beating_opened (hc : c.Reading) (h : Beating c hb) (hok : ¬ Disarms c hb.clock (.recv data))
    (ha : c.arrival data = some (v, packet)) (hp : packet.connackOf = some present) :
    (c.step (.recv data)).Ensures fun r ↦ Beating r.1 (hb.next (.recv data) r.2.toEvents) := by
  intro r hr
  have hclock := step_clock hc h.clock r hr
  have honly : ∀ q ∈ notified r.2.toEvents, serverKeepAliveOf q ≠ none → q = packet := by
    intro q hq hne
    obtain ⟨_, hq'⟩ := connack_of_serverKeepAlive hne
    obtain ⟨_, _, ⟨⟩, ha'⟩ := connack_arrived hc hr hq' hq
    exact (Prod.mk.inj (Option.some.inj (ha'.symm.trans ha))).2
  obtain ⟨⟨r', rest⟩, hr', hret⟩ := Outcome.bind_eq_ret.mp hr
  obtain rfl := Outcome.ret.inj hret
  cases recv_cases hc hr' with
  | incomplete hfeed => simp [arrival, hfeed] at ha
  | malformed hfeed => simp [arrival, hfeed] at ha
  | refused hfeed harr => simp [arrival, hfeed, harr] at ha
  | @delivered b raw _ v' packet' _ hfeed harr _ hdel =>
    have ha' : c.arrival data = some (v', packet') := by simp [arrival, hfeed, harr]
    obtain ⟨rfl, rfl⟩ := Prod.mk.inj (Option.some.inj (ha'.symm.trans ha))
    have hflag : hb.clock.isSome =
        ({ c with packetBuilder := b }.determine v').pingreqSendSet := h.clock
    have hopened := deliver_connack hflag hp _ hdel
    have hnext : (hb.next (.recv data : Operation w) r'.2).serverKeepAlive =
        (serverKeepAliveOf packet').or hb.serverKeepAlive := by
      change ((notified r'.2).findSome? serverKeepAliveOf).or hb.serverKeepAlive = _
      rw [findSome?_of_mem hopened.notified honly]
    have hpings : r'.1.Pings ↔ c.Pings := by
      unfold Pings
      rw [hopened.role, hopened.client]
      rfl
    refine ⟨h.override.trans hopened.override.symm, hclock, fun hP ↦ ?_, fun hP ↦ ?_, fun hP _ ↦ ?_⟩
    · exact hopened.keepAlive.trans (h.keepAlive (hpings.mp hP))
    · have hserver : ({ c with packetBuilder := b }.determine v').pingreqServerKeepAliveMs =
          hb.serverKeepAlive.map (· * 1000) := h.serverKeepAlive (hpings.mp hP)
      change _ = (hb.next (.recv data : Operation w) r'.2).serverKeepAlive.map (· * 1000)
      rw [hnext, hopened.serverKeepAlive, hserver]
      cases serverKeepAliveOf packet' <;> rfl
    · refine hopened.armed ?_
      by_contra hno
      obtain ⟨hunarmed, hrearm⟩ := not_or.mp hno
      have hunarmed' : ¬ c.Armed hb.clock := hunarmed
      by_cases hd : c.status = .disconnected
      · refine hok (.unasked (hpings.mp hP) hd ha hp ?_ hunarmed')
        by_contra hno'
        obtain ⟨ho, hs⟩ := not_or.mp hno'
        have hnone : c.pingreqUserSendIntervalMs = none := by simpa using ho
        exact hrearm ⟨hnone, hs⟩
      · exact hunarmed' (h.armed (hpings.mp hP) hd)

theorem beating_served (hc : c.Reading) (h : Beating c hb) (ha : c.arrival data = some (v, packet))
    (hp : partOf packet = .connect) (hacc : c.Accepts packet) :
    (c.step (.recv data)).Ensures fun r ↦ Beating r.1 (hb.next (.recv data) r.2.toEvents) := by
  intro r hr
  have hclock := step_clock hc h.clock r hr
  have hrole : r.1.role = c.role := stepFrames_role.step hc _ r hr
  obtain ⟨⟨r', rest⟩, hr', hret⟩ := Outcome.bind_eq_ret.mp hr
  obtain rfl := Outcome.ret.inj hret
  cases recv_cases hc hr' with
  | incomplete hfeed => simp [arrival, hfeed] at ha
  | malformed hfeed => simp [arrival, hfeed] at ha
  | refused hfeed harr => simp [arrival, hfeed, harr] at ha
  | @delivered b raw _ v' packet' _ hfeed harr _ hdel =>
    have ha' : c.arrival data = some (v', packet') := by simp [arrival, hfeed, harr]
    obtain ⟨rfl, rfl⟩ := Prod.mk.inj (Option.some.inj (ha'.symm.trans ha))
    obtain ⟨hserver, hoverride⟩ := deliver_served hp (accepts_prepared.mpr hacc) _ hdel
    have hno : ¬ r'.1.Pings := by
      rintro (hclient | hclient)
      · refine (arrival_role ha).1 ?_ (hrole.symm.trans hclient)
        cases packet' <;> first | rfl | cases hp
      · exact hserver hclient
    exact ⟨h.override.trans hoverride.symm, hclock, fun hP ↦ (hno hP).elim, fun hP ↦ (hno hP).elim,
      fun hP ↦ (hno hP).elim⟩

theorem beating_connect (hc : c.Reading) (h : Beating c hb)
    (hok : ¬ Disarms c hb.clock (.send packet)) (hstart : c.Connects packet) :
    (c.step (.send packet)).Ensures fun r ↦ Beating r.1 (hb.next (.send packet) r.2.toEvents) := by
  intro r hr
  have hclock := step_clock hc h.clock r hr
  obtain ⟨hno, -⟩ | ⟨-, k, c₁, hk, hc₁, hsend⟩ := send_connect (c := c) hstart.1
  · exact (hno hstart).elim
  obtain ⟨r', hr', hret⟩ := Outcome.bind_eq_ret.mp hr
  obtain rfl := Outcome.ret.inj hret
  obtain rfl := Outcome.ret.inj (hsend.symm.trans hr')
  have hs : Steady c₁ (c₁.request packet none).1 := sessionFrames_steady.request
  have hsent : Heartbeat.keepAliveSent (.send packet) (c₁.request packet none).2 = some k := by
    refine (if_pos ?_).trans hk
    exact List.mem_filterMap.mpr ⟨_, List.mem_cons_self, rfl⟩
  have hms : c₁.pingreqSendMs = c.pingreqUserSendIntervalMs.getD (k * 1000) := by
    unfold pingreqSendMs
    rw [hc₁.override, hc₁.serverKeepAlive, hc₁.keepAlive]
    rfl
  have hnext : (hb.next (.send packet) (c₁.request packet none).2).keepAlive = k ∧
      (hb.next (.send packet) (c₁.request packet none).2).serverKeepAlive = none := by
    simp [Heartbeat.next, hsent]
  refine ⟨h.override.trans (hc₁.override.symm.trans hs.override.symm), hclock, fun _ ↦ ?_,
    fun _ ↦ ?_, fun _ _ ↦ ?_⟩
  · rw [hs.keepAlive, hc₁.keepAlive]
    exact congrArg (· * 1000) hnext.1.symm
  · rw [hs.serverKeepAlive, hc₁.serverKeepAlive]
    exact (congrArg (Option.map (· * 1000)) hnext.2).symm
  · unfold Armed
    rw [hs.interval]
    change (c₁.request packet none).2.foldl clockAfter hb.clock = _
    by_cases hi : 0 < c₁.pingreqSendMs
    · have hpost : c₁.sendPostProcess = ({ c₁ with pingreqSendSet := true },
          [.requestTimerReset .pingreqSend c₁.pingreqSendMs]) := if_pos ⟨hc₁.client, hi⟩
      rw [if_pos hi, request, hpost]
      rfl
    · have hpost : c₁.sendPostProcess = (c₁, []) := if_neg fun h ↦ hi h.2
      rw [if_neg hi, request, hpost]
      change hb.clock = none
      have hoff : ¬ c.pingreqSendSet := fun hset ↦
        hok (.residue hstart hk (by rw [← hms]; omega) hset)
      rw [Bool.not_eq_true, ← h.clock] at hoff
      simpa using hoff

theorem beating_set (hc : c.Reading) (h : Beating c hb) {durationMs : Option ℕ}
    (hok : ¬ Disarms c hb.clock (.setPingreqSendInterval durationMs)) :
    (c.step (.setPingreqSendInterval durationMs)).Ensures fun r ↦
      Beating r.1 (hb.next (.setPingreqSendInterval durationMs) r.2.toEvents) := by
  intro r hr
  have hclock := step_clock hc h.clock r hr
  have hret : r = ((c.setPingreqSendInterval durationMs).1,
      .events (c.setPingreqSendInterval durationMs).2) := (Outcome.ret.inj hr).symm
  subst hret
  obtain ⟨c₀, rfl, hc₀⟩ := handling_setPingreqSendInterval (c := c) durationMs
  have hs := hc₀.steady
  have hP : (c.setPingreqSendInterval durationMs).1.Pings ↔ c.Pings := hs.pings
  refine ⟨hs.override.symm, hclock, fun hp ↦ ?_, fun hp ↦ ?_, fun hp hopen ↦ ?_⟩
  · exact hs.keepAlive.trans (h.keepAlive (hP.mp hp))
  · have hnone : notified (c.setPingreqSendInterval durationMs).2 = [] :=
      (c.setPingreqSendInterval_spec durationMs).2.notified
    refine (hs.serverKeepAlive.trans (h.serverKeepAlive (hP.mp hp))).trans ?_
    change _ = Option.map (· * 1000) (((notified (c.setPingreqSendInterval durationMs).2).findSome?
      serverKeepAliveOf).or hb.serverKeepAlive)
    rw [hnone]
    rfl
  cases durationMs with
  | none =>
    have harmed : c.Armed hb.clock := h.armed (hP.mp hp) hopen
    have hsame : c.pingreqServerKeepAliveMs.getD c.pingreqKeepAliveMs = c.pingreqSendMs := by
      by_contra hne
      exact hok (.unset (hP.mp hp) hopen hne)
    unfold Armed
    rw [hs.interval]
    change hb.clock = if 0 < c.pingreqServerKeepAliveMs.getD c.pingreqKeepAliveMs then
      some (c.pingreqServerKeepAliveMs.getD c.pingreqKeepAliveMs) else none
    rw [hsame]
    exact harmed
  | some ms =>
    unfold Armed
    rw [hs.interval]
    change _ = if 0 < ms then some ms else none
    by_cases h0 : ms = 0
    · have hflag : (c.setPingreqSendInterval (some ms)).1.pingreqSendSet = false := by
        unfold setPingreqSendInterval
        dsimp only
        rw [if_pos h0]
      change (hb.next _ _).clock.isSome = _ at hclock
      rw [hflag] at hclock
      rw [if_neg (by omega)]
      simpa using hclock
    have hpos : 0 < ms := Nat.pos_of_ne_zero h0
    rw [if_pos hpos]
    by_cases hconn : c.status = .connected
    · have hset : c.setPingreqSendInterval (some ms) =
          ({ c with pingreqUserSendIntervalMs := some ms, pingreqSendSet := true },
            [.requestTimerReset .pingreqSend ms]) := by
        unfold setPingreqSendInterval
        dsimp only
        rw [if_neg h0, if_pos hconn]
      rw [hset]
      rfl
    · have hset : c.setPingreqSendInterval (some ms) =
          ({ c with pingreqUserSendIntervalMs := some ms }, []) := by
        unfold setPingreqSendInterval
        dsimp only
        rw [if_neg h0, if_neg hconn]
      rw [hset] at hopen ⊢
      have hst : c.status = .connecting := by
        cases hst : c.status with
        | connecting => rfl
        | connected => exact (hconn hst).elim
        | disconnected => exact (hopen hst).elim
      have hsame : ms = c.pingreqSendMs := by
        by_contra hne
        exact hok (.early (hP.mp hp) hst hpos hne)
      have harmed : c.Armed hb.clock := h.armed (hP.mp hp) (by simp [hst])
      unfold Armed at harmed
      rw [← hsame, if_pos hpos] at harmed
      exact harmed

theorem step_fires (hok : ¬ Disarms c clock (.notifyTimerFired .pingreqSend)) (hp : c.Pings)
    (hopen : c.status ≠ .disconnected) (hi : 0 < c.pingreqSendMs) :
    (c.step (.notifyTimerFired .pingreqSend)).Ensures fun r ↦
      .requestTimerReset .pingreqSend c.pingreqSendMs ∈ r.2.toEvents := by
  have hping : c.Pingable := by
    by_contra hno
    exact hok (.fires hp hopen hi hno)
  have hping' : ({ c with pingreqSendSet := false } : GenericConnection w).Pingable := hping
  refine (keepAlive_starts hping' hi).bind fun r hr ↦ Outcome.ensures_ret.mpr ?_
  exact hr

/-- The timer of a client after an operation outside of the handshake. -/
theorem step_armed (hc : c.Reading) (h : Beating c hb) (hok : ¬ Disarms c hb.clock op)
    (hset : ∀ durationMs, op ≠ .setPingreqSendInterval durationMs)
    (hconnect : ∀ packet, op = .send packet → ¬ c.Connects packet)
    (hopen : ∀ data v packet, op = .recv data → c.arrival data = some (v, packet) →
      (partOf packet = .connect → ¬ c.Accepts packet) ∧ packet.connackOf = none) (hp : c.Pings) :
    (c.step op).Ensures fun r ↦ r.1.status ≠ .disconnected →
      r.1.Armed (hb.next op r.2.toEvents).clock := by
  intro r hr hst
  have hclock := step_clock hc h.clock r hr
  have hsteady := steady_step hc hset hconnect hopen r hr
  by_cases hend : ∃ data, op = .recv data ∧
      (c.Breaks data ∨ ∃ v packet, c.arrival data = some (v, packet) ∧ Dismisses packet)
  · obtain ⟨data, rfl, hend⟩ := hend
    obtain ⟨hoff, hsame⟩ := step_ended hc hend r hr
    have hzero : ¬ 0 < c.pingreqSendMs := fun hi ↦ hok (.ended hp (hsame ▸ hst) hi hend)
    rw [hoff] at hclock
    unfold Armed
    rw [hsteady.interval, if_neg hzero]
    simpa using hclock
  have hend' : ∀ data, op = .recv data → ¬ (c.Breaks data ∨
      ∃ v packet, c.arrival data = some (v, packet) ∧ Dismisses packet) :=
    fun data hop hbad ↦ hend ⟨data, hop, hbad⟩
  obtain hbeats | ⟨data, rfl, hgarble, hd, hsize, hstill, hfree⟩ :=
    step_beats hc hset hconnect hopen hend' r hr
  · by_cases hfire : op = .notifyTimerFired .pingreqSend
    · subst hfire
      have hopened : c.status ≠ .disconnected := hbeats.opened hst
      by_cases hi : 0 < c.pingreqSendMs
      · have hstarts := step_fires hok hp hopened hi r hr
        have hcase := @clock_of_starts w r.2.toEvents none c.pingreqSendMs
          (fun d hd ↦ (hbeats.starts d hd).1) fun hmem ↦ hst (hbeats.halts hmem)
        obtain ⟨-, hrun⟩ | ⟨hno, -⟩ := hcase
        · unfold Armed
          rw [hsteady.interval, if_pos hi]
          exact hrun
        · exact (hno hstarts).elim
      · have hoff : c.Armed none := (if_neg hi).symm
        exact hoff.beats hbeats hst
    · have hbefore : Heartbeat.clockBefore hb.clock op = hb.clock := by
        cases op with
        | notifyTimerFired kind =>
          cases kind with
          | pingreqSend => exact (hfire rfl).elim
          | _ => rfl
        | _ => rfl
      change r.1.Armed (r.2.toEvents.foldl clockAfter (Heartbeat.clockBefore hb.clock op))
      rw [hbefore]
      exact (h.armed hp (hbeats.opened hst)).beats hbeats hst
  · have harmed : c.Armed hb.clock := by
      by_contra hno
      exact hok (.muted hp hd hsize hgarble hno)
    change r.1.Armed (r.2.toEvents.foldl clockAfter hb.clock)
    rw [clock_free hfree, Armed, hsteady.interval]
    exact harmed

/-- Every operation that does not disarm the client keeps the heartbeat. -/
theorem step_beating (hc : c.Reading) (h : Beating c hb) (hok : ¬ Disarms c hb.clock op) :
    (c.step op).Ensures fun r ↦ Beating r.1 (readHeartbeat hb ⟨c, op, r.1, r.2⟩) := by
  by_cases hset : ∃ durationMs, op = .setPingreqSendInterval durationMs
  · obtain ⟨durationMs, rfl⟩ := hset
    exact beating_set hc h hok
  by_cases hconnect : ∃ packet, op = .send packet ∧ c.Connects packet
  · obtain ⟨packet, rfl, hstart⟩ := hconnect
    exact beating_connect hc h hok hstart
  by_cases hserve : ∃ data v packet, op = .recv data ∧ c.arrival data = some (v, packet) ∧
      partOf packet = .connect ∧ c.Accepts packet
  · obtain ⟨data, v, packet, rfl, ha, hp, hacc⟩ := hserve
    exact beating_served hc h ha hp hacc
  by_cases hconnack : ∃ data v packet present, op = .recv data ∧ c.arrival data = some (v, packet) ∧
      packet.connackOf = some present
  · obtain ⟨data, v, packet, present, rfl, ha, hp⟩ := hconnack
    exact beating_opened hc h hok ha hp
  have hset' : ∀ durationMs, op ≠ .setPingreqSendInterval durationMs := fun d hop ↦ hset ⟨d, hop⟩
  have hconnect' : ∀ packet, op = .send packet → ¬ c.Connects packet :=
    fun p hop hstart ↦ hconnect ⟨p, hop, hstart⟩
  have hquiet : ∀ data v packet, op = .recv data → c.arrival data = some (v, packet) →
      packet.connackOf = none := by
    intro data v packet hop ha
    by_contra hne
    obtain ⟨present, hp⟩ := Option.ne_none_iff_exists'.mp hne
    exact hconnack ⟨data, v, packet, present, hop, ha, hp⟩
  have hopen : ∀ data v packet, op = .recv data → c.arrival data = some (v, packet) →
      (partOf packet = .connect → ¬ c.Accepts packet) ∧ packet.connackOf = none :=
    fun data v packet hop ha ↦
      ⟨fun hp hacc ↦ hserve ⟨data, v, packet, hop, ha, hp, hacc⟩, hquiet data v packet hop ha⟩
  intro r hr
  have hnext := @next_quiet w c r.1 op r.2 hb hc hr hset' hconnect' hquiet
  have hsteady : Steady c (r.1, r.2.toEvents).1 := steady_step hc hset' hconnect' hopen r hr
  exact h.steady hsteady hnext (step_clock hc h.clock r hr)
    fun hp hst ↦ step_armed hc h hok hset' hconnect' hopen hp r hr hst

/-- In every run in which no operation disarms the client, the timer for PINGREQ of a client that is
connected runs for the interval, and does not run when the interval is 0. -/
theorem client_keep_alive {trace : List (Transition _ _ _)}
    (h : Run ((system w).monitor ⟨none, 0, none, none⟩ readHeartbeat)
      (fun p op ↦ ¬ Disarms p.1 p.2.clock op) trace (c, hb)) (hp : c.role = .client ∨ c.isClient)
    (hst : c.status = .connected) :
    (0 < hb.interval → c.timerSet .pingreqSend ∧ hb.clock = some hb.interval) ∧
      (hb.interval = 0 → ¬ c.timerSet .pingreqSend) := by
  have hinv : c.Reading ∧ Beating c hb := by
    refine h.monitored (I := fun c hb ↦ c.Reading ∧ Beating c hb) ?_ ?_
    · rintro _ ⟨role, version, rfl⟩
      exact ⟨⟨[], .header⟩, rfl, rfl, fun _ ↦ rfl, fun _ ↦ rfl, fun _ hne ↦ (hne rfl).elim⟩
    · intro c hb op hI hok r hr
      exact ⟨step_reading hI.1 op r hr, step_beating hI.1 hI.2 hok r hr⟩
  obtain ⟨-, hbeat⟩ := hinv
  have harmed := hbeat.armed hp (by simp [hst])
  unfold Armed at harmed
  rw [hbeat.interval hp] at harmed
  have hflag : hb.clock.isSome = c.timerSet .pingreqSend := hbeat.clock
  constructor
  · intro hi
    rw [if_pos hi] at harmed
    exact ⟨hflag ▸ by simp [harmed], harmed⟩
  · intro h0
    rw [if_neg (by omega)] at harmed
    rw [← hflag, harmed]
    simp

theorem client_keep_alive_override : ∃ (c : GenericConnection .u16) (hb : Heartbeat),
    c.role = .client ∧ c.status = .connected ∧ hb.interval = 5000 ∧ c.timerSet .pingreqSend ∧
      hb.clock = some hb.interval := by
  obtain ⟨p, _, ⟨c₁, o₁⟩, h₁, hst₁, ⟨⟨v, packet⟩, ha, hp⟩, ⟨c₂, o₂⟩, h₂, hconn, ⟨c₃, o₃⟩,
      h₃, hrole, hst, hi⟩ :
      (V311.Connect.parse [0, 4, 0x4d, 0x51, 0x54, 0x54, 4, 0, 0, 10, 0, 1, 0x61]).unwrap.Attains
        fun p ↦ ((new .client .u16 .v311).step (.send (.v311Connect p.1))).Attains fun r₁ ↦
          r₁.1.status = .connecting ∧
          (∃ a ∈ r₁.1.arrival [0x20, 2, 0, 0], a.2.connackOf = some false) ∧
        (r₁.1.step (.recv [0x20, 2, 0, 0])).Attains fun r₂ ↦ r₂.1.status = .connected ∧
        (r₂.1.step (.setPingreqSendInterval (some 5000))).Attains fun r₃ ↦
          r₃.1.role = .client ∧ r₃.1.status = .connected ∧
          (readHeartbeat (readHeartbeat (readHeartbeat ⟨none, 0, none, none⟩
            ⟨new .client .u16 .v311, .send (.v311Connect p.1), r₁.1, r₁.2⟩)
            ⟨r₁.1, .recv [0x20, 2, 0, 0], r₂.1, r₂.2⟩)
            ⟨r₂.1, .setPingreqSendInterval (some 5000), r₃.1, r₃.2⟩).interval = 5000 := by
    decide +kernel
  have hstart : Run ((system .u16).monitor ⟨none, 0, none, none⟩ readHeartbeat)
      (fun p op ↦ ¬ Disarms p.1 p.2.clock op) [] (new .client .u16 .v311, ⟨none, 0, none, none⟩) :=
    .init ⟨⟨.client, .v311, rfl⟩, rfl⟩
  have hfirst : ¬ Disarms (new .client .u16 .v311) none (.send (.v311Connect p.1)) := by
    intro hbad
    cases hbad with
    | residue _ _ _ hset => exact absurd hset (by decide)
  obtain ⟨_, hrun₁⟩ := run_step hstart hfirst h₁
  have haccepted (clock : Option ℕ) : ¬ Disarms c₁ clock (.recv [0x20, 2, 0, 0]) := by
    intro hbad
    cases hbad with
    | ended _ _ _ hend =>
      rcases hend with ⟨_, _, _, hfeed⟩ | ⟨_, packet', ha', hend⟩
      · simp [arrival, hfeed] at ha
      · obtain ⟨-, rfl⟩ := Prod.mk.inj (Option.some.inj (ha.symm.trans ha'))
        cases packet with
        | v311Disconnect | v50Disconnect => cases hp
        | _ => exact hend.elim
    | unasked _ hd => cases hst₁.symm.trans hd
    | muted _ hd => cases hst₁.symm.trans hd
  obtain ⟨_, hrun₂⟩ := run_step hrun₁ (haccepted _) h₂
  have hchanged (clock : Option ℕ) : ¬ Disarms c₂ clock (.setPingreqSendInterval (some 5000)) := by
    intro hbad
    cases hbad with
    | early _ hst => cases hconn.symm.trans hst
  obtain ⟨_, hrun₃⟩ := run_step hrun₂ (hchanged _) h₃
  refine ⟨c₃, _, hrole, hst, hi, (client_keep_alive hrun₃ (.inl hrole) hst).1 ?_⟩
  rw [hi]
  omega

/-- When the application takes its own interval back, the timer is not started for the interval that
comes into force again. -/
theorem interval_taken_back : ¬ ∀ (c : GenericConnection .u16) (hb : Heartbeat) trace,
    Run ((system .u16).monitor ⟨none, 0, none, none⟩ readHeartbeat) (fun _ _ ↦ True) trace (c, hb) →
      c.role = .client ∨ c.isClient → c.status = .connected →
        (0 < hb.interval → c.timerSet .pingreqSend ∧ hb.clock = some hb.interval) ∧
          (hb.interval = 0 → ¬ c.timerSet .pingreqSend) := by
  intro h
  obtain ⟨⟨trace, c⟩, hrun, hrole, hst, hi, hset⟩ :
      (clientRun (w := .u16) .v311 0 10 [] []
        [.recv [0x20, 2, 0, 0], .setPingreqSendInterval (some 0),
          .setPingreqSendInterval none]).Attains fun r ↦
          r.2.role = .client ∧ r.2.status = .connected ∧
          0 < (r.1.foldl readHeartbeat ⟨none, 0, none, none⟩).interval ∧
          ¬ r.2.timerSet .pingreqSend := by
    decide +kernel
  obtain ⟨_, hrun'⟩ := monitor_of_clientRun ⟨none, 0, none, none⟩ readHeartbeat hrun
  exact hset ((h _ _ _ hrun' (.inl hrole) hst).1 hi).1

end MqttProtocolCore.Connection.GenericConnection
