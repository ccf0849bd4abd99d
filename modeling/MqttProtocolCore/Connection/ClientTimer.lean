import MqttProtocolCore.Connection.ClientHandshake

namespace MqttProtocolCore.Connection.GenericConnection

open General Packet

variable {w : IdWidth} {c c' : GenericConnection w} {packet : GenericPacket w} {op : Operation w}
  {r : Handled w} {events : List (GenericEvent w)} {clock : Option ℕ} {data : Bytes} {present : Bool}

def Pingable (c : GenericConnection w) : Prop :=
  c.status = .connected ∧ c.isClient ∧ (c.protocolVersion = .v50 → 2 ≤ c.maximumPacketSizeSend)

theorem sendPingreq_starts (hs : c.status = .connected) (hc : c.isClient)
    (hi : 0 < c.pingreqSendMs) :
    .requestTimerReset .pingreqSend c.pingreqSendMs ∈ (c.sendPingreq packet).2 := by
  have hwait : c.expectPingresp.1.isClient = c.isClient ∧
      c.expectPingresp.1.pingreqSendMs = c.pingreqSendMs := by
    unfold expectPingresp
    split <;> exact ⟨rfl, rfl⟩
  have hpost : .requestTimerReset .pingreqSend c.pingreqSendMs ∈
      c.expectPingresp.1.sendPostProcess.2 := by
    unfold sendPostProcess
    rw [hwait.1, hwait.2, if_pos ⟨hc, hi⟩]
    exact List.mem_singleton_self _
  unfold sendPingreq
  rw [if_neg (not_not.mpr hs)]
  exact List.mem_cons_of_mem _ (List.mem_append_right _ hpost)

theorem keepAlive_starts (h : c.Pingable) (hi : 0 < c.pingreqSendMs) : c.keepAlive.Ensures fun r ↦
    .requestTimerReset .pingreqSend c.pingreqSendMs ∈ r.2 := by
  obtain ⟨hs, hc, hsize⟩ := h
  obtain ⟨p, hp, hp2⟩ := V311.Empty.new_spec
  unfold keepAlive
  rw [if_pos hs]
  simp only [hp, Fallible.unwrap_ok, Outcome.ret_bind]
  cases hver : c.protocolVersion with
  | v311 => exact Outcome.ensures_ret.mpr (sendPingreq_starts hs hc hi)
  | v50 =>
    have hfits : c.validateMaximumPacketSizeSend p.size := by
      simpa [validateMaximumPacketSizeSend, hp2] using hsize hver
    have hsend : c.processSendV50Pingreq p = .ret (c.sendPingreq (.v50Pingreq p)) := if_pos hfits
    dsimp only
    rw [hsend]
    exact Outcome.ensures_ret.mpr (sendPingreq_starts hs hc hi)
  | undetermined => simp

structure Retimed (c : GenericConnection w) (clock : Option ℕ) (sent : Option ℕ) (r : Handled w) :
    Prop where
  flag : (r.2.foldl clockAfter clock).isSome = r.1.pingreqSendSet
  override : r.1.pingreqUserSendIntervalMs = c.pingreqUserSendIntervalMs
  serverKeepAlive : r.1.pingreqServerKeepAliveMs =
    (sent.map (· * 1000)).or c.pingreqServerKeepAliveMs
  armed : c.Armed clock ∨ c.pingreqUserSendIntervalMs = none ∧ sent ≠ none →
    r.1.Armed (r.2.foldl clockAfter clock)

theorem retimed_quiet {sent : Option ℕ} (hflag : clock.isSome = c.pingreqSendSet)
    (hset : c'.pingreqSendSet = c.pingreqSendSet)
    (ho : c'.pingreqUserSendIntervalMs = c.pingreqUserSendIntervalMs)
    (hs : c'.pingreqServerKeepAliveMs = c.pingreqServerKeepAliveMs)
    (hk : c'.pingreqKeepAliveMs = c.pingreqKeepAliveMs) (hsent : sent = none) :
    Retimed c clock sent (c', []) := by
  have hms : c'.pingreqSendMs = c.pingreqSendMs := by
    unfold pingreqSendMs
    rw [ho, hs, hk]
  refine ⟨hflag.trans hset.symm, ho, ?_, fun h ↦ ?_⟩
  · rw [hsent]
    exact hs
  · have harmed : c.Armed clock := h.resolve_right fun h ↦ h.2 hsent
    rwa [Armed, ← hms] at harmed

theorem retimed_noteConnack (hflag : clock.isSome = c.pingreqSendSet) (prop : Property) :
    (c.noteConnack prop).Ensures (Retimed c clock (serverKeepAliveIn none [prop])) := by
  unfold noteConnack
  split
  · split
    · exact Outcome.Ensures.bind (P := fun _ ↦ True) (fun _ _ ↦ trivial)
        fun _ _ ↦ Outcome.ensures_ret.mpr (retimed_quiet hflag rfl rfl rfl rfl rfl)
    · exact Outcome.ensures_ret.mpr (retimed_quiet hflag rfl rfl rfl rfl rfl)
  · exact Outcome.ensures_ret.mpr (retimed_quiet hflag rfl rfl rfl rfl rfl)
  · exact Outcome.ensures_ret.mpr (retimed_quiet hflag rfl rfl rfl rfl rfl)
  · rename_i v
    have hsent : serverKeepAliveIn none [.serverKeepAlive v] = some v.val := rfl
    rw [hsent]
    dsimp only
    split
    · rename_i ho
      obtain ⟨ms, hms⟩ := Option.isSome_iff_exists.mp ho
      refine Outcome.ensures_ret.mpr ⟨hflag, rfl, rfl, fun h ↦ ?_⟩
      have harmed : c.Armed clock := h.resolve_right fun h ↦ by simp [hms] at h
      unfold Armed pingreqSendMs at harmed ⊢
      simpa [hms] using harmed
    · rename_i ho
      have hnone : c.pingreqUserSendIntervalMs = none := by simpa using ho
      split
      · rename_i h0
        subst h0
        have hoff : (cancelEvents c.pingreqSendSet .pingreqSend : List (GenericEvent w)).foldl
            clockAfter clock = none := by
          unfold cancelEvents
          split
          · rfl
          · rename_i hset
            rw [Bool.not_eq_true] at hset
            simpa [hset] using hflag
        refine Outcome.ensures_ret.mpr ⟨?_, rfl, rfl, fun _ ↦ ?_⟩
        · rw [hoff]
          rfl
        · unfold Armed pingreqSendMs
          rw [hoff]
          simp [hnone]
      · rename_i h0
        have hpos : 0 < v.val * 1000 := by
          have hval : v.val ≠ 0 := fun h ↦ h0 (Fin.ext h)
          omega
        refine Outcome.ensures_ret.mpr ⟨rfl, rfl, rfl, fun _ ↦ ?_⟩
        unfold Armed pingreqSendMs
        simp only [hnone, Option.getD_none, Option.getD_some]
        rw [if_pos hpos]
        rfl
  · rename_i hne
    refine Outcome.ensures_ret.mpr (retimed_quiet hflag rfl rfl rfl rfl ?_)
    cases prop with
    | serverKeepAlive v => exact (hne v rfl).elim
    | _ => rfl

theorem Retimed.append {c₁ : GenericConnection w} {sent sent' : Option ℕ}
    {events' : List (GenericEvent w)} (h : Retimed c clock sent (c₁, events))
    (h' : Retimed c₁ (events.foldl clockAfter clock) sent' (c', events')) :
    Retimed c clock (sent'.or sent) (c', events ++ events') := by
  have ho : c₁.pingreqUserSendIntervalMs = c.pingreqUserSendIntervalMs := h.override
  have hs : c₁.pingreqServerKeepAliveMs = (sent.map (· * 1000)).or c.pingreqServerKeepAliveMs :=
    h.serverKeepAlive
  refine ⟨?_, h'.override.trans ho, ?_, fun hA ↦ ?_⟩
  · rw [List.foldl_append]
    exact h'.flag
  · rw [h'.serverKeepAlive, hs]
    cases sent' <;> rfl
  · rw [List.foldl_append]
    refine h'.armed ?_
    rcases hA with hA | ⟨hnone, hsent⟩
    · exact .inl (h.armed (.inl hA))
    · cases hsent' : sent' with
      | some v => exact .inr ⟨ho.trans hnone, by simp⟩
      | none => exact .inl (h.armed (.inr ⟨hnone, by simpa [hsent'] using hsent⟩))

theorem retimed_noteAll (hflag : clock.isSome = c.pingreqSendSet) (props : Properties) :
    (c.noteAll props).Ensures (Retimed c clock (serverKeepAliveIn none props)) := by
  induction props generalizing c clock with
  | nil => exact Outcome.ensures_ret.mpr (retimed_quiet hflag rfl rfl rfl rfl rfl)
  | cons prop props ih =>
    refine (retimed_noteConnack hflag prop).bind fun r hr ↦ (ih hr.flag).bind fun r' hr' ↦ ?_
    rw [serverKeepAliveIn_cons, Option.or_none, serverKeepAliveIn_or]
    exact Outcome.ensures_ret.mpr (hr.append hr')

theorem clock_free (h : ∀ e ∈ events, ¬ isTimer e) : events.foldl clockAfter clock = clock := by
  induction events generalizing clock with
  | nil => rfl
  | cons e events ih =>
    have he : clockAfter clock e = clock := by
      cases e <;> first | rfl | exact (h _ List.mem_cons_self rfl).elim
    rw [List.foldl_cons, he]
    exact ih fun e hmem ↦ h e (List.mem_cons_of_mem _ hmem)

structure Opened (c : GenericConnection w) (clock : Option ℕ) (packet : GenericPacket w)
    (r : Handled w) : Prop where
  role : r.1.role = c.role
  client : r.1.isClient = c.isClient
  override : r.1.pingreqUserSendIntervalMs = c.pingreqUserSendIntervalMs
  keepAlive : r.1.pingreqKeepAliveMs = c.pingreqKeepAliveMs
  serverKeepAlive : r.1.pingreqServerKeepAliveMs =
    ((serverKeepAliveOf packet).map (· * 1000)).or c.pingreqServerKeepAliveMs
  notified : packet ∈ notified r.2
  armed : c.Armed clock ∨ c.pingreqUserSendIntervalMs = none ∧ serverKeepAliveOf packet ≠ none →
    r.1.Armed (r.2.foldl clockAfter clock)

theorem deliver_connack (hflag : clock.isSome = c.pingreqSendSet)
    (hp : packet.connackOf = some present) :
    (c.deliver packet).Ensures (Opened c clock packet) := by
  have hresume (c₁ : GenericConnection w) (clock₁ : Option ℕ) (hs : c₁.status = .connected)
      {present : Bool} : (c₁.resumeSession present).Ensures fun r ↦
        Steady c₁ r.1 ∧ (c₁.Armed clock₁ → r.1.Armed (r.2.foldl clockAfter clock₁)) := by
    intro r hr
    refine ⟨sessionFrames_steady.resumeSession r hr, fun hA ↦ ?_⟩
    have hticks := ticks_resumeSession (q := True) r hr
    have hpaced : Paced True c₁ r := hticks.paced fun _ _ ↦ trivial
    exact hA.beats hpaced.beats (by simp [hticks.status, hs])
  cases packet with
  | v311Connack p =>
    have hcode : p.returnCode = .accepted := by
      by_contra hcode
      simp [GenericPacket.connackOf, hcode] at hp
    change (c.recvV311Connack p).Ensures _
    unfold recvV311Connack
    rw [if_pos hcode]
    refine (hresume { c with status := .connected } clock rfl).bind
      fun r hr ↦ Outcome.ensures_ret.mpr ?_
    obtain ⟨hs, hA⟩ := hr
    refine ⟨hs.role, hs.client, hs.override, hs.keepAlive, hs.serverKeepAlive, ?_, fun h ↦ ?_⟩
    · simp [Connection.notified, GenericEvent.notice]
    · rw [List.foldl_append]
      exact hA (h.resolve_right fun h ↦ h.2 rfl)
  | v50Connack p =>
    have hcode : p.reasonCode = .success := by
      by_contra hcode
      simp [GenericPacket.connackOf, hcode] at hp
    have hsent : serverKeepAliveOf (.v50Connack p : GenericPacket w) =
        serverKeepAliveIn none p.props := if_pos hcode
    change (c.recvV50Connack p).Ensures _
    unfold recvV50Connack
    rw [if_pos hcode]
    have hflag' : clock.isSome =
        ({ c with status := .connected } : GenericConnection w).pingreqSendSet := hflag
    have hnote : ({ c with status := .connected }.noteAll p.props).Ensures fun r ↦
        Learns { c with status := .connected } r.1 ∧
          Retimed { c with status := .connected } clock (serverKeepAliveIn none p.props) r :=
      fun r hr ↦ ⟨learns_noteAll p.props r hr, retimed_noteAll hflag' p.props r hr⟩
    refine hnote.bind fun r hr ↦ ?_
    obtain ⟨hlearn, hnoted⟩ := hr
    have hstatus : r.1.status = .connected := by rw [hlearn]
    refine (hresume r.1 (r.2.foldl clockAfter clock) hstatus).bind fun r' hr' ↦
      Outcome.ensures_ret.mpr ?_
    obtain ⟨hs, hA⟩ := hr'
    refine ⟨hs.role.trans ?_, hs.client.trans ?_, hs.override.trans hnoted.override,
      hs.keepAlive.trans ?_, ?_, ?_, fun h ↦ ?_⟩
    · rw [hlearn]
    · rw [hlearn]
    · rw [hlearn]
    · rw [hs.serverKeepAlive, hnoted.serverKeepAlive, hsent]
    · simp [Connection.notified, GenericEvent.notice]
    · rw [List.foldl_append, List.foldl_append]
      rw [hsent] at h
      exact hA (hnoted.armed h)
  | _ => cases hp

theorem deliver_served (hp : partOf packet = .connect) (hd : c.Accepts packet) :
    (c.deliver packet).Ensures fun r ↦ ¬ r.1.isClient ∧
      r.1.pingreqUserSendIntervalMs = c.pingreqUserSendIntervalMs := by
  have hreceived {c₁ : GenericConnection w} (h : c₁.isClient = false)
      (ho : c₁.pingreqUserSendIntervalMs = c.pingreqUserSendIntervalMs) :
      ¬ (c₁.received packet).1.isClient ∧
        (c₁.received packet).1.pingreqUserSendIntervalMs = c.pingreqUserSendIntervalMs := by
    have hs : Steady c₁ (c₁.received packet).1 := sessionFrames_steady.received
    rw [hs.client, hs.override, h]
    exact ⟨by simp, ho⟩
  cases packet with
  | v311Connect p =>
    have hd' : ¬ c.status ≠ .disconnected := not_not.mpr hd
    change (if c.status ≠ .disconnected then _ else _ : Outcome (Handled w)).Ensures _
    rw [if_neg hd']
    refine Outcome.ensures_ret.mpr (hreceived ?_ ?_)
    · split <;> split <;> rfl
    · split <;> split <;> rfl
  | v50Connect p =>
    have hd' : ¬ c.status ≠ .disconnected := not_not.mpr hd
    change (if c.status ≠ .disconnected then _ else _ : Outcome (Handled w)).Ensures _
    rw [if_neg hd']
    unfold recvV50Connect
    refine (learns_noteConnect p.props).bind fun c' hc' ↦ Outcome.ensures_ret.mpr ?_
    apply hreceived
    · rw [hc']
      split <;> split <;> rfl
    · rw [hc']
      split <;> split <;> rfl
  | _ => cases hp

theorem step_ended (hc : c.Reading)
    (hend : c.Breaks data ∨ ∃ v packet, c.arrival data = some (v, packet) ∧ Dismisses packet) :
    (c.step (.recv data)).Ensures fun r ↦ r.1.pingreqSendSet = false ∧ r.1.status = c.status := by
  intro r hr
  obtain ⟨⟨r', rest⟩, hr', hret⟩ := Outcome.bind_eq_ret.mp hr
  obtain rfl := Outcome.ret.inj hret
  cases recv_cases hc hr' with
  | incomplete hfeed =>
    rcases hend with ⟨b, e, rest', hfeed'⟩ | ⟨v, packet, ha, -⟩
    · cases hfeed.symm.trans hfeed'
    · simp [arrival, hfeed] at ha
  | malformed => exact ⟨rfl, rfl⟩
  | refused hfeed harr =>
    rcases hend with ⟨b, e, rest', hfeed'⟩ | ⟨v, packet, ha, -⟩
    · cases hfeed.symm.trans hfeed'
    · simp [arrival, hfeed, harr] at ha
  | @delivered b raw _ v' packet' _ hfeed harr _ hdel =>
    rcases hend with ⟨b, e, rest', hfeed'⟩ | ⟨v, packet, ha, hend⟩
    · cases hfeed.symm.trans hfeed'
    have ha' : c.arrival data = some (v', packet') := by simp [arrival, hfeed, harr]
    obtain ⟨rfl, rfl⟩ := Prod.mk.inj (Option.some.inj (ha'.symm.trans ha))
    cases packet' with
    | v311Disconnect p | v50Disconnect p =>
      cases hdel
      exact ⟨rfl, rfl⟩
    | _ => exact hend.elim

/-- Apart from the handshake, the settings and the end of the connection, the timer goes on for the
interval. -/
theorem step_beats (hc : c.Reading)
    (hset : ∀ durationMs, op ≠ .setPingreqSendInterval durationMs)
    (hconnect : ∀ packet, op = .send packet → ¬ c.Connects packet)
    (hopen : ∀ data v packet, op = .recv data → c.arrival data = some (v, packet) →
      (partOf packet = .connect → ¬ c.Accepts packet) ∧ packet.connackOf = none)
    (hend : ∀ data, op = .recv data →
      ¬ (c.Breaks data ∨ ∃ v packet, c.arrival data = some (v, packet) ∧ Dismisses packet)) :
    (c.step op).Ensures fun r ↦ Beats c (r.1, r.2.toEvents) ∨
      ∃ data, op = .recv data ∧ c.Garbles data ∧ Muted c (r.1, r.2.toEvents) := by
  by_cases hturn : c.Turning op
  swap
  · exact (step_paced hc hturn).mono fun r hr ↦ hr.imp_left fun hpaced ↦ hpaced.beats_lapse
  refine Outcome.Ensures.mono (P := fun r ↦ Beats c (r.1, r.2.toEvents)) ?_ fun _ ↦ .inl
  have hevents {y : Outcome (Handled w)} (hy : y.Ensures (Beats c)) :
      (y >>= fun r ↦ Outcome.ret (r.1, Reply.events r.2)).Ensures fun r ↦
        Beats c (r.1, r.2.toEvents) :=
    hy.bind fun _ hr ↦ Outcome.ensures_ret.mpr hr
  have hreject (e : MqttError) : Beats c (c.reject e) := (paced_reject (q := True) e).beats
  cases op with
  | send packet =>
    refine hevents ?_
    rcases hturn with hp | hp
    · obtain ⟨-, e, hsend⟩ | ⟨hstart, -⟩ := send_connect (c := c) hp
      · rw [hsend]
        exact Outcome.ensures_ret.mpr (hreject e)
      · exact (hconnect packet rfl hstart).elim
    · unfold send
      split
      · exact Outcome.ensures_ret.mpr (hreject _)
      · exact (beats_send_connack hp).mono fun _ hr ↦ hr.1
  | recv data =>
    intro r hr
    rcases hturn with hbreak | ⟨v, packet, ha, hturn⟩
    · exact (hend data rfl (.inl hbreak)).elim
    rcases hturn with ⟨hp, hacc⟩ | hp | hdismiss
    · exact ((hopen data v packet rfl ha).1 hp hacc).elim
    · obtain ⟨⟨r', rest⟩, hr', hret⟩ := Outcome.bind_eq_ret.mp hr
      obtain rfl := Outcome.ret.inj hret
      cases recv_cases hc hr' with
      | incomplete hfeed => simp [arrival, hfeed] at ha
      | malformed hfeed => simp [arrival, hfeed] at ha
      | refused hfeed harr => simp [arrival, hfeed, harr] at ha
      | @delivered b raw _ v' packet' _ hfeed harr _ hdel =>
        have ha' : c.arrival data = some (v', packet') := by simp [arrival, hfeed, harr]
        obtain ⟨rfl, rfl⟩ := Prod.mk.inj (Option.some.inj (ha'.symm.trans ha))
        rw [deliver_refusal hp (hopen data v' packet' rfl ha).2] at hdel
        obtain rfl := Outcome.ret.inj hdel
        have hstill : Still c ({ c with packetBuilder := b }.determine v') := ⟨rfl, rfl, rfl⟩
        have hpaced : Paced True c ({ c with packetBuilder := b }.determine v',
            [.notifyPacketReceived packet']) := hstill.paced (by simp [isTimer])
        exact hpaced.beats
    · exact (hend data rfl (.inr ⟨v, packet, ha, hdismiss⟩)).elim
  | setPingreqSendInterval durationMs => exact (hset durationMs rfl).elim
  | setPingrespRecvTimeout timeoutMs =>
    exact Outcome.ensures_ret.mpr ⟨by simp [Reply.toEvents], by simp [Reply.toEvents], rfl, id⟩
  | _ => exact hturn.elim

end MqttProtocolCore.Connection.GenericConnection
