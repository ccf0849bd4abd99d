import MqttProtocolCore.Connection.Handshake

namespace MqttProtocolCore.Connection.GenericConnection

open General Packet

variable {w : IdWidth} {c : GenericConnection w} {packet : GenericPacket w} {op : Operation w}
  {r : Handled w} {data : Bytes} {events : List (GenericEvent w)} {hs : Handshake} {v : Version}
  {k : ℕ}

/-- An accepting CONNACK without ServerKeepAlive answers a CONNECT with keep alive 0, while the
timeout of an earlier network connection is still there. -/
def Stale (c : GenericConnection w) (hs : Handshake) (op : Operation w) : Prop :=
  ∃ packet present, op = .send packet ∧ c.protocolVersion = packet.protocolVersion ∧
    packet.connackOf = some present ∧ serverKeepAliveOf packet = none ∧
    (∀ p, packet = .v50Connack p → p.size ≤ c.maximumPacketSizeSend) ∧
    c.status = .connecting ∧ hs.keepAlive = some 0 ∧ c.pingreqRecvTimeoutMs ≠ 0

/-- The timer for the packets of the peer runs only with a timeout, and the timeout is that of the
handshake: of the CONNECT first, if this asks for one. -/
structure InForce (c : GenericConnection w) (hs : Handshake) : Prop where
  armed : c.pingreqRecvSet → c.pingreqRecvTimeoutMs ≠ 0
  opening : c.status = .connecting → ∀ k, hs.keepAlive = some k →
    hs.serverKeepAlive = none ∧ (k ≠ 0 → c.pingreqRecvTimeoutMs = 1500 * k)
  opened : c.status = .connected → ∀ k, hs.keepAlive = some k →
    c.pingreqRecvTimeoutMs = hs.timeout k

theorem next_of_silent (hreq : ∀ q ∈ requested events, serverKeepAliveOf q = none)
    (hnot : ∀ q ∈ notified events, keepAliveOf q = none) (hs : Handshake) (st : ConnectionStatus) :
    hs.next st events = if st = .disconnected then ⟨none, none⟩ else hs := by
  unfold Handshake.next
  split
  · rw [List.findSome?_eq_none_iff.mpr hnot]
  · rw [List.findSome?_eq_none_iff.mpr hreq]
    rfl

theorem InForce.abides (h : InForce c hs) (hr : Abides c r)
    (hnext : hs.next c.status r.2 = if c.status = .disconnected then ⟨none, none⟩ else hs) :
    InForce r.1 (hs.next c.status r.2) := by
  have harmed (hset : r.1.pingreqRecvSet) : r.1.pingreqRecvTimeoutMs ≠ 0 := by
    rw [hr.timeout]
    exact (hr.armed hset).elim h.armed id
  rw [hnext]
  split
  · exact ⟨harmed, fun _ k hk ↦ (by cases hk), fun _ k hk ↦ (by cases hk)⟩
  rename_i hopen
  have hsame (hd : r.1.status ≠ .disconnected) : r.1.status = c.status :=
    hr.status.resolve_right fun h ↦ h.elim hd hopen
  refine ⟨harmed, fun hst k hk ↦ ?_, fun hst k hk ↦ ?_⟩
  · rw [hr.timeout]
    exact h.opening ((hsame (by simp [hst])).symm.trans hst) k hk
  · rw [hr.timeout]
    exact h.opened ((hsame (by simp [hst])).symm.trans hst) k hk

theorem received_timer : (c.received packet).1.status = c.status ∧
    notified (c.received packet).2 = [packet] ∧
    (c.received packet).1.pingreqRecvTimeoutMs = c.pingreqRecvTimeoutMs ∧
    ((c.received packet).1.pingreqRecvSet → c.pingreqRecvSet ∨ c.pingreqRecvTimeoutMs ≠ 0) := by
  by_cases ht : c.pingreqRecvTimeoutMs = 0
  · have hquiet : c.refreshPingreqRecv = (c, []) := if_neg (not_not.mpr ht)
    rw [received, hquiet]
    exact ⟨rfl, rfl, rfl, .inl⟩
  · have hstart : c.refreshPingreqRecv = ({ c with pingreqRecvSet := true },
        [.requestTimerReset .pingreqRecv c.pingreqRecvTimeoutMs]) := if_pos ht
    rw [received, hstart]
    exact ⟨rfl, rfl, rfl, fun _ ↦ .inr ht⟩

theorem deliver_connect (hk : keepAliveOf packet = some k) (hd : c.status = .disconnected) :
    (c.deliver packet).Ensures fun r ↦
      r.1.status = .connecting ∧ notified r.2 = [packet] ∧
      r.1.pingreqRecvTimeoutMs = (if k = 0 then c.pingreqRecvTimeoutMs else 1500 * k) ∧
      (r.1.pingreqRecvSet → c.pingreqRecvSet ∨ r.1.pingreqRecvTimeoutMs ≠ 0) := by
  have hreceived {c₁ : GenericConnection w} (hs : c₁.status = .connecting)
      (ht : c₁.pingreqRecvTimeoutMs = (if k = 0 then c.pingreqRecvTimeoutMs else 1500 * k))
      (hset : c₁.pingreqRecvSet = c.pingreqRecvSet) :
      (c₁.received packet).1.status = .connecting ∧ notified (c₁.received packet).2 = [packet] ∧
      (c₁.received packet).1.pingreqRecvTimeoutMs =
        (if k = 0 then c.pingreqRecvTimeoutMs else 1500 * k) ∧
      ((c₁.received packet).1.pingreqRecvSet →
        c.pingreqRecvSet ∨ (c₁.received packet).1.pingreqRecvTimeoutMs ≠ 0) := by
    obtain ⟨hs', hn, ht', hset'⟩ := @received_timer w c₁ packet
    rw [ht', ← hset]
    exact ⟨hs'.trans hs, hn, ht, hset'⟩
  have htimeout {a : U16} {t : ℕ} (ha : a.val = k) :
      (if a > 0 then a.val * 1000 * 3 / 2 else t) = if k = 0 then t else 1500 * k := by
    subst ha
    by_cases h0 : a = 0
    · simp [h0]
    · have hval : a.val ≠ 0 := fun h ↦ h0 (Fin.ext h)
      rw [if_pos (Fin.pos_iff_ne_zero.mpr h0), if_neg hval]
      omega
  cases packet with
  | v311Connect p =>
    have hk' : p.keepAlive.val = k := Option.some.inj hk
    change (if c.status ≠ .disconnected then _ else _ : Outcome (Handled w)).Ensures _
    rw [if_neg (not_not.mpr hd)]
    refine Outcome.ensures_ret.mpr (hreceived ?_ ((?_ : _ = _).trans (htimeout hk')) ?_)
    · split <;> split <;> rfl
    · split <;> split <;> rfl
    · split <;> split <;> rfl
  | v50Connect p =>
    have hk' : p.keepAlive.val = k := Option.some.inj hk
    change (if c.status ≠ .disconnected then _ else _ : Outcome (Handled w)).Ensures _
    rw [if_neg (not_not.mpr hd)]
    unfold recvV50Connect
    refine (noteConnect_stills p.props).bind fun c' hc' ↦ Outcome.ensures_ret.mpr (hreceived
      (hc'.status.trans ?_) (hc'.timeout.trans ((?_ : _ = _).trans (htimeout hk')))
      ((congrFun hc'.timers .pingreqRecv).trans ?_))
    · split <;> split <;> rfl
    · split <;> split <;> rfl
    · split <;> split <;> rfl
  | _ => cases hk

theorem announceConnack_timer (prop : Property) :
    (c.announceConnack prop).1.pingreqRecvTimeoutMs =
      ((serverKeepAliveIn none [prop]).map (1500 * ·)).getD c.pingreqRecvTimeoutMs ∧
    ((c.pingreqRecvSet → c.pingreqRecvTimeoutMs ≠ 0) → (c.announceConnack prop).1.pingreqRecvSet →
      (c.announceConnack prop).1.pingreqRecvTimeoutMs ≠ 0) := by
  cases prop with
  | serverKeepAlive v =>
    have hsent : serverKeepAliveIn none [.serverKeepAlive v] = some v.val := rfl
    unfold announceConnack
    rw [hsent]
    by_cases h0 : v = 0
    · simp [h0]
    · have hval : v.val ≠ 0 := fun h ↦ h0 (Fin.ext h)
      simp only [h0, if_false, Option.map_some, Option.getD_some]
      constructor
      · omega
      · intro _ _
        omega
  | topicAliasMaximum v =>
    unfold announceConnack
    dsimp only
    split <;> exact ⟨rfl, id⟩
  | _ => exact ⟨rfl, id⟩

theorem serverKeepAliveIn_cons {sent : Option ℕ} (prop : Property) (props : Properties) :
    serverKeepAliveIn sent (prop :: props) =
      serverKeepAliveIn ((serverKeepAliveIn none [prop]).or sent) props := by
  cases prop <;> rfl

theorem serverKeepAliveIn_or {sent : Option ℕ} (props : Properties) :
    serverKeepAliveIn sent props = (serverKeepAliveIn none props).or sent := by
  induction props generalizing sent with
  | nil => rfl
  | cons prop props ih =>
    have hnone := @ih ((serverKeepAliveIn none [prop]).or none)
    rw [serverKeepAliveIn_cons, ih, serverKeepAliveIn_cons prop props, hnone, Option.or_none,
      Option.or_assoc]

/-- The last ServerKeepAlive of the CONNACK is the timeout; one that is 0 stops the timer. -/
theorem announceAll_timer (props : Properties) :
    (c.announceAll announceConnack props).1.pingreqRecvTimeoutMs =
      ((serverKeepAliveIn none props).map (1500 * ·)).getD c.pingreqRecvTimeoutMs ∧
    ((c.pingreqRecvSet → c.pingreqRecvTimeoutMs ≠ 0) →
      (c.announceAll announceConnack props).1.pingreqRecvSet →
        (c.announceAll announceConnack props).1.pingreqRecvTimeoutMs ≠ 0) := by
  induction props generalizing c with
  | nil => exact ⟨rfl, id⟩
  | cons prop props ih =>
    obtain ⟨htimeout, harmed⟩ := announceConnack_timer (c := c) prop
    obtain ⟨htimeout', harmed'⟩ := ih (c := (c.announceConnack prop).1)
    have hlast : serverKeepAliveIn none (prop :: props) =
        (serverKeepAliveIn none props).or (serverKeepAliveIn none [prop]) :=
      (serverKeepAliveIn_cons prop props).trans
        ((serverKeepAliveIn_or props).trans (by rw [Option.or_none]))
    refine ⟨htimeout'.trans ?_, fun h ↦ harmed' (harmed h)⟩
    rw [htimeout, hlast]
    cases serverKeepAliveIn none props <;> rfl

/-- A CONNACK that accepts the connection sets the timeout with its ServerKeepAlive. -/
theorem send_connack {present : Bool} (hrole : c.role = .server)
    (hp : packet.connackOf = some present) (hver : c.protocolVersion = packet.protocolVersion)
    (hsize : ∀ p, packet = .v50Connack p → p.size ≤ c.maximumPacketSizeSend)
    (hst : c.status = .connecting) : (c.send packet).Ensures fun r ↦
      r.1.status = .connected ∧ packet ∈ requested r.2 ∧
      r.1.pingreqRecvTimeoutMs =
        ((serverKeepAliveOf packet).map (1500 * ·)).getD c.pingreqRecvTimeoutMs ∧
      ((c.pingreqRecvSet → c.pingreqRecvTimeoutMs ≠ 0) → r.1.pingreqRecvSet →
        r.1.pingreqRecvTimeoutMs ≠ 0) := by
  have hfinish {c₁ : GenericConnection w} :
      (c₁.finishConnack true packet).Ensures fun r ↦ r.1.status = .connected ∧
        packet ∈ requested r.2 ∧ r.1.pingreqRecvTimeoutMs = c₁.pingreqRecvTimeoutMs ∧
        (r.1.pingreqRecvSet → c₁.pingreqRecvSet ∨ c₁.pingreqRecvTimeoutMs ≠ 0) := by
    intro r hr
    have hticks := (ticks_acceptedConnack (q := True)) r hr
    refine ⟨hticks.status, ?_, hticks.timeout, fun hset ↦ ?_⟩
    · obtain ⟨r', -, hret⟩ := Outcome.bind_eq_ret.mp hr
      obtain rfl := Outcome.ret.inj hret
      simp [requested]
    · have hrun : timersAfter c₁.timerSet r.2 .pingreqRecv := by
        have := congrFun hticks.timers .pingreqRecv
        exact this ▸ hset
      obtain hrun | ⟨d, hd⟩ := running_of_timersAfter hrun
      · exact .inl hrun
      · obtain ⟨_, he, hi⟩ := hticks.starts _ hd rfl
        cases he
        exact .inr hi
  have hsend : c.send packet = c.processSend packet := if_neg (not_not.mpr hver)
  have hserver : actsAsServer c.role := by simp [actsAsServer, hrole]
  rw [hsend]
  cases packet with
  | v311Connack p =>
    have hcode : p.returnCode = .accepted := by
      by_contra hcode
      simp [GenericPacket.connackOf, hcode] at hp
    change (if actsAsServer c.role then c.processSendV311Connack p else _ :
      Outcome (Handled w)).Ensures _
    rw [if_pos hserver]
    unfold processSendV311Connack
    rw [if_neg (not_not.mpr hst), decide_eq_true hcode]
    refine hfinish.mono fun r hr ↦ ?_
    obtain ⟨hs, hreq, ht, hset⟩ := hr
    refine ⟨hs, hreq, ht, fun h hset' ↦ ?_⟩
    rw [ht]
    exact (hset hset').elim h id
  | v50Connack p =>
    have hcode : p.reasonCode = .success := by
      by_contra hcode
      simp [GenericPacket.connackOf, hcode] at hp
    have hfits : c.validateMaximumPacketSizeSend p.size := by
      simpa [validateMaximumPacketSizeSend] using hsize p rfl
    change (if actsAsServer c.role then c.processSendV50Connack p else _ :
      Outcome (Handled w)).Ensures _
    rw [if_pos hserver]
    unfold processSendV50Connack limited
    rw [if_pos hfits, if_neg (not_not.mpr hst), decide_eq_true hcode]
    obtain ⟨htimeout, harmed⟩ := announceAll_timer (c := c) p.props
    refine hfinish.bind fun r hr ↦ Outcome.ensures_ret.mpr ?_
    obtain ⟨hs, hreq, ht, hset⟩ := hr
    refine ⟨hs, ?_, ht.trans ?_, fun h hset' ↦ ?_⟩
    · rw [requested_append]
      exact List.mem_append_right _ hreq
    · rw [serverKeepAliveOf, if_pos hcode]
      exact htimeout
    · rw [ht]
      exact (hset hset').elim (harmed h) id
  | _ => cases hp

theorem findSome?_of_mem {α β : Type} {f : α → Option β} {l : List α} {a : α} (ha : a ∈ l)
    (h : ∀ b ∈ l, f b ≠ none → b = a) : l.findSome? f = f a := by
  cases hf : l.findSome? f with
  | none => exact (List.findSome?_eq_none_iff.mp hf a ha).symm
  | some x =>
    obtain ⟨b, hb, hx⟩ := List.exists_of_findSome?_eq_some hf
    rw [← h b hb (by simp [hx]), hx]

theorem InForce.send_connack (hc : c.Reading) (h : InForce c hs) (hok : ¬ Stale c hs (.send packet))
    {present : Bool} (hrole : c.role = .server) (hp : packet.connackOf = some present)
    (hver : c.protocolVersion = packet.protocolVersion)
    (hsize : ∀ p, packet = .v50Connack p → p.size ≤ c.maximumPacketSizeSend)
    (hst : c.status = .connecting) : (c.step (.send packet)).Ensures fun r ↦
      InForce r.1 (readHandshake hs ⟨c, .send packet, r.1, r.2⟩) := by
  intro r hr
  obtain ⟨r', hr', hret⟩ := Outcome.bind_eq_ret.mp hr
  obtain rfl := Outcome.ret.inj hret
  obtain ⟨hstatus, hreq, ht, harmed⟩ :=
    GenericConnection.send_connack hrole hp hver hsize hst r' hr'
  have honly : ∀ q ∈ requested r'.2, serverKeepAliveOf q ≠ none → q = packet := by
    intro q hq hne
    have hconnack : ∃ present, q.connackOf = some present := by
      cases q with
      | v50Connack p =>
        by_cases hcode : p.reasonCode = .success
        · exact ⟨_, if_pos hcode⟩
        · exact (hne (if_neg hcode)).elim
      | _ => exact (hne rfl).elim
    obtain ⟨present, hpresent⟩ := hconnack
    obtain ⟨-, c₀, -, hchange⟩ := (step_spec hc _).of_ret hr
    exact (Input.send.inj (hchange.connack_requested hpresent hq).1).symm
  have hnext : readHandshake hs ⟨c, .send packet, r'.1, .events r'.2⟩ =
      { hs with serverKeepAlive := (serverKeepAliveOf packet).or hs.serverKeepAlive } := by
    simp only [readHandshake, Handshake.next, hst, reduceCtorEq, if_false, Reply.toEvents]
    rw [findSome?_of_mem hreq honly]
  rw [hnext]
  refine ⟨harmed h.armed, fun hd ↦ (by cases hstatus.symm.trans hd), fun _ k hk ↦ ?_⟩
  obtain ⟨hnone, hkeep⟩ := h.opening hst k hk
  rw [ht, Handshake.timeout, hnone, Option.or_none]
  cases hsent : serverKeepAliveOf packet with
  | some v => rfl
  | none =>
    by_cases hk0 : k = 0
    · subst hk0
      by_contra hne
      exact hok ⟨packet, present, rfl, hver, hp, hsent, hsize, hst, hk, hne⟩
    · exact hkeep hk0

theorem InForce.recv_connect (hc : c.Reading) (h : InForce c hs)
    (ha : c.arrival data = some (v, packet)) (hp : partOf packet = .connect)
    (hd : c.status = .disconnected) : (c.step (.recv data)).Ensures fun r ↦
      InForce r.1 (readHandshake hs ⟨c, .recv data, r.1, r.2⟩) := by
  intro r hr
  obtain ⟨⟨r', rest⟩, hr', hret⟩ := Outcome.bind_eq_ret.mp hr
  obtain rfl := Outcome.ret.inj hret
  obtain ⟨k, hk⟩ : ∃ k, keepAliveOf packet = some k := by
    cases packet with
    | v311Connect p | v50Connect p => exact ⟨_, rfl⟩
    | _ => cases hp
  cases recv_cases hc hr' with
  | incomplete hfeed => simp [arrival, hfeed] at ha
  | malformed hfeed => simp [arrival, hfeed] at ha
  | refused hfeed harr => simp [arrival, hfeed, harr] at ha
  | @delivered b raw _ v' packet' _ hfeed harr _ hdel =>
    have ha' : c.arrival data = some (v', packet') := by simp [arrival, hfeed, harr]
    obtain ⟨rfl, rfl⟩ := Prod.mk.inj (Option.some.inj (ha'.symm.trans ha))
    have hd' : ({ c with packetBuilder := b }.determine v').status = .disconnected := hd
    obtain ⟨hst, hnot, ht, hset⟩ := deliver_connect hk hd' _ hdel
    have ht' : r'.1.pingreqRecvTimeoutMs = if k = 0 then c.pingreqRecvTimeoutMs else 1500 * k := ht
    have hnext : readHandshake hs ⟨c, .recv data, r'.1, .received r'.2 rest⟩ = ⟨some k, none⟩ := by
      simp [readHandshake, Handshake.next, hd, Reply.toEvents, hnot, hk]
    rw [hnext]
    refine ⟨fun hset' ↦ ?_, fun _ k' hk' ↦ ⟨rfl, fun hne ↦ ?_⟩,
      fun hconn ↦ (by cases hst.symm.trans hconn)⟩
    · obtain hset | hne := hset hset'
      · have harmed : c.pingreqRecvTimeoutMs ≠ 0 := h.armed hset
        rw [ht']
        split
        · exact harmed
        · omega
      · exact hne
    · obtain rfl := Option.some.inj hk'
      rw [ht', if_neg hne]

theorem step_inForce (hc : c.Reading) (hrole : c.role = .server) (h : InForce c hs)
    (hok : ¬ Stale c hs op) : (c.step op).Ensures fun r ↦
      InForce r.1 (readHandshake hs ⟨c, op, r.1, r.2⟩) := by
  by_cases hshake : c.Shakes op
  · obtain ⟨packet, present, rfl, hp, hver, hsize, hst⟩ | ⟨data, v, packet, rfl, ha, hp, hd⟩ := hshake
    · exact h.send_connack hc hok hrole hp hver hsize hst
    · exact h.recv_connect hc ha hp hd
  · intro r hr
    have hnext := next_of_silent (silent_requested hc hshake hr) (silent_notified hc hshake hr) hs
      c.status
    exact h.abides (step_abides hc hrole hshake r hr) hnext

theorem step_rearms (hc : c.Reading) (hrole : c.role = .server) (hst : c.status = .connected)
    (ha : c.arrival data = some (v, packet)) (hacc : c.Accepts packet) (hend : ¬ Dismisses packet)
    (ht : c.pingreqRecvTimeoutMs ≠ 0) : (c.step (.recv data)).Ensures fun r ↦
      .requestTimerReset .pingreqRecv c.pingreqRecvTimeoutMs ∈ r.2.toEvents := by
  intro r hr
  obtain ⟨⟨r', rest⟩, hr', hret⟩ := Outcome.bind_eq_ret.mp hr
  obtain rfl := Outcome.ret.inj hret
  cases recv_cases hc hr' with
  | incomplete hfeed => simp [arrival, hfeed] at ha
  | malformed hfeed => simp [arrival, hfeed] at ha
  | refused hfeed harr => simp [arrival, hfeed, harr] at ha
  | @delivered b raw _ v' packet' _ hfeed harr _ hdel =>
    have ha' : c.arrival data = some (v', packet') := by simp [arrival, hfeed, harr]
    obtain ⟨rfl, rfl⟩ := Prod.mk.inj (Option.some.inj (ha'.symm.trans ha))
    have href : Refreshes packet' := by
      have hserver := (arrival_role ha).2
      cases packet' with
      | v311Connect | v50Connect => cases hst.symm.trans hacc
      | v311Connack | v50Connack | v311Pingresp | v50Pingresp => exact hserver rfl hrole
      | v311Disconnect | v50Disconnect => exact hend trivial
      | _ => trivial
    exact (refreshed_deliver href (accepts_prepared.mpr hacc) _ hdel).rearms ht

/-- In every run in which no CONNACK leaves a stale timeout in force, the timeout of a server that is
connected is that of the current handshake: a server that accepts a packet starts the timer with it,
nothing starts the timer with another one, and without a timeout the timer does not run. -/
theorem server_keep_alive {trace : List (Transition _ _ _)}
    (h : Run ((system w).monitor ⟨none, none⟩ readHandshake) (fun p op ↦ ¬ Stale p.1 p.2 op) trace
      (c, hs)) (hrole : c.role = .server) (hst : c.status = .connected) (hk : hs.keepAlive = some k) :
    c.pingreqRecvTimeoutMs = hs.timeout k ∧ (hs.timeout k = 0 → ¬ c.timerSet .pingreqRecv) ∧
      ∀ op, (c.step op).Ensures fun r ↦
        (∀ d, .requestTimerReset .pingreqRecv d ∈ r.2.toEvents → d = hs.timeout k ∧ d ≠ 0) ∧
        ∀ data v packet, op = .recv data → c.arrival data = some (v, packet) → c.Accepts packet →
          ¬ Dismisses packet → hs.timeout k ≠ 0 →
            .requestTimerReset .pingreqRecv (hs.timeout k) ∈ r.2.toEvents := by
  have hinv : c.Reading ∧ (c.role = .server → InForce c hs) := by
    refine h.monitored (I := fun c hs ↦ c.Reading ∧ (c.role = .server → InForce c hs)) ?_ ?_
    · rintro _ ⟨role, version, rfl⟩
      exact ⟨⟨[], .header⟩, fun _ ↦ ⟨fun h ↦ (by cases h), fun h ↦ (by cases h), fun h ↦ (by cases h)⟩⟩
    · intro c hs op h hok r hr
      obtain ⟨hc, hI⟩ := h
      refine ⟨step_reading hc op r hr, fun hrole ↦ ?_⟩
      have hsame : r.1.role = c.role := stepFrames_role.step hc op _ hr
      exact step_inForce hc (hsame ▸ hrole) (hI (hsame ▸ hrole)) hok r hr
  obtain ⟨hc, hI⟩ := hinv
  have hforce := hI hrole
  have ht := hforce.opened hst k hk
  refine ⟨ht, fun h0 hset ↦ hforce.armed hset (ht.trans h0), fun op r hr ↦ ⟨fun d hd ↦ ?_, ?_⟩⟩
  · have hshake : ¬ c.Shakes op := by
      rintro (⟨_, _, _, _, _, _, hs⟩ | ⟨_, _, _, _, _, _, hs⟩) <;> cases hst.symm.trans hs
    obtain ⟨rfl, hne⟩ := (step_abides hc hrole hshake r hr).starts d hd
    exact ⟨ht, hne⟩
  · rintro data v packet rfl ha hacc hend hne
    rw [← ht] at hne ⊢
    exact step_rearms hc hrole hst ha hacc hend hne r hr

theorem server_keep_alive_pingreq : ∃ (c : GenericConnection .u16) (hs : Handshake)
    (r : GenericConnection .u16 × Reply .u16), hs.timeout 10 = 15000 ∧
      c.pingreqRecvTimeoutMs = hs.timeout 10 ∧ c.step (.recv [0xC0, 0]) = .ret r ∧
      .requestTimerReset .pingreqRecv (hs.timeout 10) ∈ r.2.toEvents := by
  obtain ⟨p, _, ⟨c₁, o₁⟩, h₁, hk₁, ⟨c₂, o₂⟩, h₂, hrole, hst, hk₂, hsent, ⟨⟨v, packet⟩, ha, hping⟩,
      ⟨c₃, o₃⟩, h₃, -⟩ :
      (V311.Connack.build false .accepted).unwrap.Attains fun p ↦
        ((new .server .u16 .v311).step (.recv [0x10, 0x0d, 0, 4, 0x4d, 0x51, 0x54, 0x54, 4, 0, 0, 10, 0,
          1, 0x61])).Attains fun r₁ ↦
          (Handshake.next ⟨none, none⟩ .disconnected r₁.2.toEvents).keepAlive = some 10 ∧
        (r₁.1.step (.send (.v311Connack p))).Attains fun r₂ ↦
          r₂.1.role = .server ∧ r₂.1.status = .connected ∧
          ((Handshake.next ⟨none, none⟩ .disconnected r₁.2.toEvents).next r₁.1.status
            r₂.2.toEvents).keepAlive = some 10 ∧
          ((Handshake.next ⟨none, none⟩ .disconnected r₁.2.toEvents).next r₁.1.status
            r₂.2.toEvents).serverKeepAlive = none ∧
          (∃ a ∈ r₂.1.arrival [0xC0, 0], isPingreq a.2) ∧
          (r₂.1.step (.recv [0xC0, 0])).Attains fun _ ↦ True := by
    decide +kernel
  have hstart : Run ((system .u16).monitor ⟨none, none⟩ readHandshake)
      (fun p op ↦ ¬ Stale p.1 p.2 op) [] (new .server .u16 .v311, ⟨none, none⟩) :=
    .init ⟨⟨.server, .v311, rfl⟩, rfl⟩
  obtain ⟨_, hrun₁⟩ := run_step hstart (by rintro ⟨_, _, ⟨⟩, _⟩) h₁
  have hfresh : ¬ Stale c₁ (Handshake.next ⟨none, none⟩ .disconnected o₁.toEvents)
      (.send (.v311Connack p)) := by
    rintro ⟨_, _, -, -, -, -, -, -, h0, -⟩
    cases hk₁.symm.trans h0
  obtain ⟨_, hrun₂⟩ := run_step hrun₁ hfresh h₂
  obtain ⟨ht, -, hop⟩ := server_keep_alive hrun₂ hrole hst hk₂
  have hvalue : (readHandshake (Handshake.next ⟨none, none⟩ .disconnected o₁.toEvents)
      ⟨c₁, .send (.v311Connack p), c₂, o₂⟩).timeout 10 = 15000 :=
    congrArg (fun sent ↦ 1500 * Option.getD sent 10) hsent
  have hacc : c₂.Accepts packet ∧ ¬ Dismisses packet := by
    cases packet with
    | v311Pingreq | v50Pingreq => exact ⟨fun _ _ h ↦ (by cases h), id⟩
    | _ => cases hping
  refine ⟨c₂, _, (c₃, o₃), hvalue, ht, h₃, ?_⟩
  exact (hop _ _ h₃).2 _ v packet rfl ha hacc.1 hacc.2 fun h0 ↦
    absurd (hvalue.symm.trans h0) (by decide)

/-- A CONNECT with keep alive 0 leaves the timeout of the network connection before it in force. -/
theorem stale_keep_alive : ¬ ∀ (c : GenericConnection .u16) (hs : Handshake) (k : ℕ) trace,
    Run ((system .u16).monitor ⟨none, none⟩ readHandshake) (fun _ _ ↦ True) trace (c, hs) →
      c.role = .server → c.status = .connected → hs.keepAlive = some k →
        c.pingreqRecvTimeoutMs = hs.timeout k := by
  intro h
  obtain ⟨p, _, ⟨trace, c⟩, hrun, hrole, hst, hk, hsent, ht⟩ :
      (V311.Connack.build false .accepted).unwrap.Attains fun p ↦
        ((system .u16).run (new .server .u16 .v311)
          [.recv [0x10, 0x0d, 0, 4, 0x4d, 0x51, 0x54, 0x54, 4, 0, 0, 10, 0, 1, 0x61],
            .send (.v311Connack p), .notifyClosed,
            .recv [0x10, 0x0d, 0, 4, 0x4d, 0x51, 0x54, 0x54, 4, 0, 0, 0, 0, 1, 0x61],
            .send (.v311Connack p)]).Attains fun r ↦
          r.2.role = .server ∧ r.2.status = .connected ∧
          (r.1.foldl readHandshake ⟨none, none⟩).keepAlive = some 0 ∧
          (r.1.foldl readHandshake ⟨none, none⟩).serverKeepAlive = none ∧
          r.2.pingreqRecvTimeoutMs = 15000 := by
    decide +kernel
  have hinit : (system .u16).Init (new .server .u16 .v311) := ⟨.server, .v311, rfl⟩
  obtain ⟨_, hrun'⟩ :=
    @Run.monitor_run _ _ _ _ (system .u16) ⟨none, none⟩ readHandshake _ _ _ _ hinit hrun
  have htimeout := h _ _ _ _ hrun' hrole hst hk
  rw [Handshake.timeout, hsent, ht] at htimeout
  cases htimeout

end MqttProtocolCore.Connection.GenericConnection
