import MqttProtocolCore.Connection.Acks
import MqttProtocolCore.Connection.RecvLimit
import MqttProtocolCore.Connection.SessionPresent
import MqttProtocolCore.Connection.Timers

namespace MqttProtocolCore.Connection.GenericConnection

open General Packet

variable {w : IdWidth} {c c' : GenericConnection w} {packet : GenericPacket w} {s : Session w}
  {rep : Report w} {input : Input w} {op : Operation w} {raw : RawPacket} {v : Version}
  {data : Bytes} {present clean : Bool} {r : Handled w} {running : TimerKind → Bool}
  {events : List (GenericEvent w)}

def Turns (c : GenericConnection w) (packet : GenericPacket w) : Prop :=
  partOf packet = .connect ∧ c.Accepts packet ∨ partOf packet = .connack ∨ Dismisses packet

def Breaks (c : GenericConnection w) (data : Bytes) : Prop :=
  ∃ b e rest, c.packetBuilder.feed data = .ret (b, .error e, rest)

def Turning (c : GenericConnection w) : Operation w → Prop
  | .send packet => partOf packet = .connect ∨ partOf packet = .connack
  | .recv data => c.Breaks data ∨ ∃ v packet, c.arrival data = some (v, packet) ∧ c.Turns packet
  | .setPingreqSendInterval _ | .setPingrespRecvTimeout _ => True
  | _ => False

def Garbles (c : GenericConnection w) (data : Bytes) : Prop :=
  ∃ b raw rest, c.packetBuilder.feed data = .ret (b, .complete raw, rest) ∧ c.arrived raw = none ∧
    c.ReadsConnect raw

theorem paced_recv (hc : c.Reading) (h : ¬ c.Turning (.recv data)) :
    (c.recv data).Ensures fun r ↦ Paced False c r.1 ∨ c.Garbles data ∧ Muted c r.1 := by
  intro r hr
  cases recv_cases hc hr with
  | @incomplete b _ =>
    have hstill : Still c { c with packetBuilder := b } := ⟨rfl, rfl, rfl⟩
    exact .inl (hstill.paced (by simp))
  | malformed hfeed => exact (h (.inl ⟨_, _, _, hfeed⟩)).elim
  | @refused b raw _ _ hfeed harr href =>
    have hstill : Still c { c with packetBuilder := b } := ⟨rfl, rfl, rfl⟩
    rcases href.paced _ rfl with hpaced | ⟨hread, hmuted⟩
    · exact .inl (hpaced.of_still hstill)
    · exact .inr ⟨⟨b, raw, _, hfeed, harr, hread⟩, hmuted.of_still hstill rfl⟩
  | @delivered b raw _ v packet _ hfeed harr _ hdel =>
    have hstill : Still c ({ c with packetBuilder := b }.determine v) := ⟨rfl, rfl, rfl⟩
    have ha : c.arrival data = some (v, packet) := by simp [arrival, hfeed, harr]
    have hturn : ¬ c.Turns packet := fun ht ↦ h (.inr ⟨v, packet, ha, ht⟩)
    refine .inl (Paced.of_still hstill
      (paced_deliver (fun hp hacc ↦ ?_) (fun hp ↦ ?_) (fun hp ↦ ?_) (by simp) _ hdel))
    · exact hturn (.inl ⟨hp, accepts_prepared.mp hacc⟩)
    · exact hturn (.inr (.inl hp))
    · exact hturn (.inr (.inr hp))

theorem Still.pacedFalse (h : Still c c') : Paced False c (c', []) := h.paced (by simp)

theorem Handling.interval (h : Handling c c') : c'.interval = c.interval := by
  unfold Handling at h
  rw [h]
  rfl

theorem still_restorePackets (packets : List (GenericStorePacket w)) :
    (c.restorePackets packets).Ensures (Still c) := by
  intro c' h
  obtain ⟨c₁, h₁, hs, ht⟩ := c.restorePackets_spec packets
  obtain rfl := Outcome.ret.inj (h₁.symm.trans h)
  have hstatus := congrArg Session.status hs
  rw [foldl_restore_frame] at hstatus
  exact ⟨funext ht.timerSet, hstatus, (handling_restorePackets packets _ h).interval⟩

/-- Every other operation starts timers for the intervals that are in force, or leaves them alone. -/
theorem step_paced (hc : c.Reading) (h : ¬ c.Turning op) : (c.step op).Ensures fun r ↦
    Paced False (c.lapse op) (r.1, r.2.toEvents) ∨
      ∃ data, op = .recv data ∧ c.Garbles data ∧ Muted c (r.1, r.2.toEvents) := by
  have hevents {y : Outcome (Handled w)} (hy : y.Ensures (Paced False (c.lapse op))) :
      (y >>= fun r ↦ Outcome.ret (r.1, Reply.events r.2)).Ensures fun r ↦
        Paced False (c.lapse op) (r.1, r.2.toEvents) ∨
          ∃ data, op = .recv data ∧ c.Garbles data ∧ Muted c (r.1, r.2.toEvents) :=
    hy.bind fun _ hr ↦ Outcome.ensures_ret.mpr (.inl hr)
  have hstill : Paced False c (c, []) := (Still.refl c).pacedFalse
  cases op with
  | send packet =>
    refine hevents ?_
    unfold send
    split
    · exact Outcome.ensures_ret.mpr (paced_reject _)
    · have hpaced := @paced_processSend w c packet (fun hp ↦ h (.inl hp)) (fun hp ↦ h (.inr hp))
      refine hpaced.mono fun r hr ↦ { hr with stopped := False.elim }
  | recv data =>
    refine (paced_recv hc h).bind fun r hr ↦ Outcome.ensures_ret.mpr ?_
    exact hr.imp_right fun hmuted ↦ ⟨data, rfl, hmuted⟩
  | notifyTimerFired kind =>
    refine hevents ?_
    cases kind with
    | pingreqSend => exact paced_keepAlive
    | pingreqRecv => exact paced_keepAliveTimeout
    | pingrespRecv => exact paced_keepAliveTimeout
  | notifyClosed => exact hevents paced_notifyClosed
  | setPingreqSendInterval | setPingrespRecvTimeout => exact (h trivial).elim
  | acquirePacketId =>
    cases ha : c.pidMan.acquireUniqueId with
    | ok a =>
      rw [step_acquired (by rw [acquirePacketId, ha]; rfl)]
      exact Outcome.ensures_ret.mpr (.inl (Still.pacedFalse ⟨rfl, rfl, rfl⟩))
    | error e =>
      rw [step_unacquired (by rw [acquirePacketId, ha]; rfl)]
      exact Outcome.ensures_ret.mpr (.inl hstill)
  | registerPacketId id =>
    cases ha : c.pidMan.registerId id with
    | ok man =>
      rw [step_registered (by rw [registerPacketId, ha]; rfl)]
      exact Outcome.ensures_ret.mpr (.inl (Still.pacedFalse ⟨rfl, rfl, rfl⟩))
    | error e =>
      rw [step_unregistered (by rw [registerPacketId, ha]; rfl)]
      exact Outcome.ensures_ret.mpr (.inl hstill)
  | releasePacketId id =>
    exact hevents ((ticks_releaseIfUsed (q := True)).mono fun r hr ↦ hr.paced fun _ _ ↦ trivial)
  | restorePackets packets =>
    exact (still_restorePackets packets).bind fun c' hc' ↦ Outcome.ensures_ret.mpr (.inl hc'.pacedFalse)
  | _ => exact Outcome.ensures_ret.mpr (.inl (Still.pacedFalse ⟨rfl, rfl, rfl⟩))

theorem running_of_timersAfter {kind : TimerKind} (h : timersAfter running events kind) :
    running kind ∨ ∃ d, .requestTimerReset kind d ∈ events := by
  induction events generalizing running with
  | nil => exact .inl h
  | cons e events ih =>
    obtain hrun | ⟨d, hd⟩ := ih h
    · cases e with
      | requestTimerReset kind' d =>
        by_cases hk : kind = kind'
        · exact .inr ⟨d, hk ▸ List.mem_cons_self⟩
        · exact .inl (by simpa [runAfter, hk] using hrun)
      | requestTimerCancel kind' =>
        by_cases hk : kind = kind'
        · simp [runAfter, hk] at hrun
        · exact .inl (by simpa [runAfter, hk] using hrun)
      | _ => exact .inl hrun
    · exact .inr ⟨d, List.mem_cons_of_mem _ hd⟩

theorem Paced.started {kind : TimerKind} {d : ℕ} {q : Prop} (h : Paced q c r)
    (hd : .requestTimerReset kind d ∈ r.2) : d = c.interval kind ∧ c.interval kind ≠ 0 := by
  obtain ⟨_, he, hi⟩ := h.starts _ hd rfl
  cases he
  exact ⟨rfl, hi⟩

theorem lapse_interval : (c.lapse op).interval = c.interval := by
  cases op with
  | notifyTimerFired kind => cases kind <;> rfl
  | _ => rfl

theorem expire_le {kind : TimerKind} (h : expire running op kind) : running kind := by
  cases op with
  | notifyTimerFired kind' =>
    by_cases hk : kind = kind'
    · simp [expire, hk] at h
    · simpa [expire, hk] using h
  | _ => exact h

/-- Only a server that opens the connection asks to send an accepting CONNACK. -/
theorem Change.connack_requested (h : Change c input s rep) (hp : packet.connackOf = some present)
    (hr : packet ∈ rep.requested) : input = .send packet ∧ c.status = .connecting := by
  have hpart := partOf_connack hp
  have hone {p : GenericPacket w} (h : packet ∈ [p]) : partOf p = .connack :=
    List.mem_singleton.mp h ▸ hpart
  have hif {p : GenericPacket w} {q : Prop} [Decidable q] (h : packet ∈ if q then [p] else []) :
      partOf p = .connack := by
    split at h
    · exact hone h
    · cases h
  have hresends {s s' : Session w} {limit : ℕ} {req : List (GenericPacket w)}
      {rel : List (PacketId w)} (h : s.Resends s' limit req rel) : packet ∉ req := by
    intro hmem
    obtain ⟨_, stored, -, -, rfl⟩ := (h.requested packet).mp hmem
    cases (connackOf_stored stored).symm.trans hp
  cases h with
  | refused _ _ hs => exact absurd (hs _ hr).connack (by simp [hp])
  | idle _ _ hs => exact absurd (hs _ hr).connack (by simp [hp])
  | answered _ hs => exact absurd (hs _ hr).2.1 (by simp [hp])
  | connackSent _ hs hres =>
    obtain rfl | hr := List.mem_cons.mp hr
    · exact ⟨rfl, hs⟩
    · exact (hresends hres hr).elim
  | connackResumes _ hres => exact (hresends hres hr).elim
  | pubrecSent h' => cases (hone hr).symm.trans (partOf_ack h')
  | connectSent h' => cases (hone hr).symm.trans (partOf_connect h')
  | published _ _ _ h' => cases (hif hr).symm.trans (partOf_publish h'.1)
  | pubrelSent h' => cases (hif hr).symm.trans (partOf_pubrel h')
  | subscribed h' => cases (hone hr).symm.trans (partOf_subscription h')
  | publishReceived _ _ hs => cases hpart.symm.trans (partOf_ack (hs _ hr).1)
  | publishDropped _ _ _ _ _ hs => exact absurd (hs _ hr).connack (by simp [hp])
  | pubrecReceived _ _ _ _ hs =>
    obtain ⟨rfl, -⟩ | ⟨-, -, _, hpubrel, rfl, -⟩ := hs
    · cases hr
    · cases (hone hr).symm.trans (partOf_pubrel hpubrel)
  | pubrelReceived _ hs => cases hpart.symm.trans (partOf_ack (hs _ hr))
  | _ => cases hr

theorem Change.connect_notified (h : Change c input s rep) (hp : packet.connectOf = some clean)
    (hr : packet ∈ rep.notified) : input = .receive packet ∧ c.status = .disconnected := by
  have hpart := partOf_connect hp
  have hone {p : GenericPacket w} (h : packet ∈ [p]) : partOf p = .connect :=
    List.mem_singleton.mp h ▸ hpart
  cases h with
  | idle _ _ _ hs => exact absurd (hs _ hr).1 (by simp [hp])
  | answered _ _ hs => exact absurd (hs _ hr).1 (by simp [hp])
  | connectReceived _ hd =>
    obtain rfl := List.mem_singleton.mp hr
    exact ⟨rfl, hd⟩
  | connackResumes h' => cases (hone hr).symm.trans (partOf_connack h')
  | connackAnew h' => cases (hone hr).symm.trans (partOf_connack h')
  | publishReceived _ h' =>
    dsimp only at hr
    split at hr
    · cases hr
    · cases (hone hr).symm.trans (partOf_publish h')
  | acknowledged h' => cases (hone hr).symm.trans (partOf_ack h')
  | pubrecReceived h' => cases (hone hr).symm.trans (partOf_ack h')
  | pubrecFailed => cases hone hr
  | pubrelReceived h' => cases (hone hr).symm.trans (partOf_pubrel h')
  | subscriptionAcked h' => cases (hone hr).symm.trans (partOf_ack h')
  | _ => cases hr

theorem packetType_clientOnly (h : readIn v raw = some packet) (hp : clientOnly packet) :
    raw.packetType.toNat ∈ [1, 8, 10, 12] ∨ raw.packetType.toNat = 14 ∧ v = .v311 := by
  cases v with
  | v311 =>
    change readV311 raw = some packet at h
    unfold readV311 at h
    split at h
    all_goals first
      | rename_i ht
        obtain ⟨a, rfl⟩ := readAs_eq h
        first | (simp [ht]; done) | cases hp
      | cases h
  | v50 =>
    change readV50 raw = some packet at h
    unfold readV50 at h
    split at h
    all_goals first
      | rename_i ht
        obtain ⟨a, rfl⟩ := readAs_eq h
        first | (simp [ht]; done) | cases hp
      | cases h
  | undetermined => cases h

theorem packetType_serverOnly (h : readIn v raw = some packet) (hp : serverOnly packet) :
    raw.packetType.toNat ∈ [2, 9, 11, 13] := by
  cases v with
  | v311 =>
    change readV311 raw = some packet at h
    unfold readV311 at h
    split at h
    all_goals first
      | rename_i ht
        obtain ⟨a, rfl⟩ := readAs_eq h
        first | (simp [ht]; done) | cases hp
      | cases h
  | v50 =>
    change readV50 raw = some packet at h
    unfold readV50 at h
    split at h
    all_goals first
      | rename_i ht
        obtain ⟨a, rfl⟩ := readAs_eq h
        first | (simp [ht]; done) | cases hp
      | cases h
  | undetermined => cases h

/-- The frame of a packet that arrives is of a type that may be received, and reads as this packet. -/
theorem arrived_read (h : c.arrived raw = some (v, packet)) : c.canReceive raw.packetType ∧
    readIn v raw = some packet ∧ (c.protocolVersion = v ∨ raw.packetType = 1) := by
  unfold arrived at h
  split at h
  · cases h
  split at h
  · cases h
  rename_i hrecv
  refine ⟨not_not.mp hrecv, ?_⟩
  cases hv : c.protocolVersion with
  | v311 =>
    rw [hv] at h
    obtain ⟨p, hp, hret⟩ := Option.map_eq_some_iff.mp h
    obtain ⟨rfl, rfl⟩ := Prod.mk.inj hret
    exact ⟨hp, .inl rfl⟩
  | v50 =>
    rw [hv] at h
    obtain ⟨p, hp, hret⟩ := Option.map_eq_some_iff.mp h
    obtain ⟨rfl, rfl⟩ := Prod.mk.inj hret
    exact ⟨hp, .inl rfl⟩
  | undetermined =>
    rw [hv] at h
    dsimp only at h
    split at h
    swap
    · cases h
    rename_i ht
    split at h
    · obtain ⟨p, hp, hret⟩ := Option.map_eq_some_iff.mp h
      obtain ⟨rfl, rfl⟩ := Prod.mk.inj hret
      exact ⟨hp, .inr ht.1⟩
    · obtain ⟨p, hp, hret⟩ := Option.map_eq_some_iff.mp h
      obtain ⟨rfl, rfl⟩ := Prod.mk.inj hret
      exact ⟨hp, .inr ht.1⟩
    · cases h

/-- A client gets no packet that only a client sends, and a server none that only a server sends. -/
theorem arrival_role (h : c.arrival data = some (v, packet)) :
    (clientOnly packet → c.role ≠ .client) ∧ (serverOnly packet → c.role ≠ .server) := by
  unfold arrival at h
  split at h
  swap
  · cases h
  rename_i raw _ _
  obtain ⟨hcan, hread, hver⟩ := arrived_read h
  constructor
  · intro hp hrole
    have htype := packetType_clientOnly hread hp
    simp only [List.mem_cons, List.not_mem_nil, or_false] at htype
    rcases htype with (ht | ht | ht | ht) | ⟨ht, rfl⟩
    · simp [canReceive, hrole, ← UInt8.toNat_inj, ht] at hcan
    · simp [canReceive, hrole, ← UInt8.toNat_inj, ht] at hcan
    · simp [canReceive, hrole, ← UInt8.toNat_inj, ht] at hcan
    · simp [canReceive, hrole, ← UInt8.toNat_inj, ht] at hcan
    · have hv : c.protocolVersion = .v311 := hver.resolve_right (by simp [← UInt8.toNat_inj, ht])
      simp [canReceive, hrole, ← UInt8.toNat_inj, ht, hv] at hcan
  · intro hp hrole
    have htype := packetType_serverOnly hread hp
    simp only [List.mem_cons, List.not_mem_nil, or_false] at htype
    rcases htype with ht | ht | ht | ht
    all_goals simp [canReceive, hrole, ← UInt8.toNat_inj, ht] at hcan

end MqttProtocolCore.Connection.GenericConnection
