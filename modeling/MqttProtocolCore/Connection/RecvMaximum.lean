import MqttProtocolCore.Connection.ClientRun
import MqttProtocolCore.Connection.RecvFlow

namespace MqttProtocolCore.Connection.GenericConnection

open General Packet

variable {w : IdWidth} {c c' : GenericConnection w} {packet : GenericPacket w} {id : PacketId w}
  {s : RecvWindow w} {x : Outcome (Handled w)} {r : Handled w} {p : V50.Publish w}
  {events : List (GenericEvent w)} {op : Operation w} {e : MqttError}

def Fair (r : Handled w) : Prop := .receiveMaximumExceeded ∉ errors r.2

theorem fair_reject (he : e ≠ .receiveMaximumExceeded) : Fair (c.reject e) := by
  simp [Fair, reject, he.symm]

theorem fair_limited {size : ℕ} (hx : x.Ensures Fair) : (c.limited size x).Ensures Fair := by
  unfold limited
  split
  · exact hx
  · exact Outcome.ensures_ret.mpr (fair_reject nofun)

theorem fair_answered {size : ℕ} (he : e ≠ .receiveMaximumExceeded) :
    (c.limited size (if c.status ≠ .connected then .ret (c.reject e)
      else .ret (c'.request packet none))).Ensures Fair := by
  apply fair_limited
  split
  · exact Outcome.ensures_ret.mpr (fair_reject he)
  · exact Outcome.ensures_ret.mpr (by simp [Fair])

theorem fair_respond {answer : Answer} {o : Option (PacketId w)} :
    (c.respond answer o).Ensures Fair := by
  unfold respond
  split
  · exact Outcome.ensures_ret.mpr (by simp [Fair])
  · exact Outcome.Ensures.bind (P := fun _ ↦ True) (fun _ _ ↦ trivial) fun a _ ↦ fair_answered nofun
  · exact Outcome.Ensures.bind (P := fun _ ↦ True) (fun _ _ ↦ trivial) fun a _ ↦ fair_answered nofun
  · simp

theorem fair_handleV50Error (he : e ≠ .receiveMaximumExceeded) :
    (c.handleV50Error e).Ensures Fair := by
  unfold handleV50Error
  refine Outcome.Ensures.bind (P := fun _ ↦ True) (fun _ _ ↦ trivial) fun q _ ↦ ?_
  refine Outcome.Ensures.bind (P := Fair) ?_ fun r hr ↦ Outcome.ensures_ret.mpr ?_
  · refine fair_limited (Outcome.ensures_ret.mpr ?_)
    unfold sendDisconnect
    split
    · exact fair_reject nofun
    · simp [Fair, timersOnly_cancelTimers.errors]
  · unfold Fair at *
    simp [hr, he.symm]

theorem exceeded_handleV50Error (e : MqttError) :
    (c.handleV50Error e).Ensures fun r ↦ e ∈ errors r.2 := by
  unfold handleV50Error
  refine Outcome.Ensures.bind (P := fun _ ↦ True) (fun _ _ ↦ trivial) fun q _ ↦ ?_
  refine Outcome.Ensures.bind (P := fun _ ↦ True) (fun _ _ ↦ trivial) fun r _ ↦ ?_
  exact Outcome.ensures_ret.mpr (by simp)

theorem follows_respond (hs : s.Shows c) {answer : Answer} {o : Option (PacketId w)} :
    (c.respond answer o).Ensures s.Follows := by
  unfold respond
  split
  · exact Outcome.ensures_ret.mpr hs
  · exact Outcome.Ensures.bind (P := fun _ ↦ True) (fun _ _ ↦ trivial)
      fun a _ ↦ @follows_processSend w (.v50Puback a) s c hs
  · exact Outcome.Ensures.bind (P := fun _ ↦ True) (fun _ _ ↦ trivial)
      fun a _ ↦ @follows_processSend w (.v50Pubrec a) s c hs
  · simp

/-- The rest of the handler, once the identifier of the PUBLISH is noted. -/
theorem follows_admitted (hs : s.Shows c) (admission : Admission) : (do
    match ← c.resolveTopic p with
    | none => c.handleV50Error .topicAliasInvalid
    | some (p', c') =>
      let (c', events) ← c'.respond admission.answer p'.packetId
      let (c', timers) := c'.refreshPingreqRecv
      return (c', events ++ timers ++
        if admission.alreadyHandled then [] else [.notifyPacketReceived (.v50Publish p')])
    : Outcome (Handled w)).Ensures fun r ↦ s.Follows r ∧ Fair r := by
  refine (CoreFrames.resolveTopic (R := fun c c' ↦ c'.window = c.window) (fun _ _ ↦ rfl) p).bind
    fun o ho ↦ ?_
  cases o with
  | none =>
    obtain ⟨r, hr, href⟩ := c.handleV50Error_spec .topicAliasInvalid
    dsimp only
    rw [hr]
    exact Outcome.ensures_ret.mpr ⟨href.rests.follows hs, fair_handleV50Error (e := .topicAliasInvalid) nofun r hr⟩
  | some a =>
    obtain ⟨p', c'⟩ := a
    have hs' : s.Shows c' := shows_of_window hs (ho _ rfl)
    intro r hr
    obtain ⟨r', hr', hret⟩ := Outcome.bind_eq_ret.mp hr
    obtain rfl := Outcome.ret.inj hret
    have hfollows := follows_respond hs' r' hr'
    have hfair : Fair r' := fair_respond r' hr'
    have htimers := timersOnly_refreshPingreqRecv (c := r'.1)
    have hnotice : Inert (if admission.alreadyHandled then []
        else [.notifyPacketReceived (.v50Publish p')] : List (GenericEvent w)) := by
      split
      · exact emits_quiet rfl rfl
      · exact emits_notified nofun
    refine ⟨?_, ?_⟩
    · have hrefreshed := follows_append hfollows (localFrames_window.idle idle_refreshPingreqRecv)
        (emits_timers htimers)
      exact follows_append hrefreshed rfl hnotice
    · have herrors : errors (r'.2 ++ r'.1.refreshPingreqRecv.2 ++ if admission.alreadyHandled then []
          else [.notifyPacketReceived (.v50Publish p')]) = errors r'.2 := by
        rw [errors_append, errors_append, htimers.errors]
        split <;> simp
      exact fun h ↦ hfair (herrors ▸ h)

/-- The PUBLISH is let in and waits for an answer, or is refused as the limit is reached. -/
theorem follows_recvV50Publish (hs : s.Shows c) : (c.recvV50Publish p).Ensures fun r ↦
    (p.packetId.isSome ∧ c.recvMaximumReached) ∧ .receiveMaximumExceeded ∈ errors r.2 ∧ s.Follows r ∨
    ¬ (p.packetId.isSome ∧ c.recvMaximumReached) ∧ Fair r ∧ (p.packetId.elim s s.insert).Follows r := by
  have hsome : p.packetId.isSome ↔ p.qos ≠ .atMostOnce := p.id.2
  have hrefused (hm : p.packetId.isSome ∧ c.recvMaximumReached) :
      (c.handleV50Error .receiveMaximumExceeded).Ensures fun r ↦
        (p.packetId.isSome ∧ c.recvMaximumReached) ∧ .receiveMaximumExceeded ∈ errors r.2 ∧
          s.Follows r ∨
        ¬ (p.packetId.isSome ∧ c.recvMaximumReached) ∧ Fair r ∧
          (p.packetId.elim s s.insert).Follows r := by
    intro r hr
    obtain ⟨r', hr', href⟩ := c.handleV50Error_spec .receiveMaximumExceeded
    obtain rfl := Outcome.ret.inj (hr'.symm.trans hr)
    exact .inl ⟨hm, exceeded_handleV50Error _ _ hr, href.rests.follows hs⟩
  have hinsert (id : PacketId w) (handled : HashSet (PacketId w)) :
      (s.insert id).Shows { c with
        publishRecv := c.publishRecv.insert id, qos2PublishHandled := handled } :=
    ⟨hs.1, congrArg (HashSet.insert · id) hs.2⟩
  unfold recvV50Publish admitPublish
  cases hq : p.qos with
  | atMostOnce =>
    have hid : p.packetId = none := by simpa [hq] using hsome
    refine (follows_admitted (p := p) hs ⟨.nothing, false⟩).mono fun r hr ↦ .inr ?_
    simp only [hid]
    exact ⟨by simp, hr.2, hr.1⟩
  | atLeastOnce =>
    obtain ⟨id, hid⟩ := Option.isSome_iff_exists.mp (hsome.mpr (by simp [hq]))
    simp only [hid]
    by_cases hm : c.recvMaximumReached
    · rw [if_pos hm]
      simpa [hid] using hrefused ⟨by simp [hid], hm⟩
    · rw [if_neg hm]
      refine (follows_admitted (p := p) (hinsert id c.qos2PublishHandled) _).mono fun r hr ↦ .inr ?_
      exact ⟨by simp [hm], hr.2, hr.1⟩
  | exactlyOnce =>
    obtain ⟨id, hid⟩ := Option.isSome_iff_exists.mp (hsome.mpr (by simp [hq]))
    simp only [hid]
    by_cases hm : c.recvMaximumReached
    · rw [if_pos hm]
      simpa [hid] using hrefused ⟨by simp [hid], hm⟩
    · rw [if_neg hm]
      refine (follows_admitted (p := p) (hinsert id _) _).mono fun r hr ↦ .inr ?_
      exact ⟨by simp [hm], hr.2, hr.1⟩

def arrive (s : RecvWindow w) (arrival : Option (Version × GenericPacket w))
    (events : List (GenericEvent w)) : RecvWindow w :=
  match arrival with
  | some (_, .v50Publish p) =>
    if .receiveMaximumExceeded ∈ errors events then s else p.packetId.elim s s.insert
  | _ => s

/-- The window after a step, from what arrives and from what the events ask to send. -/
def readWindow (s : RecvWindow w)
    (t : Transition (GenericConnection w) (Operation w) (Reply w)) : RecvWindow w :=
  match t.input with
  | .recv data => t.output.toEvents.foldl RecvWindow.observe
      (arrive s (t.before.arrival data) t.output.toEvents)
  | _ => t.output.toEvents.foldl RecvWindow.observe s

theorem follows_recv (hc : c.Reading) (hs : s.Shows c) {data : Bytes} {r : Handled w × Bytes}
    (hr : c.recv data = .ret r) : (arrive s (c.arrival data) r.1.2).Follows r.1 := by
  cases ha : c.arrival data with
  | none =>
    have hun := recv_unarrived hc hr ha
    obtain ⟨b, v, hidle⟩ := hun.idle
    have hs' : s.Shows ({ c with packetBuilder := b }.determine v) := hs
    refine Rests.follows ⟨localFrames_window.idle hidle, ?_⟩ hs'
    exact ⟨fun q hq ↦ (hun.requested q hq).passive, fun q hq ↦ by simp [hun.notified] at hq⟩
  | some a =>
    obtain ⟨v, packet⟩ := a
    obtain ⟨-, b, hdel⟩ := recv_delivers hc hr ha
    have hs' : s.Shows ({ c with packetBuilder := b }.determine v) := hs
    by_cases hp : ∃ p, packet = .v50Publish p
    · obtain ⟨p, rfl⟩ := hp
      rcases follows_recvV50Publish hs' r.1 hdel with ⟨-, herr, hfollows⟩ | ⟨-, hfair, hfollows⟩
      · have harrive : arrive s (some (v, .v50Publish p)) r.1.2 = s := if_pos herr
        rwa [harrive]
      · have harrive : arrive s (some (v, .v50Publish p)) r.1.2 = p.packetId.elim s s.insert :=
          if_neg hfair
        rwa [harrive]
    · have harrive : arrive s (some (v, packet)) r.1.2 = s := by
        cases packet with
        | v50Publish p => exact (hp ⟨p, rfl⟩).elim
        | _ => rfl
      rw [harrive]
      exact follows_deliver hs' (fun p h ↦ hp ⟨p, h⟩) r.1 hdel

theorem follows_send (hs : s.Shows c) : (c.send packet).Ensures s.Follows := by
  unfold send
  split
  · exact Outcome.ensures_ret.mpr (follows_reject hs _)
  · exact follows_processSend hs

theorem inert_notifyTimerFired (kind : TimerKind) :
    (c.notifyTimerFired kind).Ensures fun r ↦ Inert r.2 := by
  cases kind with
  | pingreqSend =>
    refine emitting_keepAlive fun q _ hq ↦ ?_
    intro s
    cases q <;> first | rfl | cases hq
  | pingreqRecv | pingrespRecv => exact emitting_keepAliveTimeout fun p _ _ ↦ rfl

/-- Every operation leaves the window that arrivals and events tell. -/
theorem step_follows (hc : c.Reading) (hs : s.Shows c) (op : Operation w) :
    (c.step op).Ensures fun r ↦ (readWindow s ⟨c, op, r.1, r.2⟩).Shows r.1 := by
  have hquiet (hsend : ∀ packet, op ≠ .send packet) (hrecv : ∀ data, op ≠ .recv data)
      (htimer : ∀ kind, op ≠ .notifyTimerFired kind) {r : GenericConnection w × Reply w}
      (hr : c.step op = .ret r) : Inert r.2.toEvents := by
    have hemits := step_emits hc op r hr
    refine ⟨fun q hq ↦ ?_, fun q hq ↦ ?_⟩
    · cases hemits.requests q hq with
      | sent => exact (hsend _ rfl).elim
      | stored hs => exact sendable_passive _ _ hs
      | replied | refused | tooLarge => exact (hrecv _ rfl).elim
      | pinged | expired => exact (htimer _ rfl).elim
    · cases hemits.notices q hq with
      | received => exact (hrecv _ rfl).elim
  have hrests {r : GenericConnection w × Reply w} (hw : r.1.window = c.window)
      (hi : Inert r.2.toEvents) : (r.2.toEvents.foldl RecvWindow.observe s).Shows r.1 :=
    Rests.follows (r := (r.1, r.2.toEvents)) ⟨hw, hi⟩ hs
  intro r hr
  cases op with
  | send packet =>
    obtain ⟨r', hr', hret⟩ := Outcome.bind_eq_ret.mp hr
    obtain rfl := Outcome.ret.inj hret
    exact follows_send hs r' hr'
  | recv data =>
    obtain ⟨r', hr', hret⟩ := Outcome.bind_eq_ret.mp hr
    obtain rfl := Outcome.ret.inj hret
    exact follows_recv hc hs hr'
  | notifyTimerFired kind =>
    obtain ⟨r', hr', hret⟩ := Outcome.bind_eq_ret.mp hr
    obtain rfl := Outcome.ret.inj hret
    exact hrests (localFrames_window.notifyTimerFired kind r' hr') (inert_notifyTimerFired kind r' hr')
  | notifyClosed =>
    refine hrests ?_ (hquiet (by simp) (by simp) (by simp) hr)
    obtain ⟨r', hr', hret⟩ := Outcome.bind_eq_ret.mp hr
    obtain rfl := Outcome.ret.inj hret
    dsimp only
    rw [notifyClosed_frame r' hr']
    rfl
  | _ =>
    exact hrests (localFrames_window.step (by simp) (by simp) (by simp) r hr)
      (hquiet (by simp) (by simp) (by simp) hr)

theorem recvMaximumReached_iff : c.recvMaximumReached ↔
    ∃ m, c.publishRecvMax = some m ∧ m.val ≤ c.publishRecv.len := by
  unfold recvMaximumReached
  cases c.publishRecvMax with
  | none => simp
  | some m => simp

/-- What arrives keeps the window bounded: a PUBLISH is let in only below the limit. -/
theorem bounded_recv (hc : c.Reading) (hs : s.Shows c) (hb : s.Bounded) {data : Bytes}
    {r : Handled w × Bytes} (hr : c.recv data = .ret r) :
    (arrive s (c.arrival data) r.1.2).Bounded := by
  cases ha : c.arrival data with
  | none => exact hb
  | some a =>
    obtain ⟨v, packet⟩ := a
    obtain ⟨-, b, hdel⟩ := recv_delivers hc hr ha
    cases packet with
    | v50Publish p =>
      have hs' : s.Shows ({ c with packetBuilder := b }.determine v) := hs
      rcases follows_recvV50Publish hs' r.1 hdel with ⟨-, herr, -⟩ | ⟨hbelow, hfair, -⟩
      · have harrive : arrive s (some (v, .v50Publish p)) r.1.2 = s := if_pos herr
        rwa [harrive]
      have harrive : arrive s (some (v, .v50Publish p)) r.1.2 = p.packetId.elim s s.insert :=
        if_neg hfair
      rw [harrive]
      cases hid : p.packetId with
      | none => exact hb
      | some id =>
        intro m hm
        have hreached : ¬ c.recvMaximumReached := fun h ↦ hbelow ⟨by simp [hid], h⟩
        have hlt : s.unanswered.len < m.val := by
          by_contra hle
          rw [← hs.2] at hle
          exact hreached (recvMaximumReached_iff.mpr ⟨m, hs.1.trans hm, not_lt.mp hle⟩)
        have hlen : (s.unanswered.insert id).len ≤ s.unanswered.len + 1 := HashSet.len_insert_le
        exact le_max_of_le_left (hlen.trans hlt)
    | _ => exact hb

theorem step_bounded (hc : c.Reading) (hs : s.Shows c) (hb : s.Bounded) (op : Operation w) :
    (c.step op).Ensures fun r ↦ (readWindow s ⟨c, op, r.1, r.2⟩).Bounded := by
  intro r hr
  cases op with
  | recv data =>
    obtain ⟨r', hr', hret⟩ := Outcome.bind_eq_ret.mp hr
    obtain rfl := Outcome.ret.inj hret
    exact (bounded_recv hc hs hb hr').foldl_observe _
  | _ => exact hb.foldl_observe _

/-- A PUBLISH is refused as one too many only when the limit is reached. -/
theorem refused_publish (hc : c.Reading) (hs : s.Shows c) {data : Bytes} {v : Version}
    (ha : c.arrival data = some (v, .v50Publish p)) : (c.recv data).Ensures fun r ↦
      .receiveMaximumExceeded ∈ errors r.1.2 → ∃ m id, s.announced = some m ∧
        p.packetId = some id ∧ m.val ≤ s.unanswered.len ∧
        (id ∉ s.unanswered → m.val ≤ (s.unanswered.remove id).len) := by
  intro r hr herr
  obtain ⟨-, b, hdel⟩ := recv_delivers hc hr ha
  have hs' : s.Shows ({ c with packetBuilder := b }.determine v) := hs
  rcases follows_recvV50Publish hs' r.1 hdel with ⟨⟨hsome, hreached⟩, -, -⟩ | ⟨-, hfair, -⟩
  swap
  · exact (hfair herr).elim
  obtain ⟨id, hid⟩ := Option.isSome_iff_exists.mp hsome
  obtain ⟨m, hm, hle⟩ : ∃ m, c.publishRecvMax = some m ∧ m.val ≤ c.publishRecv.len :=
    recvMaximumReached_iff.mp hreached
  rw [hs.1] at hm
  rw [hs.2] at hle
  refine ⟨m, id, hm, hid, hle, fun hnot ↦ ?_⟩
  rwa [HashSet.remove_of_notMem hnot]

/-- An identifier is dropped with the answer that ends its exchange, or with a new connection. -/
theorem step_drops (hc : c.Reading) (hs : s.Shows c) (op : Operation w) :
    (c.step op).Ensures fun r ↦ ∀ id ∈ c.publishRecv,
      id ∉ r.1.publishRecv ↔ ∃ e ∈ r.2.toEvents, RecvWindow.Drops id e := by
  intro r hr id hid
  have harrive (arrival : Option (Version × GenericPacket w)) (events : List (GenericEvent w)) :
      id ∈ (arrive s arrival events).unanswered := by
    rw [hs.2] at hid
    unfold arrive
    split
    · split
      · exact hid
      · rename_i p _
        cases p.packetId with
        | none => exact hid
        | some u => exact HashSet.mem_insert.mpr (.inr hid)
    · exact hid
  have hfold {s' : RecvWindow w} (hs' : id ∈ s'.unanswered) :
      id ∉ (r.2.toEvents.foldl RecvWindow.observe s').unanswered ↔
        ∃ e ∈ r.2.toEvents, RecvWindow.Drops id e := by
    rw [RecvWindow.foldl_unanswered]
    simp [hs']
  rw [(step_follows hc hs op r hr).2]
  cases op with
  | recv data => exact hfold (harrive _ _)
  | _ => exact hfold (hs.2 ▸ hid)

/-- In every run, what waits for an answer is what arrived on the network connection and was not
answered. It stays within the receive maximum that was announced, but for what waited at the time; a
PUBLISH is refused only at the limit; and an identifier leaves with its last answer. -/
theorem receive_window {trace : List (Transition _ _ _)}
    (h : Run ((system w).monitor RecvWindow.start readWindow) (fun _ _ ↦ True) trace (c, s)) :
    c.publishRecvMax = s.announced ∧ c.publishRecv = s.unanswered ∧
      (∀ m, s.announced = some m → c.publishRecv.len ≤ max m.val s.backlog) ∧
      (∀ data v p, c.arrival data = some (v, .v50Publish p) → (c.recv data).Ensures fun r ↦
        .receiveMaximumExceeded ∈ errors r.1.2 → ∃ m id, s.announced = some m ∧
          p.packetId = some id ∧ m.val ≤ s.unanswered.len ∧
          (id ∉ s.unanswered → m.val ≤ (s.unanswered.remove id).len)) ∧
      ∀ op, (c.step op).Ensures fun r ↦ ∀ id ∈ c.publishRecv,
        id ∉ r.1.publishRecv ↔ ∃ e ∈ r.2.toEvents, RecvWindow.Drops id e := by
  have hinv : c.Reading ∧ s.Shows c ∧ s.Bounded := by
    refine h.monitored (I := fun c s ↦ c.Reading ∧ s.Shows c ∧ s.Bounded) ?_ ?_
    · rintro _ ⟨role, version, rfl⟩
      exact ⟨⟨[], .header⟩, ⟨rfl, rfl⟩, RecvWindow.bounded_start⟩
    · intro c s op ⟨hc, hs, hb⟩ _ r hr
      exact ⟨step_reading hc op r hr, step_follows hc hs op r hr, step_bounded hc hs hb op r hr⟩
  obtain ⟨hc, hs, hb⟩ := hinv
  refine ⟨hs.1, hs.2, fun m hm ↦ ?_, fun data v p ha ↦ refused_publish hc hs ha, step_drops hc hs⟩
  rw [hs.2]
  exact hb m hm

theorem receive_window_full : ∃ (c : GenericConnection .u16) (s : RecvWindow .u16) (data : Bytes)
    (r : Handled .u16 × Bytes), s.announced = some 1 ∧ c.publishRecv.len = 1 ∧
      c.publishRecv.len ≤ max 1 s.backlog ∧ c.recv data = .ret r ∧
      .receiveMaximumExceeded ∈ errors r.1.2 ∧
      ∃ m id, s.announced = some m ∧ id ∉ s.unanswered ∧ m.val ≤ (s.unanswered.remove id).len := by
  obtain ⟨⟨trace, c⟩, hrun, hannounced, hlen, hnot, ⟨a, ha, q, hq, hid⟩, ⟨r, rest⟩, hr, herr⟩ :
      (clientRun (w := .u16) .v50 2 0 [3, 0x21, 0, 1] []
        [.recv [0x20, 3, 0, 0, 0], .recv [0x32, 6, 0, 1, 0x61, 0, 1, 0]]).Attains fun r ↦
          (r.1.foldl readWindow RecvWindow.start).announced = some 1 ∧ r.2.publishRecv.len = 1 ∧
          2 ∉ (r.1.foldl readWindow RecvWindow.start).unanswered ∧
          (∃ a ∈ r.2.arrival [0x32, 6, 0, 1, 0x61, 0, 2, 0],
            ∃ q ∈ a.2.v50PublishOf, q.packetId = some 2) ∧
          (r.2.recv [0x32, 6, 0, 1, 0x61, 0, 2, 0]).Attains fun r' ↦
            .receiveMaximumExceeded ∈ errors r'.1.2 := by
    decide +kernel
  obtain ⟨v, packet⟩ := a
  obtain rfl := GenericPacket.v50PublishOf_eq_some.mp hq
  obtain ⟨_, hrun'⟩ := monitor_of_clientRun RecvWindow.start readWindow hrun
  obtain ⟨-, -, hbound, hrefused, -⟩ := receive_window hrun'
  obtain ⟨m, id, hm, hid', -, hothers⟩ := hrefused _ v q ha (r, rest) hr herr
  obtain rfl := Option.some.inj (hid.symm.trans hid')
  exact ⟨c, _, _, (r, rest), hannounced, hlen, hbound 1 hannounced, hr, herr, m, 2, hm, hnot,
    hothers hnot⟩

/-- What arrived before the CONNACK is not limited by what the CONNACK announces, and at the limit
even a PUBLISH that waits already is refused. -/
theorem window_exceeded :
    (¬ ∀ (c : GenericConnection .u16) (s : RecvWindow .u16) trace,
      Run ((system .u16).monitor RecvWindow.start readWindow) (fun _ _ ↦ True) trace (c, s) →
        ∀ m, s.announced = some m → c.publishRecv.len ≤ m.val) ∧
    ¬ ∀ (c : GenericConnection .u16) (s : RecvWindow .u16) trace,
      Run ((system .u16).monitor RecvWindow.start readWindow) (fun _ _ ↦ True) trace (c, s) →
        ∀ m, s.announced = some m → ∀ data v p id r, c.arrival data = some (v, .v50Publish p) →
          p.packetId = some id → c.recv data = .ret r → .receiveMaximumExceeded ∈ errors r.1.2 →
            m.val ≤ (s.unanswered.remove id).len := by
  refine ⟨fun h ↦ ?_, fun h ↦ ?_⟩
  · obtain ⟨p, _, ⟨trace, c⟩, hrun, hannounced, hlen⟩ :
        (V50.Connack.build false .success [.receiveMaximum ⟨1, U16.isNonZero_one⟩]).unwrap.Attains
          fun p ↦ ((system .u16).run (new .server .u16 .v50)
            [.recv [0x10, 0x0e, 0, 4, 0x4d, 0x51, 0x54, 0x54, 5, 2, 0, 0, 0, 0, 1, 0x61],
              .recv [0x32, 6, 0, 1, 0x61, 0, 1, 0], .recv [0x32, 6, 0, 1, 0x61, 0, 2, 0],
              .send (.v50Connack p)]).Attains fun r ↦
            (r.1.foldl readWindow RecvWindow.start).announced = some 1 ∧
              r.2.publishRecv.len = 2 := by
      decide +kernel
    have hinit : (system .u16).Init (new .server .u16 .v50) := ⟨.server, .v50, rfl⟩
    obtain ⟨_, hrun'⟩ :=
      @Run.monitor_run _ _ _ _ (system .u16) RecvWindow.start readWindow _ _ _ _ hinit hrun
    have hle := h _ _ _ hrun' 1 hannounced
    rw [hlen] at hle
    exact absurd hle (by decide)
  · obtain ⟨⟨trace, c⟩, hrun, hannounced, hlen, ⟨a, ha, q, hq, hid⟩, ⟨r, rest⟩, hr, herr⟩ :
        (clientRun (w := .u16) .v50 2 0 [3, 0x21, 0, 1] []
          [.recv [0x20, 3, 0, 0, 0], .recv [0x32, 6, 0, 1, 0x61, 0, 1, 0]]).Attains fun r ↦
            (r.1.foldl readWindow RecvWindow.start).announced = some 1 ∧
            ((r.1.foldl readWindow RecvWindow.start).unanswered.remove 1).len = 0 ∧
            (∃ a ∈ r.2.arrival [0x3a, 6, 0, 1, 0x61, 0, 1, 0],
              ∃ q ∈ a.2.v50PublishOf, q.packetId = some 1) ∧
            (r.2.recv [0x3a, 6, 0, 1, 0x61, 0, 1, 0]).Attains fun r' ↦
              .receiveMaximumExceeded ∈ errors r'.1.2 := by
      decide +kernel
    obtain ⟨v, packet⟩ := a
    obtain rfl := GenericPacket.v50PublishOf_eq_some.mp hq
    obtain ⟨_, hrun'⟩ := monitor_of_clientRun RecvWindow.start readWindow hrun
    have hle := h _ _ _ hrun' 1 hannounced _ v q 1 (r, rest) ha hid hr herr
    rw [hlen] at hle
    exact absurd hle (by decide)

end MqttProtocolCore.Connection.GenericConnection
