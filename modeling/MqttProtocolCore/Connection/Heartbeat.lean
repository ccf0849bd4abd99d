import MqttProtocolCore.Connection.ServerKeepAlive

namespace MqttProtocolCore.Connection

open General Packet

variable {w : IdWidth}

/-- What the application sees of the keep-alive of a client: its own setting in milliseconds, what
the handshake of the current network connection says in seconds, and the time for which the timer for
PINGREQ runs. -/
structure Heartbeat where
  override : Option ℕ
  keepAlive : ℕ
  serverKeepAlive : Option ℕ
  clock : Option ℕ

def clockAfter (clock : Option ℕ) : GenericEvent w → Option ℕ
  | .requestTimerReset .pingreqSend d => some d
  | .requestTimerCancel .pingreqSend => none
  | _ => clock

namespace Heartbeat

/-- The interval in milliseconds: the application's own setting comes before the ServerKeepAlive of
the CONNACK, and this one before the keep alive of the CONNECT. -/
def interval (h : Heartbeat) : ℕ := h.override.getD (h.serverKeepAlive.getD h.keepAlive * 1000)

def overrideAfter (override : Option ℕ) : Operation w → Option ℕ
  | .setPingreqSendInterval durationMs => durationMs
  | _ => override

def keepAliveSent (op : Operation w) (events : List (GenericEvent w)) : Option ℕ :=
  match op with
  | .send packet => if packet ∈ requested events then keepAliveOf packet else none
  | _ => none

def clockBefore (clock : Option ℕ) : Operation w → Option ℕ
  | .notifyTimerFired .pingreqSend => none
  | _ => clock

def next (h : Heartbeat) (op : Operation w) (events : List (GenericEvent w)) : Heartbeat where
  override := overrideAfter h.override op
  keepAlive := (keepAliveSent op events).getD h.keepAlive
  serverKeepAlive :=
    if (keepAliveSent op events).isSome then none
    else ((notified events).findSome? serverKeepAliveOf).or h.serverKeepAlive
  clock := events.foldl clockAfter (clockBefore h.clock op)

end Heartbeat

namespace GenericConnection

variable {c c' c'' : GenericConnection w} {packet : GenericPacket w} {op : Operation w}
  {r : Handled w}
  {reply : Reply w} {events events' : List (GenericEvent w)} {hb : Heartbeat} {clock : Option ℕ}
  {running : TimerKind → Bool} {d : ℕ} {q : Prop} {v : Version} {present : Bool} {s : Session w}
  {rep : Report w} {input : Input w} {x : Outcome (Handled w)}

def readHeartbeat (hb : Heartbeat)
    (t : Transition (GenericConnection w) (Operation w) (Reply w)) : Heartbeat :=
  hb.next t.input t.output.toEvents

theorem clock_isSome (h : clock.isSome = running .pingreqSend) :
    (events.foldl clockAfter clock).isSome = timersAfter running events .pingreqSend := by
  induction events generalizing clock running with
  | nil => exact h
  | cons e events ih =>
    apply ih
    cases e with
    | requestTimerReset kind d => cases kind <;> first | rfl | exact h
    | requestTimerCancel kind => cases kind <;> first | rfl | exact h
    | _ => exact h

/-- When the timer is started for one time only and never cancelled, it runs for this time or as
before. -/
theorem clock_of_starts (hs : ∀ d', .requestTimerReset .pingreqSend d' ∈ events → d' = d)
    (hc : .requestTimerCancel .pingreqSend ∉ events) :
    .requestTimerReset .pingreqSend d ∈ events ∧ events.foldl clockAfter clock = some d ∨
      .requestTimerReset .pingreqSend d ∉ events ∧ events.foldl clockAfter clock = clock := by
  induction events generalizing clock with
  | nil => exact .inr ⟨List.not_mem_nil, rfl⟩
  | cons e events ih =>
    have hrest := @ih (clockAfter clock e) (fun d' h ↦ hs d' (List.mem_cons_of_mem _ h))
      fun h ↦ hc (List.mem_cons_of_mem _ h)
    rcases hrest with ⟨hmem, hclock⟩ | ⟨hnot, hclock⟩
    · exact .inl ⟨List.mem_cons_of_mem _ hmem, hclock⟩
    · by_cases he : e = .requestTimerReset .pingreqSend d
      · subst he
        exact .inl ⟨List.mem_cons_self, hclock⟩
      · refine .inr ⟨fun hmem ↦ (List.mem_cons.mp hmem).elim (he ·.symm) hnot, hclock.trans ?_⟩
        cases e with
        | requestTimerReset kind d' =>
          cases kind with
          | pingreqSend => exact (he (by rw [hs d' List.mem_cons_self])).elim
          | _ => rfl
        | requestTimerCancel kind =>
          cases kind with
          | pingreqSend => exact (hc List.mem_cons_self).elim
          | _ => rfl
        | _ => rfl

/-- The timer for PINGREQ runs for the interval, or not at all when this is 0. -/
def Armed (c : GenericConnection w) (clock : Option ℕ) : Prop :=
  clock = if 0 < c.pingreqSendMs then some c.pingreqSendMs else none

/-- The timer for PINGREQ is started for the interval only, and cancelled only with the end of the
connection. -/
structure Beats (c : GenericConnection w) (r : Handled w) : Prop where
  starts : ∀ d, .requestTimerReset .pingreqSend d ∈ r.2 → d = c.pingreqSendMs ∧ c.pingreqSendMs ≠ 0
  halts : .requestTimerCancel .pingreqSend ∈ r.2 → r.1.status = .disconnected
  interval : r.1.pingreqSendMs = c.pingreqSendMs
  opened : r.1.status ≠ .disconnected → c.status ≠ .disconnected

theorem Paced.beats_lapse (h : Paced q (c.lapse op) r) : Beats c r := by
  have hsame : (c.lapse op).interval .pingreqSend = c.pingreqSendMs := by
    rw [lapse_interval]
    rfl
  refine ⟨fun d hd ↦ ?_, fun hmem ↦ ?_, ?_, fun hopen ↦ ?_⟩
  · have := h.started hd
    rwa [hsame] at this
  · exact (h.halts _ hmem).resolve_left (by simp)
  · rw [← hsame]
    exact congrFun h.intervals .pingreqSend
  · have hstatus := h.status.resolve_right hopen
    rw [lapse_status] at hstatus
    exact hstatus ▸ hopen

theorem Paced.beats (h : Paced q c r) : Beats c r := by
  have hlapse : Paced q (c.lapse .acquirePacketId) r := h
  exact hlapse.beats_lapse

theorem Beats.append (h : Beats c (c', events)) (h' : Beats c' r) :
    Beats c (r.1, events ++ r.2) := by
  have hms : c'.pingreqSendMs = c.pingreqSendMs := h.interval
  refine ⟨fun d hd ↦ ?_, fun hmem ↦ ?_, h'.interval.trans h.interval,
    fun hopen ↦ h.opened (h'.opened hopen)⟩
  · rcases List.mem_append.mp hd with hd | hd
    · exact h.starts d hd
    · rw [← hms]
      exact h'.starts d hd
  · rcases List.mem_append.mp hmem with hmem | hmem
    · by_contra hopen
      exact h'.opened hopen (h.halts hmem)
    · exact h'.halts hmem

theorem Armed.beats (h : c.Armed clock) (hr : Beats c r) (hopen : r.1.status ≠ .disconnected) :
    r.1.Armed (r.2.foldl clockAfter clock) := by
  unfold Armed
  rw [hr.interval]
  rcases clock_of_starts (fun d hd ↦ (hr.starts d hd).1) (fun hmem ↦ hopen (hr.halts hmem)) with
    ⟨hmem, hclock⟩ | ⟨-, hclock⟩
  · rw [hclock, if_pos (Nat.pos_of_ne_zero (hr.starts _ hmem).2)]
  · exact hclock.trans h

structure Steady (c c' : GenericConnection w) : Prop where
  role : c'.role = c.role
  client : c'.isClient = c.isClient
  override : c'.pingreqUserSendIntervalMs = c.pingreqUserSendIntervalMs
  keepAlive : c'.pingreqKeepAliveMs = c.pingreqKeepAliveMs
  serverKeepAlive : c'.pingreqServerKeepAliveMs = c.pingreqServerKeepAliveMs

theorem Steady.refl (c : GenericConnection w) : Steady c c := ⟨rfl, rfl, rfl, rfl, rfl⟩

theorem Steady.trans (h : Steady c c') (h' : Steady c' c'') : Steady c c'' :=
  ⟨h'.role.trans h.role, h'.client.trans h.client, h'.override.trans h.override,
    h'.keepAlive.trans h.keepAlive, h'.serverKeepAlive.trans h.serverKeepAlive⟩

theorem Handling.steady (h : Handling c c') : Steady c c' := by
  unfold Handling at h
  rw [h]
  exact ⟨rfl, rfl, rfl, rfl, rfl⟩

theorem Realiased.steady (h : Realiased c c') : Steady c c' := by
  rw [h]
  exact ⟨rfl, rfl, rfl, rfl, rfl⟩

theorem steady_sendStored : c.sendStored.Ensures fun r ↦ Steady c r.1 := by
  intro r hr
  obtain ⟨-, hstate, -⟩ := sendStored_spec.of_ret hr
  rw [hstate]
  exact ⟨rfl, rfl, rfl, rfl, rfl⟩

theorem sessionFrames_steady : SessionFrames (Steady (w := w)) where
  refl := Steady.refl
  trans := Steady.trans
  idle h := h.handling.steady
  awaiting kind ids := (frames_handling.awaiting kind ids).steady
  used man := (frames_handling.used man).steady
  counted n := (frames_handling.counted n).steady
  handled ids := (frames_handling.handled ids).steady
  cleared _ := ⟨rfl, rfl, rfl, rfl, rfl⟩
  resent _ := steady_sendStored

theorem steady_processSend (hconnect : partOf packet ≠ .connect)
    (hconnack : partOf packet ≠ .connack) :
    (c.processSend packet).Ensures fun r ↦ Steady c r.1 := by
  refine Frames.processSend ⟨sessionFrames_steady.toCoreFrames, fun _ _ ↦ ⟨rfl, rfl, rfl, rfl, rfl⟩⟩
    (fun _ ↦ Realiased.steady) ?_ hconnect hconnack
  exact fun stored _ c ↦ (addsStored_handling c).mono fun _ ↦ Handling.steady

theorem beats_finishConnack {accepted : Bool} (hs : c.status = .connecting) :
    (c.finishConnack accepted packet).Ensures (Beats c) := by
  cases accepted with
  | false => exact (paced_refusedConnack (q := True)).mono fun _ hr ↦ hr.beats
  | true =>
    refine (ticks_acceptedConnack (q := True)).mono fun r hr ↦ ?_
    have hpaced : Paced True { c with status := .connected } r := hr.paced fun _ _ ↦ trivial
    exact { hpaced.beats with opened := fun _ ↦ by simp [hs] }

theorem beats_announceAll (props : Properties) : Beats c (c.announceAll announceConnack props) := by
  induction props generalizing c with
  | nil => exact (Still.paced (q := True) (.refl c) (by simp)).beats
  | cons prop props ih =>
    have hfirst : Beats c ((c.announceConnack prop).1, (c.announceConnack prop).2) := ?_
    · exact hfirst.append ih
    cases prop with
    | topicAliasMaximum v =>
      unfold announceConnack
      dsimp only
      split <;> exact ⟨by simp, by simp, rfl, id⟩
    | serverKeepAlive v =>
      unfold announceConnack
      dsimp only
      split
      · refine ⟨fun d hd ↦ (isReset_cancelEvents hd rfl).elim, fun hmem ↦ ?_, rfl, id⟩
        unfold cancelEvents at hmem
        split at hmem
        · cases List.mem_singleton.mp hmem
        · cases hmem
      · exact ⟨by simp, by simp, rfl, id⟩
    | _ => exact ⟨by simp [announceConnack], by simp [announceConnack], rfl, id⟩

theorem Announced.steady (h : Announced c c') : Steady c c' := by
  rw [h]
  exact ⟨rfl, rfl, rfl, rfl, rfl⟩

/-- A CONNACK that is sent does not touch the keep-alive of a client. -/
theorem beats_send_connack (hp : partOf packet = .connack) :
    (c.processSend packet).Ensures fun r ↦ Beats c r ∧ Steady c r.1 := by
  have hreject (e : MqttError) : Beats c (c.reject e) ∧ Steady c (c.reject e).1 :=
    ⟨(paced_reject (q := True) e).beats, .refl c⟩
  have hrole {p : Prop} [Decidable p] {x : Outcome (Handled w)}
      (hx : x.Ensures fun r ↦ Beats c r ∧ Steady c r.1) :
      (if p then x else .ret (c.reject .packetNotAllowedToSend)).Ensures
        fun r ↦ Beats c r ∧ Steady c r.1 := by
    split
    · exact hx
    · exact Outcome.ensures_ret.mpr (hreject _)
  cases packet with
  | v311Connack p =>
    refine hrole ?_
    unfold processSendV311Connack
    split
    · exact Outcome.ensures_ret.mpr (hreject _)
    · rename_i hs
      intro r hr
      exact ⟨beats_finishConnack (not_not.mp hs) r hr, sessionFrames_steady.finishConnack r hr⟩
  | v50Connack p =>
    refine hrole ?_
    unfold processSendV50Connack limited
    split
    swap
    · exact Outcome.ensures_ret.mpr (hreject _)
    split
    · exact Outcome.ensures_ret.mpr (hreject _)
    · rename_i hs
      have hs' : c.status = .connecting := not_not.mp hs
      have hframe := (announceAll_announceConnack (c := c) p.props).1
      dsimp only
      split
      · have hconn : (c.announceAll announceConnack p.props).1.status = .connecting := by
          rw [hframe]
          exact hs'
        refine Outcome.Ensures.bind (P := fun r ↦ Beats (c.announceAll announceConnack p.props).1 r ∧
          Steady (c.announceAll announceConnack p.props).1 r.1) (fun r hr ↦ ?_) fun r hr ↦ ?_
        · exact ⟨beats_finishConnack hconn r hr, sessionFrames_steady.finishConnack r hr⟩
        · exact Outcome.ensures_ret.mpr
            ⟨(beats_announceAll p.props).append hr.1, hframe.steady.trans hr.2⟩
      · refine Outcome.Ensures.bind (P := fun r ↦ Beats c r ∧ Steady c r.1)
          (fun r hr ↦ ?_) fun r hr ↦ ?_
        · exact ⟨beats_finishConnack hs' r hr, sessionFrames_steady.finishConnack r hr⟩
        · exact Outcome.ensures_ret.mpr hr
  | _ => cases hp

end GenericConnection

end MqttProtocolCore.Connection
