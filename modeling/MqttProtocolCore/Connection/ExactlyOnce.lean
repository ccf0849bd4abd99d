import MqttProtocolCore.Connection.Delivered

namespace MqttProtocolCore.Connection.GenericConnection

open General Packet

variable {w : IdWidth} {c c' : GenericConnection w} {op : Operation w} {packet : GenericPacket w}
  {s : Session w} {rep : Report w} {u id : PacketId w} {input : Input w}
  {delivered : Set (PacketId w)}

/-- What decides on the delivery of a PUBLISH is whether its identifier is noted as handled. -/
theorem Change.delivers_iff (h : Change c (.receive packet) s rep)
    (hp : packet.publishOf = some (id, .exactlyOnce))
    (hacc : c.Accepts packet ∧ id ∈ s.handled ∨ rep.errors = []) :
    rep.Delivers id ↔ id ∉ c.qos2PublishHandled := by
  have hpart := partOf_publish hp
  cases h with
  | refused _ _ _ he =>
    obtain ⟨-, hid⟩ := hacc.resolve_right he
    have hmem : id ∈ c.qos2PublishHandled := hid
    simp [Report.Delivers, hmem]
  | idle hcalm =>
    obtain ⟨-, -, hq, -⟩ := hcalm
    rw [hp, Option.all_some] at hq
    cases of_decide_eq_true hq
  | answered hans =>
    obtain ⟨_, hq⟩ := hans
    cases hp.symm.trans hq
  | publishReceived hp' hn =>
    obtain ⟨rfl, -⟩ := Prod.mk.inj (Option.some.inj (hp.symm.trans hp'))
    by_cases hid : id ∈ c.qos2PublishHandled <;> simp [Report.Delivers, hid, hn]
  | publishDropped _ _ _ hno _ _ he =>
    obtain ⟨⟨-, hres⟩, -⟩ := hacc.resolve_right he
    exact (hno hres).elim
  | connectReceived hp' => cases hpart.symm.trans (partOf_connect hp')
  | connackResumes hp' => cases hpart.symm.trans (partOf_connack hp')
  | connackAnew hp' => cases hpart.symm.trans (partOf_connack hp')
  | acknowledged hack => cases hpart.symm.trans (partOf_ack hack)
  | pubrecReceived hack => cases hpart.symm.trans (partOf_ack hack)
  | pubrecFailed => cases hpart
  | pubrelReceived hp' => cases hpart.symm.trans (partOf_pubrel hp')
  | subscriptionAcked hack => cases hpart.symm.trans (partOf_ack hack)

theorem handled_of_idle (h : Idle c c') : c'.qos2PublishHandled = c.qos2PublishHandled := by
  rw [h]

theorem handled_of_session (h : c'.session = c.session) :
    u ∈ c'.qos2PublishHandled ↔ u ∈ c.qos2PublishHandled := by
  have : u ∈ c'.session.handled ↔ u ∈ c.session.handled := by rw [h]
  exact this

theorem accepts_handled (hp : packet.publishOf = some (id, .exactlyOnce)) (h : c.Accepts packet) :
    (c.deliver packet).Ensures fun r ↦ id ∈ r.1.qos2PublishHandled := by
  cases packet with
  | v311Publish p =>
    obtain ⟨u, hid, heq⟩ := Option.map_eq_some_iff.mp hp
    obtain ⟨rfl, hq⟩ := Prod.mk.inj heq
    change (c.recvV311Publish p).Ensures _
    unfold recvV311Publish
    simp only [hid, hq]
    refine Outcome.Ensures.bind (P := fun r ↦ u ∈ r.1.qos2PublishHandled) ?_ fun r hr ↦ ?_
    · unfold respondIf
      split
      · refine Outcome.Ensures.bind (P := fun _ ↦ True) (fun _ _ ↦ trivial) fun a _ ↦ ?_
        refine Outcome.ensures_ret.mpr ?_
        unfold processSendV311Pubrec
        rw [handled_of_idle plain_sendConnected.idle]
        simp
      · exact Outcome.ensures_ret.mpr (by simp)
    · exact Outcome.ensures_ret.mpr (by rwa [handled_of_idle idle_refreshPingreqRecv])
  | v50Publish p =>
    obtain ⟨u, hid, heq⟩ := Option.map_eq_some_iff.mp hp
    obtain ⟨rfl, hq⟩ := Prod.mk.inj heq
    have hm : ¬ c.recvMaximumReached := by simpa [admits, hq] using h.1
    change (c.recvV50Publish p).Ensures _
    unfold recvV50Publish admitPublish
    simp only [hid, hq, hm, Bool.false_eq_true, if_false, Outcome.pure_eq, Outcome.ret_bind]
    refine Outcome.Ensures.bind (fun _ hx ↦ resolveTopic_spec.of_ret hx) ?_
    rintro o ⟨-, hnone, hsome⟩
    cases o with
    | none => exact (hnone.mp rfl h.2).elim
    | some a =>
      have hres := hsome a.1 a.2 rfl
      have hmem : u ∈ a.2.qos2PublishHandled := by
        rw [hres.frame]
        simp
      have hid' : a.1.packetId = some u := hres.same.1.trans hid
      dsimp only
      refine Outcome.Ensures.bind (fun _ hx ↦ (respond_spec (by simp [hid'])).of_ret hx) fun r hr ↦ ?_
      refine Outcome.ensures_ret.mpr ?_
      rw [handled_of_idle idle_refreshPingreqRecv]
      exact (handled_of_session hr.2.1).mpr hmem
  | _ => cases hp

/-- An operation after which what is noted as handled is not what was delivered. -/
def Misleads (c : GenericConnection w) (op : Operation w) : Prop :=
  Confuses c (c.inputOf op) ∧
    ∀ packet, op = .send packet → c.protocolVersion = packet.protocolVersion ∧ c.permits packet

theorem confuses_congr {c₀ : GenericConnection w} (h : Prepared c c₀) (hc : Confuses c₀ input) :
    Confuses c input := by
  rw [h.1] at hc
  cases hc with
  | dropped hid hq hadm hno hnew => exact .dropped hid hq hadm hno hnew
  | startSent hp hid => exact .startSent hp hid
  | startReceived hp hid => exact .startReceived hp hid
  | failedPubrec hf hid => exact .failedPubrec hf hid

theorem send_misfit (h : ¬ (c.protocolVersion = packet.protocolVersion ∧ c.permits packet)) :
    ∃ e, c.send packet = .ret (c.reject e) := by
  by_cases hv : c.protocolVersion = packet.protocolVersion
  · exact send_refused fun hp ↦ h ⟨hv, hp⟩
  · exact ⟨_, if_pos hv⟩

theorem inputOf_ne_close (h : op ≠ .notifyClosed) : c.inputOf op ≠ .close := by
  cases op with
  | notifyClosed => exact (h rfl).elim
  | recv data =>
    unfold inputOf
    cases ha : c.arrival data <;> simp [ha]
  | _ => simp [inputOf]

theorem inputOf_ne_restoreHandled (h : ¬ restoresHandled op)
    (ids : HashSet (PacketId w)) : c.inputOf op ≠ .restoreHandled ids := by
  cases op with
  | restoreQos2PublishHandled ids => exact (h rfl).elim
  | recv data =>
    unfold inputOf
    cases ha : c.arrival data <;> simp [ha]
  | _ => simp [inputOf]

theorem step_delivered (hc : c.Reading) (hok : ¬ Misleads c op)
    (hids : ¬ restoresHandled op) : (c.step op).Ensures fun r ↦
      r.1.session.handled = readDelivered c.session.handled ⟨c, op, r.1, r.2⟩ := by
  intro r hr
  by_cases hop : op = .notifyClosed
  · subst hop
    obtain ⟨⟨c', events⟩, hclosed, hret⟩ := Outcome.bind_eq_ret.mp
      (show (c.notifyClosed >>= fun r ↦ Outcome.ret (r.1, Reply.events r.2)) = .ret r from hr)
    obtain rfl := Outcome.ret.inj hret
    obtain ⟨-, hs, rel, hrep, -⟩ := notifyClosed_spec.of_ret hclosed
    dsimp only at hs hrep
    have hquiet := @delivered_quiet w ⟨[], [], rel, []⟩ c.session.handled (by simp) (by simp)
    have hk : c.session.keeps = c.needStore := rfl
    ext u
    have hu := Set.ext_iff.mp hquiet u
    simp only [readDelivered, Reply.toEvents, hrep, hs, Session.closed, hk]
    by_cases hkeep : c.needStore
    · simpa [hkeep] using hu.symm
    · simp [hkeep]
  have hopen : readDelivered c.session.handled ⟨c, op, r.1, r.2⟩ =
      {u | (u ∈ c.session.handled ∨ (report r.2.toEvents).Delivers u) ∧
        ¬ (report r.2.toEvents).Ends u} := by
    simp [readDelivered, hop]
  rw [hopen]
  by_cases hconf : Confuses c (c.inputOf op)
  · obtain ⟨packet, rfl, hno⟩ : ∃ packet, op = .send packet ∧
        ¬ (c.protocolVersion = packet.protocolVersion ∧ c.permits packet) := by
      simpa [Misleads, hconf] using hok
    obtain ⟨e, he⟩ := send_misfit hno
    have hstep : c.step (.send packet) =
        (c.send packet >>= fun r ↦ Outcome.ret (r.1, Reply.events r.2)) := rfl
    rw [hstep, he] at hr
    obtain rfl := Outcome.ret.inj hr
    exact (delivered_quiet (by simp [report, reject, Reply.toEvents])
      (by simp [report, reject, Reply.toEvents])).symm
  · obtain ⟨-, c₀, hprep, hchange⟩ := (step_spec hc op).of_ret hr
    have hhandled : c₀.session.handled = c.session.handled := by
      rw [hprep.session]
    rw [hchange.handled (inputOf_ne_close hop) (inputOf_ne_restoreHandled hids)
      fun h ↦ hconf (confuses_congr hprep h), hhandled]

/-- An incoming PUBLISH of quality of service 2 is delivered if and only if it was not delivered
before. -/
def DeliversOnce (c : GenericConnection w) (delivered : Set (PacketId w)) : Prop :=
  ∀ data v packet id r rest, c.arrival data = some (v, packet) →
    packet.publishOf = some (id, .exactlyOnce) → c.recv data = .ret (r, rest) →
    c.Accepts packet ∨ errors r.2 = [] → ((report r.2).Delivers id ↔ id ∉ delivered)

theorem deliversOnce_handled (hc : c.Reading) : c.DeliversOnce c.session.handled := by
  intro data v packet id r rest ha hp hr hacc
  have hrecv := recv_spec hc data
  rw [ha] at hrecv
  obtain ⟨b, rest', -, -, hx⟩ := hrecv
  obtain ⟨r', hr', hret⟩ := Outcome.map_eq_ret.mp (hx.symm.trans hr)
  obtain rfl := (Prod.mk.inj hret).1
  have hchange := ((acts_deliver packet).of_ret hr').2
  refine hchange.delivers_iff hp (hacc.imp_left fun h ↦ ?_)
  have h' := (@accepts_prepared w c packet b v).mpr h
  exact ⟨h', accepts_handled hp h' r' hr'⟩

/-- In every run in which no step comes between what was delivered and what is noted as handled, a
PUBLISH is delivered exactly once. -/
theorem delivered_once {trace : List (Transition _ _ _)}
    (h : Run ((system w).monitor ∅ readDelivered)
      (fun p op ↦ ¬ Misleads p.1 op ∧ ¬ restoresHandled op) trace
      (c, delivered)) : c.DeliversOnce delivered := by
  suffices hinv : c.Reading ∧ c.session.handled = delivered from hinv.2 ▸ deliversOnce_handled hinv.1
  refine h.monitored (I := fun c delivered ↦ c.Reading ∧ c.session.handled = delivered) ?_ ?_
  · rintro _ ⟨role, version, rfl⟩
    exact ⟨⟨[], .header⟩, by simp [session, new]⟩
  · rintro c _ op ⟨hc, rfl⟩ ⟨hok, hids⟩ r hr
    exact ⟨step_reading hc op r hr, step_delivered hc hok hids r hr⟩

theorem delivered_once_again : ∃ (c : GenericConnection .u16) (delivered : Set (PacketId .u16)),
    delivered.Nonempty ∧ c.DeliversOnce delivered := by
  obtain ⟨⟨c, o⟩, h₁, ⟨⟨v, packet⟩, ha, hpart, hv⟩, ⟨p, hp, hpub⟩, hin, hout⟩ :
      ((new .client .u16 .v311).step (.recv [0x34, 5, 0, 1, 0x61, 0, 1])).Attains fun r ↦
        (∃ a ∈ (new .client .u16 .v311).arrival [0x34, 5, 0, 1, 0x61, 0, 1],
          partOf a.2 = .publish ∧ a.2.protocolVersion = .v311) ∧
        (∃ p ∈ notified r.2.toEvents, p.publishOf = some (1, .exactlyOnce)) ∧
        (∀ p ∈ notified r.2.toEvents, partOf p = .publish) ∧ requested r.2.toEvents = [] := by
    decide +kernel
  have hstart : Run ((system .u16).monitor ∅ readDelivered)
      (fun p op ↦ ¬ Misleads p.1 op ∧ ¬ restoresHandled op) []
      (new .client .u16 .v311, ∅) := .init ⟨⟨.client, .v311, rfl⟩, rfl⟩
  have hok : ¬ Misleads (new .client .u16 .v311) (.recv [0x34, 5, 0, 1, 0x61, 0, 1]) := by
    rintro ⟨hconf, -⟩
    have hinput : (new .client .u16 .v311).inputOf (.recv [0x34, 5, 0, 1, 0x61, 0, 1]) =
        .receive packet := by
      simp only [inputOf, Option.mem_def.mp ha, Option.map_some, Option.getD_some]
    rw [hinput] at hconf
    cases hconf with
    | dropped => cases hv
    | startReceived h =>
      rcases h with ⟨h, -⟩ | h
      · cases hpart.symm.trans (partOf_connect h)
      · cases hpart.symm.trans (partOf_connack h)
  obtain ⟨_, hrun⟩ := run_step hstart ⟨hok, by simp [restoresHandled]⟩ h₁
  refine ⟨c, _, ⟨1, ?_⟩, delivered_once hrun⟩
  have hempty : (report o.toEvents).requested = [] := hout
  refine ⟨.inr ⟨p, hp, hpub⟩, ?_, by simp⟩
  rintro (⟨p, hp, h⟩ | ⟨p, hp, -⟩ | ⟨p, hp, -⟩ | ⟨p, hp, h | h⟩)
  · cases (hin p hp).symm.trans (partOf_pubrel h)
  · exact List.not_mem_nil (hempty ▸ hp)
  · exact List.not_mem_nil (hempty ▸ hp)
  · cases (hin p hp).symm.trans (partOf_connect h)
  · cases (hin p hp).symm.trans (partOf_connack h)

/-- A PUBLISH of a new session is swallowed for an identifier that was handled in the old one. -/
theorem publish_lost_in_new_session : ¬ ∀ (c : GenericConnection .u16)
    (delivered : Set (PacketId .u16)) trace,
    Run ((system .u16).monitor ∅ readDelivered) (fun _ op ↦ ¬ restoresHandled op) trace
      (c, delivered) → c.DeliversOnce delivered := by
  intro h
  obtain ⟨first, _, second, _, ⟨trace, c⟩, hrun, hno, ⟨c', o⟩, h', ⟨p, hp, hconnack⟩,
      ⟨⟨v, packet⟩, ha, hpub⟩, ⟨r, rest⟩, hr, herr, hnot⟩ :
      (V311.Connect.parse [0, 4, 0x4d, 0x51, 0x54, 0x54, 4, 0, 0, 0, 0, 1, 0x61]).unwrap.Attains
        fun first ↦
        (V311.Connect.parse [0, 4, 0x4d, 0x51, 0x54, 0x54, 4, 2, 0, 0, 0, 1, 0x61]).unwrap.Attains
          fun second ↦ ((system .u16).run (new .client .u16 .v311)
            [.send (.v311Connect first.1), .recv [0x20, 2, 0, 0],
              .recv [0x34, 5, 0, 1, 0x61, 0, 1], .notifyClosed,
              .send (.v311Connect second.1)]).Attains fun r ↦ (∀ t ∈ r.1, ¬ restoresHandled t.input) ∧
        (r.2.step (.recv [0x20, 2, 0, 0])).Attains fun r' ↦
          (∃ p ∈ notified r'.2.toEvents, p.connackOf = some false) ∧
          (∃ a ∈ r'.1.arrival [0x34, 5, 0, 1, 0x61, 0, 1], a.2.publishOf = some (1, .exactlyOnce)) ∧
          (r'.1.recv [0x34, 5, 0, 1, 0x61, 0, 1]).Attains fun r'' ↦
            errors r''.1.2 = [] ∧ notified r''.1.2 = [] := by
    decide +kernel
  have hinit : (system .u16).Init (new .client .u16 .v311) := ⟨.client, .v311, rfl⟩
  obtain ⟨_, hrun⟩ := @Run.monitor_run_ok _ _ _ _ (system .u16) ∅ readDelivered
    (fun _ op ↦ ¬ restoresHandled op) _ _ _ _ hinit (fun t ht _ ↦ hno t ht) hrun
  obtain ⟨_, hrun'⟩ := run_step hrun (show ¬ restoresHandled (.recv _) from Bool.false_ne_true) h'
  have hnew : 1 ∉ readDelivered (trace.foldl readDelivered ∅) ⟨c, .recv [0x20, 2, 0, 0], c', o⟩ :=
    fun hu ↦ hu.2.1 (.inr (.inr (.inr ⟨p, hp, .inr hconnack⟩)))
  obtain ⟨q, hq, -⟩ := (h _ _ _ hrun' _ _ _ _ _ _ ha hpub hr (.inr herr)).mpr hnew
  have hempty : (report r.2).notified = [] := hnot
  exact List.not_mem_nil (hempty ▸ hq)

end MqttProtocolCore.Connection.GenericConnection
