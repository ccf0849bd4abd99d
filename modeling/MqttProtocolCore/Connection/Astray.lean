import MqttProtocolCore.Connection.ClientRun
import MqttProtocolCore.Connection.ExactRelease

namespace MqttProtocolCore.Connection.GenericConnection

open General Packet

variable {w : IdWidth} {c c' c₀ : GenericConnection w} {packet : GenericPacket w} {op : Operation w}
  {input : Input w} {s : Session w} {rep : Report w} {id : PacketId w} {kind : AckKind} {qos : Qos}
  {events : List (GenericEvent w)} {r : GenericConnection w × Reply w}

theorem not_exactlyReleased (hid : id ∈ released events) (hbusy : c'.session.Busy id) :
    ¬ ExactlyReleased c c' events :=
  fun h ↦ (exactlyReleased_iff.mp h).2.gone id hid hbusy

theorem astray_publish {r : Handled w} (h : PublishFate c packet id qos r)
    (hused : c.pidMan.isUsedId id) (haway : c.turnsAway packet → c.session.Busy id)
    (hwithdrawn : ¬ c.turnsAway packet → c.withdraws packet) :
    id ∈ released r.2 ∧ r.1.session.Busy id := by
  cases h with
  | unknown hno => exact (hno hused).elim
  | turned h _ hs hrel =>
    rw [hs, hrel]
    exact ⟨List.mem_singleton_self id, haway h⟩
  | withdrawn _ _ _ _ hs hrel =>
    rw [hs, hrel]
    exact ⟨List.mem_singleton_self id, .inl ⟨publishAck qos, Session.mem_awaits_await.mpr (.inl ⟨rfl, rfl⟩)⟩⟩
  | taken h _ hno => exact (hno (hwithdrawn h)).elim

theorem Change.awaits_connackSent {present : Bool} (h : Change c (.send packet) s rep)
    (hp : packet.connackOf = some present) : s.awaits = c.session.awaits := by
  have hpart := partOf_connack hp
  cases h with
  | connackSent _ _ hres => rw [hres.state]
  | connectSent h' => cases hpart.symm.trans (partOf_connect h')
  | publishRefused h' => cases hpart.symm.trans (partOf_publish h')
  | publishWithdrawn h' => cases hpart.symm.trans (partOf_publish h')
  | published h' => cases hpart.symm.trans (partOf_publish h')
  | pubrelSent h' => cases hpart.symm.trans (partOf_pubrel h')
  | subscribed h' => cases hpart.symm.trans (partOf_subscription h')
  | subscriptionRefused h' => cases hpart.symm.trans (partOf_subscription h')
  | _ => rfl

theorem Change.awaits_connackReceived (h : Change c (.receive packet) s rep)
    (hp : packet.connackOf = some true) : s.awaits = c.session.awaits := by
  have hpart := partOf_connack hp
  cases h with
  | connackResumes _ hres => rw [hres.state]
  | connackAnew h' => cases hp.symm.trans h'
  | connectReceived h' => cases hpart.symm.trans (partOf_connect h')
  | acknowledged h' => cases hpart.symm.trans (partOf_ack h')
  | pubrecReceived h' => cases hpart.symm.trans (partOf_ack h')
  | pubrecFailed => cases hp
  | subscriptionAcked h' => cases hpart.symm.trans (partOf_ack h')
  | _ => rfl

/-- The end of an exchange gives its identifier back, whatever else waits for it or is stored. -/
theorem Change.ends (h : Change c (.receive packet) s rep) (hack : ackOf packet = some (kind, id))
    (hend : kind = .pubrec → ¬ continues packet) (hn : packet ∈ rep.notified)
    (hused : c.pidMan.isUsedId id) : rep.released = [id] ∧
      (∀ kind', kind' ≠ kind → id ∈ c.session.awaits kind' → id ∈ s.awaits kind') := by
  have hpart := partOf_ack hack
  have hkept {s' : Session w} {kind' : AckKind} (hne : kind' ≠ kind) (hk : id ∈ s'.awaits kind') :
      id ∈ (s'.settle kind id).awaits kind' :=
    Session.mem_awaits_settle.mpr ⟨hk, fun h ↦ hne h.2⟩
  cases h with
  | refused => cases hn
  | idle hcalm => cases hcalm.2.2.2.2.symm.trans hack
  | answered hans =>
    obtain ⟨u, hp⟩ := hans
    cases hpart.symm.trans (partOf_publish hp)
  | connectReceived hp => cases hpart.symm.trans (partOf_connect hp)
  | connackResumes hp => cases hpart.symm.trans (partOf_connack hp)
  | connackAnew hp => cases hpart.symm.trans (partOf_connack hp)
  | publishReceived hp => cases hpart.symm.trans (partOf_publish hp)
  | publishDropped => cases hn
  | pubrelReceived hp => cases hpart.symm.trans (partOf_pubrel hp)
  | acknowledged hack' =>
    obtain ⟨rfl, rfl⟩ := Prod.mk.inj (Option.some.inj (hack.symm.trans hack'))
    rw [Session.finished_frame]
    exact ⟨if_pos hused, fun _ hne hk ↦ hkept hne hk⟩
  | pubrecReceived hack' _ hcont =>
    obtain ⟨rfl, rfl⟩ := Prod.mk.inj (Option.some.inj (hack.symm.trans hack'))
    exact (hend rfl hcont).elim
  | pubrecFailed =>
    obtain ⟨rfl, rfl⟩ := Prod.mk.inj (Option.some.inj hack)
    rw [Session.finished_frame]
    exact ⟨if_pos hused, fun _ hne hk ↦ hkept hne hk⟩
  | subscriptionAcked hack' =>
    obtain ⟨rfl, rfl⟩ := Prod.mk.inj (Option.some.inj (hack.symm.trans hack'))
    exact ⟨if_pos hused, fun _ hne hk ↦ hkept hne hk⟩

theorem Resumption.mem_released {limit : ℕ} {before : List (GenericPacket w)} {r : Handled w}
    {stored : GenericStorePacket w} (h : c.Resumption limit before r)
    (hget : c.store.get id = some stored) (hsize : limit < stored.size) : id ∈ released r.2 := by
  rw [h.releases]
  refine List.mem_map.mpr ⟨(id, stored), List.mem_filter.mpr ⟨IndexMap.get_eq_some.mp hget, ?_⟩, rfl⟩
  exact oversize_iff.mpr hsize

/-- What the resend drops is announced, whether it was in use or not. -/
theorem astray_resumption {limit : ℕ} {before : List (GenericPacket w)}
    {stored : GenericStorePacket w} (h : c.Resumption limit before (c', events))
    (hget : c.store.get id = some stored) (hsize : limit < stored.size)
    (hfree : c.pidMan.isUsedId id → ∃ kind, id ∈ c.awaiting kind)
    (hawaits : c'.session.awaits = c.session.awaits) : ¬ ExactlyReleased c c' events := by
  have hid := h.mem_released hget hsize
  intro hexact
  obtain ⟨kind, hk⟩ := hfree ((hexact.exact id).mp hid).1
  refine not_exactlyReleased hid (.inl ⟨kind, ?_⟩) hexact
  rw [hawaits]
  exact hk

theorem astray_ack (hc : c.Reading) {data : Bytes} {v : Version}
    (ha : c.arrival data = some (v, packet)) (hack : ackOf packet = some (kind, id))
    (hid : id ∈ c.awaiting kind) (hend : kind = .pubrec → ¬ continues packet)
    (hused : c.pidMan.isUsedId id) (hstep : c.step (.recv data) = .ret r)
    (hbusy : (∃ kind', kind' ≠ kind ∧ id ∈ c.awaiting kind') ∨
      ∃ stored, c.store.get id = some stored ∧ ¬ Answered stored packet) :
    ¬ ExactlyReleased c r.1 r.2.toEvents := by
  obtain ⟨-, c₀, hprep, hchange⟩ := (step_spec hc (.recv data)).of_ret hstep
  have hin : c.inputOf (.recv data) = .receive packet := by
    simp only [inputOf, ha, Option.map_some, Option.getD_some]
  rw [hin] at hchange
  obtain ⟨r', hr', hret⟩ := Outcome.bind_eq_ret.mp
    (show (c.recv data >>= fun r ↦ Outcome.ret (r.1.1, Reply.received r.1.2 r.2)) = .ret r
      from hstep)
  obtain rfl := Outcome.ret.inj hret
  obtain ⟨-, b, hdel⟩ := recv_delivers hc hr' ha
  have hn : packet ∈ notified r'.1.2 := by
    refine notified_ack hack ?_ r'.1 hdel
    cases kind <;> exact hid
  have hman : c₀.pidMan = c.pidMan := by rw [hprep.1]
  have hawaits : c₀.session.awaits = c.session.awaits := by
    rw [hprep.session]
  have hstored : c₀.session.stored = c.session.stored := by
    rw [hprep.session]
  rw [← hman] at hused
  obtain ⟨hrel, hkept⟩ := hchange.ends hack hend hn hused
  have hmem : id ∈ released r'.1.2 := by
    have hrel' : released r'.1.2 = [id] := hrel
    rw [hrel']
    exact List.mem_singleton_self id
  refine not_exactlyReleased hmem ?_
  rcases hbusy with ⟨kind', hne, hk⟩ | ⟨stored, hget, hno⟩
  · refine .inl ⟨kind', hkept kind' hne ?_⟩
    rw [hawaits]
    exact hk
  · right
    have hget' : c₀.session.stored id = some stored := by
      rw [hstored]
      exact hget
    have hsame := (hchange.concludes hack hn).1.removed stored hget'
    have hstill : r'.1.1.session.stored id = some stored := by
      by_contra hgone
      exact hno (hsame.mp hgone)
    exact Option.isSome_of_eq_some hstill

theorem not_exactlyReleased_of_astray (hc : c.Reading) (hs : c.GoesAstray op)
    (hstep : c.step op = .ret r) : ¬ ExactlyReleased c r.1 r.2.toEvents := by
  obtain ⟨hs, hmay⟩ := hs
  obtain ⟨-, c₀, hprep, hchange⟩ := (step_spec hc op).of_ret hstep
  have hawaits : c₀.session.awaits = c.session.awaits := by
    rw [hprep.session]
  have hsend {packet : GenericPacket w} (h : c.step (.send packet) = .ret r) :
      ∃ r', c.send packet = .ret r' ∧ r = (r'.1, .events r'.2) := by
    obtain ⟨r', hr', hret⟩ := Outcome.bind_eq_ret.mp
      (show (c.send packet >>= fun r ↦ Outcome.ret (r.1, Reply.events r.2)) = .ret r from h)
    exact ⟨r', hr', (Outcome.ret.inj hret).symm⟩
  have hclosed (h : c.step .notifyClosed = .ret r) : r.1.session = c.session.closed ∧
      ∀ id, id ∈ released r.2.toEvents ↔ id ∈ c.session.drained ∧ id ∈ c.session.used := by
    obtain ⟨r', hr', hret⟩ := Outcome.bind_eq_ret.mp
      (show (c.notifyClosed >>= fun r ↦ Outcome.ret (r.1, Reply.events r.2)) = .ret r from h)
    obtain rfl := Outcome.ret.inj hret
    obtain ⟨-, hsess, ids, hrep, hids⟩ := notifyClosed_spec.of_ret hr'
    have hrel : released r'.2 = ids := congrArg Report.released hrep
    refine ⟨hsess, fun id ↦ ?_⟩
    rw [← hids, ← hrel]
    rfl
  generalize hin : c.inputOf op = input at hs hchange
  cases hs with
  | turned hp haway hused hbusy =>
    obtain rfl := send_of_inputOf hin
    obtain ⟨r', hr', rfl⟩ := hsend hstep
    obtain ⟨hid, hb⟩ := astray_publish (send_publishFate hp (hmay _ rfl) r' hr') hused
      (fun _ ↦ hbusy) fun hno ↦ (hno haway).elim
    exact not_exactlyReleased hid hb
  | withdrawn hp haway hused hw =>
    obtain rfl := send_of_inputOf hin
    obtain ⟨r', hr', rfl⟩ := hsend hstep
    obtain ⟨hid, hb⟩ := astray_publish (send_publishFate hp (hmay _ rfl) r' hr') hused
      (fun h ↦ (haway h).elim) fun _ ↦ hw
    exact not_exactlyReleased hid hb
  | @unsubscribed packet id kind hp hst hused hbusy =>
    obtain rfl := send_of_inputOf hin
    obtain ⟨r', hr', rfl⟩ := hsend hstep
    obtain ⟨hsess, hrel⟩ := (send_subscriptionFate hp (hmay _ rfl) r' hr').refused hst
    have hid : id ∈ released r'.2 := by
      rw [hrel, if_pos hused]
      exact List.mem_singleton_self id
    refine not_exactlyReleased hid ?_
    rw [hsess]
    exact hbusy
  | resent hp hst hget hsize hfree =>
    obtain rfl := send_of_inputOf hin
    have hres := resumption_step hc (resumes_sent hp hst (hmay _ rfl)) r hstep
    exact astray_resumption hres hget hsize hfree ((hchange.awaits_connackSent hp).trans hawaits)
  | resumed hp hget hsize hfree =>
    obtain ⟨data, v, rfl, ha⟩ := arrival_of_inputOf hin
    have hres := resumption_step hc (.received ha hp) r hstep
    exact astray_resumption hres hget hsize hfree
      ((hchange.awaits_connackReceived hp).trans hawaits)
  | awaitedTwice hack hend hid hused hid' hne =>
    obtain ⟨data, v, rfl, ha⟩ := arrival_of_inputOf hin
    exact astray_ack hc ha hack hid hend hused hstep (.inl ⟨_, hne, hid'⟩)
  | keptOn hack hend hid hused hget hno =>
    obtain ⟨data, v, rfl, ha⟩ := arrival_of_inputOf hin
    exact astray_ack hc ha hack hid hend hused hstep (.inr ⟨_, hget, hno⟩)
  | closedStored hd hused hs =>
    obtain rfl := close_of_inputOf hin
    obtain ⟨hsess, hrel⟩ := hclosed hstep
    refine not_exactlyReleased ((hrel _).mpr ⟨hd, hused⟩) (.inr ?_)
    rw [hsess]
    exact hs
  | @closedAwaited id kind hd hused hk hid =>
    obtain rfl := close_of_inputOf hin
    obtain ⟨hsess, hrel⟩ := hclosed hstep
    refine not_exactlyReleased ((hrel _).mpr ⟨hd, hused⟩) (.inl ⟨kind, ?_⟩)
    rw [hsess]
    have hkept : c.session.closed.awaits kind = c.session.awaits kind := if_neg hk
    rw [hkept]
    exact hid
  | @released id hused hbusy =>
    obtain rfl := release_of_inputOf hin
    obtain ⟨r', hr', hret⟩ := Outcome.bind_eq_ret.mp
      (show (c.releaseIfUsed id >>= fun r ↦ Outcome.ret (r.1, Reply.events r.2)) = .ret r
        from hstep)
    obtain rfl := Outcome.ret.inj hret
    obtain ⟨-, -, hsess, hrep⟩ := releaseIfUsed_spec.of_ret hr'
    have hrel : released r'.2 = if c.pidMan.isUsedId id then [id] else [] :=
      congrArg Report.released hrep
    have hid : id ∈ released r'.2 := by
      rw [hrel, if_pos hused]
      exact List.mem_singleton_self id
    refine not_exactlyReleased hid ?_
    rw [hsess]
    exact hbusy

/-- The announcements of released identifiers are exact, unless the operation gives an identifier
back that is still tracked or stored, or drops a stored packet whose identifier was not in use. -/
theorem releases_exact_iff (h : Reachable (system w) c) (hstep : c.step op = .ret r)
    (hren : ¬ Renews c (report r.2.toEvents) (c.inputOf op)) :
    ExactlyReleased c r.1 r.2.toEvents ↔ ¬ c.GoesAstray op := by
  have hc := reachable_reading h
  constructor
  · intro hexact hs
    exact not_exactlyReleased_of_astray hc hs hstep hexact
  · intro hok
    exact exactlyReleased_of_not_astray hc hok hstep hren

theorem releases_exact_release : ∃ c : GenericConnection .u16, ∃ r,
    c.step (.releasePacketId 1) = .ret r ∧ 1 ∈ released r.2.toEvents ∧
      ExactlyReleased c r.1 r.2.toEvents := by
  obtain ⟨⟨trace, c⟩, hrun, hnone, hget, r, hstep, hid⟩ :
      ((system .u16).run (new .client .u16 .v311) [.acquirePacketId]).Attains fun r ↦
        ([AckKind.puback, .pubrec, .pubcomp, .suback, .unsuback].all
          fun kind ↦ r.2.awaiting kind = ∅) ∧ r.2.store.get 1 = none ∧
        (r.2.step (.releasePacketId 1)).Attains fun r' ↦ 1 ∈ released r'.2.toEvents := by
    decide +kernel
  have hinit : (system .u16).Init (new .client .u16 .v311) := ⟨.client, .v311, rfl⟩
  have hempty (kind : AckKind) (id : PacketId .u16) : id ∉ c.awaiting kind := by
    have h : c.awaiting kind = ∅ := by
      have hall := List.all_eq_true.mp hnone kind (by cases kind <;> simp)
      exact of_decide_eq_true hall
    rw [h]
    exact HashSet.notMem_empty id
  have hok : ¬ c.GoesAstray (.releasePacketId 1) := by
    intro h
    cases h.1 with
    | released _ hbusy =>
      rcases hbusy with ⟨kind, hk⟩ | hs
      · exact hempty kind 1 hk
      · have hsome : (c.store.get 1).isSome := hs
        rw [hget] at hsome
        cases hsome
  have hren : ¬ Renews c (report r.2.toEvents) (c.inputOf (.releasePacketId 1)) := by
    intro h
    cases h
  exact ⟨c, r, hstep, hid,
    (releases_exact_iff (Run.of_run hinit hrun).reachable hstep hren).mpr hok⟩

/-- The identifier of a PUBLISH that exceeds the receive maximum of the peer is announced as
released, while the PUBLISH stays in the store. -/
theorem withdrawn_publish_announced : ¬ ∀ (c : GenericConnection .u16) op r,
    Reachable (system .u16) c → c.step op = .ret r →
      ¬ Renews c (report r.2.toEvents) (c.inputOf op) → ExactlyReleased c r.1 r.2.toEvents := by
  intro h
  obtain ⟨q, _, q', _, ⟨trace, c⟩, hrun, r, hstep, hid, stored, hget, -⟩ :
      (V50.Publish.parse (w := .u16) 2 [0, 1, 0x61, 0, 1, 0]).unwrap.Attains fun q ↦
        (V50.Publish.parse (w := .u16) 2 [0, 1, 0x61, 0, 2, 0]).unwrap.Attains fun q' ↦
        (clientRun .v50 0 0 [5, 0x11, 0, 0, 0, 10] []
          [.recv [0x20, 6, 0, 0, 3, 0x21, 0, 1], .acquirePacketId, .send (.v50Publish q.1),
            .acquirePacketId]).Attains fun r ↦
          (r.2.step (.send (.v50Publish q'.1))).Attains fun r' ↦
            2 ∈ released r'.2.toEvents ∧ ∃ stored ∈ r'.1.store.get 2, True := by
    decide +kernel
  have hren : ¬ Renews c (report r.2.toEvents) (c.inputOf (.send (.v50Publish q'.1))) := by
    intro h
    cases h with
    | cleanSent hp => cases hp
  have hexact := h c _ r (run_of_clientRun hrun).reachable hstep hren
  cases hget.symm.trans (hexact.gone 2 hid).1

end MqttProtocolCore.Connection.GenericConnection
