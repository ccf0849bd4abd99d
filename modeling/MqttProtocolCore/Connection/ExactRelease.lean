import MqttProtocolCore.Connection.Releases
import MqttProtocolCore.Connection.Releasing

namespace MqttProtocolCore.Connection.GenericConnection

open General Packet

variable {w : IdWidth} {c c' c₀ : GenericConnection w} {packet : GenericPacket w} {op : Operation w}
  {input : Input w} {s : Session w} {rep : Report w} {id : PacketId w} {kind : AckKind} {qos : Qos}
  {events : List (GenericEvent w)} {r : GenericConnection w × Reply w}

/-- The identifiers that are announced as released are those that were given up, each of them once,
and nothing tracks or stores them any more. -/
structure ExactlyReleased (c c' : GenericConnection w) (events : List (GenericEvent w)) : Prop where
  once : (released events).Nodup
  exact : ∀ id, id ∈ released events ↔ c.pidMan.isUsedId id ∧ ¬ c'.pidMan.isUsedId id
  gone : ∀ id ∈ released events, c'.store.get id = none ∧ ∀ kind, id ∉ c'.awaiting kind

theorem exactlyReleased_iff : ExactlyReleased c c' events ↔
    (released events).Nodup ∧ c.session.Discharges c'.session (released events) := by
  constructor
  · intro h
    refine ⟨h.once, h.exact, fun id hid hbusy ↦ ?_⟩
    obtain ⟨hnone, hkinds⟩ := h.gone id hid
    rcases hbusy with ⟨kind, hk⟩ | hs
    · exact hkinds kind hk
    · have hget : (c'.store.get id).isSome := hs
      rw [hnone] at hget
      cases hget
  · intro ⟨honce, hback⟩
    refine ⟨honce, hback.exact, fun id hid ↦ ⟨?_, fun kind hk ↦ ?_⟩⟩
    · by_contra hs
      exact hback.gone id hid (.inr (Option.isSome_iff_ne_none.mpr hs))
    · exact hback.gone id hid (.inl ⟨kind, hk⟩)

/-- The operation is one that goes astray, and the packet of a send is not turned down at once. -/
def GoesAstray (c : GenericConnection w) (op : Operation w) : Prop :=
  Strays c (c.inputOf op) ∧ ∀ packet, op = .send packet → c.MaySend packet

theorem strays_congr (h : Prepared c c₀) (hs : Strays c₀ input) : Strays c input := by
  have haway {packet : GenericPacket w} := @turnsAway_prepared w c packet c₀ h
  have hwithdraws {packet : GenericPacket w} := @withdraws_prepared w c packet c₀ h
  have hawaiting (kind : AckKind) : c₀.awaiting kind = c.awaiting kind := by
    rw [h.1]
    cases kind <;> rfl
  have hbusy (id : PacketId w) : c₀.session.Busy id ↔ c.session.Busy id := by
    rw [h.session]
    exact Iff.rfl
  have hdrained (id : PacketId w) : id ∈ c₀.session.drained ↔ id ∈ c.session.drained := by
    rw [h.session]
    exact Iff.rfl
  have hman : c₀.pidMan = c.pidMan := by rw [h.1]
  have hstore : c₀.store = c.store := by rw [h.1]
  have hstatus : c₀.status = c.status := by rw [h.1]
  cases hs with
  | turned hp ht hu hb =>
    rw [hman] at hu
    exact .turned hp (haway.mp ht) hu ((hbusy _).mp hb)
  | withdrawn hp ht hu hw =>
    rw [hwithdraws] at hw
    rw [hman] at hu
    exact .withdrawn hp (fun h ↦ ht (haway.mpr h)) hu hw
  | unsubscribed hp hst hu hb =>
    rw [hstatus] at hst
    rw [hman] at hu
    exact .unsubscribed hp hst hu ((hbusy _).mp hb)
  | resent hp hst hget hsize hfree =>
    rw [hstatus] at hst
    rw [hstore] at hget
    rw [h.limit] at hsize
    simp only [hman, hawaiting] at hfree
    exact .resent hp hst hget hsize hfree
  | resumed hp hget hsize hfree =>
    rw [hstore] at hget
    rw [h.limit] at hsize
    simp only [hman, hawaiting] at hfree
    exact .resumed hp hget hsize hfree
  | awaitedTwice hack hend hid hu hid' hne =>
    rw [hawaiting] at hid hid'
    rw [hman] at hu
    exact .awaitedTwice hack hend hid hu hid' hne
  | keptOn hack hend hid hu hget hans =>
    rw [hawaiting] at hid
    rw [hman] at hu
    rw [hstore] at hget
    exact .keptOn hack hend hid hu hget hans
  | closedStored hd hu hs =>
    rw [hman] at hu
    rw [hstore] at hs
    exact .closedStored ((hdrained _).mp hd) hu hs
  | closedAwaited hd hu hk hid =>
    rw [hman] at hu
    rw [hawaiting] at hid
    have hdrains : c₀.session.drains = c.session.drains := by
      rw [h.session]
      rfl
    rw [hdrains] at hk
    exact .closedAwaited ((hdrained _).mp hd) hu hk hid
  | released hu hb =>
    rw [hman] at hu
    exact .released hu ((hbusy _).mp hb)

theorem release_of_inputOf (h : c.inputOf op = .release id) : op = .releasePacketId id := by
  cases op with
  | releasePacketId u =>
    obtain rfl := Input.release.inj h
    rfl
  | recv data =>
    unfold inputOf at h
    cases ha : c.arrival data <;> simp [ha] at h
  | _ => cases h

/-- Apart from the close and the resend, at most one identifier is announced. -/
theorem Change.released_once (h : Change c input s rep) (hclose : input ≠ .close)
    (hsent : ∀ packet, input = .send packet → c.status = .connecting → packet.connackOf = none)
    (hreceived : ∀ packet, input = .receive packet → packet.connackOf ≠ some true) :
    rep.released.Nodup := by
  have hif {used : Bool} {id : PacketId w} :
      (if used then [id] else [] : List (PacketId w)).Nodup := by
    split
    · exact List.nodup_singleton id
    · exact List.nodup_nil
  cases h with
  | connackSent hp hst => cases (hsent _ rfl hst).symm.trans hp
  | connackResumes hp => exact (hreceived _ rfl hp).elim
  | closed => exact (hclose rfl).elim
  | publishRefused => exact hif
  | publishWithdrawn => exact List.nodup_singleton _
  | subscriptionRefused => exact hif
  | acknowledged => exact hif
  | pubrecFailed => exact hif
  | subscriptionAcked => exact hif
  | released => exact hif
  | _ => exact List.nodup_nil

theorem Resumption.once {limit : ℕ} {before : List (GenericPacket w)} {r : Handled w}
    (h : c.Resumption limit before r) : (released r.2).Nodup := by
  rw [h.releases]
  exact c.store.map.nodup.sublist (List.filter_sublist.map Prod.fst)

theorem resumes_sent {present : Bool} (hp : packet.connackOf = some present)
    (hst : c.status = .connecting) (hmay : c.MaySend packet) :
    c.Resumes (.send packet) c.maximumPacketSizeSend [packet] := by
  have hserver : serverOnly packet := by
    cases packet <;> first | rfl | cases hp
  exact .sent hp hmay.version hst (hmay.server hserver) hmay.size

theorem released_once (hc : c.Reading) (hmay : ∀ packet, op = .send packet → c.MaySend packet)
    (hstep : c.step op = .ret r) : (released r.2.toEvents).Nodup := by
  obtain ⟨-, c₀, hprep, hchange⟩ := (step_spec hc op).of_ret hstep
  by_cases hclose : c.inputOf op = .close
  · obtain rfl := close_of_inputOf hclose
    obtain ⟨r', hr', hret⟩ := Outcome.bind_eq_ret.mp
      (show (c.notifyClosed >>= fun r ↦ Outcome.ret (r.1, Reply.events r.2)) = .ret r from hstep)
    obtain rfl := Outcome.ret.inj hret
    exact (frees_notifyClosed r' hr').once
  by_cases hsent : ∀ packet, c.inputOf op = .send packet → c.status = .connecting →
      packet.connackOf = none
  swap
  · push Not at hsent
    obtain ⟨packet, hin, hst, hp⟩ := hsent
    obtain rfl := send_of_inputOf hin
    obtain ⟨present, hp⟩ := Option.ne_none_iff_exists'.mp hp
    exact (resumption_step hc (resumes_sent hp hst (hmay packet rfl)) r hstep).once
  by_cases hreceived : ∀ packet, c.inputOf op = .receive packet → packet.connackOf ≠ some true
  swap
  · push Not at hreceived
    obtain ⟨packet, hin, hp⟩ := hreceived
    obtain ⟨data, v, rfl, ha⟩ := arrival_of_inputOf hin
    exact (resumption_step hc (.received ha hp) r hstep).once
  have hstatus : c₀.status = c.status := by rw [hprep.1]
  exact hchange.released_once hclose (hstatus ▸ hsent) hreceived

theorem renews_prepared (h : Prepared c c₀) (hren : Renews c₀ rep input) : Renews c rep input := by
  have hstatus : c₀.status = c.status := by rw [h.1]
  cases hren with
  | cleanSent hp hst hr => exact .cleanSent hp (hstatus ▸ hst) hr
  | cleanReceived hp hst hr => exact .cleanReceived hp (hstatus ▸ hst) hr
  | sessionDenied hp hr => exact .sessionDenied hp hr

theorem discharges_kept {s : Session w} (hs : s = c.session ∨ ∃ stored, s = c.session.keep id stored) :
    s.used = c.session.used ∧ s.awaits = c.session.awaits := by
  rcases hs with rfl | ⟨stored, rfl⟩
  · exact ⟨rfl, rfl⟩
  · exact ⟨rfl, rfl⟩

theorem PublishFate.discharges {r : Handled w} (h : PublishFate c packet id qos r)
    (hp : packet.publishOf = some (id, qos)) (hok : ¬ Strays c (.send packet)) :
    c.session.Discharges r.1.session (released r.2) := by
  cases h with
  | unknown _ hs hrel =>
    rw [hs, hrel]
    exact Session.discharges_none fun _ hu ↦ hu
  | turned haway hused hs hrel =>
    have hback := @Session.discharges_free w c.session c.session id (c.pidMan.isUsedId id) rfl Iff.rfl
      fun hu hbusy ↦ hok (.turned hp haway hu hbusy)
    rw [if_pos hused] at hback
    rw [hs, hrel]
    exact hback
  | withdrawn haway hused hw => exact (hok (.withdrawn hp haway hused hw)).elim
  | @taken s haway hused _ hs hsess hrel =>
    rw [hsess, hrel, Session.counted_frame]
    apply Session.discharges_none
    intro u hu
    rw [← (discharges_kept hs).1] at hu
    exact hu

theorem SubscriptionFate.discharges {r : Handled w} (h : SubscriptionFate c kind id r)
    (hp : subscriptionOf packet = some (kind, id)) (hok : ¬ Strays c (.send packet)) :
    c.session.Discharges r.1.session (released r.2) := by
  by_cases hst : c.status = .connected
  · obtain ⟨hrel, hs⟩ := h.awaited hst
    rw [hrel]
    apply Session.discharges_none
    intro u hu
    rcases hs with hs | ⟨-, hs⟩
    · rw [hs]
      exact hu
    · rw [hs]
      exact hu
  · obtain ⟨hs, hrel⟩ := h.refused hst
    rw [hs, hrel]
    apply Session.discharges_free
    · rfl
    · exact Iff.rfl
    · exact fun hu hbusy ↦ hok (.unsubscribed hp hst hu hbusy)

theorem step_discharges (hc : c.Reading) (hmay : ∀ packet, op = .send packet → c.MaySend packet)
    (hok : ¬ Strays c (c.inputOf op)) (hstep : c.step op = .ret r)
    (hren : ¬ Renews c (report r.2.toEvents) (c.inputOf op)) :
    c.session.Discharges r.1.session (released r.2.toEvents) := by
  obtain ⟨-, c₀, hprep, hchange⟩ := (step_spec hc op).of_ret hstep
  by_cases hpub : ∀ packet, c.inputOf op = .send packet →
      packet.publishOf = none ∧ subscriptionOf packet = none
  · have hback := hchange.discharges (fun h ↦ hok (strays_congr hprep h))
      (fun h ↦ hren (renews_prepared hprep h)) hpub
    apply hback.congr
    rw [hprep.session]
  push Not at hpub
  obtain ⟨packet, hin, hpub⟩ := hpub
  obtain rfl := send_of_inputOf hin
  obtain ⟨r', hr', hret⟩ := Outcome.bind_eq_ret.mp
    (show (c.send packet >>= fun r ↦ Outcome.ret (r.1, Reply.events r.2)) = .ret r from hstep)
  obtain rfl := Outcome.ret.inj hret
  cases hp : packet.publishOf with
  | some p => exact (send_publishFate hp (hmay packet rfl) r' hr').discharges hp hok
  | none =>
    obtain ⟨p, hs⟩ := Option.ne_none_iff_exists'.mp (hpub hp)
    exact (send_subscriptionFate hs (hmay packet rfl) r' hr').discharges hs hok

/-- The announcements of an operation that does not go astray are exact. -/
theorem exactlyReleased_of_not_astray (hc : c.Reading) (hok : ¬ c.GoesAstray op)
    (hstep : c.step op = .ret r) (hren : ¬ Renews c (report r.2.toEvents) (c.inputOf op)) :
    ExactlyReleased c r.1 r.2.toEvents := by
  apply exactlyReleased_iff.mpr
  by_cases hmay : ∀ packet, op = .send packet → c.MaySend packet
  · have hstrays : ¬ Strays c (c.inputOf op) := fun h ↦ hok ⟨h, hmay⟩
    exact ⟨released_once hc hmay hstep, step_discharges hc hmay hstrays hstep hren⟩
  push Not at hmay
  obtain ⟨packet, rfl, hno⟩ := hmay
  obtain ⟨e, he⟩ := step_barred hno
  obtain rfl := Outcome.ret.inj (he.symm.trans hstep)
  exact ⟨List.nodup_nil, Session.discharges_none fun _ hu ↦ hu⟩

end MqttProtocolCore.Connection.GenericConnection
