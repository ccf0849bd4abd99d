import MqttProtocolCore.Connection.StepSpec

namespace MqttProtocolCore.Connection.GenericConnection

open General Packet

variable {w : IdWidth} {c c₀ : GenericConnection w} {packet : GenericPacket w} {op : Operation w}
  {present : Bool} {s : Session w} {rep : Report w} {r : GenericConnection w × Reply w}

inductive Passes (packet : GenericPacket w) : Operation w → List (GenericEvent w) → Prop where
  | sent {events : List (GenericEvent w)} :
      packet ∈ requested events → Passes packet (.send packet) events
  | received {data : Bytes} {events : List (GenericEvent w)} :
      packet ∈ notified events → Passes packet (.recv data) events

def limitWith (c : GenericConnection w) (packet : GenericPacket w) : Operation w → ℕ
  | .recv _ => limitAfter c.maximumPacketSizeSend packet
  | _ => c.maximumPacketSizeSend

/-- What the flag in the CONNACK says about the session: either the stored packets that the peer
takes are sent again and everything is kept, or nothing of an earlier session is used or left. -/
structure SessionAgrees (c c' : GenericConnection w) (limit : ℕ) (present : Bool)
    (events : List (GenericEvent w)) : Prop where
  resent : present → ∀ id stored, c.store.get id = some stored → stored.size ≤ limit →
    stored.toPacket ∈ requested events ∧ c'.store.get id = some stored
  kept : present → (∀ kind id, id ∈ c'.awaiting kind ↔ id ∈ c.awaiting kind) ∧
    ∀ id, id ∈ c'.qos2PublishHandled ↔ id ∈ c.qos2PublishHandled
  unsent : ¬ present → ∀ id stored, c.store.get id = some stored →
    stored.toPacket ∉ requested events
  emptied : ¬ present → (∀ id, c'.store.get id = none) ∧
    (∀ kind, Session.publishes kind → ∀ id, id ∉ c'.awaiting kind) ∧
    ∀ id, id ∉ c'.qos2PublishHandled

/-- A CONNACK without a session finds nothing that it would leave in place: a client only forgets
its own part, and a server nothing at all. -/
def NothingLeft (c : GenericConnection w) : Operation w → Prop
  | .send _ => (∀ id stored, c.store.get id = some stored → c.maximumPacketSizeSend < stored.size) ∧
      (∀ kind, Session.publishes kind → ∀ id, id ∉ c.awaiting kind) ∧
      ∀ id, id ∉ c.qos2PublishHandled
  | _ => ∀ id, id ∉ c.qos2PublishHandled

theorem connackOf_stored (stored : GenericStorePacket w) : stored.toPacket.connackOf = none := by
  cases stored <;> rfl

/-- A CONNACK that is sent leaves the session as it is and sends the stored packets. -/
theorem Change.of_connackSent (h : Change c (.send packet) s rep)
    (hp : packet.connackOf = some present) (hr : packet ∈ rep.requested) :
    ∃ req rel, rep.requested = packet :: req ∧ { c.session with status := .connected }.Resends s
      c.maximumPacketSizeSend req rel := by
  have hpart := partOf_connack hp
  cases h with
  | refused _ _ hs => exact absurd (hs _ hr).connack (by simp [hp])
  | idle _ _ hs => exact absurd (hs _ hr).connack (by simp [hp])
  | answered _ hs => exact absurd (hs _ hr).2.1 (by simp [hp])
  | connackSent _ _ hres => exact ⟨_, _, rfl, hres⟩
  | pubrecSent h' => cases hpart.symm.trans (partOf_ack h')
  | connectSent h' => cases hpart.symm.trans (partOf_connect h')
  | publishRefused h' => cases hpart.symm.trans (partOf_publish h')
  | publishWithdrawn h' => cases hpart.symm.trans (partOf_publish h')
  | published h' => cases hpart.symm.trans (partOf_publish h')
  | pubrelSent h' => cases hpart.symm.trans (partOf_pubrel h')
  | subscribed h' => cases hpart.symm.trans (partOf_subscription h')
  | subscriptionRefused h' => cases hpart.symm.trans (partOf_subscription h')

/-- A CONNACK that is received resumes the session, or starts a new one. -/
theorem Change.of_connackReceived {input : Input w} (h : Change c input s rep)
    (hp : packet.connackOf = some present) (hr : packet ∈ rep.notified) :
    if present then ∃ rel, { c.session with
        status := .connected
        quota := quotaAfter c.session.quota packet }.Resends s
          (limitAfter c.maximumPacketSizeSend packet) rep.requested rel
    else s = { c.session with
        status := .connected
        quota := quotaAfter c.session.quota packet }.clear ∧ rep.requested = [] := by
  have hpart := partOf_connack hp
  have hone {p : GenericPacket w} (h : packet ∈ [p]) : partOf p = .connack :=
    List.mem_singleton.mp h ▸ hpart
  cases h with
  | idle _ _ _ hs => exact absurd (hs _ hr).2.1 (by simp [hp])
  | answered _ _ hs => exact absurd (hs _ hr).2.1 (by simp [hp])
  | connackResumes h' hres =>
    obtain rfl := List.mem_singleton.mp hr
    obtain rfl := Option.some.inj (h'.symm.trans hp)
    exact ⟨_, hres⟩
  | connackAnew h' =>
    obtain rfl := List.mem_singleton.mp hr
    obtain rfl := Option.some.inj (h'.symm.trans hp)
    exact ⟨rfl, rfl⟩
  | connectReceived h' => cases (hone hr).symm.trans (partOf_connect h')
  | publishReceived _ h' =>
    dsimp only at hr
    split at hr
    · cases hr
    · cases (hone hr).symm.trans (partOf_publish h')
  | acknowledged h' => cases (hone hr).symm.trans (partOf_ack h')
  | pubrecReceived h' => cases (hone hr).symm.trans (partOf_ack h')
  | pubrecFailed => cases hone hr
  | pubrelReceived h' => cases (hone hr).symm.trans (partOf_pubrel h')
  | subscriptionAcked h' => cases (hone hr).symm.trans (partOf_ack h')
  | _ => cases hr

theorem sessionAgrees_resends {s₀ : Session w} {limit : ℕ} {c' : GenericConnection w}
    {events : List (GenericEvent w)} {req : List (GenericPacket w)} {rel : List (PacketId w)}
    (hs : s₀.stored = c.session.stored ∧ s₀.awaits = c.session.awaits ∧
      s₀.handled = c.session.handled)
    (hres : s₀.Resends c'.session limit req rel) (hreq : req ⊆ requested events) :
    SessionAgrees c c' limit true events := by
  obtain ⟨hst, haw, hh⟩ := hs
  have hstate := hres.state
  refine ⟨fun _ id stored hget hsize ↦ ?_, fun _ ↦ ⟨fun kind id ↦ ?_, fun id ↦ ?_⟩, by simp,
    by simp⟩
  · have hget' : s₀.stored id = some stored := by rw [hst]; exact hget
    refine ⟨hreq ((hres.requested _).mpr ⟨id, stored, hget', hsize, rfl⟩), ?_⟩
    change c'.session.stored id = some stored
    rw [hres.stored, hget']
    simp [Option.filter, hsize]
  · change id ∈ c'.session.awaits kind ↔ id ∈ c.session.awaits kind
    rw [hstate, haw]
  · change id ∈ c'.session.handled ↔ id ∈ c.session.handled
    rw [hstate, hh]

/-- The two ends agree on the session, except that a CONNACK without a session leaves behind what
the connection has not cleared before. -/
theorem sessionAgrees_iff (h : Reachable (system w) c) (hstep : c.step op = .ret r)
    (hp : packet.connackOf = some present) (hpass : Passes packet op r.2.toEvents) :
    SessionAgrees c r.1 (c.limitWith packet op) present r.2.toEvents ↔
      (¬ present → c.NothingLeft op) := by
  obtain ⟨-, c₀, hprep, hchange⟩ := (step_spec (reachable_reading h) op).of_ret hstep
  cases hpass with
  | sent hreq =>
    obtain ⟨req, rel, hrep, hres⟩ := hchange.of_connackSent hp hreq
    rw [hprep.session, hprep.limit] at hres
    change requested r.2.toEvents = packet :: req at hrep
    cases present with
    | true =>
      simp only [not_true, false_implies, iff_true]
      refine sessionAgrees_resends ?_ hres ?_
      · exact ⟨rfl, rfl, rfl⟩
      · rw [hrep]
        exact List.subset_cons_self _ _
    | false =>
      have hstate := hres.state
      have hne (stored : GenericStorePacket w) : stored.toPacket ≠ packet := by
        rintro rfl
        cases (connackOf_stored stored).symm.trans hp
      constructor
      · rintro ⟨-, -, hun, hem⟩
        obtain ⟨-, haw, hh⟩ := hem (by simp)
        refine fun _ ↦ ⟨fun id stored hget ↦ ?_, fun kind hk id ↦ ?_, fun id ↦ ?_⟩
        · by_contra hsize
          refine hun (by simp) id stored hget ?_
          rw [hrep]
          exact List.mem_cons_of_mem _ ((hres.requested _).mpr ⟨id, stored, hget, by
            simpa using hsize, rfl⟩)
        · have : id ∉ r.1.session.awaits kind := haw kind hk id
          rw [hstate] at this
          exact this
        · have : id ∉ r.1.session.handled := hh id
          rw [hstate] at this
          exact this
      · intro hleft
        obtain ⟨hsize, haw, hh⟩ := hleft (by simp)
        refine ⟨by simp, by simp, fun _ id stored hget hmem ↦ ?_, fun _ ↦ ⟨fun id ↦ ?_,
          fun kind hk id ↦ ?_, fun id ↦ ?_⟩⟩
        · rw [hrep] at hmem
          obtain ⟨id', stored', hget', hsize', heq⟩ := (hres.requested _).mp
            ((List.mem_cons.mp hmem).resolve_left (hne stored))
          have := hsize id' stored' hget'
          omega
        · change r.1.session.stored id = none
          rw [hres.stored]
          cases hget : c.session.stored id with
          | none => simp
          | some stored =>
            have := hsize id stored hget
            simp [Option.filter, this]
        · change id ∉ r.1.session.awaits kind
          rw [hstate]
          exact haw kind hk id
        · change id ∉ r.1.session.handled
          rw [hstate]
          exact hh id
  | received hnot =>
    have hrecv := hchange.of_connackReceived hp hnot
    rw [hprep.session, hprep.limit] at hrecv
    cases present with
    | true =>
      obtain ⟨rel, hres⟩ := hrecv
      simp only [not_true, false_implies, iff_true]
      refine sessionAgrees_resends ?_ hres (List.Subset.refl _)
      exact ⟨rfl, rfl, rfl⟩
    | false =>
      obtain ⟨hs, hreq⟩ := hrecv
      constructor
      · rintro ⟨-, -, -, hem⟩ - id
        have : id ∉ r.1.session.handled := (hem (by simp)).2.2 id
        rw [hs] at this
        exact this
      · intro hleft
        refine ⟨by simp, by simp, fun _ id stored hget hmem ↦ ?_, fun _ ↦ ⟨fun id ↦ ?_,
          fun kind hk id ↦ ?_, fun id ↦ ?_⟩⟩
        · change requested r.2.toEvents = [] at hreq
          rw [hreq] at hmem
          cases hmem
        · change r.1.session.stored id = none
          rw [hs]
          rfl
        · change id ∉ r.1.session.awaits kind
          rw [hs]
          simp [Session.clear, hk]
        · change id ∉ r.1.session.handled
          rw [hs]
          exact hleft (by simp) id

/-- A server that accepts the session sends the PUBLISH that it has stored. -/
theorem sessionAgrees_iff_connack : ∃ (c c' : GenericConnection .u16) (events : _) (stored : _),
    c.store.get 1 = some stored ∧ stored.toPacket ∈ requested events ∧
      SessionAgrees c c' c.maximumPacketSizeSend true events := by
  obtain ⟨p, _, publish, _, ⟨_, c⟩, hrun, hp, r, hstep, hpass, stored, hget, hsent⟩ :
      (V311.Connack.build true .accepted).unwrap.Attains fun p ↦
        (V311.Publish.parse (w := .u16) 2 [0, 1, 0x61, 0, 1]).unwrap.Attains fun publish ↦
        ((system .u16).run (new .server .u16 .v311)
          [.setOfflinePublish true, .acquirePacketId, .send (.v311Publish publish.1),
            .recv [0x10, 0x0d, 0, 4, 0x4d, 0x51, 0x54, 0x54, 4, 0, 0, 0, 0, 1, 0x61]]).Attains fun r ↦
        (GenericPacket.v311Connack p : GenericPacket .u16).connackOf = some true ∧
        (r.2.step (.send (.v311Connack p))).Attains fun r' ↦
          GenericPacket.v311Connack p ∈ requested r'.2.toEvents ∧
          ∃ stored ∈ r.2.store.get 1, stored.toPacket ∈ requested r'.2.toEvents := by
    decide +kernel
  have hreach := (Run.of_run (S := system .u16) ⟨.server, .v311, rfl⟩ hrun).reachable
  refine ⟨c, r.1, r.2.toEvents, stored, hget, hsent, ?_⟩
  exact (sessionAgrees_iff hreach hstep hp (.sent hpass)).mpr fun h ↦ (h rfl).elim

/-- A server that denies the session sends its stored packets all the same. -/
theorem session_resent_without_present : ¬ ∀ (c : GenericConnection .u16) op r packet present,
    Reachable (system .u16) c → c.step op = .ret r → packet.connackOf = some present →
    Passes packet op r.2.toEvents →
    SessionAgrees c r.1 (c.limitWith packet op) present r.2.toEvents := by
  intro h
  obtain ⟨p, _, publish, _, ⟨_, c⟩, hrun, hp, r, hstep, hpass, stored, hget, hsent⟩ :
      (V311.Connack.build false .accepted).unwrap.Attains fun p ↦
        (V311.Publish.parse (w := .u16) 2 [0, 1, 0x61, 0, 1]).unwrap.Attains fun publish ↦
        ((system .u16).run (new .server .u16 .v311)
          [.setOfflinePublish true, .acquirePacketId, .send (.v311Publish publish.1),
            .recv [0x10, 0x0d, 0, 4, 0x4d, 0x51, 0x54, 0x54, 4, 0, 0, 0, 0, 1, 0x61]]).Attains fun r ↦
        (GenericPacket.v311Connack p : GenericPacket .u16).connackOf = some false ∧
        (r.2.step (.send (.v311Connack p))).Attains fun r' ↦
          GenericPacket.v311Connack p ∈ requested r'.2.toEvents ∧
          ∃ stored ∈ r.2.store.get 1, stored.toPacket ∈ requested r'.2.toEvents := by
    decide +kernel
  have hreach := (Run.of_run (S := system .u16) ⟨.server, .v311, rfl⟩ hrun).reachable
  exact (h c _ r _ false hreach hstep hp (.sent hpass)).unsent (by simp) 1 stored hget hsent

end MqttProtocolCore.Connection.GenericConnection
