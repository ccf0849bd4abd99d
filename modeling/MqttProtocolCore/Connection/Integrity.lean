import MqttProtocolCore.Connection.ClientRun
import MqttProtocolCore.Connection.Frame

namespace MqttProtocolCore.Connection.GenericConnection

open General Packet

variable {w : IdWidth} {c c₀ : GenericConnection w} {packet : GenericPacket w} {id : PacketId w}
  {data : Bytes} {r : Handled w} {s : Session w} {rep : Report w}

/-- The bytes complete an acknowledgement for `id`, of a kind that is awaited. -/
def Acknowledges (c : GenericConnection w) (data : Bytes) (id : PacketId w) : Prop :=
  ∃ v packet kind, c.arrival data = some (v, packet) ∧ ackOf packet = some (kind, id) ∧
    id ∈ c.awaiting kind

/-- What the peer cannot do to an established session. -/
structure Intact (c : GenericConnection w) (data : Bytes) (r : Handled w) : Prop where
  stored : ∀ id stored, c.store.get id = some stored → r.1.store.get id ≠ some stored →
    c.Acknowledges data id
  used : ∀ id, c.pidMan.isUsedId id → ¬ r.1.pidMan.isUsedId id → c.Acknowledges data id
  limits : r.1.topicAliasSend = c.topicAliasSend ∧ r.1.publishSendMax = c.publishSendMax ∧
    r.1.maximumPacketSizeSend = c.maximumPacketSizeSend
  refused : ∀ v packet, c.arrival data = some (v, packet) →
    partOf packet = .connect ∨ partOf packet = .connack →
      errors r.2 ≠ [] ∧ r.1.store = c.store ∧ r.1.pidMan = c.pidMan

theorem Session.finished_stored (s : Session w) (v : Version) :
    (s.finished v).stored = s.stored ∧ (s.finished v).used = s.used := by
  unfold Session.finished
  split <;> exact ⟨rfl, rfl⟩

theorem Session.erase_stored_of_ne {response : ResponsePacket} {u : PacketId w} (h : u ≠ id) :
    (s.erase response id).stored u = s.stored u := Function.update_of_ne h _ _

/-- A received packet other than CONNECT and CONNACK takes from the session only what it
acknowledges. -/
theorem Change.keeps (h : Change c (.receive packet) s rep) (hs : c.status = .connected)
    (hp : partOf packet ≠ .connack) {u : PacketId w}
    (hu : ∀ kind, ackOf packet = some (kind, u) → u ∉ c.session.awaits kind) :
    s.stored u = c.session.stored u ∧ (u ∈ c.session.used → u ∈ s.used) := by
  have hne {kind : AckKind} {v : PacketId w} (hack : ackOf packet = some (kind, v))
      (hmem : v ∈ c.session.awaits kind) : u ≠ v := by
    rintro rfl
    exact hu kind hack hmem
  cases h with
  | connectReceived _ hc => rw [hs] at hc; cases hc
  | connackResumes h' => exact (hp (partOf_connack h')).elim
  | connackAnew h' => exact (hp (partOf_connack h')).elim
  | acknowledged hack _ _ hmem =>
    rw [(Session.finished_stored ..).1, (Session.finished_stored ..).2]
    exact ⟨Session.erase_stored_of_ne (hne hack hmem), fun h ↦ ⟨h, hne hack hmem⟩⟩
  | pubrecReceived hack _ _ hmem hs =>
    have hu := hne hack hmem
    rcases hs with ⟨-, -, rfl⟩ | ⟨-, -, _, -, -, ⟨-, rfl⟩ | ⟨-, -, _, -, rfl⟩⟩
    · exact ⟨Session.erase_stored_of_ne hu, fun h ↦ h⟩
    · exact ⟨Session.erase_stored_of_ne hu, fun h ↦ h⟩
    · exact ⟨(Function.update_of_ne hu _ _).trans (Session.erase_stored_of_ne hu), fun h ↦ h⟩
  | pubrecFailed _ hmem =>
    rw [(Session.finished_stored ..).1, (Session.finished_stored ..).2]
    exact ⟨Session.erase_stored_of_ne (hne rfl hmem), fun h ↦ ⟨h, hne rfl hmem⟩⟩
  | subscriptionAcked hack _ hmem => exact ⟨rfl, fun h ↦ ⟨h, hne hack hmem⟩⟩
  | _ => exact ⟨rfl, fun h ↦ h⟩

theorem errors_connack (hp : partOf packet = .connack) :
    (c.deliver packet).Ensures fun r ↦ errors r.2 = [] := by
  have hresume (c : GenericConnection w) (present : Bool) :
      (c.resumeSession present).Ensures fun r ↦ errors r.2 = [] := by
    unfold resumeSession
    split
    · intro r hr
      obtain ⟨-, -, _, _, hrep, -⟩ := sendStored_spec.of_ret hr
      exact congrArg Report.errors hrep
    · exact Outcome.ensures_ret.mpr rfl
  cases packet with
  | v311Connack p =>
    change (c.recvV311Connack p).Ensures _
    unfold recvV311Connack
    split
    · refine (hresume _ _).bind fun r hr ↦ Outcome.ensures_ret.mpr ?_
      simp [hr]
    · exact Outcome.ensures_ret.mpr (by simp)
  | v50Connack p =>
    change (c.recvV50Connack p).Ensures _
    unfold recvV50Connack
    split
    · obtain ⟨r₀, hr₀, -, -, ht⟩ := noteAll_spec (c := { c with status := .connected }) p.props
      rw [hr₀, Outcome.ret_bind]
      refine (hresume _ _).bind fun r hr ↦ Outcome.ensures_ret.mpr ?_
      simp [hr, ht.errors]
    · exact Outcome.ensures_ret.mpr (by simp)
  | _ => cases hp

theorem intact_of_idle (h : Idle c₀ r.1) (hs : c₀.store = c.store ∧ c₀.pidMan = c.pidMan)
    (hl : c₀.topicAliasSend = c.topicAliasSend ∧ c₀.publishSendMax = c.publishSendMax ∧
      c₀.maximumPacketSizeSend = c.maximumPacketSizeSend)
    (he : ∀ v packet, c.arrival data = some (v, packet) → errors r.2 ≠ []) : Intact c data r := by
  have hstore : r.1.store = c.store := (congrArg store h).trans hs.1
  have hman : r.1.pidMan = c.pidMan := (congrArg pidMan h).trans hs.2
  refine ⟨fun id stored hget hne ↦ ?_, fun id hu hne ↦ ?_, ⟨?_, ?_, ?_⟩, fun v packet ha _ ↦ ?_⟩
  · exact (hne (hstore ▸ hget)).elim
  · exact (hne (hman ▸ hu)).elim
  · exact (congrArg topicAliasSend h).trans hl.1
  · exact (congrArg publishSendMax h).trans hl.2.1
  · exact (congrArg maximumPacketSizeSend h).trans hl.2.2
  · exact ⟨he v packet ha, hstore, hman⟩

theorem refused_connect (hs : c.status ≠ .disconnected) (hp : partOf packet = .connect) :
    ∃ r, c.deliver packet = .ret r ∧ Refused c r := by
  cases packet with
  | v311Connect p =>
    obtain ⟨r, hr, href⟩ := c.handleV311Error_spec .protocolError
    exact ⟨r, (if_pos hs).trans hr, href⟩
  | v50Connect p =>
    obtain ⟨r, hr, href⟩ := c.handleV50Error_spec .protocolError
    exact ⟨r, (if_pos hs).trans hr, href⟩
  | _ => cases hp

/-- A session that is established stays intact exactly as long as no CONNACK is read: a CONNACK is
obeyed in every status. -/
theorem intact_iff (h : Reachable (system w) c) (hs : c.status = .connected) {rest : Bytes}
    (hr : c.recv data = .ret (r, rest)) : Intact c data r ↔
      ∀ v packet, c.arrival data = some (v, packet) → partOf packet ≠ .connack := by
  have hrecv := recv_spec (reachable_reading h) data
  constructor
  · intro hint v packet ha hp
    rw [ha] at hrecv
    obtain ⟨b, rest', -, -, hx⟩ := hrecv
    obtain ⟨r', hr', hret⟩ := Outcome.map_eq_ret.mp (hx.symm.trans hr)
    obtain rfl := (Prod.mk.inj hret).1
    exact (hint.refused v packet ha (.inr hp)).1 (errors_connack hp r' hr')
  · intro hno
    cases ha : c.arrival data with
    | none =>
      rw [ha] at hrecv
      obtain ⟨b, v, r', rest', -, -, hx, href⟩ := hrecv
      obtain rfl := (Prod.mk.inj (Outcome.ret.inj (hx.symm.trans hr))).1
      have hidle : Idle ({ c with packetBuilder := b }.determine v) r'.1 := by
        rcases href with href | ⟨rfl, rfl⟩
        · exact href.idle
        · exact .refl _
      exact intact_of_idle hidle ⟨rfl, rfl⟩ ⟨rfl, rfl, rfl⟩ (by simp [ha])
    | some a =>
      obtain ⟨v, packet⟩ := a
      have hconnack := hno v packet ha
      rw [ha] at hrecv
      obtain ⟨b, rest', -, -, hx⟩ := hrecv
      obtain ⟨r', hr', hret⟩ := Outcome.map_eq_ret.mp (hx.symm.trans hr)
      obtain rfl := (Prod.mk.inj hret).1
      by_cases hconnect : partOf packet = .connect
      · obtain ⟨r, hr, href⟩ := @refused_connect w ({ c with packetBuilder := b }.determine v) packet
          (by simp [determine, hs]) hconnect
        obtain rfl := Outcome.ret.inj (hr.symm.trans hr')
        exact intact_of_idle href.idle ⟨rfl, rfl⟩ ⟨rfl, rfl, rfl⟩ fun _ _ _ ↦ href.errors
      have hkeeps {u : PacketId w} (hu : ¬ c.Acknowledges data u) :=
        ((acts_deliver packet).of_ret hr').2.keeps hs hconnack (u := u) fun kind hack hmem ↦
          hu ⟨v, packet, kind, ha, hack, hmem⟩
      refine ⟨fun id stored hget hne ↦ ?_, fun id hu hne ↦ ?_,
        (handling_deliver hconnect hconnack r' hr').limits, fun v' p' ha' hp' ↦ ?_⟩
      · by_contra hack
        exact hne ((hkeeps hack).1.trans hget)
      · by_contra hack
        exact hne ((hkeeps hack).2 hu)
      · obtain ⟨rfl, rfl⟩ := Prod.mk.inj (Option.some.inj (ha.symm.trans ha'))
        exact (hp'.elim hconnect hconnack).elim

/-- The PUBACK of a PUBLISH takes it out of the store. -/
theorem intact_iff_puback : ∃ (c : GenericConnection .u16) (r : Handled .u16),
    c.status = .connected ∧ c.store.containsKey 1 ∧ ¬ r.1.store.containsKey 1 ∧
      Intact c [0x40, 2, 0, 1] r := by
  obtain ⟨publish, _, ⟨_, c⟩, hrun, hs, hstored, harr, ⟨r, rest⟩, hr, hgone⟩ :
      (V311.Publish.parse (w := .u16) 2 [0, 1, 0x61, 0, 1]).unwrap.Attains fun publish ↦
        (clientRun .v311 0 0 [] []
          [.recv [0x20, 2, 0, 0], .acquirePacketId, .send (.v311Publish publish.1)]).Attains fun r ↦
        r.2.status = .connected ∧ r.2.store.containsKey 1 ∧
        (r.2.arrival [0x40, 2, 0, 1]).all (fun a ↦ partOf a.2 ≠ .connack) ∧
        (r.2.recv [0x40, 2, 0, 1]).Attains fun r' ↦ ¬ r'.1.1.store.containsKey 1 := by
    decide +kernel
  have hreach := (run_of_clientRun hrun).reachable
  refine ⟨c, r, hs, hstored, hgone, (intact_iff hreach hs hr).mpr fun v packet ha ↦ ?_⟩
  simpa [ha] using harr

/-- A second CONNACK makes the client forget a stored PUBLISH. -/
theorem connack_clears_session : ¬ ∀ (c : GenericConnection .u16) data r rest,
    Reachable (system .u16) c → c.status = .connected → c.recv data = .ret (r, rest) →
      Intact c data r := by
  intro h
  obtain ⟨publish, _, ⟨_, c⟩, hrun, hs, harr, ⟨stored, hget, -⟩, ⟨r, rest⟩, hr, hgone⟩ :
      (V311.Publish.parse (w := .u16) 2 [0, 1, 0x61, 0, 1]).unwrap.Attains fun publish ↦
        (clientRun .v311 0 0 [] []
          [.recv [0x20, 2, 0, 0], .acquirePacketId, .send (.v311Publish publish.1)]).Attains fun r ↦
        r.2.status = .connected ∧ (r.2.arrival [0x20, 2, 0, 0]).all (fun a ↦ ackOf a.2 = none) ∧
        (∃ stored ∈ r.2.store.get 1, True) ∧
        (r.2.recv [0x20, 2, 0, 0]).Attains fun r' ↦ r'.1.1.store.get 1 = none := by
    decide +kernel
  have hreach := (run_of_clientRun hrun).reachable
  obtain ⟨v, packet, kind, ha, hack, -⟩ := (h c _ r rest hreach hs hr).stored 1 stored hget
    (by simp [hgone])
  rw [ha, Option.all_some] at harr
  cases (of_decide_eq_true harr).symm.trans hack

end MqttProtocolCore.Connection.GenericConnection
