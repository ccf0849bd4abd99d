import MqttProtocolCore.Connection.ClientRun
import MqttProtocolCore.Connection.PanicFreedom
import MqttProtocolCore.Connection.Releases
import MqttProtocolCore.Connection.Timers

namespace MqttProtocolCore.Connection.GenericConnection

open General Packet

variable {w : IdWidth} {c c' : GenericConnection w} {id : PacketId w} {r : Handled w}

def Occupies (c : GenericConnection w) (id : PacketId w) : Prop :=
  c.store.containsKey id ∨ ∃ kind, id ∈ c.awaiting kind

/-- Nothing is left of the session, and the application knows it. -/
structure NoResidue (c : GenericConnection w) (r : Handled w) : Prop where
  store : r.1.store.map.entries = []
  awaiting : ∀ kind id, id ∉ r.1.awaiting kind
  handled : ∀ id, id ∉ r.1.qos2PublishHandled
  free : ∀ id, c.Occupies id → ¬ r.1.pidMan.isUsedId id
  announced : ∀ id, c.Occupies id → (released r.2).count id = 1
  timers : ∀ kind, ¬ r.1.timerSet kind
  cancelled : ∀ kind, ¬ timersAfter c.timerSet r.2 kind

def ClosesClean (c : GenericConnection w) : Prop :=
  c.store.map.entries = [] ∧
    ∀ kind, ∀ id ∈ c.awaiting kind, id ≠ 0 ∧ c.pidMan.isUsedId id

theorem session_notifyClosed (h : c.notifyClosed = .ret r) : r.1.session = c.session.closed ∧
    ∀ id, id ∈ released r.2 ↔ id ∈ c.session.drained ∧ id ∈ c.session.used := by
  obtain ⟨-, hs, rel, hrep, hrel⟩ := notifyClosed_spec.of_ret h
  obtain rfl : released r.2 = rel := congrArg Report.released hrep
  exact ⟨hs, hrel⟩

theorem drained_iff (hk : ¬ c.needStore) : id ∈ c.session.drained ↔ ∃ kind, id ∈ c.awaiting kind := by
  have hd (kind : AckKind) : c.session.drains kind := by
    simp [Session.drains, session, hk]
  constructor
  · rintro ⟨kind, _, h⟩
    exact ⟨kind, h⟩
  · rintro ⟨kind, h⟩
    exact ⟨kind, hd kind, h⟩

theorem store_notifyClosed (h : c.notifyClosed = .ret r) : r.1.store = c.store := by
  rw [notifyClosed_frame r h]
  rfl

/-- What is left when the connection closes without a session to keep. -/
theorem notifyClosed_residue (hk : ¬ c.needStore) (h : c.notifyClosed = .ret r) :
    (∀ kind id, id ∉ r.1.awaiting kind) ∧ (∀ id, id ∉ r.1.qos2PublishHandled) ∧
      (∀ kind, ¬ r.1.timerSet kind) ∧ (∀ kind, ¬ timersAfter c.timerSet r.2 kind) ∧
      (∀ id, (∃ kind, id ∈ c.awaiting kind) → ¬ r.1.pidMan.isUsedId id) ∧
      ∀ id, (released r.2).count id = 1 ↔ (∃ kind, id ∈ c.awaiting kind) ∧ c.pidMan.isUsedId id := by
  obtain ⟨hs, hrel⟩ := session_notifyClosed h
  have hd (kind : AckKind) : c.session.drains kind := by
    simp [Session.drains, session, hk]
  refine ⟨fun kind id hid ↦ ?_, fun id hid ↦ ?_, (notifyClosed_timers r h).2, ?_, ?_, ?_⟩
  · have hid : id ∈ r.1.session.awaits kind := hid
    simp [hs, Session.closed, hd] at hid
  · have hid : id ∈ r.1.session.handled := hid
    have hkeeps : c.session.keeps = false := by simpa [session] using hk
    simp [hs, Session.closed, hkeeps] at hid
  · intro kind
    rw [← (paced_notifyClosed (q := True) r h).timers]
    exact (notifyClosed_timers r h).2 kind
  · intro id hid hu
    have hu : id ∈ r.1.session.used := hu
    rw [hs] at hu
    exact hu.2 ((drained_iff hk).mpr hid)
  · intro id
    have hcount : (released r.2).count id = 1 ↔ id ∈ released r.2 := by
      refine ⟨fun h ↦ ?_, List.count_eq_one_of_mem (frees_notifyClosed r h).once⟩
      exact List.count_pos_iff.mp (by omega)
    rw [hcount, hrel, drained_iff hk]
    exact Iff.rfl

/-- When the session is not kept, closing leaves nothing of it exactly when the store is empty and
every identifier that is awaited is in use. -/
theorem residue_iff (hk : ¬ c.needStore) :
    (∃ r, c.notifyClosed = .ret r ∧ NoResidue c r) ↔ c.ClosesClean := by
  constructor
  · rintro ⟨r, h, hr⟩
    refine ⟨by rw [← store_notifyClosed h, hr.store], fun kind id hid ↦ ⟨?_, ?_⟩⟩
    · rintro rfl
      exact hr.free 0 (.inr ⟨kind, hid⟩) PacketIdManager.isUsedId_zero
    · obtain ⟨-, -, -, -, -, hcount⟩ := notifyClosed_residue hk h
      exact ((hcount id).mp (hr.announced id (.inr ⟨kind, hid⟩))).2
  · rintro ⟨hstore, hused⟩
    have hsafe : ¬ ¬ 0 ∉ c.session.drained := by
      rw [not_not, drained_iff hk]
      rintro ⟨kind, h0⟩
      exact (hused kind 0 h0).1 rfl
    obtain ⟨r, h, -⟩ := notifyClosed_spec.exists_ret hsafe
    obtain ⟨hawait, hhandled, htimers, hcancelled, hfree, hcount⟩ := notifyClosed_residue hk h
    have hawaited {id : PacketId w} (h : c.Occupies id) : ∃ kind, id ∈ c.awaiting kind := by
      refine h.resolve_left fun hid ↦ ?_
      simp [GenericStore.containsKey, IndexMap.containsKey, IndexMap.keys, hstore] at hid
    refine ⟨r, h, ?_, hawait, hhandled, fun id hid ↦ hfree id (hawaited hid), fun id hid ↦ ?_,
      htimers, hcancelled⟩
    · rw [store_notifyClosed h, hstore]
    · obtain ⟨kind, hid⟩ := hawaited hid
      exact (hcount id).mpr ⟨⟨kind, hid⟩, (hused kind id hid).2⟩

/-- A PUBLISH waits for its acknowledgement when the connection closes. -/
theorem residue_iff_awaiting : ∃ (c : GenericConnection .u16) (r : Handled .u16),
    1 ∈ c.pidPuback ∧ c.notifyClosed = .ret r ∧ NoResidue c r := by
  obtain ⟨publish, _, ⟨trace, c⟩, hrun, hid, hk, hstore, hused⟩ :
      (V50.Publish.parse (w := .u16) 2 [0, 1, 0x61, 0, 1, 0]).unwrap.Attains fun publish ↦
      (clientRun .v50 2 0 [0] []
        [.recv [0x20, 3, 0, 0, 0], .registerPacketId 1, .send (.v50Publish publish.1)]).Attains
          fun r ↦ 1 ∈ r.2.pidPuback ∧ ¬ r.2.needStore ∧ r.2.store.map.entries = [] ∧
            [AckKind.puback, .pubrec, .pubcomp, .suback, .unsuback].all fun kind ↦
              (r.2.awaiting kind).elems.all fun id ↦ id ≠ 0 ∧ r.2.pidMan.isUsedId id := by
    decide +kernel
  have hclean : c.ClosesClean := by
    refine ⟨hstore, fun kind id hid ↦ ?_⟩
    have hkind := List.all_eq_true.mp hused kind (by cases kind <;> decide)
    simpa using List.all_eq_true.mp hkind id hid
  obtain ⟨r, hr, hres⟩ := (residue_iff hk).mpr hclean
  exact ⟨c, r, hid, hr, hres⟩

/-- A session with a packet in the store goes on, but is not kept any longer. -/
theorem residue_left : ¬ ∀ c : GenericConnection .u16, Reachable (system .u16) c → ¬ c.needStore →
    ∃ r, c.notifyClosed = .ret r ∧ NoResidue c r := by
  intro h
  obtain ⟨publish, _, ⟨trace, c⟩, hrun, hk, hstore⟩ :
      (V50.Publish.parse (w := .u16) 2 [0, 1, 0x61, 0, 1, 0]).unwrap.Attains fun publish ↦
      (clientRun .v50 0 0 [0] [.restorePackets [.v50Publish publish.1]]
        [.recv [0x20, 3, 1, 0, 0]]).Attains
          fun r ↦ ¬ r.2.needStore ∧ r.2.store.containsKey 1 := by
    decide +kernel
  have hreach := (run_of_clientRun hrun).reachable
  obtain ⟨r, hr, hres⟩ := h c hreach hk
  rw [← store_notifyClosed hr] at hstore
  simp [GenericStore.containsKey, IndexMap.containsKey, IndexMap.keys, hres.store] at hstore

end MqttProtocolCore.Connection.GenericConnection
