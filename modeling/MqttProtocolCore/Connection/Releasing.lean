import MqttProtocolCore.Connection.Acks
import MqttProtocolCore.Connection.Bookkeeping
import MqttProtocolCore.Connection.Loss
import MqttProtocolCore.Connection.Resend
import MqttProtocolCore.Connection.SessionPresent
import MqttProtocolCore.Connection.Tracking

namespace MqttProtocolCore.Connection

open General Packet

variable {w : IdWidth}

structure Session.Discharges (s s' : Session w) (ids : List (PacketId w)) : Prop where
  exact : ∀ id, id ∈ ids ↔ id ∈ s.used ∧ id ∉ s'.used
  gone : ∀ id ∈ ids, ¬ s'.Busy id

namespace Session

variable {s s' s₁ : Session w} {id : PacketId w} {used : Bool}

theorem discharges_none (h : ∀ id ∈ s.used, id ∈ s'.used) : s.Discharges s' [] := by
  refine ⟨fun id ↦ ?_, fun id hid ↦ by cases hid⟩
  constructor
  · intro hid
    cases hid
  · intro ⟨hu, hno⟩
    exact (hno (h id hu)).elim

theorem discharges_free (hu : s₁.used = s.used) (hused : used ↔ id ∈ s.used)
    (hbusy : id ∈ s.used → ¬ s₁.Busy id) :
    s.Discharges (s₁.free id) (if used then [id] else []) := by
  by_cases hin : id ∈ s.used
  · rw [if_pos (hused.mpr hin)]
    refine ⟨fun u ↦ ?_, fun u hmem ↦ ?_⟩
    · rw [List.mem_singleton]
      constructor
      · intro heq
        subst heq
        exact ⟨hin, fun hmem ↦ hmem.2 rfl⟩
      · intro ⟨hmem, hno⟩
        by_contra hne
        exact hno ⟨hu ▸ hmem, hne⟩
    · obtain rfl := List.mem_singleton.mp hmem
      exact hbusy hin
  · rw [if_neg (mt hused.mp hin)]
    apply discharges_none
    intro u hmem
    refine ⟨hu ▸ hmem, fun heq ↦ hin ?_⟩
    obtain rfl := heq
    exact hmem

theorem Discharges.frame {ids : List (PacketId w)} (h : s.Discharges s' ids)
    (hs : s₁ = { s₁ with used := s'.used, awaits := s'.awaits, stored := s'.stored }) :
    s.Discharges s₁ ids := by
  rw [hs]
  exact ⟨h.exact, h.gone⟩

theorem Discharges.congr {ids : List (PacketId w)} (h : s.Discharges s' ids)
    (hu : s.used = s₁.used) : s₁.Discharges s' ids :=
  ⟨fun id ↦ hu ▸ h.exact id, h.gone⟩

theorem discharges_resends {limit : ℕ} {requested : List (GenericPacket w)}
    {released : List (PacketId w)} (h : s.Resends s' limit requested released)
    (hfree : ∀ id ∈ released, id ∈ s.used ∧ ∀ kind, id ∉ s.awaits kind) :
    s.Discharges s' released := by
  have hawaits : s'.awaits = s.awaits := by rw [h.state]
  refine ⟨fun id ↦ ?_, fun id hid hbusy ↦ ?_⟩
  · rw [h.used]
    constructor
    · intro hid
      exact ⟨(hfree id hid).1, fun hmem ↦ hmem.2 hid⟩
    · intro ⟨hmem, hno⟩
      by_contra hid
      exact hno ⟨hmem, hid⟩
  · rcases hbusy with ⟨kind, hk⟩ | hs
    · rw [hawaits] at hk
      exact (hfree id hid).2 kind hk
    · obtain ⟨packet, hget, hsize⟩ := (h.released id).mp hid
      rw [h.stored, hget, Option.filter_some] at hs
      simp [Nat.not_le.mpr hsize] at hs

theorem discharges_closed {released : List (PacketId w)}
    (h : ∀ id, id ∈ released ↔ id ∈ s.drained ∧ id ∈ s.used)
    (hfree : ∀ id ∈ s.drained, id ∈ s.used →
      s.stored id = none ∧ ∀ kind, ¬ s.drains kind → id ∉ s.awaits kind) :
    s.Discharges s.closed released := by
  refine ⟨fun id ↦ ?_, fun id hid hbusy ↦ ?_⟩
  · rw [h]
    constructor
    · intro ⟨hd, hu⟩
      exact ⟨hu, fun hmem ↦ hmem.2 hd⟩
    · intro ⟨hu, hno⟩
      refine ⟨?_, hu⟩
      by_contra hd
      exact hno ⟨hu, hd⟩
  · obtain ⟨hd, hu⟩ := (h id).mp hid
    obtain ⟨hnone, hkinds⟩ := hfree id hd hu
    rcases hbusy with ⟨kind, hk⟩ | hs
    · unfold closed at hk
      dsimp only at hk
      split at hk
      · cases hk
      · exact hkinds kind ‹_› hk
    · unfold closed at hs
      dsimp only at hs
      rw [hnone] at hs
      cases hs

end Session

namespace GenericConnection

variable {c c' : GenericConnection w} {packet : GenericPacket w} {op : Operation w}
  {input : Input w} {s : Session w} {rep : Report w} {id : PacketId w} {kind : AckKind} {qos : Qos}
  {stored : GenericStorePacket w}

inductive Strays (c : GenericConnection w) : Input w → Prop where
  | turned {packet : GenericPacket w} {id : PacketId w} {qos : Qos} :
      packet.publishOf = some (id, qos) → c.turnsAway packet → c.pidMan.isUsedId id →
      c.session.Busy id → Strays c (.send packet)
  | withdrawn {packet : GenericPacket w} {id : PacketId w} {qos : Qos} :
      packet.publishOf = some (id, qos) → ¬ c.turnsAway packet → c.pidMan.isUsedId id →
      c.withdraws packet → Strays c (.send packet)
  | unsubscribed {packet : GenericPacket w} {id : PacketId w} {kind : AckKind} :
      subscriptionOf packet = some (kind, id) → c.status ≠ .connected → c.pidMan.isUsedId id →
      c.session.Busy id → Strays c (.send packet)
  | resent {packet : GenericPacket w} {present : Bool} {id : PacketId w}
      {stored : GenericStorePacket w} :
      packet.connackOf = some present → c.status = .connecting → c.store.get id = some stored →
      c.maximumPacketSizeSend < stored.size →
      (c.pidMan.isUsedId id → ∃ kind, id ∈ c.awaiting kind) → Strays c (.send packet)
  | resumed {packet : GenericPacket w} {id : PacketId w} {stored : GenericStorePacket w} :
      packet.connackOf = some true → c.store.get id = some stored →
      limitAfter c.maximumPacketSizeSend packet < stored.size →
      (c.pidMan.isUsedId id → ∃ kind, id ∈ c.awaiting kind) → Strays c (.receive packet)
  | awaitedTwice {packet : GenericPacket w} {id : PacketId w} {kind kind' : AckKind} :
      ackOf packet = some (kind, id) → (kind = .pubrec → ¬ continues packet) →
      id ∈ c.awaiting kind → c.pidMan.isUsedId id → id ∈ c.awaiting kind' → kind' ≠ kind →
      Strays c (.receive packet)
  | keptOn {packet : GenericPacket w} {id : PacketId w} {kind : AckKind}
      {stored : GenericStorePacket w} :
      ackOf packet = some (kind, id) → (kind = .pubrec → ¬ continues packet) →
      id ∈ c.awaiting kind → c.pidMan.isUsedId id → c.store.get id = some stored →
      ¬ Answered stored packet → Strays c (.receive packet)
  | closedStored {id : PacketId w} :
      id ∈ c.session.drained → c.pidMan.isUsedId id → (c.store.get id).isSome → Strays c .close
  | closedAwaited {id : PacketId w} {kind : AckKind} :
      id ∈ c.session.drained → c.pidMan.isUsedId id → ¬ c.session.drains kind →
      id ∈ c.awaiting kind → Strays c .close
  | released {id : PacketId w} :
      c.pidMan.isUsedId id → c.session.Busy id → Strays c (.release id)

/-- The end of an exchange that no other packet or acknowledgement needs. -/
theorem not_busy_answered {response : ResponsePacket} (hres : responseOf packet = some response)
    (hone : ∀ kind', id ∈ c.session.awaits kind' → kind' = kind)
    (hans : ∀ stored, c.store.get id = some stored → Answered stored packet) :
    ¬ ((c.session.settle kind id).erase response id).Busy id := by
  intro hbusy
  rcases hbusy with ⟨kind', hk⟩ | hs
  · obtain ⟨hk, hne⟩ := Session.mem_awaits_settle.mp hk
    exact hne ⟨rfl, hone kind' hk⟩
  · simp only [Session.erase, Session.settle, Function.update_self] at hs
    cases hget : c.session.stored id with
    | none => simp [hget] at hs
    | some stored =>
      obtain ⟨response', hres', hsr⟩ := hans stored hget
      obtain rfl := Option.some.inj (hres'.symm.trans hres)
      simp [hget, hsr] at hs

theorem Change.discharges (h : Change c input s rep) (hok : ¬ Strays c input)
    (hren : ¬ Renews c rep input)
    (hpub : ∀ packet, input = .send packet → packet.publishOf = none ∧ subscriptionOf packet = none) :
    c.session.Discharges s rep.released := by
  have hone {packet : GenericPacket w} {kind : AckKind} {id : PacketId w}
      (hok : ¬ Strays c (.receive packet)) (hack : ackOf packet = some (kind, id))
      (hend : kind = .pubrec → ¬ continues packet) (hid : id ∈ c.session.awaits kind)
      (hused : id ∈ c.session.used) : ∀ kind', id ∈ c.session.awaits kind' → kind' = kind := by
    intro kind' hk
    by_contra hne
    exact hok (.awaitedTwice hack hend hid hused hk hne)
  have hans {packet : GenericPacket w} {kind : AckKind} {id : PacketId w}
      (hok : ¬ Strays c (.receive packet)) (hack : ackOf packet = some (kind, id))
      (hend : kind = .pubrec → ¬ continues packet) (hid : id ∈ c.session.awaits kind)
      (hused : id ∈ c.session.used) :
      ∀ stored, c.store.get id = some stored → Answered stored packet := by
    intro stored hget
    by_contra hno
    exact hok (.keptOn hack hend hid hused hget hno)
  have hanswered {packet : GenericPacket w} {kind : AckKind} {id : PacketId w}
      {response : ResponsePacket} (hok : ¬ Strays c (.receive packet))
      (hack : ackOf packet = some (kind, id)) (hend : kind = .pubrec → ¬ continues packet)
      (hres : responseOf packet = some response) (hid : id ∈ c.session.awaits kind) :
      c.session.Discharges (((c.session.settle kind id).erase response id).free id)
        (if c.pidMan.isUsedId id then [id] else []) := by
    apply Session.discharges_free
    · rfl
    · exact Iff.rfl
    · intro hused
      apply not_busy_answered hres
      · exact hone hok hack hend hid hused
      · exact hans hok hack hend hid hused
  cases h with
  | @connectSent packet clean hp hst =>
    cases clean with
    | true => exact (hren (.cleanSent hp hst (by simp))).elim
    | false => exact Session.discharges_none fun _ hu ↦ hu
  | @connectReceived packet clean v hp hst =>
    cases clean with
    | true => exact (hren (.cleanReceived hp hst (by simp))).elim
    | false => exact Session.discharges_none fun _ hu ↦ hu
  | connackSent hp hst hres =>
    refine (Session.discharges_resends hres fun id hid ↦ ?_).congr rfl
    obtain ⟨stored, hget, hsize⟩ := (hres.released id).mp hid
    by_contra hno
    refine hok (.resent hp hst hget hsize fun hused ↦ ?_)
    by_contra hnone
    exact hno ⟨hused, fun kind hk ↦ hnone ⟨kind, hk⟩⟩
  | connackResumes hp hres =>
    refine (Session.discharges_resends hres fun id hid ↦ ?_).congr rfl
    obtain ⟨stored, hget, hsize⟩ := (hres.released id).mp hid
    by_contra hno
    refine hok (.resumed hp hget hsize fun hused ↦ ?_)
    by_contra hnone
    exact hno ⟨hused, fun kind hk ↦ hnone ⟨kind, hk⟩⟩
  | connackAnew hp => exact (hren (.sessionDenied hp (by simp))).elim
  | publishRefused hp => cases (hpub _ rfl).1.symm.trans hp
  | publishWithdrawn hp => cases (hpub _ rfl).1.symm.trans hp
  | published hp => cases (hpub _ rfl).1.symm.trans hp
  | @pubrelSent packet id s₀ hp hused hs =>
    apply Session.discharges_none
    intro u hu
    rcases hs with ⟨-, rfl⟩ | ⟨-, -, stored, -, rfl⟩
    · split <;> exact hu
    · split <;> exact hu
  | subscribed hp => cases (hpub _ rfl).2.symm.trans hp
  | subscriptionRefused hp => cases (hpub _ rfl).2.symm.trans hp
  | @acknowledged packet kind id response hack hkind hres hid =>
    have hend : kind = .pubrec → ¬ continues packet := by
      intro h
      subst h
      simp at hkind
    rw [Session.finished_frame]
    exact (hanswered hok hack hend hres hid).frame rfl
  | pubrecReceived hack hres hcont hid hs =>
    apply Session.discharges_none
    intro u hu
    rcases hs with ⟨-, -, rfl⟩ | ⟨-, -, _, -, -, ⟨-, rfl⟩ | ⟨-, -, _, -, rfl⟩⟩
    · exact hu
    · exact hu
    · exact hu
  | @pubrecFailed packet hfail hid =>
    have hend : ¬ continues (.v50Pubrec packet) := by
      intro h
      rcases h with h | h
      · cases h
      · exact hfail h
    have hres : responseOf (.v50Pubrec packet) = some .v50Pubrec := rfl
    rw [Session.finished_frame]
    exact (hanswered hok rfl (fun _ ↦ hend) hres hid).frame rfl
  | @subscriptionAcked packet kind id hack hkind hid =>
    have hnone : responseOf packet = none := responseOf_subscription hack hkind
    have hend : kind = .pubrec → ¬ continues packet := by
      intro h
      subst h
      simp at hkind
    apply Session.discharges_free
    · rfl
    · exact Iff.rfl
    · intro hused hbusy
      rcases hbusy with ⟨kind', hk⟩ | hs
      · obtain ⟨hk, hne⟩ := Session.mem_awaits_settle.mp hk
        exact hne ⟨rfl, hone hok hack hend hid hused kind' hk⟩
      · obtain ⟨stored, hget⟩ := Option.isSome_iff_exists.mp hs
        obtain ⟨response, hres, -⟩ := hans hok hack hend hid hused stored hget
        cases hnone.symm.trans hres
  | closed h =>
    refine Session.discharges_closed h fun id hd hu ↦ ⟨?_, fun kind hk hid ↦ ?_⟩
    · by_contra hs
      exact hok (.closedStored hd hu (Option.isSome_iff_ne_none.mpr hs))
    · exact hok (.closedAwaited hd hu hk hid)
  | acquired => exact Session.discharges_none fun _ hu ↦ .inr hu
  | registered => exact Session.discharges_none fun _ hu ↦ .inr hu
  | released => exact Session.discharges_free rfl Iff.rfl fun hu hbusy ↦ hok (.released hu hbusy)
  | restored => exact Session.discharges_none fun _ hu ↦ foldl_restore_used _ hu
  | _ => exact Session.discharges_none fun _ hu ↦ hu

end GenericConnection

end MqttProtocolCore.Connection
