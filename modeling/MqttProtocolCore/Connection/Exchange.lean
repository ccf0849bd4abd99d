import MqttProtocolCore.Connection.ClientRun
import MqttProtocolCore.Connection.Tracking

namespace MqttProtocolCore.Connection.GenericConnection

open General Packet

variable {w : IdWidth} {c c' : GenericConnection w} {op : Operation w} {packet : GenericPacket w}
  {s : Session w} {rep : Report w} {u : PacketId w} {stored : GenericStorePacket w}

/-- A stored packet that carries an exchange of quality of service 2 on. -/
def Carries (stored : GenericStorePacket w) : Prop :=
  restoredAck stored = some .pubrec ∨ restoredAck stored = some .pubcomp

def Restarts (events : List (GenericEvent w)) : Prop :=
  (∃ p ∈ requested events, p.connectOf = some true) ∨
    ∃ p ∈ notified events, p.connectOf = some true ∨ p.connackOf = some false

def Begins (t : Transition (GenericConnection w) (Operation w) (Reply w)) (u : PacketId w) : Prop :=
  t.before.store.get u = none ∧
    ∃ stored, t.after.store.get u = some stored ∧ restoredAck stored = some .pubrec

/-- The exchanges that were begun in this session, and whose identifiers have not been announced as
released. -/
def readExchanges (exchanges : Set (PacketId w))
    (t : Transition (GenericConnection w) (Operation w) (Reply w)) : Set (PacketId w) :=
  {u | (u ∈ exchanges ∨ Begins t u) ∧ u ∉ released t.output.toEvents ∧ ¬ Restarts t.output.toEvents}

/-- A PUBREC erases the PUBLISH of an open exchange, and no PUBREL is stored in its place. -/
def Abandons (p : GenericConnection w × Set (PacketId w)) (op : Operation w) : Prop :=
  ∃ packet u stored, p.1.inputOf op = .receive packet ∧ ackOf packet = some (.pubrec, u) ∧
    continues packet ∧ u ∈ p.2 ∧ u ∈ p.1.pidPubrec ∧ p.1.store.get u = some stored ∧
    stored.responsePacket = responseOf packet ∧ ¬ (p.1.FollowsUp packet u ∧ p.1.needStore)

/-- Every open exchange has its PUBLISH or its PUBREL in the store. -/
structure Carried (c : GenericConnection w) (exchanges : Set (PacketId w)) : Prop where
  used : ∀ u ∈ exchanges, c.pidMan.isUsedId u
  stored : ∀ u ∈ exchanges, ∃ stored, c.store.get u = some stored ∧ Carries stored

theorem carries_pubrel (h : stored.toPacket.pubrelOf = some u) : Carries stored := by
  cases stored with
  | v311Publish p => cases h
  | v50Publish p => cases h
  | v311Pubrel p => exact .inr rfl
  | v50Pubrel p => exact .inr rfl

theorem Renews.restarts {input : Input w} {events : List (GenericEvent w)}
    (h : Renews c (report events) input) : Restarts events := by
  cases h with
  | cleanSent hp _ hm => exact .inl ⟨_, hm, hp⟩
  | cleanReceived hp _ hm => exact .inr ⟨_, hm, .inl hp⟩
  | sessionDenied hp hm => exact .inr ⟨_, hm, .inr hp⟩

/-- A PUBREC that is followed up leaves a packet in the store, or releases the identifier. -/
theorem Change.followed (h : Change c (.receive packet) s rep)
    (hack : ackOf packet = some (.pubrec, u)) (hf : c.FollowsUp packet u) (hk : c.needStore)
    (hu : c.session.stored u = some stored) : s.stored u = some stored ∨
      (∃ p : GenericStorePacket w, s.stored u = some p ∧ p.toPacket.pubrelOf = some u) ∨
      u ∈ rep.released := by
  have hpart := partOf_ack hack
  cases h with
  | connectReceived hp => cases hpart.symm.trans (partOf_connect hp)
  | connackResumes hp => cases hpart.symm.trans (partOf_connack hp)
  | connackAnew hp => cases hpart.symm.trans (partOf_connack hp)
  | acknowledged hack' hkind =>
    obtain ⟨rfl, -⟩ := Prod.mk.inj (Option.some.inj (hack.symm.trans hack'))
    rcases hkind with h | h <;> cases h
  | pubrecReceived hack' _ _ _ hs =>
    obtain ⟨-, rfl⟩ := Prod.mk.inj (Option.some.inj (hack.symm.trans hack'))
    rcases hs with ⟨-, hno, -⟩ | ⟨-, -, _, hp, -, ⟨hno, -⟩ | ⟨-, -, p, rfl, rfl⟩⟩
    · exact (hno hf).elim
    · exact (hno hk).elim
    · exact .inr (.inl ⟨p, Function.update_self .., hp⟩)
  | pubrecFailed =>
    cases hack
    right; right
    have hused := hf.2.1
    simp [hused]
  | _ => exact .inl hu

theorem step_carried (hc : c.Reading) {exchanges : Set (PacketId w)} (h : Carried c exchanges)
    (hok : ¬ Abandons (c, exchanges) op) : (c.step op).Ensures fun r ↦
      Carried r.1 (readExchanges exchanges ⟨c, op, r.1, r.2⟩) := by
  intro r hr
  obtain ⟨-, c₀, hprep, hchange⟩ := (step_spec hc op).of_ret hr
  have hsess := hprep.session
  constructor
  · rintro u ⟨hu | ⟨hn, stored, hs, -⟩, hrel, hno⟩
    · have hu₀ : u ∈ c₀.session.used := by
        rw [hsess]
        exact h.used u hu
      rcases hchange.used_kept hu₀ with h' | h' | h'
      · exact h'
      · exact (hrel h').elim
      · exact (hno h'.restarts).elim
    · have hn₀ : c₀.session.stored u = none := by
        rw [hsess]
        exact hn
      rcases hchange.stored_new hn₀ hs with h' | h'
      · exact h'
      · exact (hrel h').elim
  · rintro u ⟨hu | ⟨-, stored, hs, hk⟩, hrel, hno⟩
    swap
    · exact ⟨stored, hs, .inl hk⟩
    obtain ⟨stored, hget, hcarries⟩ := h.stored u hu
    have hu₀ : c₀.session.stored u = some stored := by
      rw [hsess]
      exact hget
    rcases hchange.stored_kept hu₀ with h' | h' | h' | ⟨packet, hin, kind, hack, hmem, -, hres, hend⟩
    · exact ⟨stored, h', hcarries⟩
    · exact (hrel h').elim
    · exact (hno h'.restarts).elim
    have hused := h.used u hu
    rw [hprep.1] at hmem hend
    obtain ⟨rfl, hcont⟩ := hend.resolve_right fun hfree ↦ hfree hused
    have hfollow : c.FollowsUp packet u ∧ c.needStore := by
      by_contra hno'
      exact hok ⟨packet, u, stored, hin, hack, hcont, hu, hmem, hget, hres, hno'⟩
    rw [hin] at hchange
    have hf₀ : c₀.FollowsUp packet u ∧ c₀.needStore := by
      rw [hprep.1]
      exact hfollow
    rcases hchange.followed hack hf₀.1 hf₀.2 hu₀ with h' | ⟨p, hp, hrelease⟩ | h'
    · exact ⟨stored, h', hcarries⟩
    · exact ⟨p, hp, carries_pubrel hrelease⟩
    · exact (hrel h').elim

/-- In every run in which no PUBREC abandons an exchange, each open one can be continued from the
store. -/
theorem exchange_carried {trace : List (Transition _ _ _)} {exchanges : Set (PacketId w)}
    (h : Run ((system w).monitor ∅ readExchanges) (fun p op ↦ ¬ Abandons p op) trace (c, exchanges)) :
    Carried c exchanges := by
  refine (h.monitored (I := fun c exchanges ↦ c.Reading ∧ Carried c exchanges) ?_ ?_).2
  · rintro _ ⟨role, version, rfl⟩
    exact ⟨⟨[], .header⟩, by simp, by simp⟩
  · intro c exchanges op ⟨hc, h⟩ hok r hr
    exact ⟨step_reading hc op r hr, step_carried hc h hok r hr⟩

/-- The connection answers by itself, from the first operation on. -/
def respondsItself (c : GenericConnection w) : Operation w → Bool
  | .setAutoPubResponse enable => enable
  | _ => c.autoPubResponse

theorem exchange_carried_offline : ∃ (c : GenericConnection .u16) (exchanges : Set (PacketId .u16)),
    exchanges.Nonempty ∧ Carried c exchanges := by
  obtain ⟨p, _, ⟨c₁, o₁⟩, h₁, ⟨c₂, o₂⟩, h₂, hnone, ⟨c₃, o₃⟩, h₃, ⟨stored, hget, hk⟩, hrel, hreq,
      hnot⟩ :
      (V311.Publish.parse (w := .u16) 4 [0, 1, 0x61, 0, 1]).unwrap.Attains fun p ↦
        ((new .client .u16 .v311).step (.setOfflinePublish true)).Attains fun r₁ ↦
        (r₁.1.step .acquirePacketId).Attains fun r₂ ↦ r₂.1.store.get 1 = none ∧
        (r₂.1.step (.send (.v311Publish p.1))).Attains fun r₃ ↦
        (∃ stored ∈ r₃.1.store.get 1, restoredAck stored = some .pubrec) ∧
          released r₃.2.toEvents = [] ∧ requested r₃.2.toEvents = [] ∧
          notified r₃.2.toEvents = [] := by
    decide +kernel
  have hcalm {p : GenericConnection .u16 × Set (PacketId .u16)} {op : Operation .u16}
      (h : ∀ packet, p.1.inputOf op ≠ .receive packet) : ¬ Abandons p op :=
    fun ⟨packet, _, _, hin, _⟩ ↦ h packet hin
  have hstart : Run ((system .u16).monitor ∅ readExchanges) (fun p op ↦ ¬ Abandons p op) []
      (new .client .u16 .v311, ∅) := .init ⟨⟨.client, .v311, rfl⟩, rfl⟩
  obtain ⟨_, hrun₁⟩ := run_step hstart (hcalm (by simp [inputOf])) h₁
  obtain ⟨_, hrun₂⟩ := run_step hrun₁ (hcalm (by simp [inputOf])) h₂
  obtain ⟨_, hrun₃⟩ := run_step hrun₂ (hcalm (by simp [inputOf])) h₃
  refine ⟨c₃, _, ⟨1, ?_⟩, exchange_carried hrun₃⟩
  exact ⟨.inr ⟨hnone, stored, hget, hk⟩, by simp [hrel], by simp [hreq, hnot, Restarts]⟩

instance {events : List (GenericEvent w)} : Decidable (Restarts events) :=
  inferInstanceAs (Decidable (_ ∨ _))

/-- The reply ends no exchange with the identifier. -/
def LeavesOpen (u : PacketId w) (reply : Reply w) : Prop :=
  u ∉ released reply.toEvents ∧ ¬ Restarts reply.toEvents

instance {reply : Reply w} : Decidable (LeavesOpen u reply) :=
  inferInstanceAs (Decidable (_ ∧ _))

theorem mem_foldl_exchanges {trace : List (Transition (GenericConnection w) (Operation w) (Reply w))}
    {exchanges : Set (PacketId w)} (hu : u ∈ exchanges) (h : ∀ t ∈ trace, LeavesOpen u t.output) :
    u ∈ trace.foldl readExchanges exchanges := by
  induction trace generalizing exchanges with
  | nil => exact hu
  | cons t trace ih =>
    obtain ⟨ht, h⟩ := List.forall_mem_cons.mp h
    exact ih ⟨.inl hu, ht⟩ h

/-- A PUBREC that arrives after DISCONNECT was sent erases the PUBLISH, and no PUBREL follows. -/
theorem exchange_abandoned : ¬ ∀ (c : GenericConnection .u16) (exchanges : Set (PacketId .u16)) trace,
    Run ((system .u16).monitor ∅ readExchanges) (fun p op ↦ p.1.respondsItself op) trace
      (c, exchanges) → Carried c exchanges := by
  intro h
  obtain ⟨publish, _, disconnect, _, ⟨_, c₁⟩, h₁, hok₁, hnone, hauto, ⟨c₂, o₂⟩, h₂,
      ⟨stored, hget, hk⟩, hopen, ⟨trace, c₃⟩, h₃, hok₃, hquiet, hgone⟩ :
      (V311.Publish.parse (w := .u16) 4 [0, 1, 0x61, 0, 1]).unwrap.Attains
          fun publish ↦ (V311.Empty.new : Fallible MqttError V311.Disconnect).unwrap.Attains
            fun disconnect ↦
            (clientRun .v311 0 0 [] [.setAutoPubResponse true]
              [.recv [0x20, 2, 0, 0], .acquirePacketId]).Attains fun r₁ ↦
        (∀ t ∈ r₁.1, t.before.respondsItself t.input) ∧ r₁.2.store.get 1 = none ∧
        r₁.2.autoPubResponse ∧ (r₁.2.step (.send (.v311Publish publish.1))).Attains fun r₂ ↦
        (∃ stored ∈ r₂.1.store.get 1, restoredAck stored = some .pubrec) ∧
          LeavesOpen 1 r₂.2 ∧
        ((system .u16).run r₂.1 [.send (.v311Disconnect disconnect),
            .recv [0x50, 2, 0, 1]]).Attains fun r₃ ↦
          (∀ t ∈ r₃.1, t.before.respondsItself t.input) ∧ (∀ t ∈ r₃.1, LeavesOpen 1 t.output) ∧
          r₃.2.store.get 1 = none := by
    decide +kernel
  obtain ⟨_, h₁⟩ := exists_of_clientRun h₁
  have hinit : (system .u16).Init (new .client .u16 .v311) := ⟨.client, .v311, rfl⟩
  obtain ⟨_, hrun₁⟩ := @Run.monitor_run_ok _ _ _ _ (system .u16) ∅ readExchanges
    (fun p op ↦ p.1.respondsItself op) _ _ _ _ hinit (fun t ht _ ↦ hok₁ t ht) h₁
  obtain ⟨_, hrun₂⟩ := run_step hrun₁ (show respondsItself c₁ (.send _) from hauto) h₂
  obtain ⟨_, hrun₃⟩ := hrun₂.monitor_append (fun t ht _ ↦ hok₃ t ht) h₃
  have hcarried := h _ _ _ hrun₃
  obtain ⟨stored', hget', -⟩ := hcarried.stored 1 (mem_foldl_exchanges
    (by exact ⟨.inr ⟨hnone, stored, hget, hk⟩, hopen⟩) hquiet)
  cases hgone.symm.trans hget'

end MqttProtocolCore.Connection.GenericConnection
