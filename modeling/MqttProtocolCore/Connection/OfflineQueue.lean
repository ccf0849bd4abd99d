import MqttProtocolCore.Connection.Fate

namespace MqttProtocolCore.Connection.GenericConnection

open General Packet

variable {w : IdWidth} {c : GenericConnection w} {op : Operation w}
  {e : PacketId w × GenericStorePacket w}

/-- The messages that were accepted before the connection was up, and that have been neither sent
nor handed back since. -/
abbrev Queue (w : IdWidth) := Set (PacketId w × GenericStorePacket w)

/-- A PUBLISH goes into the store while there is no connection. -/
def Queues (t : Transition (GenericConnection w) (Operation w) (Reply w))
    (e : PacketId w × GenericStorePacket w) : Prop :=
  t.before.status ≠ .connected ∧ t.before.store.get e.1 = none ∧
    t.after.store.get e.1 = some e.2 ∧
    ∃ packet qos, t.input = .send packet ∧ packet.publishOf = some (e.1, qos)

def readQueue (q : Queue w) (t : Transition (GenericConnection w) (Operation w) (Reply w)) :
    Queue w :=
  {e | (e ∈ q ∨ Queues t e) ∧ e.2.toPacket ∉ requested t.output.toEvents ∧
    e.1 ∉ released t.output.toEvents}

/-- No queued message is forgotten, unless what is sent is refused by its version, role or size. -/
def KeepsQueue (p : GenericConnection w × Queue w) (op : Operation w) : Prop :=
  (∀ packet, op = .send packet → p.1.MaySend packet) →
    ∀ e ∈ p.2, ¬ Forgets p.1 e.1 e.2 (p.1.inputOf op)

/-- The queued messages are stored, and none waits any longer once the connection is up. -/
structure QueueKept (c : GenericConnection w) (q : Queue w) : Prop where
  stored : ∀ e ∈ q, c.store.get e.1 = some e.2
  flushed : c.status = .connected → q = ∅

theorem forgets_congr {c₀ : GenericConnection w} (h : Prepared c c₀) {u : PacketId w}
    {stored : GenericStorePacket w} {input : Input w} (hf : Forgets c₀ u stored input) :
    Forgets c u stored input := by
  rw [h.1] at hf
  cases hf with
  | cleanSent h hs => exact .cleanSent h hs
  | cleanReceived h hs => exact .cleanReceived h hs
  | sessionDenied h => exact .sessionDenied h
  | acknowledged hack hmem hsome hres hend => exact .acknowledged hack (by cases ‹AckKind› <;> exact hmem) hsome hres hend

theorem queueKept_barred {q : Queue w} {events : List (GenericEvent w)} (h : QueueKept c q) :
    QueueKept c (readQueue q ⟨c, op, c, .events events⟩) := by
  constructor
  · intro e he
    obtain ⟨hq | ⟨-, -, hget, -⟩, -⟩ := he
    · exact h.stored e hq
    · exact hget
  · intro hs
    apply Set.eq_empty_of_forall_notMem
    intro e he
    obtain ⟨hq | ⟨hst, -⟩, -⟩ := he
    · rw [h.flushed hs] at hq
      exact hq
    · exact hst hs

theorem step_queueKept (hc : c.Reading) {q : Queue w} (h : QueueKept c q)
    (hok : KeepsQueue (c, q) op) : (c.step op).Ensures fun r ↦
      QueueKept r.1 (readQueue q ⟨c, op, r.1, r.2⟩) := by
  intro r hr
  by_cases hmay : ∀ packet, op = .send packet → c.MaySend packet
  swap
  · push Not at hmay
    obtain ⟨packet, rfl, hno⟩ := hmay
    obtain ⟨e, he⟩ := step_barred hno
    obtain rfl := Outcome.ret.inj (he.symm.trans hr)
    exact queueKept_barred h
  replace hok := hok hmay
  obtain ⟨-, c₀, hprep, hchange⟩ := (step_spec hc op).of_ret hr
  have hsess := hprep.session
  constructor
  · rintro e ⟨hq | hq, hreq, hrel⟩
    · have hu : c₀.session.stored e.1 = some e.2 := by
        rw [hsess]
        exact h.stored e hq
      rcases hchange.stored_cases hu with hs | hs | hs
      · exact hs
      · exact (hrel hs).elim
      · exact (hok e hq (forgets_congr hprep hs)).elim
    · exact hq.2.2.1
  · intro hs
    refine Set.eq_empty_of_forall_notMem fun e ↦ ?_
    rintro ⟨hq, hreq, hrel⟩
    rcases hchange.status_cases hs with hc₀ | ⟨⟨packet, present, hp, hin⟩, -, hall⟩
    · have hconn : c.status = .connected := by
        rw [hprep.1] at hc₀
        exact hc₀
      rcases hq with hq | hq
      · rw [h.flushed hconn] at hq
        exact hq
      · exact hq.1 hconn
    · rcases hq with hq | ⟨-, -, -, packet', qos, hop, hp'⟩
      · have hu : c₀.session.stored e.1 = some e.2 := by
          rw [hsess]
          exact h.stored e hq
        rcases hall e.1 e.2 hu with hs' | hs' | hs'
        · exact hreq hs'
        · exact hrel hs'
        · exact hok e hq (forgets_congr hprep hs')
      · obtain rfl : op = .send packet' := hop
        rcases hin with hin | hin
        · obtain rfl := Input.send.inj hin
          cases (partOf_connack hp).symm.trans (partOf_publish hp')
        · cases hin

/-- In every run in which no queued message is forgotten, each one stays in the store until it is
sent or handed back, and by the time the connection is up all of them have been. -/
theorem queue_kept {trace : List (Transition _ _ _)} {q : Queue w}
    (h : Run ((system w).monitor ∅ readQueue) KeepsQueue trace (c, q)) : QueueKept c q := by
  refine (h.monitored (I := fun c q ↦ c.Reading ∧ QueueKept c q) ?_ ?_).2
  · rintro _ ⟨role, version, rfl⟩
    exact ⟨⟨[], .header⟩, by simp, by simp [new]⟩
  · intro c q op hkept hok r hr
    obtain ⟨hc, hq⟩ := hkept
    exact ⟨step_reading hc op r hr, step_queueKept hc hq hok r hr⟩

theorem queue_kept_offline : ∃ (c : GenericConnection .u16) (q : Queue .u16),
    q.Nonempty ∧ QueueKept c q := by
  obtain ⟨p, _, ⟨c₁, o₁⟩, h₁, ⟨c₂, o₂⟩, h₂, hst, hnone, ⟨c₃, o₃⟩, h₃, ⟨stored, hget, -⟩, hreq,
      hrel, hp⟩ :
      (V311.Publish.parse (w := .u16) 2 [0, 1, 0x61, 0, 1]).unwrap.Attains fun p ↦
        ((new .client .u16 .v311).step (.setOfflinePublish true)).Attains fun r₁ ↦
        (r₁.1.step .acquirePacketId).Attains fun r₂ ↦
        r₂.1.status ≠ .connected ∧ r₂.1.store.get 1 = none ∧
        (r₂.1.step (.send (.v311Publish p.1))).Attains fun r₃ ↦
        (∃ stored ∈ r₃.1.store.get 1, True) ∧ requested r₃.2.toEvents = [] ∧
        released r₃.2.toEvents = [] ∧
        (GenericPacket.v311Publish p.1).publishOf = some (1, .atLeastOnce) := by
    decide +kernel
  have hempty {c c' : GenericConnection .u16} {op : Operation .u16} {o : Reply .u16}
      (h : ∀ packet, op ≠ .send packet) : readQueue ∅ ⟨c, op, c', o⟩ = ∅ := by
    refine Set.eq_empty_of_forall_notMem ?_
    rintro e ⟨he | ⟨-, -, -, packet, _, hop, -⟩, -⟩
    · exact he
    · exact h packet hop
  have hstart : Run ((system .u16).monitor ∅ readQueue) KeepsQueue []
      (new .client .u16 .v311, ∅) := .init ⟨⟨.client, .v311, rfl⟩, rfl⟩
  obtain ⟨_, hrun₁⟩ := run_step hstart (by simp [KeepsQueue]) h₁
  rw [hempty (by simp)] at hrun₁
  obtain ⟨_, hrun₂⟩ := run_step hrun₁ (by simp [KeepsQueue]) h₂
  rw [hempty (by simp)] at hrun₂
  obtain ⟨_, hrun₃⟩ := run_step hrun₂ (by simp [KeepsQueue]) h₃
  refine ⟨c₃, _, ⟨(1, stored), ?_⟩, queue_kept hrun₃⟩
  exact ⟨.inr ⟨hst, hnone, hget, _, _, rfl, hp⟩, by simp [hreq], by simp [hrel]⟩

/-- A CONNECT with clean session drops a message that was queued for the new session. -/
theorem queue_dropped_by_clean_start : ¬ ∀ (c : GenericConnection .u16) (q : Queue .u16) trace,
    Run ((system .u16).monitor ∅ readQueue) (fun _ _ ↦ True) trace (c, q) → QueueKept c q := by
  intro h
  obtain ⟨publish, _, connect, _, ⟨_, c₂⟩, hrun, hst, hnone, hp, ⟨c₃, o₃⟩, h₃, ⟨stored, hget, hreq⟩,
      hrel, ⟨c₄, o₄⟩, h₄, hgone, hreq', hrel'⟩ :
      (V311.Publish.parse (w := .u16) 2 [0, 1, 0x61, 0, 1]).unwrap.Attains fun publish ↦
        (V311.Connect.parse [0, 4, 0x4d, 0x51, 0x54, 0x54, 4, 2, 0, 0, 0, 1, 0x61]).unwrap.Attains
          fun connect ↦ ((system .u16).run (new .client .u16 .v311)
            [.setOfflinePublish true, .acquirePacketId]).Attains fun r₂ ↦
        r₂.2.status ≠ .connected ∧ r₂.2.store.get 1 = none ∧
        (GenericPacket.v311Publish publish.1).publishOf = some (1, .atLeastOnce) ∧
        (r₂.2.step (.send (.v311Publish publish.1))).Attains fun r₃ ↦
        (∃ stored ∈ r₃.1.store.get 1, stored.toPacket ∉ requested r₃.2.toEvents) ∧
        released r₃.2.toEvents = [] ∧
        (r₃.1.step (.send (.v311Connect connect.1))).Attains fun r₄ ↦
        r₄.1.store.get 1 = none ∧ requested r₄.2.toEvents = [.v311Connect connect.1] ∧
          released r₄.2.toEvents = [] := by
    decide +kernel
  obtain ⟨_, hrun₂⟩ := Run.monitor_run (S := system .u16) ⟨.client, .v311, rfl⟩ hrun
  obtain ⟨_, hrun₃⟩ := run_step hrun₂ trivial h₃
  obtain ⟨_, hrun₄⟩ := run_step hrun₃ trivial h₄
  have hin := (h _ _ _ hrun₄).stored (1, stored) ⟨.inl ⟨.inr ⟨hst, hnone, hget, _, _, rfl, hp⟩, hreq,
    by simp [hrel]⟩, ?_, by simp [hrel']⟩
  · cases hgone.symm.trans hin
  · rw [hreq']
    cases stored <;> simp [GenericStorePacket.toPacket]

end MqttProtocolCore.Connection.GenericConnection
