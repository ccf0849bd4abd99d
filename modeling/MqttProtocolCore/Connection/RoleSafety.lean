import MqttProtocolCore.Connection.RecvLimit
import MqttProtocolCore.Connection.PanicFreedom
import MqttProtocolCore.Connection.Loss

namespace MqttProtocolCore.Connection.GenericConnection

open General Packet

variable {w : IdWidth} {c c' : GenericConnection w} {packet q : GenericPacket w} {id : PacketId w}
  {s : Session w} {rep : Report w} {input : Input w} {op : Operation w} {r : Handled w}
  {stored : GenericStorePacket w} {x : Outcome (Handled w)}

inductive Stores (c : GenericConnection w) (stored : GenericStorePacket w) (rep : Report w) :
    Input w → Prop where
  | kept {input : Input w} (id : PacketId w) :
      c.session.stored id = some stored → Stores c stored rep input
  | requested {input : Input w} : stored.toPacket ∈ rep.requested → Stores c stored rep input
  | sent {packet : GenericPacket w} : stored.toPacket.protocolVersion = packet.protocolVersion →
      Stores c stored rep (.send packet)
  | restored {packets : List (GenericStorePacket w)} :
      stored ∈ packets → Stores c stored rep (.restore packets)

theorem stored_of_keep_or {p : GenericStorePacket w} {u : PacketId w}
    (h : (s.keep id p).stored u = some stored) : stored = p ∨ s.stored u = some stored := by
  by_cases hu : u = id
  · subst hu
    left
    simpa [Session.keep, eq_comm] using h
  · exact .inr ((Function.update_of_ne hu _ _).symm.trans h)

theorem stored_of_erase {response : ResponsePacket} {u : PacketId w}
    (h : (s.erase response id).stored u = some stored) : s.stored u = some stored := by
  by_cases hu : u = id
  · subst hu
    simp only [Session.erase, Function.update_self] at h
    exact (Option.filter_eq_some_iff.mp h).1
  · exact (Function.update_of_ne hu _ _).symm.trans h

theorem stored_of_resends_kept {s₀ : Session w} {limit : ℕ} {req : List (GenericPacket w)}
    {rel : List (PacketId w)} {u : PacketId w} (h : s₀.Resends s limit req rel)
    (hs : s.stored u = some stored) : s₀.stored u = some stored := by
  rw [h.stored] at hs
  exact (Option.filter_eq_some_iff.mp hs).1

theorem stored_of_restore {packets : List (GenericStorePacket w)} {u : PacketId w}
    (h : (packets.foldl Session.restore s).stored u = some stored) :
    stored ∈ packets ∨ s.stored u = some stored := by
  induction packets generalizing s with
  | nil => exact .inr h
  | cons packet packets ih =>
    rcases ih h with hmem | hstored
    · exact .inl (List.mem_cons_of_mem _ hmem)
    · unfold Session.restore at hstored
      split at hstored
      · dsimp only at hstored
        split at hstored
        · exact .inr hstored
        · rename_i id _ _ _
          by_cases hu : u = id
          · subst hu
            simp only [Session.await, Function.update_self, Option.some.injEq] at hstored
            cases hold : s.stored u with
            | none => exact .inl (by simp [← hstored, hold])
            | some p => exact .inr (by simp [← hstored, hold])
          · exact .inr ((Function.update_of_ne hu _ _).symm.trans hstored)
      · exact .inr hstored

theorem Change.stores (h : Change c input s rep) {u : PacketId w}
    (hs : s.stored u = some stored) : Stores c stored rep input := by
  have hopened {v : Version} {clean keeps : Bool} {quota : Option ℕ}
      (h : (c.session.opened v clean keeps quota).stored u = some stored) :
      Stores c stored rep input := by
    cases clean with
    | true => cases h
    | false => exact .kept u h
  cases h with
  | connectSent => exact hopened hs
  | connectReceived => exact hopened hs
  | connackSent _ _ hres =>
    have hold := stored_of_resends_kept hres hs
    exact .kept u hold
  | connackResumes _ hres =>
    have hold := stored_of_resends_kept hres hs
    exact .kept u hold
  | connackAnew => cases hs
  | publishWithdrawn _ _ _ hs' =>
    rcases hs' with ⟨-, rfl⟩ | ⟨-, -, p, -, hv, rfl⟩
    · exact .kept u hs
    · obtain rfl | hs := stored_of_keep_or hs
      · exact .sent hv
      · exact .kept u hs
  | published _ _ _ _ hs' =>
    rw [Session.counted_frame] at hs
    rcases hs' with ⟨-, rfl⟩ | ⟨-, -, p, -, hv, rfl⟩
    · exact .kept u hs
    · obtain rfl | hs := stored_of_keep_or hs
      · exact .sent hv
      · exact .kept u hs
  | @pubrelSent _ id _ _ _ hs' =>
    rcases hs' with ⟨-, rfl⟩ | ⟨-, -, p, rfl, rfl⟩
    · exact .kept u (by split at hs <;> exact hs)
    · have hs : (c.session.keep id p).stored u = some stored := by split at hs <;> exact hs
      obtain rfl | hs := stored_of_keep_or hs
      · exact .sent rfl
      · exact .kept u hs
  | acknowledged =>
    rw [Session.finished_frame] at hs
    exact .kept u (stored_of_erase hs)
  | pubrecReceived _ _ _ _ hs' =>
    rcases hs' with ⟨-, -, rfl⟩ | ⟨-, -, _, -, rfl, ⟨-, rfl⟩ | ⟨-, -, p, rfl, rfl⟩⟩
    · exact .kept u (stored_of_erase hs)
    · exact .kept u (stored_of_erase hs)
    · obtain rfl | hs := stored_of_keep_or hs
      · exact .requested (by simp)
      · exact .kept u (stored_of_erase hs)
  | pubrecFailed =>
    rw [Session.finished_frame] at hs
    exact .kept u (stored_of_erase hs)
  | restored =>
    rcases stored_of_restore hs with hmem | hs
    · exact .restored hmem
    · exact .kept u hs
  | _ => exact .kept u hs

/-- The connection is the client of its peer: by its role, or because the CONNECT of the present
network connection was its own. -/
def actingClient (c : GenericConnection w) : Bool :=
  c.role = .client ∨ c.role = .any ∧ c.isClient ∧ c.status ≠ .disconnected

/-- The application itself hands over the packet, where the role admits every packet. -/
def Chosen (c : GenericConnection w) (op : Operation w) (q : GenericPacket w) : Prop :=
  c.role = .any ∧ op = .send q

abbrev Trace (w : IdWidth) := List (Transition (GenericConnection w) (Operation w) (Reply w))

/-- The packet was handed to `restore_packets` in the course of a run. -/
def Restored (trace : Trace w) (q : GenericPacket w) : Prop :=
  ∃ t ∈ trace, ∃ packets, t.input = .restorePackets packets ∧ ∃ stored ∈ packets,
    q = stored.toPacket

/-- A packet that this connection may send, with the version `v` after the operation. -/
structure Proper (trace : Trace w) (c : GenericConnection w) (op : Operation w) (v : Version)
    (q : GenericPacket w) : Prop where
  version : q.protocolVersion = v ∨ Restored trace q
  client : clientOnly q → c.role = .client ∨ Chosen c op q ∨
    op = .notifyTimerFired .pingreqSend ∧ isPingreq q
  server : serverOnly q → ¬ actingClient c ∨ Chosen c op q

def StoreProper (trace : Trace w) (c : GenericConnection w) : Prop :=
  ∀ id stored, c.session.stored id = some stored →
    stored.toPacket.protocolVersion = c.protocolVersion ∨ Restored trace stored.toPacket

theorem oneSided_toPacket (stored : GenericStorePacket w) :
    clientOnly stored.toPacket = false ∧ serverOnly stored.toPacket = false := by
  cases stored <;> exact ⟨rfl, rfl⟩

theorem serverOnly_of_isPingreq (h : isPingreq q) : serverOnly q = false := by
  cases q with
  | v311Pingreq | v50Pingreq => rfl
  | _ => cases h

theorem partOf_oneSided (h : clientOnly q ∨ serverOnly q) : partOf q ≠ .publish := by
  intro hp
  cases q with
  | v311Publish | v50Publish => simp [clientOnly, serverOnly] at h
  | _ => cases hp

theorem StoreProper.version {trace : Trace w} (h : StoreProper trace c) {v : Version}
    (hv : v = c.protocolVersion ∨ c.protocolVersion = .undetermined)
    (hs : c.session.stored id = some stored) :
    stored.toPacket.protocolVersion = v ∨ Restored trace stored.toPacket := by
  rcases h id stored hs with hver | hres
  · rcases hv with rfl | hu
    · exact .inl hver
    · exact (protocolVersion_ne _ (hver.trans hu)).elim
  · exact .inr hres

theorem Origin.proper {trace : Trace w} (hs : StoreProper trace c) (hu : Unlimited c) {v : Version}
    (hv : v = c.protocolVersion ∨ c.protocolVersion = .undetermined)
    (ho : Origin c v op q) : Proper trace c op v q := by
  have hsame {v' : Version} (hv' : c.protocolVersion = v') (hne : v' ≠ .undetermined) : v' = v := by
    rcases hv with rfl | hu
    · exact hv'.symm
    · exact (hne (hv'.symm.trans hu)).elim
  cases ho with
  | @sent packet _ hver hout hpacket =>
    have hown (hq : clientOnly q ∨ serverOnly q) : q = packet :=
      hpacket.resolve_right (partOf_oneSided hq)
    refine ⟨.inl ?_, fun hq ↦ ?_, fun hq ↦ ?_⟩
    · exact hout.version.trans (hsame hver (protocolVersion_ne packet))
    · have hrole := (hout.client hq).2
      cases hr : c.role with
      | client => exact .inl rfl
      | any => exact .inr (.inl ⟨hr, by rw [hown (.inl hq)]⟩)
      | server => simp [actsAsClient, hr] at hrole
    · have hrole := (hout.server hq).2
      cases hr : c.role with
      | client => simp [actsAsServer, hr] at hrole
      | any => exact .inr ⟨hr, by rw [hown (.inr hq)]⟩
      | server => exact .inl (by simp [actingClient, hr])
  | @stored _ id p hp =>
    obtain ⟨hc, hsv⟩ := oneSided_toPacket p
    exact ⟨hs.version hv hp, fun hq ↦ by simp [hc] at hq, fun hq ↦ by simp [hsv] at hq⟩
  | replied ha =>
    refine ⟨.inl ha.version, fun hq ↦ by simp [ha.client] at hq, fun hq ↦ .inl ?_⟩
    have hping := ha.server hq
    simp only [answersPing, actsAsServer, decide_eq_true_eq] at hping
    obtain ⟨hrole, hclient, -⟩ := hping
    rcases hrole with hr | hr <;> simp [actingClient, hr, hclient]
  | refused hr =>
    refine ⟨.inl hr.version, fun hq ↦ by simp [hr.client] at hq, fun hq ↦ .inl ?_⟩
    obtain ⟨hd, hrole⟩ := hr.server hq
    simp [actingClient, hd, hrole]
  | tooLarge p hp =>
    have h50 : c.protocolVersion = .v50 := by
      by_contra hne
      exact hp (hu hne)
    refine ⟨.inl (hsame h50 (protocolVersion_ne (.v50Disconnect p))), fun hq ↦ ?_, fun hq ↦ ?_⟩
    · cases hq
    · cases hq
  | pinged hver hping =>
    refine ⟨.inl (hver.trans (hsame rfl ?_)), fun _ ↦ .inr (.inr ⟨rfl, hping⟩), fun hq ↦ ?_⟩
    · exact hver ▸ protocolVersion_ne _
    · simp [serverOnly_of_isPingreq hping] at hq
  | expired hn =>
    refine ⟨.inl (hn.version.trans (hsame rfl ?_)), fun hq ↦ ?_, fun hq ↦ ?_⟩
    · exact hn.version ▸ protocolVersion_ne _
    · simp [hn.client] at hq
    · simp [hn.server] at hq

theorem Restored.append {trace : Trace w} (h : Restored trace q) (rest : Trace w) :
    Restored (trace ++ rest) q := by
  obtain ⟨t, ht, hres⟩ := h
  exact ⟨t, List.mem_append_left _ ht, hres⟩

theorem step_version (hc : c.Reading) (op : Operation w) : (c.step op).Ensures fun r ↦
    r.1.protocolVersion = c.protocolVersion ∨ c.protocolVersion = .undetermined := by
  intro r hr
  obtain ⟨-, c₀, hprep, hchange⟩ := (step_spec hc op).of_ret hr
  have hver : r.1.protocolVersion = c₀.protocolVersion ∨ c₀.protocolVersion = .undetermined :=
    hchange.frame.2
  rcases hprep.2.2 with h₀ | h₀
  · rwa [h₀] at hver
  · exact .inr h₀

/-- Whatever an operation asks to send is proper, given what the run has stored before it. -/
theorem step_proper {trace : Trace w} (hc : c.Reading) (hu : Unlimited c)
    (hs : StoreProper trace c) (op : Operation w) : (c.step op).Ensures fun r ↦
      ∀ q ∈ requested r.2.toEvents, Proper trace c op r.1.protocolVersion q := by
  intro r hr q hq
  exact ((step_emits hc op r hr).requests q hq).proper hs hu (step_version hc op r hr)

theorem send_mismatch (h : c.protocolVersion ≠ packet.protocolVersion) :
    c.step (.send packet) = .ret (c, .events (c.reject .versionMismatch).2) := by
  have hsend : c.send packet = .ret (c.reject .versionMismatch) := if_pos h
  simp only [step, hsend, Outcome.ret_bind]
  rfl

/-- An operation keeps the store proper, once it is part of the run. -/
theorem step_storeProper {trace : Trace w} (hc : c.Reading) (hu : Unlimited c)
    (hs : StoreProper trace c) {r : GenericConnection w × Reply w} (hr : c.step op = .ret r) :
    StoreProper (trace ++ [⟨c, op, r.1, r.2⟩]) r.1 := by
  intro id stored hid
  obtain ⟨-, c₀, hprep, hchange⟩ := (step_spec hc op).of_ret hr
  have hver := step_version hc op r hr
  have hbefore {id : PacketId w} (h : c.session.stored id = some stored) :
      stored.toPacket.protocolVersion = r.1.protocolVersion ∨
        Restored (trace ++ [⟨c, op, r.1, r.2⟩]) stored.toPacket :=
    (hs.version hver h).imp_right fun h ↦ h.append _
  generalize hin : c.inputOf op = input at hchange
  cases hchange.stores hid with
  | kept id' hold =>
    rw [hprep.session] at hold
    exact hbefore hold
  | requested hreq =>
    exact (step_proper hc hu hs op r hr _ hreq).version.imp_right fun h ↦ h.append _
  | @sent packet hp =>
    obtain rfl := send_of_inputOf hin
    by_cases hv : c.protocolVersion = packet.protocolVersion
    · rcases hver with hver | hver
      · exact .inl (hp.trans (hv.symm.trans hver.symm))
      · exact (protocolVersion_ne packet (hv.symm.trans hver)).elim
    · rw [send_mismatch hv] at hr
      obtain rfl := Outcome.ret.inj hr
      exact hbefore hid
  | @restored packets hmem =>
    obtain rfl := restore_of_inputOf hin
    exact .inr ⟨_, List.mem_append_right _ (List.mem_singleton.mpr rfl), packets, rfl, stored, hmem,
      rfl⟩

/-- In every run, whatever is asked to be sent fits the version of the connection and its side. -/
theorem sent_proper {trace : Trace w} (h : Run (system w) (fun _ _ ↦ True) trace c)
    (op : Operation w) : (c.step op).Ensures fun r ↦
      ∀ q ∈ requested r.2.toEvents, Proper trace c op r.1.protocolVersion q := by
  have hstore : StoreProper trace c := by
    induction h with
    | init h =>
      obtain ⟨role, version, rfl⟩ := h
      intro id stored hid
      cases hid
    | step hrun _ hstep ih =>
      exact step_storeProper (reachable_reading hrun.reachable)
        (reachable_unlimited hrun.reachable) ih hstep
  exact step_proper (reachable_reading h.reachable) (reachable_unlimited h.reachable) hstore op

theorem sent_proper_connect : ∃ (op : Operation .u16) (r : GenericConnection .u16 × Reply .u16),
    (new .client .u16 .v311).step op = .ret r ∧ requested r.2.toEvents ≠ [] ∧
      ∀ q ∈ requested r.2.toEvents, Proper [] (new .client .u16 .v311) op r.1.protocolVersion q := by
  obtain ⟨p, -, r, hr, hne⟩ :
      (V311.Connect.parse [0, 4, 0x4d, 0x51, 0x54, 0x54, 4, 2, 0, 0, 0, 1, 0x61]).unwrap.Attains
        fun p ↦ ((new .client .u16 .v311).step (.send (.v311Connect p.1))).Attains fun r ↦
          requested r.2.toEvents ≠ [] := by
    decide +kernel
  exact ⟨_, r, hr, hne, sent_proper (.init ⟨.client, .v311, rfl⟩) _ r hr⟩

/-- A restored packet of the other version goes out as it is, and an application whose role admits
every packet sends PINGREQ from the side of the server. -/
theorem improper_packets_sent :
    (¬ ∀ (c : GenericConnection .u16) op trace, Run (system .u16) FiresSet trace c →
      FiresSet c op → (c.step op).Ensures fun r ↦ ∀ q ∈ requested r.2.toEvents,
        q.protocolVersion = r.1.protocolVersion) ∧
    ¬ ∀ (c : GenericConnection .u16) op trace, Run (system .u16) FiresSet trace c →
      FiresSet c op → (c.step op).Ensures fun r ↦ ∀ q ∈ requested r.2.toEvents,
        clientOnly q → actingClient r.1 := by
  have hfires (packet : GenericPacket .u16) (c : GenericConnection .u16) :
      FiresSet c (.send packet) := by
    intro kind hk
    cases hk
  refine ⟨fun h ↦ ?_, fun h ↦ ?_⟩
  · obtain ⟨publish, _, connack, _, ⟨trace, c⟩, hrun, r, hr, q, hq, hne⟩ :
        (V311.Publish.parse (w := .u16) 2 [0, 1, 0x61, 0, 1]).unwrap.Attains fun publish ↦
        (V50.Connack.build true .success []).unwrap.Attains fun connack ↦
        ((system .u16).run (new .server .u16 .v50)
          [.restorePackets [.v311Publish publish.1],
            .recv [0x10, 0x0e, 0, 4, 0x4d, 0x51, 0x54, 0x54, 5, 0, 0, 0, 0, 0, 1, 0x61]]).Attains
          fun r ↦ (r.2.step (.send (.v50Connack connack))).Attains fun r' ↦
            ∃ q ∈ requested r'.2.toEvents, q.protocolVersion ≠ r'.1.protocolVersion := by
      decide +kernel
    have hstart : Run (system .u16) FiresSet [] (new .server .u16 .v50) :=
      .init ⟨.server, .v50, rfl⟩
    have hreach := hstart.append_ok (by simp [FiresSet]) hrun
    exact hne (h c _ _ hreach (hfires _ c) r hr q hq)
  · obtain ⟨connack, _, pingreq, _, ⟨trace, c⟩, hrun, r, hr, q, hq, hclient, hserver⟩ :
        (V311.Connack.build false .accepted).unwrap.Attains fun connack ↦
        (V311.Empty.new : Fallible MqttError V311.Pingreq).unwrap.Attains fun pingreq ↦
        ((system .u16).run (new .any .u16 .v311)
          [.recv [0x10, 0x0d, 0, 4, 0x4d, 0x51, 0x54, 0x54, 4, 2, 0, 0, 0, 1, 0x61],
            .send (.v311Connack connack)]).Attains
          fun r ↦ (r.2.step (.send (.v311Pingreq pingreq))).Attains fun r' ↦
            ∃ q ∈ requested r'.2.toEvents, clientOnly q ∧ ¬ actingClient r'.1 := by
      decide +kernel
    have hstart : Run (system .u16) FiresSet [] (new .any .u16 .v311) := .init ⟨.any, .v311, rfl⟩
    have hreach := hstart.append_ok (by simp [FiresSet]) hrun
    exact hserver (h c _ _ hreach (hfires _ c) r hr q hq hclient)

end MqttProtocolCore.Connection.GenericConnection
