import MqttProtocolCore.Connection.ClientRun
import MqttProtocolCore.Connection.Violation

namespace MqttProtocolCore.Connection.GenericConnection

open General Packet

variable {w : IdWidth} {c c' : GenericConnection w} {packet : GenericPacket w} {raw : RawPacket}
  {r : Handled w} {op : Operation w} {data : Bytes} {e : MqttError}

/-- The bytes break the framing, complete a packet that the role must not receive, that is too
large or cannot be read, or one that violates the protocol. -/
inductive Violates (c : GenericConnection w) (data : Bytes) : Prop where
  | framing {b : PacketBuilder} {e : MqttError} {rest : Bytes} :
      c.packetBuilder.feed data = .ret (b, .error e, rest) → Violates c data
  | unread {b : PacketBuilder} {raw : RawPacket} {rest : Bytes} :
      c.packetBuilder.feed data = .ret (b, .complete raw, rest) → c.arrived raw = none →
      Violates c data
  | unaccepted {v : Version} {packet : GenericPacket w} :
      c.arrival data = some (v, packet) → ¬ (c.determine v).Accepts packet → Violates c data

/-- The peer breaks the rules, or it keeps silent for too long. -/
def Offends (c : GenericConnection w) : Operation w → Prop
  | .recv data => c.Violates data
  | .notifyTimerFired .pingreqRecv | .notifyTimerFired .pingrespRecv => True
  | _ => False

def closes (c : GenericConnection w) : Bool := c.protocolVersion = .v311 ∨ c.canDisconnect

def closesOn (c : GenericConnection w) (data : Bytes) : Bool :=
  match c.packetBuilder.feed data with
  | .ret (_, .complete raw, _) =>
    if c.oversize raw then c.canDisconnect else c.takes raw && c.closes
  | _ => true

/-- The offence ends the connection. -/
def Closes (c : GenericConnection w) : Operation w → Prop
  | .recv data => c.closesOn data
  | _ => c.closes

theorem handleV311Error_closes (h : c.handleV311Error e = .ret r) :
    .requestClose ∈ r.2 ∧ errors r.2 ≠ [] := by
  obtain rfl := Outcome.ret.inj h
  simp

theorem handleV50Error_closes (h : c.handleV50Error e = .ret r) :
    (.requestClose ∈ r.2 ↔ c.canDisconnect) ∧ errors r.2 ≠ [] := by
  rcases c.handleV50Error_cases e with ⟨hd, p, -, hr⟩ | ⟨hd, e', hr⟩
  · obtain rfl := Outcome.ret.inj (hr.symm.trans h)
    simp [hd]
  · obtain rfl := Outcome.ret.inj (hr.symm.trans h)
    simp [hd]

theorem Misread.closes {connect : Prop} (h : Misread c connect (.ret r)) (hs : c.status ≠ .disconnected) :
    (.requestClose ∈ r.2 ↔ c.closes) ∧ errors r.2 ≠ [] := by
  generalize hx : Outcome.ret r = x at h
  cases h with
  | closed e hv =>
    have := handleV311Error_closes hx.symm
    simp [GenericConnection.closes, hv, this]
  | disconnected e hv =>
    have := handleV50Error_closes hx.symm
    simp [GenericConnection.closes, hv, this]
  | ignored e hv hc =>
    obtain rfl := Outcome.ret.inj hx
    simp [GenericConnection.closes, hv, canDisconnect, hc, reject]
  | refusedV311 e hv hd => exact (hs hd).elim
  | refusedV50 e hv hd => exact (hs hd).elim

theorem Refusal.closes (h : Refusal c raw (.ret r)) (hs : c.status ≠ .disconnected)
    (hv : c.protocolVersion ≠ .undetermined) :
    (.requestClose ∈ r.2 ↔ if c.oversize raw then c.canDisconnect else c.takes raw && c.closes) ∧
      errors r.2 ≠ [] := by
  generalize hx : Outcome.ret r = x at h
  cases h with
  | tooLarge ho =>
    have := handleV50Error_closes hx.symm
    simp [ho, this]
  | rejected e ho ht =>
    obtain rfl := Outcome.ret.inj hx
    simp [ho, ht, reject]
  | misread ho ht hv' h =>
    obtain rfl := hv'.resolve_right hv
    rw [← hx] at h
    obtain ⟨hiff, herr⟩ := h.closes hs
    refine ⟨?_, herr⟩
    rw [if_neg ho, hiff]
    simp [ht]

theorem Violation.closes (h : Violation c packet r) (hv : packet.protocolVersion = c.protocolVersion) :
    (.requestClose ∈ r.2 ↔ c.closes) ∧ errors r.2 ≠ [] := by
  cases h with
  | closed e hp h =>
    have := handleV311Error_closes h
    simp [GenericConnection.closes, ← hv, hp, this]
  | disconnected c' e hp hc h =>
    have hsame : c'.canDisconnect = c.canDisconnect := by
      rw [hc]
      rfl
    obtain ⟨hiff, herr⟩ := handleV50Error_closes h
    rw [hsame] at hiff
    refine ⟨?_, herr⟩
    simp [GenericConnection.closes, ← hv, hp, hiff]

theorem recv_closes (hc : c.Reading) (hs : c.status ≠ .disconnected)
    (hv : c.protocolVersion ≠ .undetermined) (ho : c.Violates data) {rest : Bytes}
    (hr : c.recv data = .ret (r, rest)) :
    (.requestClose ∈ r.2 ↔ c.closesOn data) ∧ errors r.2 ≠ [] := by
  unfold closesOn
  cases recv_cases hc hr with
  | incomplete hfeed =>
    cases ho with
    | framing h => simp [hfeed] at h
    | unread h => simp [hfeed] at h
    | unaccepted h => simp [arrival, hfeed] at h
  | malformed hfeed =>
    simp only [hfeed]
    simp
  | @refused b raw _ _ hfeed harr h =>
    simp only [hfeed]
    have hsame : oversize { c with packetBuilder := b } raw = c.oversize raw ∧
      takes { c with packetBuilder := b } raw = c.takes raw := ⟨rfl, rfl⟩
    have := h.closes hs hv
    rw [hsame.1, hsame.2] at this
    exact this
  | @delivered b raw _ v packet _ hfeed harr hver h =>
    obtain rfl := hver.resolve_right hv
    have hacc : ¬ c.Accepts packet := by
      cases ho with
      | framing h => simp [hfeed] at h
      | unread h h' =>
        rw [hfeed] at h
        cases h
        cases harr.symm.trans h'
      | unaccepted h h' =>
        simp only [arrival, hfeed] at h
        cases harr.symm.trans h
        exact h'
    have hacc' : ¬ ({ c with packetBuilder := b }.determine c.protocolVersion).Accepts packet := by
      rwa [accepts_prepared]
    obtain ⟨hsize, htakes, hp⟩ := arrived_some harr
    obtain ⟨hiff, herr⟩ := (deliver_violation hacc' r h).closes hp
    simp only [hfeed]
    refine ⟨?_, herr⟩
    rw [if_neg hsize, htakes, Bool.true_and]
    exact hiff

theorem keepAliveTimeout_closes (hr : c.keepAliveTimeout = .ret r) :
    .requestClose ∈ r.2 ↔ c.closes := by
  unfold keepAliveTimeout at hr
  unfold closes
  cases hv : c.protocolVersion with
  | v311 =>
    rw [hv] at hr
    obtain rfl := Outcome.ret.inj hr
    simp
  | undetermined => simp [hv] at hr
  | v50 =>
    obtain ⟨p, hp, -, hsize⟩ := V50.Disconnect.build_spec .keepAliveTimeout
    rw [hv] at hr
    dsimp only at hr
    split at hr
    · rw [hp] at hr
      rcases c.processSendV50Disconnect_cases hsize with ⟨hd, hret⟩ | ⟨hd, e, hret⟩
      · obtain rfl := Outcome.ret.inj (hret.symm.trans hr)
        simp [hd]
      · obtain rfl := Outcome.ret.inj (hret.symm.trans hr)
        simp [hd, reject]
    · rename_i hs
      obtain rfl := Outcome.ret.inj hr
      simp [canDisconnect, hs]

/-- An offence ends the connection exactly when its handler can close it. -/
theorem closes_iff (h : Reachable (system w) c) (hs : c.status ≠ .disconnected) (ho : c.Offends op)
    {r : GenericConnection w × Reply w} (hstep : c.step op = .ret r) :
    .requestClose ∈ r.2.toEvents ↔ c.Closes op := by
  have hv : c.protocolVersion ≠ .undetermined := fun hv ↦ hs (reachable_settled h hv).1
  cases op with
  | recv data =>
    obtain ⟨⟨r', rest⟩, hr, hret⟩ := Outcome.bind_eq_ret.mp hstep
    obtain rfl := Outcome.ret.inj hret
    exact (recv_closes (reachable_reading h) hs hv ho hr).1
  | notifyTimerFired kind =>
    obtain ⟨r', hr, hret⟩ := Outcome.bind_eq_ret.mp hstep
    obtain rfl := Outcome.ret.inj hret
    cases kind with
    | pingreqSend => exact ho.elim
    | pingreqRecv => exact keepAliveTimeout_closes (c := { c with pingreqRecvSet := false }) hr
    | pingrespRecv => exact keepAliveTimeout_closes (c := { c with pingrespRecvSet := false }) hr
  | _ => exact ho.elim

theorem feed_pingreq :
    PacketBuilder.new.feed [0xC0, 0] = .ret (.new, .complete (rawPacket 0xC0 []), []) := by
  decide +kernel

theorem closes_iff_timeout : ∃ c : GenericConnection .u16, ∃ r, c.status = .connected ∧
    c.step (.notifyTimerFired .pingrespRecv) = .ret r ∧ .requestClose ∈ r.2.toEvents := by
  obtain ⟨⟨_, c⟩, hrun, hs, hcl, ⟨r, hr, -⟩⟩ :
      (clientRun (w := .u16) .v311 0 0 [] [] [.recv [0x20, 2, 0, 0]]).Attains fun r ↦
        r.2.status = .connected ∧ r.2.closes ∧
        (r.2.step (.notifyTimerFired .pingrespRecv)).Attains fun _ ↦ True := by
    decide +kernel
  have hreach := (run_of_clientRun hrun).reachable
  have hne : c.status ≠ .disconnected := by
    intro h
    cases h.symm.trans hs
  have ho : c.Offends (.notifyTimerFired .pingrespRecv) := trivial
  exact ⟨c, r, hs, hr, (closes_iff hreach hne ho hr).mpr hcl⟩

/-- A client that receives PINGREQ, which only a client may send, stays connected. -/
theorem offence_leaves_open : ¬ ∀ (c : GenericConnection .u16) op r, Reachable (system .u16) c →
    c.status ≠ .disconnected → c.Offends op → c.step op = .ret r →
      .requestClose ∈ r.2.toEvents := by
  intro h
  obtain ⟨⟨_, c⟩, hrun, hs, hb, harr, r, hr, hno⟩ :
      (clientRun (w := .u16) .v311 0 0 [] [] [.recv [0x20, 2, 0, 0]]).Attains fun r ↦
        r.2.status = .connected ∧ r.2.packetBuilder = .new ∧
        r.2.arrived (rawPacket 0xC0 []) = none ∧
        (r.2.step (.recv [0xC0, 0])).Attains fun r ↦ .requestClose ∉ r.2.toEvents := by
    decide +kernel
  have hreach := (run_of_clientRun hrun).reachable
  have hne : c.status ≠ .disconnected := by
    intro h
    cases h.symm.trans hs
  have hfeed : c.packetBuilder.feed [0xC0, 0] = .ret (.new, .complete (rawPacket 0xC0 []), []) :=
    hb.symm ▸ feed_pingreq
  have ho : c.Violates [0xC0, 0] := .unread hfeed harr
  exact hno (h c (.recv [0xC0, 0]) r hreach hne ho hr)

end MqttProtocolCore.Connection.GenericConnection
