import MqttProtocolCore.Connection.OperationSpec

namespace MqttProtocolCore.Connection.GenericConnection

open General Packet

variable {w : IdWidth} {c c' : GenericConnection w} {input : Input w} {packet : GenericPacket w}
  {op : Operation w} {s : Session w} {rep : Report w} {x : Outcome (Handled w)} {safe : Prop}

theorem foldl_restore_frame (packets : List (GenericStorePacket w)) :
    packets.foldl Session.restore s = { packets.foldl Session.restore s with
      version := s.version
      status := s.status
      keeps := s.keeps
      handled := s.handled
      count := s.count
      quota := s.quota
      builder := s.builder } := by
  induction packets generalizing s with
  | nil => rfl
  | cons packet packets ih =>
    have h : s.restore packet = { s.restore packet with
        version := s.version
        status := s.status
        keeps := s.keeps
        handled := s.handled
        count := s.count
        quota := s.quota
        builder := s.builder } := by
      unfold Session.restore
      split
      · dsimp only
        split <;> rfl
      · rfl
    rw [List.foldl_cons, ih, h]

/-- No input changes the packet builder, or a version that is settled. -/
theorem Change.frame (h : Change c input s rep) : s.builder = c.packetBuilder ∧
    (s.version = c.protocolVersion ∨ c.protocolVersion = .undetermined) := by
  have hcounted (s : Session w) (v : Version) :
      (s.counted v).builder = s.builder ∧ (s.counted v).version = s.version := by
    unfold Session.counted
    split <;> exact ⟨rfl, rfl⟩
  have hfinished (s : Session w) (v : Version) :
      (s.finished v).builder = s.builder ∧ (s.finished v).version = s.version := by
    unfold Session.finished
    split <;> exact ⟨rfl, rfl⟩
  have hopened (v : Version) (clean keeps : Bool) (q : Option ℕ) :
      (c.session.opened v clean keeps q).builder = c.packetBuilder ∧
        (c.session.opened v clean keeps q).version = v := by
    cases clean <;> exact ⟨rfl, rfl⟩
  cases h with
  | refused hv => exact ⟨rfl, hv⟩
  | connectSent => exact ⟨(hopened ..).1, .inl (hopened ..).2⟩
  | connectReceived _ _ hv => exact ⟨(hopened ..).1, (hopened ..).2.symm ▸ hv⟩
  | connackSent _ _ hres => rw [hres.state]; exact ⟨rfl, .inl rfl⟩
  | connackResumes _ hres => rw [hres.state]; exact ⟨rfl, .inl rfl⟩
  | publishWithdrawn _ _ _ hs =>
    rcases hs with ⟨-, rfl⟩ | ⟨-, -, _, -, -, rfl⟩ <;> exact ⟨rfl, .inl rfl⟩
  | published _ _ _ _ hs =>
    rw [(hcounted ..).1, (hcounted ..).2]
    rcases hs with ⟨-, rfl⟩ | ⟨-, -, _, -, -, rfl⟩ <;> exact ⟨rfl, .inl rfl⟩
  | pubrelSent _ _ hs =>
    rcases hs with ⟨-, rfl⟩ | ⟨-, -, _, -, rfl⟩ <;> split <;> exact ⟨rfl, .inl rfl⟩
  | acknowledged | pubrecFailed => rw [(hfinished ..).1, (hfinished ..).2]; exact ⟨rfl, .inl rfl⟩
  | pubrecReceived _ _ _ _ hs =>
    rcases hs with ⟨-, -, rfl⟩ | ⟨-, -, _, -, -, ⟨-, rfl⟩ | ⟨-, -, _, -, rfl⟩⟩ <;> exact ⟨rfl, .inl rfl⟩
  | restored => rw [foldl_restore_frame]; exact ⟨rfl, .inl rfl⟩
  | _ => exact ⟨rfl, .inl rfl⟩

def inputOf (c : GenericConnection w) : Operation w → Input w
  | .send packet => .send packet
  | .recv data => ((c.arrival data).map fun a ↦ Input.receive a.2).getD .other
  | .notifyClosed => .close
  | .acquirePacketId => .acquire
  | .registerPacketId id => .register id
  | .releasePacketId id => .release id
  | .restorePackets packets => .restore packets
  | .restoreQos2PublishHandled pids => .restoreHandled pids
  | _ => .other

theorem send_of_inputOf (h : c.inputOf op = .send packet) : op = .send packet := by
  cases op with
  | send p => exact congrArg Operation.send (Input.send.inj h)
  | recv data =>
    unfold inputOf at h
    cases ha : c.arrival data <;> simp [ha] at h
  | _ => cases h

theorem restore_of_inputOf {packets : List (GenericStorePacket w)}
    (h : c.inputOf op = .restore packets) : op = .restorePackets packets := by
  cases op with
  | restorePackets packets =>
    obtain rfl := Input.restore.inj h
    rfl
  | recv data =>
    unfold inputOf at h
    cases ha : c.arrival data <;> simp [ha] at h
  | _ => simp [inputOf] at h

theorem close_of_inputOf (h : c.inputOf op = .close) : op = .notifyClosed := by
  cases op with
  | notifyClosed => rfl
  | recv data =>
    unfold inputOf at h
    cases ha : c.arrival data <;> simp [ha] at h
  | _ => cases h

theorem arrival_of_inputOf (h : c.inputOf op = .receive packet) :
    ∃ data v, op = .recv data ∧ c.arrival data = some (v, packet) := by
  cases op with
  | recv data =>
    unfold inputOf at h
    cases ha : c.arrival data with
    | none => simp [ha] at h
    | some a =>
      simp only [ha, Option.map_some, Option.getD_some, Input.receive.injEq] at h
      exact ⟨data, a.1, rfl, h ▸ ha⟩
  | _ => cases h

/-- The conditions under which the packet that `recv` completes is handled without a panic. -/
def RecvSafe (c : GenericConnection w) (data : Bytes) : Prop :=
  ∀ v packet, c.arrival data = some (v, packet) → (c.determine v).DeliverSafe packet

/-- The conditions under which an operation does not panic. -/
def OperationSafe (c : GenericConnection w) : Operation w → Prop
  | .send packet => c.protocolVersion = packet.protocolVersion → c.SendSafe packet
  | .recv data => c.RecvSafe data
  | .notifyTimerFired kind => c.TimerSafe kind
  | .notifyClosed => 0 ∉ c.session.drained
  | .releasePacketId id => id ≠ 0
  | _ => True

def Prepared (c c' : GenericConnection w) : Prop :=
  c' = { c with packetBuilder := c'.packetBuilder, protocolVersion := c'.protocolVersion } ∧
    c'.Reading ∧ (c'.protocolVersion = c.protocolVersion ∨ c.protocolVersion = .undetermined)

theorem Prepared.session (h : Prepared c c') : c'.session = { c.session with
    version := c'.protocolVersion
    builder := c'.packetBuilder } := by
  rw [h.1]
  rfl

theorem Prepared.limit (h : Prepared c c') : c'.maximumPacketSizeSend = c.maximumPacketSizeSend := by
  rw [h.1]

/-- What a step does, once the operation is known to be safe. -/
def Steps (c : GenericConnection w) (op : Operation w) (r : GenericConnection w × Reply w) : Prop :=
  ∃ c₀, Prepared c c₀ ∧ Change c₀ (c.inputOf op) r.1.session (report r.2.toEvents)

theorem change_idle (h : input.Calm) : Change c input c.session ⟨[], [], [], []⟩ :=
  @Change.idle w c input c.status [] [] [] h (fun h ↦ h) (by simp) (by simp)

theorem Acts.steps (hc : c.Reading) (h : c.Acts (c.inputOf op) safe x) :
    (x >>= fun r ↦ Outcome.ret (r.1, Reply.events r.2)).Spec
      (fun r ↦ safe ∧ c.Steps op r) (¬ safe) :=
  h.bind (fun _ ⟨hsafe, hr⟩ ↦ ⟨hsafe, c, ⟨rfl, hc, .inl rfl⟩, hr⟩) id

theorem deliverSafe_prepared {b : PacketBuilder} {v : Version} (packet : GenericPacket w) :
    ({ c with packetBuilder := b }.determine v).DeliverSafe packet ↔
      (c.determine v).DeliverSafe packet := by
  cases packet <;> exact Iff.rfl

theorem step_recv (hc : c.Reading) (data : Bytes) : (c.step (.recv data)).Spec
    (fun r ↦ c.OperationSafe (.recv data) ∧ c.Steps (.recv data) r)
    (¬ c.OperationSafe (.recv data)) := by
  have hrecv := recv_spec hc data
  have hstep : c.step (.recv data) =
      (c.recv data >>= fun r ↦ Outcome.ret (r.1.1, Reply.received r.1.2 r.2)) := rfl
  cases ha : c.arrival data with
  | none =>
    rw [ha] at hrecv
    obtain ⟨b, v, r, rest, hread, hv, hr, href⟩ := hrecv
    have hin : c.inputOf (.recv data) = .other := by simp [inputOf, ha]
    rw [hstep, hr]
    refine ⟨by simp [OperationSafe, RecvSafe, ha], { c with packetBuilder := b }.determine v, ⟨rfl, hread, hv⟩, ?_⟩
    rw [hin]
    rcases href with href | ⟨rfl, rfl⟩
    · exact href.change
    · exact change_idle trivial
  | some a =>
    obtain ⟨v, packet⟩ := a
    rw [ha] at hrecv
    obtain ⟨b, rest, hread, hv, hr⟩ := hrecv
    have hin : c.inputOf (.recv data) = .receive packet := by simp [inputOf, ha]
    have hsafe : c.OperationSafe (.recv data) ↔
        ({ c with packetBuilder := b }.determine v).DeliverSafe packet := by
      rw [deliverSafe_prepared]
      simp [OperationSafe, RecvSafe, ha]
    rw [hstep, hr, hsafe]
    have hacts := acts_deliver (c := { c with packetBuilder := b }.determine v) packet
    cases hx : ({ c with packetBuilder := b }.determine v).deliver packet with
    | panic =>
      rw [hx] at hacts
      exact hacts
    | ret r =>
      rw [hx] at hacts
      refine ⟨hacts.1, { c with packetBuilder := b }.determine v, ⟨rfl, hread, hv⟩, ?_⟩
      rw [hin]
      exact hacts.2

theorem step_spec (hc : c.Reading) (op : Operation w) : (c.step op).Spec
    (fun r ↦ c.OperationSafe op ∧ c.Steps op r) (¬ c.OperationSafe op) := by
  have hstay {c' : GenericConnection w} {s : Session w} {reply : Reply w} (hs : c'.session = s)
      (h : Change c (c.inputOf op) s (report reply.toEvents)) : c.Steps op (c', reply) :=
    ⟨c, ⟨rfl, hc, .inl rfl⟩, hs ▸ h⟩
  cases op with
  | send packet => exact Acts.steps hc (acts_send packet)
  | recv data => exact step_recv hc data
  | notifyTimerFired kind => exact Acts.steps hc (acts_notifyTimerFired kind)
  | notifyClosed => exact Acts.steps hc acts_notifyClosed
  | setPingreqSendInterval durationMs =>
    obtain ⟨hs, ht⟩ := c.setPingreqSendInterval_spec durationMs
    refine ⟨trivial, hstay hs ?_⟩
    have : report (c.setPingreqSendInterval durationMs).2 = ⟨[], [], [], []⟩ := by
      rw [report, ht.requested, ht.notified, ht.released, ht.errors]
    exact this ▸ change_idle trivial
  | setOfflinePublish enable =>
    have hkeep : c.needStore → (c.setOfflinePublish enable).needStore := fun h ↦ by
      simp [setOfflinePublish, h]
    exact ⟨trivial, hstay rfl (.offline hkeep)⟩
  | acquirePacketId =>
    cases ha : c.acquirePacketId with
    | error e =>
      rw [step_unacquired ha]
      exact ⟨trivial, hstay rfl (change_idle (by exact trivial))⟩
    | ok r =>
      rw [step_acquired ha]
      obtain ⟨hfree, hs⟩ := acquirePacketId_spec ha
      exact ⟨trivial, hstay hs (.acquired hfree)⟩
  | registerPacketId id =>
    cases ha : c.registerPacketId id with
    | error e =>
      rw [step_unregistered ha]
      exact ⟨trivial, hstay rfl (change_idle (by exact trivial))⟩
    | ok c' =>
      rw [step_registered ha]
      obtain ⟨hfree, hs⟩ := registerPacketId_spec ha
      exact ⟨trivial, hstay hs (.registered hfree)⟩
  | releasePacketId id => exact Acts.steps hc acts_releasePacketId
  | restoreQos2PublishHandled pids => exact ⟨trivial, hstay rfl .restoredHandled⟩
  | restorePackets packets =>
    obtain ⟨c', hc', hs, -⟩ := c.restorePackets_spec packets
    have hstep : c.step (.restorePackets packets) =
      (c.restorePackets packets >>= fun c ↦ Outcome.ret (c, Reply.unit)) := rfl
    rw [hstep, hc']
    exact ⟨trivial, hstay hs .restored⟩
  | _ => exact ⟨trivial, hstay rfl (change_idle (by exact trivial))⟩

theorem step_reading (hc : c.Reading) (op : Operation w) :
    (c.step op).Ensures fun r ↦ r.1.Reading := by
  intro r hr
  obtain ⟨-, c₀, ⟨-, hread, -⟩, hchange⟩ := (step_spec hc op).of_ret hr
  obtain ⟨p, hp⟩ := hread
  exact ⟨p, show PacketBuilder.Pending r.1.session.builder p from hchange.frame.1 ▸ hp⟩

theorem reachable_reading (h : Reachable (system w) c) : c.Reading := by
  refine h.invariant ?_ fun c op hc ↦ step_reading hc op
  rintro _ ⟨role, version, rfl⟩
  exact ⟨[], .header⟩

end MqttProtocolCore.Connection.GenericConnection
