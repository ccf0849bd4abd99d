import MqttProtocolCore.Connection.Framing
import MqttProtocolCore.Connection.Session

namespace MqttProtocolCore.Connection

open General Packet

variable {w : IdWidth} {α : Type}

def readAs (x : Fallible MqttError (α × ℕ)) (f : α → GenericPacket w) : Option (GenericPacket w) :=
  match x with
  | .ok (packet, _) => some (f packet)
  | _ => none

def readV311 (raw : RawPacket) : Option (GenericPacket w) :=
  let data := raw.dataAsSlice
  match raw.packetType.toNat with
  | 1 => readAs (V311.Connect.parse data) .v311Connect
  | 2 => readAs (V311.Connack.parse data) .v311Connack
  | 3 => readAs (V311.Publish.parse raw.flags data) .v311Publish
  | 4 => readAs (V311.Ack.parse data) .v311Puback
  | 5 => readAs (V311.Ack.parse data) .v311Pubrec
  | 6 => readAs (V311.Ack.parse data) .v311Pubrel
  | 7 => readAs (V311.Ack.parse data) .v311Pubcomp
  | 8 => readAs (V311.Subscribe.parse data) .v311Subscribe
  | 9 => readAs (V311.Suback.parse data) .v311Suback
  | 10 => readAs (V311.Unsubscribe.parse data) .v311Unsubscribe
  | 11 => readAs (V311.Unsuback.parse data) .v311Unsuback
  | 12 => readAs (V311.Empty.parse data) .v311Pingreq
  | 13 => readAs (V311.Empty.parse data) .v311Pingresp
  | 14 => readAs (V311.Empty.parse data) .v311Disconnect
  | _ => none

def readV50 (raw : RawPacket) : Option (GenericPacket w) :=
  let data := raw.dataAsSlice
  match raw.packetType.toNat with
  | 1 => readAs (V50.Connect.parse data) .v50Connect
  | 2 => readAs (V50.Connack.parse data) .v50Connack
  | 3 => readAs (V50.Publish.parse raw.flags data) .v50Publish
  | 4 => readAs (V50.Ack.parse data) .v50Puback
  | 5 => readAs (V50.Ack.parse data) .v50Pubrec
  | 6 => readAs (V50.Ack.parse data) .v50Pubrel
  | 7 => readAs (V50.Ack.parse data) .v50Pubcomp
  | 8 => readAs (V50.Subscribe.parse data) .v50Subscribe
  | 9 => readAs (V50.Suback.parse data) .v50Suback
  | 10 => readAs (V50.Unsubscribe.parse data) .v50Unsubscribe
  | 11 => readAs (V50.Unsuback.parse data) .v50Unsuback
  | 12 => readAs (V311.Empty.parse data) .v50Pingreq
  | 13 => readAs (V311.Empty.parse data) .v50Pingresp
  | 14 => readAs (V50.Disconnect.parse data) .v50Disconnect
  | 15 => readAs (V50.Auth.parse data) .v50Auth
  | _ => none

theorem packetType_rawPacket (h : UInt8) (body : Bytes) :
    (rawPacket h body).packetType.toNat = h.toNat / 16 := by
  simp [rawPacket, RawPacket.packetType, Nat.shiftRight_eq_div_pow]

theorem and_f0_eq_30 (h : UInt8) : h &&& 0xF0 = 0x30 ↔ h.toNat / 16 = 3 := by
  rw [← UInt8.toNat_inj, UInt8.toNat_and]
  have hlt : h.toNat < 256 := h.toNat_lt
  have : ∀ n < 256, n &&& 240 = 48 ↔ n / 16 = 3 := by decide +kernel
  exact this _ hlt

namespace GenericConnection

def deliver (c : GenericConnection w) : GenericPacket w → Outcome (Handled w)
  | .v311Connect p =>
    if c.status ≠ .disconnected then c.handleV311Error .protocolError
    else return { c with status := .connecting }.recvV311Connect p
  | .v50Connect p =>
    if c.status ≠ .disconnected then c.handleV50Error .protocolError
    else { c with status := .connecting }.recvV50Connect p
  | .v311Connack p => c.recvV311Connack p
  | .v50Connack p => c.recvV50Connack p
  | .v311Publish p => c.recvV311Publish p
  | .v50Publish p => c.recvV50Publish p
  | .v311Puback p => c.recvV311Puback p
  | .v50Puback p => c.recvV50Puback p
  | .v311Pubrec p => c.recvV311Pubrec p
  | .v50Pubrec p => c.recvV50Pubrec p
  | .v311Pubrel p => c.recvV311Pubrel p
  | .v50Pubrel p => c.recvV50Pubrel p
  | .v311Pubcomp p => c.recvV311Pubcomp p
  | .v50Pubcomp p => c.recvV50Pubcomp p
  | .v311Suback p => c.recvSubscriptionAck .suback handleV311Error p.packetId (.v311Suback p)
  | .v50Suback p => c.recvSubscriptionAck .suback handleV50Error p.packetId (.v50Suback p)
  | .v311Unsuback p => c.recvSubscriptionAck .unsuback handleV311Error p.packetId (.v311Unsuback p)
  | .v50Unsuback p => c.recvSubscriptionAck .unsuback handleV50Error p.packetId (.v50Unsuback p)
  | .v311Pingreq p => c.recvV311Pingreq p
  | .v50Pingreq p => c.recvV50Pingreq p
  | .v311Pingresp p => return c.recvPingresp (.v311Pingresp p)
  | .v50Pingresp p => return c.recvPingresp (.v50Pingresp p)
  | .v311Disconnect p => return c.recvDisconnect (.v311Disconnect p)
  | .v50Disconnect p => return c.recvDisconnect (.v50Disconnect p)
  | packet => return c.received packet

/-- The packet that `process_recv_packet` reads, with the version it is read in. -/
def arrived (c : GenericConnection w) (raw : RawPacket) : Option (Version × GenericPacket w) :=
  if remainingLengthToTotalSize raw.dataAsSlice.length > c.maximumPacketSizeRecv then none
  else if ¬ c.canReceive raw.packetType then none
  else
    match c.protocolVersion with
    | .v311 => (readV311 raw).map (.v311, ·)
    | .v50 => (readV50 raw).map (.v50, ·)
    | .undetermined =>
      if raw.packetType = 1 ∧ 7 ≤ raw.dataAsSlice.length then
        match (raw.dataAsSlice[6]? : Option UInt8) with
        | some 4 => (readV311 raw).map (.v311, ·)
        | some 5 => (readV50 raw).map (.v50, ·)
        | _ => none
      else none

def arrival (c : GenericConnection w) (data : Bytes) : Option (Version × GenericPacket w) :=
  match c.packetBuilder.feed data with
  | .ret (_, .complete raw, _) => c.arrived raw
  | _ => none

/-- A packet is refused: nothing is notified, and the connection is ended at most. -/
structure Refused (c : GenericConnection w) (r : Handled w) : Prop where
  idle : Idle c r.1
  status : r.1.status = .connected → c.status = .connected
  requested : ∀ p ∈ requested r.2, Silent p
  notified : notified r.2 = []
  released : released r.2 = []
  errors : errors r.2 ≠ []

variable {c : GenericConnection w} {raw : RawPacket} {r : Handled w} {e : MqttError}
  {packet : GenericPacket w}

theorem refused_reject (c : GenericConnection w) (e : MqttError) : Refused c (c.reject e) :=
  ⟨rfl, id, by simp [reject], rfl, rfl, by simp [reject]⟩

/-- A refusal may be preceded by a packet that says why, with the connection in any state. -/
theorem refused_of_plain {c' : GenericConnection w} (hc : Idle c c') (h : Plain c' r packet)
    (hs : r.1.status = .connected → c.status = .connected) (hp : Silent packet) (e : MqttError) :
    Refused c (r.1, r.2 ++ [.notifyError e]) := by
  refine ⟨hc.trans h.idle, hs, ?_, ?_, ?_, ?_⟩
  · rcases h.sends with ⟨hr, -⟩ | ⟨hr, -⟩ <;> simp [hr, hp]
  · simp [h.notified]
  · simp [h.released]
  · simp

theorem silent_disconnect (p : V50.Disconnect) :
    Silent (.v50Disconnect p : GenericPacket w) := ⟨rfl, rfl, rfl, rfl, rfl⟩

theorem status_sendDisconnect :
    (c.sendDisconnect packet).1.status = .connected → c.status = .connected := by
  unfold sendDisconnect
  split
  · exact id
  · simp [cancelTimers]

theorem processSendV50Disconnect_spec (c : GenericConnection w) (p : V50.Disconnect) :
    ∃ r, c.processSendV50Disconnect p = .ret r ∧ Plain c r (.v50Disconnect p) ∧
      (r.1.status = .connected → c.status = .connected) := by
  unfold processSendV50Disconnect limited
  split
  · exact ⟨_, rfl, plain_sendDisconnect, status_sendDisconnect⟩
  · exact ⟨_, rfl, plain_reject _, id⟩

theorem handleV311Error_spec (c : GenericConnection w) (e : MqttError) :
    ∃ r, c.handleV311Error e = .ret r ∧ Refused c r :=
  ⟨_, rfl, rfl, id, by simp, rfl, rfl, by simp⟩

theorem handleV50Error_spec (c : GenericConnection w) (e : MqttError) :
    ∃ r, c.handleV50Error e = .ret r ∧ Refused c r := by
  obtain ⟨p, hp, -⟩ := V50.Disconnect.build_spec e.toDisconnectReasonCode
  obtain ⟨r, hr, hplain, hs⟩ := c.processSendV50Disconnect_spec p
  refine ⟨(r.1, r.2 ++ [.notifyError e]), by simp [handleV50Error, hp, hr], ?_⟩
  exact refused_of_plain (.refl c) hplain hs (silent_disconnect p) e

def canDisconnect (c : GenericConnection w) : Bool :=
  c.status = .connected ∧ 3 ≤ c.maximumPacketSizeSend

/-- A DISCONNECT with a reason ends the connection, or is not let out. -/
theorem processSendV50Disconnect_cases (c : GenericConnection w) {p : V50.Disconnect}
    (hsize : p.size = 3) :
    c.canDisconnect ∧ c.processSendV50Disconnect p =
      .ret ({ c with status := .disconnected }.cancelTimers.1,
        c.cancelTimers.2 ++ [.requestSendPacket (.v50Disconnect p) none, .requestClose]) ∨
    ¬ c.canDisconnect ∧ ∃ e, c.processSendV50Disconnect p = .ret (c.reject e) := by
  unfold processSendV50Disconnect limited validateMaximumPacketSizeSend sendDisconnect canDisconnect
  by_cases hlim : 3 ≤ c.maximumPacketSizeSend
  · by_cases hs : c.status = .connected
    · left
      exact ⟨by simp [hs, hlim], by simp [hsize, hlim, hs, cancelTimers]⟩
    · right
      exact ⟨by simp [hs], .packetNotAllowedToSend, by simp [hsize, hlim, hs]⟩
  · right
    exact ⟨by simp [hlim], .packetTooLarge, by simp [hsize, hlim]⟩

/-- An error ends the connection with DISCONNECT, or only adds to the errors. -/
theorem handleV50Error_cases (c : GenericConnection w) (e : MqttError) :
    (c.canDisconnect ∧ ∃ p, p.reasonCode = some e.toDisconnectReasonCode ∧ c.handleV50Error e =
      .ret ({ c with status := .disconnected }.cancelTimers.1, c.cancelTimers.2 ++
        [.requestSendPacket (.v50Disconnect p) none, .requestClose, .notifyError e])) ∨
    ¬ c.canDisconnect ∧ ∃ e', c.handleV50Error e = .ret (c, [.notifyError e', .notifyError e]) := by
  obtain ⟨p, hp, hcode, hsize⟩ := V50.Disconnect.build_spec e.toDisconnectReasonCode
  rcases c.processSendV50Disconnect_cases hsize with ⟨hd, hr⟩ | ⟨hd, e', hr⟩
  · exact .inl ⟨hd, p, hcode, by simp [handleV50Error, hp, hr]⟩
  · exact .inr ⟨hd, e', by simp [handleV50Error, hp, hr, reject]⟩

end GenericConnection

end MqttProtocolCore.Connection
