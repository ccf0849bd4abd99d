import MqttProtocolCore.Connection.RecvLoop
import MqttProtocolCore.Connection.SentWire

namespace MqttProtocolCore.Connection.GenericConnection

open General Packet

variable {w : IdWidth} {c : GenericConnection w} {data rest s : Bytes} {b : PacketBuilder}
  {result : PacketBuildResult}

def recvSlices (c : GenericConnection w) : List Bytes → Outcome (Handled w)
  | [] => return (c, [])
  | data :: slices => do
    let (c, events) ← c.recvAll data
    let (c, more) ← c.recvSlices slices
    return (c, events ++ more)

theorem recvSlices_eq (hc : c.Reading) (slices : List Bytes) :
    c.recvSlices slices = c.recvAll slices.flatten := by
  induction slices generalizing c with
  | nil => rfl
  | cons data slices ih =>
    rw [List.flatten_cons, recvAll_append hc]
    change andThen (c.recvAll data) (fun c ↦ c.recvSlices slices) = _
    cases hr : c.recvAll data with
    | panic => rfl
    | ret r =>
      simp only [andThen, Outcome.ret_bind]
      rw [ih (recvCalls_reading hc _ _ r hr)]

/-- However a stream is cut into slices, a connection ends in the same state and reports the same
events. -/
theorem recv_slices_agree (hc : Reachable (system w) c) {slices slices' : List Bytes}
    (h : slices.flatten = slices'.flatten) : c.recvSlices slices = c.recvSlices slices' := by
  have hread := reachable_reading hc
  rw [recvSlices_eq hread, recvSlices_eq hread, h]

theorem recv_slices_agree_connect : (new .server .u16 .v311).recvSlices
      [[0x10], [0x0d, 0, 4, 0x4d, 0x51, 0x54, 0x54, 4], [2, 0, 0, 0, 1, 0x61]] =
    (new .server .u16 .v311).recvSlices
      [[0x10, 0x0d, 0, 4, 0x4d, 0x51, 0x54, 0x54, 4, 2, 0, 0, 0, 1, 0x61]] :=
  recv_slices_agree (.init ⟨.server, .v311, rfl⟩) rfl

section Packets

variable {p : GenericPacket w} {ps : List (GenericPacket w)} {v : Version} {raw : RawPacket}

def typeOf (p : GenericPacket w) : UInt8 := p.toContinuousBuffer.headD 0 >>> 4

def accept (c : GenericConnection w) (p : GenericPacket w) : Outcome (Handled w) :=
  if p.size > c.maximumPacketSizeRecv then c.handleV50Error .packetTooLarge
  else if ¬ c.canReceive (typeOf p) then return c.reject .protocolError
  else c.deliver p

def acceptAll (c : GenericConnection w) : List (GenericPacket w) → Outcome (Handled w)
  | [] => return (c, [])
  | p :: ps => andThen (c.accept p) fun c ↦ c.acceptAll ps

variable {header : UInt8} {body : Bytes}

theorem processRecvPacket_accept (h : Piece v p header body) (hv : c.protocolVersion = v) :
    c.processRecvPacket (rawPacket header body) = c.accept p := by
  have hdelivers := c.processRecvPacket_spec (h := header) h.short
  have htype : (rawPacket header body).packetType = typeOf p := by
    rw [typeOf, h.head]
    rfl
  unfold accept
  by_cases hsize : p.size > c.maximumPacketSizeRecv
  · rw [if_pos hsize, processRecvPacket, remainingLength_rawPacket h.short, Outcome.ret_bind,
      if_pos (h.size ▸ hsize)]
    rfl
  · rw [if_neg hsize]
    by_cases hcan : c.canReceive (typeOf p)
    · have harr : c.arrived (rawPacket header body) = some (v, p) := by
        have hread := h.read
        rw [arrived, dataAsSlice_rawPacket, if_neg (h.size ▸ hsize), htype,
          if_neg (not_not.mpr hcan), hv]
        cases v with
        | v311 => exact congrArg (Option.map (Version.v311, ·)) hread
        | v50 => exact congrArg (Option.map (Version.v50, ·)) hread
        | undetermined => cases hread
      rw [harr] at hdelivers
      rw [if_neg (not_not.mpr hcan), hdelivers.1, ← hv, determine_self]
    · rw [if_pos hcan, processRecvPacket, remainingLength_rawPacket h.short, Outcome.ret_bind,
        if_neg (h.size ▸ hsize), htype, if_pos hcan]

theorem accept_frame (hv : c.protocolVersion ≠ .undetermined) : (c.accept p).Ensures fun r ↦
    r.1.packetBuilder = c.packetBuilder ∧ r.1.protocolVersion = c.protocolVersion := by
  intro r hr
  unfold accept at hr
  split at hr
  · obtain ⟨r', hr', hrefused⟩ := c.handleV50Error_spec .packetTooLarge
    rw [hr] at hr'
    obtain rfl := Outcome.ret.inj hr'
    rw [hrefused.idle]
    exact ⟨rfl, rfl⟩
  · split at hr
    · obtain rfl := Outcome.ret.inj hr
      exact ⟨rfl, rfl⟩
    · obtain ⟨hbuilder, hver⟩ := ((acts_deliver p).of_ret hr).2.frame
      exact ⟨hbuilder, hver.resolve_right hv⟩

theorem recvAll_piece (hc : c.Reading) (hnew : c.packetBuilder = .new)
    (h : Piece c.protocolVersion p header body) :
    c.recvAll p.toContinuousBuffer = c.accept p := by
  have hne : p.toContinuousBuffer ≠ [] := by
    intro hnil
    have hfed := h.fed
    rw [hnil] at hfed
    cases (hfed.unique (.incomplete .header)).2.1
  have hrecv : c.recv p.toContinuousBuffer = c.accept p >>= fun r ↦ .ret (r, []) := by
    obtain ⟨b, result, rest, hfeed, hfed⟩ := PacketBuilder.feed_spec .header p.toContinuousBuffer
    obtain ⟨rfl, rfl, rfl⟩ := hfed.unique h.fed
    rw [recv, hnew, hfeed, ← processRecvPacket_accept h rfl]
    have hsame : { c with packetBuilder := .new } = c := by rw [← hnew]
    simp only [Outcome.ret_bind, hsame]
    rfl
  rw [recvAll_eq hc hne, hrecv]
  cases c.accept p with
  | panic => rfl
  | ret r =>
    change Outcome.ret (r.1, r.2 ++ []) = _
    rw [List.append_nil]

theorem recvAll_stream (hc : c.Reading) (hnew : c.packetBuilder = .new)
    (h : ∀ p ∈ ps, Streamable c.protocolVersion p) : c.recvAll (stream ps) = c.acceptAll ps := by
  induction ps generalizing c with
  | nil => rfl
  | cons p ps ih =>
    obtain ⟨header, body, hpiece⟩ := (h p List.mem_cons_self).piece
    have hv : c.protocolVersion ≠ .undetermined := by
      rw [← (h p List.mem_cons_self).version]
      exact protocolVersion_ne p
    change c.recvAll (p.toContinuousBuffer ++ stream ps) = andThen (c.accept p) _
    have hone := recvAll_piece hc hnew hpiece
    rw [recvAll_append hc, hone]
    cases hr : c.accept p with
    | panic => rfl
    | ret r =>
      obtain ⟨hbuilder, hver⟩ := accept_frame hv r hr
      have hread : r.1.Reading := recvCalls_reading hc _ _ r (hone.trans hr)
      simp only [andThen, Outcome.ret_bind]
      rw [ih hread (hbuilder.trans hnew) fun q hq ↦ hver ▸ h q (List.mem_cons_of_mem p hq)]

/-- The bytes of packets, in slices of any lengths, are received as the packets are, one after the
other. -/
theorem recv_stream (hc : Reachable (system w) c) (hnew : c.packetBuilder = .new)
    (h : ∀ p ∈ ps, Streamable c.protocolVersion p) {slices : List Bytes}
    (hs : slices.flatten = stream ps) : c.recvSlices slices = c.acceptAll ps := by
  have hread := reachable_reading hc
  rw [recvSlices_eq hread, hs, recvAll_stream hread hnew h]

/-- A peer of the same version, before the first byte of a packet, receives the bytes of what is sent
in a part of a run as it receives the packets. -/
theorem sent_received {sender : GenericConnection w} {trace part : Trace w}
    (h : Run (system w) (fun _ op ↦ Given op) trace sender) (hpart : part <:+: trace)
    (hrestored : ∀ q, Restored trace q → q.protocolVersion = sender.protocolVersion)
    (hsize : ∀ q ∈ sentIn part, q.size ≤ framedMax) (hc : Reachable (system w) c)
    (hnew : c.packetBuilder = .new) (hv : c.protocolVersion = sender.protocolVersion)
    {slices : List Bytes} (hs : slices.flatten = stream (sentIn part)) :
    c.recvSlices slices = c.acceptAll (sentIn part) := by
  refine recv_stream hc hnew (fun q hq ↦ ?_) hs
  rw [hv]
  exact sent_streamable h hpart hrestored hsize q hq

theorem sent_received_connect : ∃ (trace : Trace .u16) (slices : List Bytes),
    sentIn trace ≠ [] ∧ slices.flatten = stream (sentIn trace) ∧
      (new .server .u16 .v311).recvSlices slices =
        (new .server .u16 .v311).acceptAll (sentIn trace) := by
  obtain ⟨c, trace, hrun, hv, hrestored, hne, hmax⟩ := sends_connect
  have hcat : [(stream (sentIn trace)).take 3, (stream (sentIn trace)).drop 3].flatten =
      stream (sentIn trace) := by simp
  refine ⟨trace, _, hne, hcat, ?_⟩
  exact sent_received hrun (List.infix_refl _) (fun q hq ↦ (hrestored q hq).elim) hmax
    (.init ⟨.server, .v311, rfl⟩) rfl hv.symm hcat

end Packets

end MqttProtocolCore.Connection.GenericConnection
