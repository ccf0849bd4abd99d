import MqttProtocolCore.Connection.Chunks
import MqttProtocolCore.Connection.Wire
import MqttProtocolCore.Packet.LengthField

namespace MqttProtocolCore.Connection

open General Packet

variable {w : IdWidth} {p : GenericPacket w} {ps : List (GenericPacket w)} {v : Version}
  {s : Bytes} {b : PacketBuilder} {log : PacketBuilder.Log} {pos : ℕ}

def framedMax : ℕ := 2097155

/-- The packets as they follow each other in a stream. -/
def stream (ps : List (GenericPacket w)) : Bytes := (ps.map GenericPacket.toContinuousBuffer).flatten

def readResult (v : Version) : PacketBuildResult → Option (GenericPacket w)
  | .complete raw => readFrame v raw
  | _ => none

def readLog (v : Version) (log : PacketBuilder.Log) : List (Option (GenericPacket w)) :=
  log.map fun entry ↦ readResult v entry.2

/-- A packet that the peer can read from a stream of version `v`. -/
structure Streamable (v : Version) (p : GenericPacket w) : Prop where
  wired : Wired p
  version : p.protocolVersion = v
  size : p.size ≤ framedMax

structure Piece (v : Version) (p : GenericPacket w) (header : UInt8) (body : Bytes) : Prop where
  fed : PacketBuilder.Fed p.toContinuousBuffer .new (.complete (rawPacket header body)) []
  read : readFrame v (rawPacket header body) = some p
  head : p.toContinuousBuffer.headD 0 = header
  size : p.size = remainingLengthToTotalSize body.length
  short : body.length < VariableByteInteger.max

theorem Streamable.piece (h : Streamable v p) : ∃ header body, Piece v p header body := by
  obtain ⟨header, l, body, hlaid⟩ := p.laidOut
  have hbytes : p.toContinuousBuffer = header :: (l.encoded ++ body) := hlaid.bytes
  have hread : readBack p.protocolVersion p.toContinuousBuffer = some p := h.wired.read
  rw [readBack_laidOut hlaid, h.version] at hread
  have hlen := hlaid.lengthsAgree_iff.mp h.wired.lengths
  obtain ⟨hf, hval, -⟩ := VariableByteInteger.isField_encoded l
  have hsize : p.size = 1 + l.size + l.toU32 := hlaid.size
  have hmax := h.size
  rw [hsize, VariableByteInteger.size_eq_sizeOf, framedMax] at hmax
  refine ⟨header, body, ?_, hread, by rw [hbytes]; rfl, ?_, ?_⟩
  · refine .complete hf ?_ (by rw [hval, hlen]) (by rw [hbytes, List.append_nil])
    change l.size ≤ 3
    rw [VariableByteInteger.size_eq_sizeOf]
    unfold VariableByteInteger.sizeOf at hmax ⊢
    split_ifs at hmax ⊢ <;> omega
  · rw [hsize, VariableByteInteger.size_eq_sizeOf, hlen]
    rfl
  · rw [VariableByteInteger.max]
    omega

theorem PacketBuilder.Fed.pending {t : Bytes} {result : PacketBuildResult}
    (h : PacketBuilder.Fed (s ++ t) b result []) (ht : t ≠ []) :
    ∃ b', PacketBuilder.Pending b' s := by
  obtain ⟨b', result', rest, -, hfed⟩ := PacketBuilder.feed_spec .header s
  rw [List.nil_append] at hfed
  by_cases hr : result' = .incomplete
  · subst hr
    cases hfed with
    | incomplete hp => exact ⟨_, hp⟩
  · obtain ⟨rfl, piece, rfl, hpiece⟩ := hfed.split hr
    have hwhole := hpiece.append hr (rest ++ t)
    rw [← List.append_assoc] at hwhole
    obtain ⟨-, -, hnil⟩ := hwhole.unique h
    exact (ht (List.append_eq_nil_iff.mp hnil).2).elim

/-- The bytes of packets are pieces one behind the other; those of the packet that is cut off wait in
the builder. -/
theorem reads_stream (h : ∀ p ∈ ps, Streamable v p) {rest : Bytes} (hs : s ++ rest = stream ps)
    (pos : ℕ) : ∃ b log n, PacketBuilder.Reads pos s log b ∧ readLog v log = (ps.take n).map some ∧
      (rest = [] → b = .new ∧ n = ps.length) := by
  induction ps generalizing s pos with
  | nil =>
    obtain ⟨rfl, rfl⟩ := List.append_eq_nil_iff.mp hs
    exact ⟨.new, [], 0, .pending .header, rfl, fun _ ↦ ⟨rfl, rfl⟩⟩
  | cons p ps ih =>
    obtain ⟨header, body, hpiece⟩ := (h p List.mem_cons_self).piece
    have hfed := hpiece.fed
    change s ++ rest = p.toContinuousBuffer ++ stream ps at hs
    by_cases hle : p.toContinuousBuffer.length ≤ s.length
    · obtain ⟨t, rfl⟩ : p.toContinuousBuffer <+: s :=
        List.prefix_of_prefix_length_le ⟨stream ps, hs.symm⟩ ⟨rest, rfl⟩ hle
      rw [List.append_assoc] at hs
      obtain ⟨b, log, n, hreads, hlog, hend⟩ := ih (fun q hq ↦ h q (List.mem_cons_of_mem p hq))
        (List.append_cancel_left hs) (pos + p.toContinuousBuffer.length)
      refine ⟨b, _, n + 1, .piece hfed (by simp) hreads, ?_, ?_⟩
      · change readFrame v (rawPacket header body) :: readLog v log = _
        rw [hpiece.read, hlog]
        rfl
      · intro hnil
        obtain ⟨rfl, rfl⟩ := hend hnil
        exact ⟨rfl, rfl⟩
    · obtain ⟨t, ht⟩ : s <+: p.toContinuousBuffer :=
        List.prefix_of_prefix_length_le ⟨rest, hs⟩ ⟨stream ps, rfl⟩ (by omega)
      have hne : t ≠ [] := by
        intro hnil
        rw [hnil, List.append_nil] at ht
        rw [ht] at hle
        exact hle le_rfl
      rw [← ht] at hfed hs
      obtain ⟨b, hpending⟩ := hfed.pending hne
      refine ⟨b, [], 0, .pending hpending, rfl, ?_⟩
      intro hnil
      rw [hnil, List.append_nil, List.append_assoc] at hs
      exact (hne (List.append_eq_nil_iff.mp (List.self_eq_append_right.mp hs)).1).elim

/-- What has arrived of a stream of packets, in slices of any lengths, is read as the packets that
have arrived whole, in their order; at the end of the stream all of them have. -/
theorem stream_read_back (h : ∀ p ∈ ps, Streamable v p) (slices : List Bytes) {rest : Bytes}
    (hs : slices.flatten ++ rest = stream ps) : ∃ b log n,
      PacketBuilder.new.drainSlices 0 slices = some (b, slices.flatten.length, log) ∧
        readLog v log = (ps.take n).map some ∧ (rest = [] → b = .new ∧ n = ps.length) := by
  obtain ⟨b, log, hdrain, -, hreads⟩ := PacketBuilder.feed_slices slices
  obtain ⟨b', log', n, hreads', hlog, hend⟩ := reads_stream h hs 0
  obtain ⟨rfl, rfl⟩ := hreads.unique hreads'
  exact ⟨b, log, n, hdrain, hlog, hend⟩

end MqttProtocolCore.Connection
