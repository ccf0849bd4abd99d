import MqttProtocolCore.Connection.Origin
import MqttProtocolCore.Packet.Codec.Prefix

namespace MqttProtocolCore.Connection

open General Packet

variable {w : IdWidth} {α : Type}

def tagged (f : α → GenericPacket w) (x : Fallible MqttError (α × ℕ)) :
    Fallible MqttError (GenericPacket w × ℕ) := do
  let (packet, consumed) ← x
  return (f packet, consumed)

def parseV311 (packetType flags : UInt8) (data : Bytes) :
    Fallible MqttError (GenericPacket w × ℕ) :=
  match packetType.toNat with
  | 1 => tagged .v311Connect (V311.Connect.parse data)
  | 2 => tagged .v311Connack (V311.Connack.parse data)
  | 3 => tagged .v311Publish (V311.Publish.parse flags data)
  | 4 => tagged .v311Puback (V311.Ack.parse data)
  | 5 => tagged .v311Pubrec (V311.Ack.parse data)
  | 6 => tagged .v311Pubrel (V311.Ack.parse data)
  | 7 => tagged .v311Pubcomp (V311.Ack.parse data)
  | 8 => tagged .v311Subscribe (V311.Subscribe.parse data)
  | 9 => tagged .v311Suback (V311.Suback.parse data)
  | 10 => tagged .v311Unsubscribe (V311.Unsubscribe.parse data)
  | 11 => tagged .v311Unsuback (V311.Unsuback.parse data)
  | 12 => tagged .v311Pingreq (V311.Empty.parse data)
  | 13 => tagged .v311Pingresp (V311.Empty.parse data)
  | 14 => tagged .v311Disconnect (V311.Empty.parse data)
  | _ => .err .malformedPacket

def parseV50 (packetType flags : UInt8) (data : Bytes) :
    Fallible MqttError (GenericPacket w × ℕ) :=
  match packetType.toNat with
  | 1 => tagged .v50Connect (V50.Connect.parse data)
  | 2 => tagged .v50Connack (V50.Connack.parse data)
  | 3 => tagged .v50Publish (V50.Publish.parse flags data)
  | 4 => tagged .v50Puback (V50.Ack.parse data)
  | 5 => tagged .v50Pubrec (V50.Ack.parse data)
  | 6 => tagged .v50Pubrel (V50.Ack.parse data)
  | 7 => tagged .v50Pubcomp (V50.Ack.parse data)
  | 8 => tagged .v50Subscribe (V50.Subscribe.parse data)
  | 9 => tagged .v50Suback (V50.Suback.parse data)
  | 10 => tagged .v50Unsubscribe (V50.Unsubscribe.parse data)
  | 11 => tagged .v50Unsuback (V50.Unsuback.parse data)
  | 12 => tagged .v50Pingreq (V311.Empty.parse data)
  | 13 => tagged .v50Pingresp (V311.Empty.parse data)
  | 14 => tagged .v50Disconnect (V50.Disconnect.parse data)
  | 15 => tagged .v50Auth (V50.Auth.parse data)
  | _ => .err .malformedPacket

def parseBody : Version → UInt8 → UInt8 → Bytes → Fallible MqttError (GenericPacket w × ℕ)
  | .v311 => parseV311
  | .v50 => parseV50
  | .undetermined => fun _ _ _ ↦ .err .malformedPacket

def readsAll (v : Version) (packetType : UInt8) : Bool :=
  packetType = 3 ∨ packetType = 8 ∨ packetType = 9 ∨ packetType = 10 ∨
    packetType = 11 ∧ v = .v50

theorem tagged_eq_ok {f : α → GenericPacket w} {x : Fallible MqttError (α × ℕ)}
    {packet : GenericPacket w} {n : ℕ} :
    tagged f x = .ok (packet, n) ↔ ∃ a, x = .ok (a, n) ∧ f a = packet := by
  unfold tagged
  rw [Fallible.bind_eq_ok]
  constructor
  · rintro ⟨⟨a, m⟩, hx, h⟩
    cases h
    exact ⟨a, hx, rfl⟩
  · rintro ⟨a, hx, rfl⟩
    exact ⟨(a, n), hx, rfl⟩

theorem prefixed_tagged {f : α → GenericPacket w} {parse : Bytes → Fallible MqttError (α × ℕ)}
    (h : Prefixed parse) : Prefixed fun data ↦ tagged f (parse data) := by
  refine ⟨fun {data packet n} hp ↦ ?_⟩
  obtain ⟨a, ha, rfl⟩ := tagged_eq_ok.mp hp
  obtain ⟨hle, htake⟩ := h.of_ok ha
  exact ⟨hle, tagged_eq_ok.mpr ⟨a, htake, rfl⟩⟩

theorem exhausting_tagged {f : α → GenericPacket w} {parse : Bytes → Fallible MqttError (α × ℕ)}
    (h : Exhausting parse) : Exhausting fun data ↦ tagged f (parse data) := by
  refine ⟨fun {data packet n} hp ↦ ?_⟩
  obtain ⟨a, ha, -⟩ := tagged_eq_ok.mp hp
  exact h.of_ok ha

theorem prefixed_err (e : MqttError) :
    Prefixed fun _ ↦ (.err e : Fallible MqttError (GenericPacket w × ℕ)) := by
  refine ⟨fun {data packet n} hp ↦ ?_⟩
  cases hp

theorem prefixed_parseV311 (packetType flags : UInt8) :
    Prefixed (parseV311 (w := w) packetType flags) := by
  unfold parseV311
  generalize packetType.toNat = t
  by_cases ht : 1 ≤ t ∧ t ≤ 14
  · obtain ⟨h₁, h₁₄⟩ := ht
    interval_cases t
    · exact prefixed_tagged V311.Connect.framed.prefixed
    · exact prefixed_tagged V311.Connack.prefixed
    · exact prefixed_tagged (V311.Publish.exhausting flags).prefixed
    · exact prefixed_tagged V311.Ack.prefixed
    · exact prefixed_tagged V311.Ack.prefixed
    · exact prefixed_tagged V311.Ack.prefixed
    · exact prefixed_tagged V311.Ack.prefixed
    · exact prefixed_tagged (V311.Listing.exhausting (α := SubEntry)).prefixed
    · exact prefixed_tagged (V311.Listing.exhausting (α := SubackReturnCode)).prefixed
    · exact prefixed_tagged (V311.Listing.exhausting (α := MqttString)).prefixed
    · exact prefixed_tagged V311.Unsuback.prefixed
    · exact prefixed_tagged V311.Empty.prefixed
    · exact prefixed_tagged V311.Empty.prefixed
    · exact prefixed_tagged V311.Empty.prefixed
  · convert prefixed_err (w := w) .malformedPacket using 2
    split <;> first | omega | rfl

theorem prefixed_parseV50 (packetType flags : UInt8) :
    Prefixed (parseV50 (w := w) packetType flags) := by
  unfold parseV50
  generalize packetType.toNat = t
  by_cases ht : 1 ≤ t ∧ t ≤ 15
  · obtain ⟨h₁, h₁₅⟩ := ht
    interval_cases t
    · exact prefixed_tagged V50.Connect.framed.prefixed
    · exact prefixed_tagged V50.Connack.framed.prefixed
    · exact prefixed_tagged (V50.Publish.exhausting flags).prefixed
    · exact prefixed_tagged V50.Ack.shortForm.prefixed
    · exact prefixed_tagged V50.Ack.shortForm.prefixed
    · exact prefixed_tagged V50.Ack.shortForm.prefixed
    · exact prefixed_tagged V50.Ack.shortForm.prefixed
    · exact prefixed_tagged V50.Listing.exhausting.prefixed
    · exact prefixed_tagged V50.Listing.exhausting.prefixed
    · exact prefixed_tagged V50.Listing.exhausting.prefixed
    · exact prefixed_tagged V50.Listing.exhausting.prefixed
    · exact prefixed_tagged V311.Empty.prefixed
    · exact prefixed_tagged V311.Empty.prefixed
    · exact prefixed_tagged V50.Disconnect.shortForm.prefixed
    · exact prefixed_tagged V50.Auth.shortForm.prefixed
  · convert prefixed_err (w := w) .malformedPacket using 2
    split <;> first | omega | rfl

theorem prefixed_parseBody (v : Version) (packetType flags : UInt8) :
    Prefixed (parseBody (w := w) v packetType flags) := by
  cases v with
  | v311 => exact prefixed_parseV311 packetType flags
  | v50 => exact prefixed_parseV50 packetType flags
  | undetermined => exact prefixed_err _

theorem exhausting_parseBody {v : Version} {packetType : UInt8} (flags : UInt8)
    (h : readsAll v packetType) : Exhausting (parseBody (w := w) v packetType flags) := by
  have hcases : packetType = 3 ∨ packetType = 8 ∨ packetType = 9 ∨ packetType = 10 ∨
      packetType = 11 ∧ v = .v50 := of_decide_eq_true h
  cases v with
  | v311 =>
    obtain rfl | rfl | rfl | rfl | ⟨-, hv⟩ := hcases
    · exact exhausting_tagged (V311.Publish.exhausting flags)
    · exact exhausting_tagged (V311.Listing.exhausting (α := SubEntry))
    · exact exhausting_tagged (V311.Listing.exhausting (α := SubackReturnCode))
    · exact exhausting_tagged (V311.Listing.exhausting (α := MqttString))
    · cases hv
  | v50 =>
    obtain rfl | rfl | rfl | rfl | ⟨rfl, -⟩ := hcases
    · exact exhausting_tagged (V50.Publish.exhausting flags)
    · exact exhausting_tagged V50.Listing.exhausting
    · exact exhausting_tagged V50.Listing.exhausting
    · exact exhausting_tagged V50.Listing.exhausting
    · exact exhausting_tagged V50.Listing.exhausting
  | undetermined => exact ⟨fun hp ↦ by cases hp⟩

theorem tagged_of_readAs {f : α → GenericPacket w} {x : Fallible MqttError (α × ℕ)}
    {packet : GenericPacket w} (h : readAs x f = some packet) :
    ∃ n, tagged f x = .ok (packet, n) := by
  cases x with
  | ok a =>
    obtain ⟨a, n⟩ := a
    exact ⟨n, tagged_eq_ok.mpr ⟨a, rfl, Option.some.inj h⟩⟩
  | err e => cases h
  | panic => cases h

theorem parseV311_of_read {raw : RawPacket} {packet : GenericPacket w}
    (h : readV311 raw = some packet) :
    ∃ n, parseV311 raw.packetType raw.flags raw.dataAsSlice = .ok (packet, n) := by
  unfold readV311 at h
  unfold parseV311
  generalize raw.packetType.toNat = n at h ⊢
  obtain _ | _ | _ | _ | _ | _ | _ | _ | _ | _ | _ | _ | _ | _ | _ | n := n
  all_goals first
    | exact tagged_of_readAs h
    | cases h

theorem parseV50_of_read {raw : RawPacket} {packet : GenericPacket w}
    (h : readV50 raw = some packet) :
    ∃ n, parseV50 raw.packetType raw.flags raw.dataAsSlice = .ok (packet, n) := by
  unfold readV50 at h
  unfold parseV50
  generalize raw.packetType.toNat = n at h ⊢
  obtain _ | _ | _ | _ | _ | _ | _ | _ | _ | _ | _ | _ | _ | _ | _ | _ | n := n
  all_goals first
    | exact tagged_of_readAs h
    | cases h

namespace GenericConnection

variable {c : GenericConnection w} {raw : RawPacket} {packet : GenericPacket w} {v : Version}

/-- A packet that arrives is what the parser of its type gives for the body of the frame. -/
theorem parseBody_of_arrived (h : c.arrived raw = some (v, packet)) :
    Settles c v ∧ ∃ n, parseBody v raw.packetType raw.flags raw.dataAsSlice = .ok (packet, n) := by
  have hmap {o : Option (GenericPacket w)} {v' : Version} (ho : o.map (v', ·) = some (v, packet)) :
      v' = v ∧ o = some packet := by
    obtain ⟨q, rfl, hq⟩ := Option.map_eq_some_iff.mp ho
    obtain ⟨rfl, rfl⟩ := Prod.mk.inj hq
    exact ⟨rfl, rfl⟩
  unfold arrived at h
  split at h
  · cases h
  split at h
  · cases h
  split at h
  · rename_i hv
    obtain ⟨rfl, hread⟩ := hmap h
    exact ⟨.inl hv.symm, parseV311_of_read hread⟩
  · rename_i hv
    obtain ⟨rfl, hread⟩ := hmap h
    exact ⟨.inl hv.symm, parseV50_of_read hread⟩
  · rename_i hv
    split at h
    · split at h
      · obtain ⟨rfl, hread⟩ := hmap h
        exact ⟨.inr hv, parseV311_of_read hread⟩
      · obtain ⟨rfl, hread⟩ := hmap h
        exact ⟨.inr hv, parseV50_of_read hread⟩
      · cases h
    · cases h

/-- The parser gives a packet for the first `n` bytes of a body, whatever comes after them; the
parsers of some types read on to the end. -/
structure ReadFrom (v : Version) (raw : RawPacket) (packet : GenericPacket w) (n : ℕ) : Prop where
  parsed : parseBody v raw.packetType raw.flags raw.dataAsSlice = .ok (packet, n)
  consumed : n ≤ raw.dataAsSlice.length
  alone : parseBody v raw.packetType raw.flags (raw.dataAsSlice.take n) = .ok (packet, n)
  whole : readsAll v raw.packetType → n = raw.dataAsSlice.length

theorem readFrom_of_parsed {n : ℕ}
    (h : parseBody v raw.packetType raw.flags raw.dataAsSlice = .ok (packet, n)) :
    ReadFrom v raw packet n := by
  obtain ⟨hle, htake⟩ := (prefixed_parseBody v raw.packetType raw.flags).of_ok h
  exact ⟨h, hle, htake, fun hall ↦ (exhausting_parseBody raw.flags hall).of_ok h⟩

/-- What `recv` hands over was parsed from the first bytes of a complete frame: the bytes behind
them are not looked at, and there are none where the parser reads to the end. -/
theorem notified_read (h : Reachable (system w) c) {data : Bytes} {r : Handled w × Bytes}
    (hr : c.recv data = .ret r) {q : GenericPacket w} (hq : q ∈ notified r.1.2) :
    ∃ b raw rest v packet n, c.packetBuilder.feed data = .ret (b, .complete raw, rest) ∧
      Settles c v ∧ ReadFrom v raw packet n ∧ Handed packet q := by
  cases (recv_emits (reachable_reading h) hr).notices q hq with
  | @received _ v packet _ ha hhanded =>
    unfold arrival at ha
    split at ha
    · rename_i b raw rest hfeed
      obtain ⟨hv, n, hn⟩ := parseBody_of_arrived ha
      exact ⟨b, raw, rest, v, packet, n, hfeed, hv, readFrom_of_parsed hn, hhanded⟩
    · cases ha

theorem notified_read_publish : ∃ (q : GenericPacket .u16) (b : PacketBuilder) (raw : RawPacket)
    (rest : Bytes) (v : Version) (packet : GenericPacket .u16) (n : ℕ),
      (new .client .u16 .v50).packetBuilder.feed [0x30, 5, 0, 1, 0x61, 0, 7] =
        .ret (b, .complete raw, rest) ∧
      Settles (new .client .u16 .v50) v ∧ ReadFrom v raw packet n ∧ Handed packet q := by
  obtain ⟨r, hr, q, hq, -⟩ : ((new .client .u16 .v50).recv [0x30, 5, 0, 1, 0x61, 0, 7]).Attains
      fun r ↦ ∃ q ∈ notified r.1.2, q.size = 7 := by
    decide +kernel
  exact ⟨q, notified_read (.init ⟨.client, .v50, rfl⟩) hr hq⟩

/-- A DISCONNECT with a byte after its properties is handed over. -/
theorem trailing_byte_ignored : ¬ ∀ (c : GenericConnection .u16) data r q,
    Reachable (system .u16) c → c.recv data = .ret r → q ∈ notified r.1.2 →
      ∀ b raw rest v (packet : GenericPacket .u16) n,
        c.packetBuilder.feed data = .ret (b, .complete raw, rest) → Settles c v →
        parseBody v raw.packetType raw.flags raw.dataAsSlice = .ok (packet, n) →
          n = raw.dataAsSlice.length := by
  intro h
  obtain ⟨r, hr, q, hq, -⟩ : ((new .client .u16 .v50).recv [0xE0, 3, 0, 0, 7]).Attains
      fun r ↦ ∃ q ∈ notified r.1.2, q.size = 4 := by
    decide +kernel
  obtain ⟨packet, hp⟩ : ∃ packet : GenericPacket .u16,
      parseBody .v50 14 0 [0, 0, 7] = .ok (packet, 2) := ⟨_, rfl⟩
  have hn := h (new .client .u16 .v50) _ r q (.init ⟨.client, .v50, rfl⟩) hr hq .new
    (rawPacket 0xE0 [0, 0, 7]) [] .v50 packet 2 rfl (.inl rfl) hp
  exact absurd hn (by decide)

end GenericConnection

end MqttProtocolCore.Connection
