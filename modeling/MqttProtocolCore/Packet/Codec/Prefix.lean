import MqttProtocolCore.Packet.Codec.RebuildConnect

namespace MqttProtocolCore.Packet

open General

variable {w : IdWidth}

/-- What a parser gives depends on the bytes that it consumes, and on no others. -/
structure Prefixed {α : Type} (parse : Bytes → Fallible MqttError (α × ℕ)) : Prop where
  of_ok {data : Bytes} {a : α} {n : ℕ} : parse data = .ok (a, n) →
    n ≤ data.length ∧ parse (data.take n) = .ok (a, n)

/-- A parser that stops at the end of the data. -/
structure Exhausting {α : Type} (parse : Bytes → Fallible MqttError (α × ℕ)) : Prop where
  of_ok {data : Bytes} {a : α} {n : ℕ} : parse data = .ok (a, n) → n = data.length

theorem Exhausting.prefixed {α : Type} {parse : Bytes → Fallible MqttError (α × ℕ)}
    (h : Exhausting parse) : Prefixed parse := by
  refine ⟨fun {data a n} hp ↦ ?_⟩
  obtain rfl := h.of_ok hp
  rw [List.take_length]
  exact ⟨Nat.le_refl _, hp⟩

theorem Framed.prefixed {P : Type} [GenericPacketTrait P] {parse : Bytes → Fallible MqttError (P × ℕ)}
    {G : Format UInt8 P} {valid : P → Prop} {body : P → Bytes}
    {remainingLength : P → VariableByteInteger}
    (h : Framed parse G valid body remainingLength) : Prefixed parse := by
  refine ⟨fun {data p n} hp ↦ ?_⟩
  obtain ⟨code, rest, rfl, rfl, hG, hr⟩ := h.sound hp
  rw [List.take_left]
  exact ⟨(List.prefix_append _ _).length_le, h.complete hG hr⟩

theorem V50.ShortForm.prefixed {P C : Type} [GenericPacketTrait P] [EncodedCode C]
    {parse : Bytes → Fallible MqttError (P × ℕ)} {validate : Properties → Fallible MqttError Unit}
    {front : P → Bytes} {reason : P → Option C × Option (VariableByteInteger × Properties)}
    {remainingLength : P → VariableByteInteger} {extra : P → Prop}
    (h : ShortForm parse validate front reason remainingLength extra) : Prefixed parse := by
  refine ⟨fun {data p n} hp ↦ ?_⟩
  obtain ⟨code, rest, rfl, rfl, hS, -, he, hr⟩ := h.parse_eq_ok.mp hp
  rw [← List.append_assoc, ← List.length_append, List.take_left]
  refine ⟨(List.prefix_append _ _).length_le, h.parse_eq_ok.mpr ?_⟩
  exact ⟨code, [], by rw [List.append_nil], List.length_append, hS, fun _ ↦ rfl, he, hr⟩

theorem V50.Listing.exhausting {α : Type} [PropsEntry α] :
    Exhausting (Listing.parseListing (w := w) (α := α)) := ⟨fun h ↦ (Listing.parse_eq_ok.mp h).1⟩

theorem V50.Publish.exhausting (flags : UInt8) : Exhausting (Publish.parse (w := w) flags) :=
  ⟨fun h ↦ (Publish.parse_eq_ok.mp h).2.1⟩

namespace V311

theorem Listing.exhausting {α : Type} [ListingEntry α] :
    Exhausting (Listing.parseListing (w := w) (α := α)) := ⟨fun h ↦ (Listing.parse_eq_ok.mp h).1⟩

theorem Publish.exhausting (flags : UInt8) : Exhausting (Publish.parse (w := w) flags) :=
  ⟨fun h ↦ (Publish.parse_eq_ok.mp h).2.1⟩

theorem Connack.parse_cons (b₀ b₁ : UInt8) (rest : Bytes) : Connack.parse (b₀ :: b₁ :: rest) =
    match ConnectReturnCode.tryFrom b₁ with
    | some returnCode => do return (← build (b₀ &&& 0x01 ≠ 0) returnCode, 2)
    | none => .err .malformedPacket := by
  have hlen : 2 ≤ (b₀ :: b₁ :: rest).length := by simp
  rw [Connack.parse, (Fallible.require_eq_ok (u := ⟨⟩)).mpr hlen]
  rfl

theorem Connack.prefixed : Prefixed Connack.parse := by
  refine ⟨fun {data p n} hp ↦ ?_⟩
  obtain ⟨_, hlen, _⟩ := Fallible.bind_eq_ok.mp hp
  replace hlen := Fallible.require_eq_ok.mp hlen
  match data, hlen with
  | b₀ :: b₁ :: rest, hlen =>
    rw [parse_cons] at hp
    have hn : n = 2 := by
      split at hp
      · obtain ⟨_, -, hp⟩ := Fallible.bind_eq_ok.mp hp
        cases hp
        rfl
      · cases hp
    subst hn
    exact ⟨hlen, (parse_cons b₀ b₁ []).trans hp⟩

/-- The reason code is optional: only the end of the body ends the packet before it. -/
theorem parseReasonCode_prefixed {C : Type} [EncodedCode C] {data tail : Bytes} {cursor : ℕ}
    (hat : At data cursor tail) {r : Option C} {n : ℕ}
    (h : parseReasonCode C data cursor = .ok (r, n)) : ∃ code rest, tail = code ++ rest ∧
      n = cursor + code.length ∧ ∀ {data'}, At data' cursor code →
        parseReasonCode C data' cursor = .ok (r, n) := by
  cases tail with
  | nil =>
    rw [parseReasonCode_nil hat] at h
    cases h
    exact ⟨[], [], rfl, rfl, fun hat' ↦ parseReasonCode_nil hat'⟩
  | cons b tail =>
    obtain ⟨c, rfl, rfl, rfl⟩ := (parseReasonCode_cons hat).mp h
    refine ⟨[EncodedCode.toU8 c], tail, rfl, rfl, fun hat' ↦ ?_⟩
    exact (parseReasonCode_cons hat').mpr ⟨c, rfl, rfl, rfl⟩

theorem Ack.prefixed {C : Type} [EncodedCode C] : Prefixed (Ack.parse (w := w) (C := C)) := by
  refine ⟨fun {data p n} hp ↦ ?_⟩
  obtain ⟨⟨id, c⟩, hid, hp⟩ := Fallible.bind_eq_ok.mp hp
  obtain ⟨_, tail, rfl, rfl, rfl⟩ := accepts_parseNonZeroPacketId.iff.mp hid
  have hat := (At.start (PacketId.toBuffer id.val ++ tail)).next
  rw [Nat.zero_add] at hat
  obtain ⟨⟨r, m⟩, hr, hp⟩ := Fallible.bind_eq_ok.mp hp
  obtain ⟨code, rest, rfl, rfl, hcode⟩ := parseReasonCode_prefixed hat hr
  obtain ⟨l, hl, hp⟩ := Fallible.bind_eq_ok.mp hp
  cases hp
  rw [← List.append_assoc, ← List.length_append, List.take_left]
  refine ⟨(List.prefix_append _ _).length_le, ?_⟩
  have hat' := (At.start (PacketId.toBuffer id.val ++ code)).next
  rw [Nat.zero_add] at hat'
  have hid := accepts_parseNonZeroPacketId.complete (a := id) rfl code
  rw [Ack.parse, hid, Fallible.ok_bind]
  dsimp only
  rw [hcode hat', Fallible.ok_bind]
  dsimp only
  rw [hl, List.length_append]
  rfl

theorem Unsuback.prefixed : Prefixed (Unsuback.parse (w := w)) := by
  refine ⟨fun {data p n} hp ↦ ?_⟩
  obtain ⟨⟨id, c⟩, hid, hp⟩ := Fallible.bind_eq_ok.mp hp
  obtain ⟨_, rest, rfl, rfl, rfl⟩ := accepts_parsePacketId.iff.mp hid
  obtain ⟨l, hl, hp⟩ := Fallible.bind_eq_ok.mp hp
  cases hp
  rw [List.take_left]
  refine ⟨(List.prefix_append _ _).length_le, ?_⟩
  have hid := (accepts_parsePacketId (w := w)).complete (a := id) rfl []
  rw [List.append_nil] at hid
  rw [Unsuback.parse, hid, Fallible.ok_bind]
  dsimp only
  rw [hl]
  rfl

theorem Empty.prefixed : Prefixed Empty.parse := by
  refine ⟨fun {data p n} hp ↦ ?_⟩
  obtain ⟨l, hl, hp⟩ := Fallible.bind_eq_ok.mp hp
  cases hp
  exact ⟨Nat.zero_le _, by rw [Empty.parse, hl]; rfl⟩

end V311

end MqttProtocolCore.Packet
