import MqttProtocolCore.Packet.Codec.Ack
import MqttProtocolCore.Packet.V50.Publish

namespace MqttProtocolCore.Packet.V50

open General

variable {w : IdWidth}

abbrev AckBuilder (w : IdWidth) (C : Type) := PacketId w × Option C × Option Properties

def AckBuilder.build {C : Type} (b : AckBuilder w C) : Fallible MqttError (Ack w C) :=
  Ack.build b.1 b.2.1 b.2.2

abbrev DisconnectBuilder := Option DisconnectReasonCode × Option Properties

def DisconnectBuilder.build (b : DisconnectBuilder) : Fallible MqttError Disconnect :=
  Disconnect.build b.1 b.2

/-- A packet that was built parses back exactly when no length wrapped; a packet that was parsed
always describes its own encoding. -/
structure Reencodes {B P : Type} [GenericPacketTrait P] (build : B → Fallible MqttError P)
    (props : B → Option Properties) (parse : Bytes → Fallible MqttError (P × ℕ)) : Prop where
  built {b : B} {p : P} : build b = .ok p → (RoundTrips parse p ↔ ShortProps (props b))
  parsed {data : Bytes} {p : P} {n : ℕ} : parse data = .ok (p, n) →
    LengthsAgree p ∧ RoundTrips parse p

theorem Ack.reencodes (w : IdWidth) (C : Type) [AckCode C] :
    Reencodes (AckBuilder.build (w := w) (C := C)) (fun b ↦ b.2.2) Ack.parse where
  built := Ack.roundTrips_of_build
  parsed := by
    apply Ack.shortForm.of_parse
    intro p
    rw [PacketId.length_toBuffer]
    cases w <;> decide

/-- The six packets that may end before the reason code or before the properties. -/
theorem short_forms_round_trip (w : IdWidth) :
    Reencodes (AckBuilder.build (w := w) (C := PubackReasonCode)) (fun b ↦ b.2.2) Ack.parse ∧
    Reencodes (AckBuilder.build (w := w) (C := PubrecReasonCode)) (fun b ↦ b.2.2) Ack.parse ∧
    Reencodes (AckBuilder.build (w := w) (C := PubrelReasonCode)) (fun b ↦ b.2.2) Ack.parse ∧
    Reencodes (AckBuilder.build (w := w) (C := PubcompReasonCode)) (fun b ↦ b.2.2) Ack.parse ∧
    Reencodes DisconnectBuilder.build Prod.snd Disconnect.parse ∧
    Reencodes Auth.build AuthBuilder.props Auth.parse := by
  have hfront : ∀ P : Type, ∀ p : P, ((fun _ ↦ []) p : Bytes).length ≤ 4 :=
    fun _ _ ↦ Nat.zero_le _
  refine ⟨Ack.reencodes w _, Ack.reencodes w _, Ack.reencodes w _, Ack.reencodes w _, ?_, ?_⟩
  · exact ⟨Disconnect.roundTrips_of_build, Disconnect.shortForm.of_parse (hfront _)⟩
  · exact ⟨Auth.roundTrips_of_build, Auth.shortForm.of_parse (hfront _)⟩

theorem packetId_one_ne : (1 : PacketId .u16) ≠ 0 := by decide

theorem short_forms_round_trip_puback : ∃ p : Puback .u16,
    Ack.build 1 (some .success) (some []) = .ok p ∧ RoundTrips Ack.parse p := by
  obtain ⟨p, hp⟩ : ∃ p : Puback .u16, Ack.build 1 (some .success) (some []) = .ok p := ⟨_, rfl⟩
  refine ⟨p, hp, ((short_forms_round_trip .u16).1.built (b := (1, some .success, some [])) hp).mpr ?_⟩
  intro ps hps
  cases hps
  decide

theorem exists_wide_puback : ∃ p : Puback .u16,
    Ack.build 1 (some .success) (some wideProps) = .ok p := by
  have hp : buildProperties Ack.validateAckProperties (some wideProps) =
      .ok (some (.zero, wideProps)) := by
    refine buildProperties_eq_ok.mpr ⟨rfl, fun s hs ↦ ?_⟩
    cases hs
    exact ⟨validateProperties_wideProps (by decide) (by decide), by rw [size_wideProps]; rfl⟩
  have hreason : ∀ props, reasonSize (some PubackReasonCode.success, some (.zero, props)) =
      1 + (1 + props.size) := fun _ ↦ rfl
  have hsize : reasonSize (some PubackReasonCode.success, some (.zero, wideProps)) = 4294967298 := by
    apply (hreason wideProps).trans
    rw [size_wideProps]
  have hfits : LengthFits (2 + 4294967298) := by
    rw [LengthFits, VariableByteInteger.max]
    omega
  obtain ⟨l, hl, -⟩ := lengthOf_of_fits hfits
  have hbuild : Ack.build (1 : PacketId .u16) (some PubackReasonCode.success) (some wideProps) =
      .ok ⟨l, ⟨1, packetId_one_ne⟩, some .success, some (.zero, wideProps)⟩ := by
    rw [Ack.build, dif_pos packetId_one_ne, (Fallible.require_eq_ok (u := ⟨⟩)).mpr (by simp),
      Fallible.ok_bind, hp, Fallible.ok_bind, hsize]
    change (lengthOf (2 + 4294967298) >>= _) = _
    rw [hl]
    rfl
  exact ⟨_, hbuild⟩

theorem wideProps_not_short : ¬ ShortProps (some wideProps) := by
  intro h
  have hshort := h wideProps rfl
  rw [size_wideProps] at hshort
  exact Nat.lt_irrefl _ hshort

/-- A PUBACK whose properties take 4294967296 bytes is built, but does not parse back. -/
theorem wide_puback_differs : ∃ p : Puback .u16,
    Ack.build 1 (some .success) (some wideProps) = .ok p ∧ ¬ RoundTrips Ack.parse p := by
  obtain ⟨p, hp⟩ := exists_wide_puback
  exact ⟨p, hp, fun h ↦ wideProps_not_short ((Ack.roundTrips_of_build hp).mp h)⟩

end MqttProtocolCore.Packet.V50
