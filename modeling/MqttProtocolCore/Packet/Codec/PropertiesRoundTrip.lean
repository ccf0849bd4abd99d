import MqttProtocolCore.Packet.Codec.Sections

namespace MqttProtocolCore.Packet

open General

def Property.ReadsAs : Format UInt8 Property := fun piece p ↦
  ∀ rest, Property.parse (piece ++ rest) = .ok (p, piece.length)

namespace Properties

/-- The section that carries `props` is read back as `props`, whatever bytes follow it. -/
def ReadsBack (props : Properties) : Prop :=
  ∃ v, VariableByteInteger.fromU32 props.size = some v ∧ ∀ rest,
    parse (v.asBytes ++ props.toContinuousBuffer ++ rest) =
        .ok (props, v.asBytes.length + props.size) ∧
      parse (v.asBytes ++ props.toBuffers.flatten ++ rest) =
        .ok (props, v.asBytes.length + props.size)

theorem readsBack_of_le {props : Properties} (h : props.size ≤ VariableByteInteger.max) :
    props.ReadsBack := by
  refine ⟨_, VariableByteInteger.fromU32_eq h, fun rest ↦ ?_⟩
  have hv := VariableByteInteger.toU32_of_fromU32 (VariableByteInteger.fromU32_eq h)
  rw [flatten_toBuffers, and_self]
  have hsection : Section (_ ++ props.toContinuousBuffer) props :=
    ⟨_, _, rfl, Property.shortest.listOf.code fun _ _ ↦ trivial, _,
      VariableByteInteger.shortest.code trivial, by rw [length_toContinuousBuffer]; exact hv⟩
  have hparse := accepts_parse.complete hsection rest
  rwa [List.length_append, length_toContinuousBuffer] at hparse

/-- What a successful parse says about the data: the section has the announced length, and the
properties that were read fill it end to end. -/
def ReadFrom (data : Bytes) (props : Properties) (consumed : ℕ) : Prop :=
  ∃ len codes rest announced, data = len ++ codes ++ rest ∧
    VariableByteInteger.decodeStream data = .ok announced len.length ∧
    codes.length = announced.toU32 ∧ consumed = len.length + announced.toU32 ∧
    Property.ReadsAs.listOf codes props

theorem readFrom_of_parse {data : Bytes} {props : Properties} {consumed : ℕ}
    (h : parse data = .ok (props, consumed)) : ReadFrom data props consumed := by
  obtain ⟨_, rest, rfl, rfl, len, codes, rfl, hcodes, announced, hlen, hannounced⟩ :=
    accepts_parse.iff.mp h
  refine ⟨len, codes, rest, announced, rfl, ?_, hannounced.symm, ?_, ?_⟩
  · rw [List.append_assoc]
    exact VariableByteInteger.accepts_decodeStream.mpr ⟨len, codes ++ rest, rfl, rfl, hlen⟩
  · rw [List.length_append, hannounced]
  · exact hcodes.mono fun hcode rest ↦ Property.accepts_parse.complete hcode rest

/-- A list of properties survives its encoding, and what is read from any data is a list that does
so, read from exactly the bytes that were announced. -/
theorem round_trip (props : Properties) :
    (props.size ≤ 268435455 → props.ReadsBack) ∧
      ∀ data consumed, parse data = .ok (props, consumed) →
        ReadFrom data props consumed ∧ props.ReadsBack := by
  refine ⟨readsBack_of_le, fun data consumed h ↦ ⟨readFrom_of_parse h, readsBack_of_le ?_⟩⟩
  obtain ⟨_, rest, -, -, hsection⟩ := accepts_parse.iff.mp h
  exact hsection.size_le

/-- A length field of two bytes that announces the three bytes of a topic alias. -/
theorem round_trip_topicAlias :
    (ReadsBack [.topicAlias ⟨1, by decide⟩]) ∧
      ReadFrom [0x83, 0, 0x23, 0, 1, 0x61] [.topicAlias ⟨1, by decide⟩] 5 :=
  have h := round_trip [.topicAlias ⟨1, by decide⟩]
  ⟨h.1 (by decide), (h.2 [0x83, 0, 0x23, 0, 1, 0x61] 5 (by decide)).1⟩

end Properties

end MqttProtocolCore.Packet
