import MqttProtocolCore.Packet.Codec.Wire

namespace MqttProtocolCore.Packet

open General

def connectHeaderBuffers (version connectFlags : UInt8) (keepAlive : U16) : List Bytes :=
  [[0x00, 0x04, 0x4D, 0x51, 0x54, 0x54], [version], [connectFlags], U16.toBeBytes keepAlive]

theorem flatten_connectHeaderBuffers (version connectFlags : UInt8) (keepAlive : U16) :
    (connectHeaderBuffers version connectFlags keepAlive).flatten =
      connectHeader version connectFlags keepAlive := rfl

def credentialBuffers (connectFlags : UInt8) (c : MqttString × MqttBinary) : List Bytes :=
  (if userNameFlag connectFlags then c.1.toBuffers else []) ++
    if passwordFlag connectFlags then c.2.toBuffers else []

theorem flatten_credentialBuffers (connectFlags : UInt8) (c : MqttString × MqttBinary) :
    (credentialBuffers connectFlags c).flatten = credentialBytes connectFlags c := by
  unfold credentialBuffers credentialBytes
  cases userNameFlag connectFlags <;> cases passwordFlag connectFlags <;>
    simp [MqttString.toBuffers, MqttBinary.toBuffers]

def credentialSize (connectFlags : UInt8) (c : MqttString × MqttBinary) : ℕ :=
  (if userNameFlag connectFlags then c.1.size else 0) +
    if passwordFlag connectFlags then c.2.size else 0

theorem length_credentialBytes (connectFlags : UInt8) (c : MqttString × MqttBinary) :
    (credentialBytes connectFlags c).length = credentialSize connectFlags c := by
  unfold credentialBytes credentialSize
  cases userNameFlag connectFlags <;> cases passwordFlag connectFlags <;>
    simp [MqttString.length_asBytes, MqttBinary.length_asBytes]

def willBytes (will : Bool) (m : MqttString × MqttBinary) : Bytes :=
  if will then m.1.asBytes ++ m.2.asBytes else []

def willBuffers (will : Bool) (m : MqttString × MqttBinary) : List Bytes :=
  if will then m.1.toBuffers ++ m.2.toBuffers else []

theorem flatten_willBuffers (will : Bool) (m : MqttString × MqttBinary) :
    (willBuffers will m).flatten = willBytes will m := by
  cases will <;> simp [willBuffers, willBytes, MqttString.toBuffers, MqttBinary.toBuffers]

def willSize (will : Bool) (m : MqttString × MqttBinary) : ℕ :=
  if will then m.1.size + m.2.size else 0

theorem length_willBytes (will : Bool) (m : MqttString × MqttBinary) :
    (willBytes will m).length = willSize will m := by
  cases will <;> simp [willBytes, willSize, MqttString.length_asBytes, MqttBinary.length_asBytes]

theorem parseWill_eq_ok {will : Bool} {data tail : Bytes} {cursor n : ℕ} {topic : MqttString}
    {payload : MqttBinary} (hat : At data cursor tail) :
    (∃ m, parseIf will .default MqttString.decode data cursor = .ok (topic, m) ∧
      parseIf will .default MqttBinary.decode data m = .ok (payload, n)) ↔
    ∃ rest, tail = willBytes will (topic, payload) ++ rest ∧
      n = cursor + (willBytes will (topic, payload)).length ∧
      (will = false → topic = .default ∧ payload = .default) := by
  have htopic := acceptsAt_parseIf will MqttString.default MqttString.accepts_decode
  have hpayload := acceptsAt_parseIf will MqttBinary.default MqttBinary.accepts_decode
  have happend : ∀ rest, (if will then topic.asBytes else []) ++
      ((if will then payload.asBytes else []) ++ rest) =
      willBytes will (topic, payload) ++ rest := by
    intro rest
    cases will <;> simp [willBytes]
  have hlen : (if will then topic.asBytes else []).length +
      (if will then payload.asBytes else []).length =
      (willBytes will (topic, payload)).length := by
    cases will <;> simp [willBytes]
  constructor
  · rintro ⟨m, ht, hp⟩
    obtain ⟨_, tail, rfl, rfl, hG, hat⟩ := htopic.sound hat ht
    obtain ⟨rfl, htd⟩ := optional_exactly_iff.mp hG
    obtain ⟨_, rest, rfl, rfl, hG, -⟩ := hpayload.sound hat hp
    obtain ⟨rfl, hpd⟩ := optional_exactly_iff.mp hG
    exact ⟨rest, happend rest, by rw [← hlen, Nat.add_assoc], fun h ↦ ⟨htd h, hpd h⟩⟩
  · rintro ⟨rest, rfl, rfl, hd⟩
    rw [← happend] at hat
    refine ⟨_, htopic.complete hat (optional_exactly_iff.mpr ⟨rfl, fun h ↦ (hd h).1⟩), ?_⟩
    rw [hpayload.complete hat.next (optional_exactly_iff.mpr ⟨rfl, fun h ↦ (hd h).2⟩), ← hlen,
      Nat.add_assoc]

end MqttProtocolCore.Packet
