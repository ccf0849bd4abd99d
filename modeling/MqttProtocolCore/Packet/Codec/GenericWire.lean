import MqttProtocolCore.Packet.GenericPacket
import MqttProtocolCore.Packet.Codec.RepliesV311

namespace MqttProtocolCore.Packet

open General

variable {w : IdWidth}

namespace GenericPacket

def toBuffers : GenericPacket w → List Bytes
  | v311Connect p => p.toBuffers
  | v311Connack p => p.toBuffers
  | v311Publish p => p.toBuffers
  | v311Puback p => p.toBuffers
  | v311Pubrec p => p.toBuffers
  | v311Pubrel p => p.toBuffers
  | v311Pubcomp p => p.toBuffers
  | v311Subscribe p => p.toBuffers
  | v311Suback p => p.toBuffers
  | v311Unsubscribe p => p.toBuffers
  | v311Unsuback p => p.toBuffers
  | v311Pingreq p => p.toBuffers .pingreq
  | v311Pingresp p => p.toBuffers .pingresp
  | v311Disconnect p => p.toBuffers .disconnect
  | v50Connect p => p.toBuffers
  | v50Connack p => p.toBuffers
  | v50Publish p => p.toBuffers
  | v50Puback p => p.toBuffers
  | v50Pubrec p => p.toBuffers
  | v50Pubrel p => p.toBuffers
  | v50Pubcomp p => p.toBuffers
  | v50Subscribe p => p.toBuffers
  | v50Suback p => p.toBuffers
  | v50Unsubscribe p => p.toBuffers
  | v50Unsuback p => p.toBuffers
  | v50Pingreq p => p.toBuffers .pingreq
  | v50Pingresp p => p.toBuffers .pingresp
  | v50Disconnect p => p.toBuffers
  | v50Auth p => p.toBuffers

def toContinuousBuffer : GenericPacket w → Bytes
  | v311Connect p => p.toContinuousBuffer
  | v311Connack p => p.toContinuousBuffer
  | v311Publish p => p.toContinuousBuffer
  | v311Puback p => p.toContinuousBuffer
  | v311Pubrec p => p.toContinuousBuffer
  | v311Pubrel p => p.toContinuousBuffer
  | v311Pubcomp p => p.toContinuousBuffer
  | v311Subscribe p => p.toContinuousBuffer
  | v311Suback p => p.toContinuousBuffer
  | v311Unsubscribe p => p.toContinuousBuffer
  | v311Unsuback p => p.toContinuousBuffer
  | v311Pingreq p => p.toContinuousBuffer .pingreq
  | v311Pingresp p => p.toContinuousBuffer .pingresp
  | v311Disconnect p => p.toContinuousBuffer .disconnect
  | v50Connect p => p.toContinuousBuffer
  | v50Connack p => p.toContinuousBuffer
  | v50Publish p => p.toContinuousBuffer
  | v50Puback p => p.toContinuousBuffer
  | v50Pubrec p => p.toContinuousBuffer
  | v50Pubrel p => p.toContinuousBuffer
  | v50Pubcomp p => p.toContinuousBuffer
  | v50Subscribe p => p.toContinuousBuffer
  | v50Suback p => p.toContinuousBuffer
  | v50Unsubscribe p => p.toContinuousBuffer
  | v50Unsuback p => p.toContinuousBuffer
  | v50Pingreq p => p.toContinuousBuffer .pingreq
  | v50Pingresp p => p.toContinuousBuffer .pingresp
  | v50Disconnect p => p.toContinuousBuffer
  | v50Auth p => p.toContinuousBuffer

instance : GenericPacketTrait (GenericPacket w) := ⟨size, toBuffers, toContinuousBuffer⟩

end GenericPacket

theorem LaidOut.lift {P Q : Type} [GenericPacketTrait P] [GenericPacketTrait Q] {p : P} {q : Q}
    {header : UInt8} {remainingLength : VariableByteInteger} {body : Bytes}
    (h : LaidOut p header remainingLength body)
    (hsize : GenericPacketTrait.size q = GenericPacketTrait.size p)
    (hbuffers : GenericPacketTrait.toBuffers q = GenericPacketTrait.toBuffers p)
    (hbytes : GenericPacketTrait.toContinuousBuffer q = GenericPacketTrait.toContinuousBuffer p) :
    LaidOut q header remainingLength body where
  size := hsize.trans h.size
  flatten := by rw [hbuffers, hbytes, h.flatten]
  bytes := hbytes.trans h.bytes

theorem GenericPacket.laidOut (p : GenericPacket w) :
    ∃ header remainingLength body, LaidOut p header remainingLength body := by
  cases p with
  | v311Connect p => exact ⟨_, _, _, p.laidOut.lift rfl rfl rfl⟩
  | v311Connack p => exact ⟨_, _, _, p.laidOut.lift rfl rfl rfl⟩
  | v311Publish p => exact ⟨_, _, _, p.laidOut.lift rfl rfl rfl⟩
  | v311Puback p => exact ⟨_, _, _, p.laidOut.lift rfl rfl rfl⟩
  | v311Pubrec p => exact ⟨_, _, _, p.laidOut.lift rfl rfl rfl⟩
  | v311Pubrel p => exact ⟨_, _, _, p.laidOut.lift rfl rfl rfl⟩
  | v311Pubcomp p => exact ⟨_, _, _, p.laidOut.lift rfl rfl rfl⟩
  | v311Subscribe p => exact ⟨_, _, _, p.laidOut.lift rfl rfl rfl⟩
  | v311Suback p => exact ⟨_, _, _, p.laidOut.lift rfl rfl rfl⟩
  | v311Unsubscribe p => exact ⟨_, _, _, p.laidOut.lift rfl rfl rfl⟩
  | v311Unsuback p => exact ⟨_, _, _, p.laidOut.lift rfl rfl rfl⟩
  | v50Connect p => exact ⟨_, _, _, p.laidOut.lift rfl rfl rfl⟩
  | v50Connack p => exact ⟨_, _, _, p.laidOut.lift rfl rfl rfl⟩
  | v50Publish p => exact ⟨_, _, _, p.laidOut.lift rfl rfl rfl⟩
  | v50Puback p => exact ⟨_, _, _, p.laidOut.lift rfl rfl rfl⟩
  | v50Pubrec p => exact ⟨_, _, _, p.laidOut.lift rfl rfl rfl⟩
  | v50Pubrel p => exact ⟨_, _, _, p.laidOut.lift rfl rfl rfl⟩
  | v50Pubcomp p => exact ⟨_, _, _, p.laidOut.lift rfl rfl rfl⟩
  | v50Subscribe p => exact ⟨_, _, _, p.laidOut.lift rfl rfl rfl⟩
  | v50Suback p => exact ⟨_, _, _, p.laidOut.lift rfl rfl rfl⟩
  | v50Unsubscribe p => exact ⟨_, _, _, p.laidOut.lift rfl rfl rfl⟩
  | v50Unsuback p => exact ⟨_, _, _, p.laidOut.lift rfl rfl rfl⟩
  | v50Disconnect p => exact ⟨_, _, _, p.laidOut.lift rfl rfl rfl⟩
  | v50Auth p => exact ⟨_, _, _, p.laidOut.lift rfl rfl rfl⟩
  | v311Pingreq p | v50Pingreq p =>
    let _ := V311.Empty.written .pingreq
    exact ⟨_, _, _, (p.laidOut .pingreq).lift rfl rfl rfl⟩
  | v311Pingresp p | v50Pingresp p =>
    let _ := V311.Empty.written .pingresp
    exact ⟨_, _, _, (p.laidOut .pingresp).lift rfl rfl rfl⟩
  | v311Disconnect p =>
    let _ := V311.Empty.written .disconnect
    exact ⟨_, _, _, (p.laidOut .disconnect).lift rfl rfl rfl⟩

end MqttProtocolCore.Packet
