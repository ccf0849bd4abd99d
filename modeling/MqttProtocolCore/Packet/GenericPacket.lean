import MqttProtocolCore.Packet.V311
import MqttProtocolCore.Packet.V50.Connect
import MqttProtocolCore.Packet.V50.Publish
import MqttProtocolCore.Packet.V50.Ack
import MqttProtocolCore.Packet.V50.Subscription

namespace MqttProtocolCore.Packet

open General

variable {w : IdWidth}

inductive GenericPacket (w : IdWidth) where
  | v311Connect (p : V311.Connect)
  | v311Connack (p : V311.Connack)
  | v311Publish (p : V311.Publish w)
  | v311Puback (p : V311.Puback w)
  | v311Pubrec (p : V311.Pubrec w)
  | v311Pubrel (p : V311.Pubrel w)
  | v311Pubcomp (p : V311.Pubcomp w)
  | v311Subscribe (p : V311.Subscribe w)
  | v311Suback (p : V311.Suback w)
  | v311Unsubscribe (p : V311.Unsubscribe w)
  | v311Unsuback (p : V311.Unsuback w)
  | v311Pingreq (p : V311.Pingreq)
  | v311Pingresp (p : V311.Pingresp)
  | v311Disconnect (p : V311.Disconnect)
  | v50Connect (p : V50.Connect)
  | v50Connack (p : V50.Connack)
  | v50Publish (p : V50.Publish w)
  | v50Puback (p : V50.Puback w)
  | v50Pubrec (p : V50.Pubrec w)
  | v50Pubrel (p : V50.Pubrel w)
  | v50Pubcomp (p : V50.Pubcomp w)
  | v50Subscribe (p : V50.Subscribe w)
  | v50Suback (p : V50.Suback w)
  | v50Unsubscribe (p : V50.Unsubscribe w)
  | v50Unsuback (p : V50.Unsuback w)
  | v50Pingreq (p : V311.Pingreq)
  | v50Pingresp (p : V311.Pingresp)
  | v50Disconnect (p : V50.Disconnect)
  | v50Auth (p : V50.Auth)
deriving DecidableEq

instance {w : IdWidth} : LawfulBEq (GenericPacket w) := inferInstance

def GenericPacket.protocolVersion : GenericPacket w → Version
  | v311Connect _ | v311Connack _ | v311Publish _ | v311Puback _ | v311Pubrec _ | v311Pubrel _
  | v311Pubcomp _ | v311Subscribe _ | v311Suback _ | v311Unsubscribe _ | v311Unsuback _
  | v311Pingreq _ | v311Pingresp _ | v311Disconnect _ => .v311
  | _ => .v50

def GenericPacket.size : GenericPacket w → ℕ
  | v311Connect p => p.size
  | v311Connack p => p.size
  | v311Publish p => p.size
  | v311Puback p => p.size
  | v311Pubrec p => p.size
  | v311Pubrel p => p.size
  | v311Pubcomp p => p.size
  | v311Subscribe p => p.size
  | v311Suback p => p.size
  | v311Unsubscribe p => p.size
  | v311Unsuback p => p.size
  | v311Pingreq p => p.size
  | v311Pingresp p => p.size
  | v311Disconnect p => p.size
  | v50Connect p => p.size
  | v50Connack p => p.size
  | v50Publish p => p.size
  | v50Puback p => p.size
  | v50Pubrec p => p.size
  | v50Pubrel p => p.size
  | v50Pubcomp p => p.size
  | v50Subscribe p => p.size
  | v50Suback p => p.size
  | v50Unsubscribe p => p.size
  | v50Unsuback p => p.size
  | v50Pingreq p => p.size
  | v50Pingresp p => p.size
  | v50Disconnect p => p.size
  | v50Auth p => p.size

/-- The acknowledgement that a stored packet waits for. -/
inductive ResponsePacket where
  | v311Puback | v311Pubrec | v311Pubcomp | v50Puback | v50Pubrec | v50Pubcomp
deriving DecidableEq

inductive GenericStorePacket (w : IdWidth) where
  | v311Publish (p : V311.Publish w)
  | v311Pubrel (p : V311.Pubrel w)
  | v50Publish (p : V50.Publish w)
  | v50Pubrel (p : V50.Pubrel w)
deriving DecidableEq

namespace GenericStorePacket

def size : GenericStorePacket w → ℕ
  | v311Publish p => p.size
  | v311Pubrel p => p.size
  | v50Publish p => p.size
  | v50Pubrel p => p.size

/-- The identifier; the code panics on a PUBLISH without one. -/
def packetId : GenericStorePacket w → Option (PacketId w)
  | v311Publish p => p.packetId
  | v311Pubrel p => some p.packetId
  | v50Publish p => p.packetId
  | v50Pubrel p => some p.packetId

/-- The acknowledgement of a PUBLISH; the code panics at quality of service 0. -/
def publishResponse (qos : Qos) (puback pubrec : ResponsePacket) : Option ResponsePacket :=
  match qos with
  | .atMostOnce => none
  | .atLeastOnce => some puback
  | .exactlyOnce => some pubrec

def responsePacket : GenericStorePacket w → Option ResponsePacket
  | v311Publish p => publishResponse p.qos .v311Puback .v311Pubrec
  | v311Pubrel _ => some .v311Pubcomp
  | v50Publish p => publishResponse p.qos .v50Puback .v50Pubrec
  | v50Pubrel _ => some .v50Pubcomp

def toPacket : GenericStorePacket w → GenericPacket w
  | v311Publish p => .v311Publish p
  | v311Pubrel p => .v311Pubrel p
  | v50Publish p => .v50Publish p
  | v50Pubrel p => .v50Pubrel p

end GenericStorePacket

end MqttProtocolCore.Packet
