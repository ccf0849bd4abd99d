import MqttProtocolCore.Connection.Phase
import MqttProtocolCore.Connection.Violation
import MqttProtocolCore.Connection.OpenFrame
import MqttProtocolCore.Connection.Pacing

namespace MqttProtocolCore.Connection

open General Packet

variable {w : IdWidth}

/-- The status before the first event of an operation, in the role and the status given: the end of
the network connection closes, bytes may bring a CONNECT or an accepting CONNACK. -/
inductive SetsOut (role : Role) (s : ConnectionStatus) (events : List (GenericEvent w)) :
    Operation w → ConnectionStatus → Prop where
  | stays {op : Operation w} : op ≠ .notifyClosed → SetsOut role s events op s
  | closed : SetsOut role s events .notifyClosed .disconnected
  | arrived {data : Bytes} : s = .disconnected → role ≠ .client →
      SetsOut role s events (.recv data) .connecting
  | accepted {data : Bytes} {packet : GenericPacket w} : packet ∈ notified events →
      acceptsSession packet → role ≠ .server → SetsOut role s events (.recv data) .connected

namespace GenericConnection

variable {c c' : GenericConnection w} {packet : GenericPacket w} {id : PacketId w}
  {x : Outcome (Handled w)} {r : Handled w} {s : ConnectionStatus} {raw : RawPacket}

section Deliver

theorem Phasing.thenReceived (h : Phasing s x) (hN : ∀ s, phaseAfterNotice s packet = some s) :
    Phasing s (x >>= fun r ↦
      .ret ((r.1.received packet).1, r.2 ++ (r.1.received packet).2)) :=
  h.bind fun r hr ↦ phasing_ret (Phased.append hr (phased_received (hN r.1.status)))

theorem Phasing.thenNotice {repeated : Bool} (h : Phasing s x)
    (hN : ∀ s, phaseAfterNotice s packet = some s) :
    Phasing s (x >>= fun r ↦ .ret (r.1.refreshPingreqRecv.1,
      r.2 ++ r.1.refreshPingreqRecv.2 ++
        if repeated then [] else [.notifyPacketReceived packet])) := by
  refine h.bind fun r hr ↦ phasing_ret ?_
  refine Conforms.append (Phased.append hr phased_refreshPingreqRecv) ?_
  split
  · exact conforms_nil
  · exact Conforms.cons (hN _) conforms_nil

end Deliver

end GenericConnection

end MqttProtocolCore.Connection
