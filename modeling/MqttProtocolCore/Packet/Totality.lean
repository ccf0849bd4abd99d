import MqttProtocolCore.Packet.V311
import MqttProtocolCore.Packet.V50.Ack
import MqttProtocolCore.Packet.V50.Connect
import MqttProtocolCore.Packet.V50.Publish
import MqttProtocolCore.Packet.V50.Subscription

namespace MqttProtocolCore.Packet

open General

variable {w : IdWidth} {α : Type}

/-- The parsers of packet bodies, and of the parts that packet bodies are made of. -/
inductive Parser (w : IdWidth) : Type → Type 1 where
  | v311Connect : Parser w V311.Connect
  | v311Connack : Parser w V311.Connack
  | v311Publish (flags : UInt8) : Parser w (V311.Publish w)
  | v311Puback : Parser w (V311.Puback w)
  | v311Pubrec : Parser w (V311.Pubrec w)
  | v311Pubrel : Parser w (V311.Pubrel w)
  | v311Pubcomp : Parser w (V311.Pubcomp w)
  | v311Subscribe : Parser w (V311.Subscribe w)
  | v311Suback : Parser w (V311.Suback w)
  | v311Unsubscribe : Parser w (V311.Unsubscribe w)
  | v311Unsuback : Parser w (V311.Unsuback w)
  | empty : Parser w V311.Empty
  | v50Connect : Parser w V50.Connect
  | v50Connack : Parser w V50.Connack
  | v50Publish (flags : UInt8) : Parser w (V50.Publish w)
  | v50Puback : Parser w (V50.Puback w)
  | v50Pubrec : Parser w (V50.Pubrec w)
  | v50Pubrel : Parser w (V50.Pubrel w)
  | v50Pubcomp : Parser w (V50.Pubcomp w)
  | v50Subscribe : Parser w (V50.Subscribe w)
  | v50Suback : Parser w (V50.Suback w)
  | v50Unsubscribe : Parser w (V50.Unsubscribe w)
  | v50Unsuback : Parser w (V50.Unsuback w)
  | v50Disconnect : Parser w V50.Disconnect
  | v50Auth : Parser w V50.Auth
  | property : Parser w Property
  | properties : Parser w Properties
  | subEntry : Parser w SubEntry
  | mqttString : Parser w MqttString
  | mqttBinary : Parser w MqttBinary

namespace Parser

def run : Parser w α → Bytes → Fallible MqttError (α × ℕ)
  | v311Connect => V311.Connect.parse
  | v311Connack => V311.Connack.parse
  | v311Publish flags => V311.Publish.parse flags
  | v311Puback => V311.Ack.parse
  | v311Pubrec => V311.Ack.parse
  | v311Pubrel => V311.Ack.parse
  | v311Pubcomp => V311.Ack.parse
  | v311Subscribe => V311.Subscribe.parse
  | v311Suback => V311.Suback.parse
  | v311Unsubscribe => V311.Unsubscribe.parse
  | v311Unsuback => V311.Unsuback.parse
  | empty => V311.Empty.parse
  | v50Connect => V50.Connect.parse
  | v50Connack => V50.Connack.parse
  | v50Publish flags => V50.Publish.parse flags
  | v50Puback => V50.Ack.parse
  | v50Pubrec => V50.Ack.parse
  | v50Pubrel => V50.Ack.parse
  | v50Pubcomp => V50.Ack.parse
  | v50Subscribe => V50.Subscribe.parse
  | v50Suback => V50.Suback.parse
  | v50Unsubscribe => V50.Unsubscribe.parse
  | v50Unsuback => V50.Unsuback.parse
  | v50Disconnect => V50.Disconnect.parse
  | v50Auth => V50.Auth.parse
  | property => Property.parse
  | properties => Properties.parse
  | subEntry => SubEntry.parse
  | mqttString => MqttString.decode
  | mqttBinary => MqttBinary.decode

variable {data : Bytes}

theorem parses_run (parser : Parser w α) (hmax : data.length ≤ VariableByteInteger.max) :
    Parses (fun _ ↦ 0) data (parser.run data) := by
  have hdrop {β : Type} {size : β → ℕ} {x : Fallible MqttError (β × ℕ)}
      (h : Parses size data x) : Parses (fun _ ↦ 0) data x := h.mono fun _ hr ↦ ⟨Nat.zero_le _, hr.2⟩
  cases parser with
  | v311Connect => exact V311.Connect.parses_parse hmax
  | v311Connack => exact V311.Connack.parses_parse
  | v311Publish flags => exact V311.Publish.parses_parse flags hmax
  | v311Puback => exact V311.Ack.parses_parse
  | v311Pubrec => exact V311.Ack.parses_parse
  | v311Pubrel => exact V311.Ack.parses_parse
  | v311Pubcomp => exact V311.Ack.parses_parse
  | v311Subscribe => exact V311.Subscribe.parses_parse hmax
  | v311Suback => exact V311.Suback.parses_parse hmax
  | v311Unsubscribe => exact V311.Unsubscribe.parses_parse hmax
  | v311Unsuback => exact V311.Unsuback.parses_parse
  | empty => exact V311.Empty.parses_parse
  | v50Connect => exact V50.Connect.parses_parse hmax
  | v50Connack => exact V50.Connack.parses_parse hmax
  | v50Publish flags => exact V50.Publish.parses_parse flags hmax
  | v50Puback => exact V50.Ack.parses_parse hmax
  | v50Pubrec => exact V50.Ack.parses_parse hmax
  | v50Pubrel => exact V50.Ack.parses_parse hmax
  | v50Pubcomp => exact V50.Ack.parses_parse hmax
  | v50Subscribe => exact V50.Subscribe.parses_parse hmax
  | v50Suback => exact V50.Suback.parses_parse hmax
  | v50Unsubscribe => exact V50.Unsubscribe.parses_parse hmax
  | v50Unsuback => exact V50.Unsuback.parses_parse hmax
  | v50Disconnect => exact V50.Disconnect.parses_parse hmax
  | v50Auth => exact V50.Auth.parses_parse hmax
  | property => exact (Property.parse_yields data).mono fun _ hr ↦ ⟨Nat.zero_le _, hr.2.2⟩
  | properties => exact hdrop (Properties.parses_parse data)
  | subEntry => exact hdrop (SubEntry.parses_parse data)
  | mqttString => exact hdrop (MqttString.parses_decode data)
  | mqttBinary => exact hdrop (MqttBinary.parses_decode data)

/-- Parsers are total and stay inside their input: no access beyond the bytes, no failed unwrap. -/
theorem run_total (parser : Parser w α) (hmax : data.length ≤ 268435455) :
    (∃ e, parser.run data = .err e) ∨
      ∃ v consumed, parser.run data = .ok (v, consumed) ∧ consumed ≤ data.length := by
  have h := parses_run parser hmax
  cases hx : parser.run data with
  | ok r =>
    have hr := h.of_ok hx
    exact .inr ⟨r.1, r.2, rfl, hr.2⟩
  | err e => exact .inl ⟨e, rfl⟩
  | panic =>
    rw [hx] at h
    exact h.elim

theorem run_total_publish :
    let parser : Parser .u16 (V50.Publish .u16) := .v50Publish 2
    (∃ e, parser.run [0, 1, 0x61, 0, 1, 0] = .err e) ∨
      ∃ v consumed, parser.run [0, 1, 0x61, 0, 1, 0] = .ok (v, consumed) ∧ consumed ≤ 6 :=
  @run_total .u16 _ [0, 1, 0x61, 0, 1, 0] (.v50Publish 2) (by decide)

end Parser

end MqttProtocolCore.Packet
