import MqttProtocolCore.Connection.Operations

namespace MqttProtocolCore.Connection.GenericConnection

open General Packet

variable {w : IdWidth} {v : Version} {flags keepAlive : UInt8} {props : Bytes}
  {settings calls : List (Operation w)} {c : GenericConnection w}
  {trace : List (Transition (GenericConnection w) (Operation w) (Reply w))}

/-- The body of a CONNECT of the client `a`; in version 5.0 `props` starts with their length. -/
def connectBody (v : Version) (flags keepAlive : UInt8) (props : Bytes) : Bytes :=
  [0, 4, 0x4d, 0x51, 0x54, 0x54, if v = .v50 then 5 else 4, flags, 0, keepAlive] ++ props ++
    [0, 1, 0x61]

def connectPacket (v : Version) (body : Bytes) : Outcome (GenericPacket w) := do
  match v with
  | .v311 => return .v311Connect (← (V311.Connect.parse body).unwrap).1
  | .v50 => return .v50Connect (← (V50.Connect.parse body).unwrap).1
  | .undetermined => .panic

/-- What a client goes through that is set up, sends such a CONNECT, and is called then. -/
def clientRun (v : Version) (flags keepAlive : UInt8) (props : Bytes)
    (settings calls : List (Operation w)) :
    Outcome (List (Transition (GenericConnection w) (Operation w) (Reply w)) ×
      GenericConnection w) := do
  let packet ← connectPacket v (connectBody v flags keepAlive props)
  (system w).run (new .client w v) (settings ++ .send packet :: calls)

theorem exists_of_clientRun
    (h : clientRun v flags keepAlive props settings calls = .ret (trace, c)) :
    ∃ packet, (system w).run (new .client w v) (settings ++ .send packet :: calls) =
      .ret (trace, c) := by
  obtain ⟨packet, -, hrun⟩ := Outcome.bind_eq_ret.mp h
  exact ⟨packet, hrun⟩

theorem run_of_clientRun
    (h : clientRun v flags keepAlive props settings calls = .ret (trace, c)) :
    Run (system w) (fun _ _ ↦ True) trace c := by
  obtain ⟨_, hrun⟩ := exists_of_clientRun h
  exact Run.of_run ⟨.client, v, rfl⟩ hrun

theorem monitor_of_clientRun {γ : Type} (start : γ)
    (read : γ → Transition (GenericConnection w) (Operation w) (Reply w) → γ)
    (h : clientRun v flags keepAlive props settings calls = .ret (trace, c)) :
    ∃ trace', Run ((system w).monitor start read) (fun _ _ ↦ True) trace'
      (c, trace.foldl read start) := by
  obtain ⟨_, hrun⟩ := exists_of_clientRun h
  exact Run.monitor_run ⟨.client, v, rfl⟩ hrun

end MqttProtocolCore.Connection.GenericConnection
