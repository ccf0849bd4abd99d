import MqttProtocolCore.Connection.ClientRun
import MqttProtocolCore.Connection.PhaseRuns
import MqttProtocolCore.Connection.RoleSafety
import MqttProtocolCore.Connection.Subscriptions

namespace MqttProtocolCore.Connection

open General Packet

variable {w : IdWidth}

abbrev Exchange (w : IdWidth) := Operation w × List (GenericEvent w)

/-- The traces of a connection of a role, each with the status that it ends in: every packet that is
sent or handed over stands where the status has a place for it. -/
inductive Grammar (role : Role) : List (Exchange w) → ConnectionStatus → Prop where
  | start : Grammar role [] .disconnected
  | next {trace : List (Exchange w)} {op : Operation w} {events : List (GenericEvent w)}
      {s s' s'' : ConnectionStatus} :
      Grammar role trace s → SetsOut role s events op s' → Conforms s' events s'' →
      Grammar role (trace ++ [(op, events)]) s''

/-- Whether the connection is established after an event: CONNACK says so, unless it refuses the
connection, and DISCONNECT ends it. A refusal that is received changes nothing. -/
def establishedAfter (established : Bool) : GenericEvent w → Bool
  | .requestSendPacket (.v311Disconnect _) _ | .requestSendPacket (.v50Disconnect _) _ => false
  | .requestSendPacket (.v311Connack p) _ => p.returnCode = .accepted
  | .requestSendPacket (.v50Connack p) _ => p.reasonCode = .success
  | .notifyPacketReceived packet => established || acceptsSession packet
  | _ => established

def endsConnection : Operation w → Bool
  | .notifyClosed => true
  | _ => false

def establishedIn (established : Bool) (e : Exchange w) : Bool :=
  e.2.foldl establishedAfter (established && !endsConnection e.1)

def established (trace : List (Exchange w)) : Bool := trace.foldl establishedIn false

theorem established_append (trace : List (Exchange w)) (e : Exchange w) :
    established (trace ++ [e]) = establishedIn (established trace) e := by
  rw [established, List.foldl_append]
  rfl

section Phases

variable {s s' s'' : ConnectionStatus} {events : List (GenericEvent w)} {e : GenericEvent w}
  {packet : GenericPacket w} {flag : Bool} {op : Operation w} {role : Role}

/-- A packet that goes out tells that the connection is established exactly when it leads there. -/
theorem establishedAfter_send {rel : Option (PacketId w)} (h : phaseAfterSend s packet = some s')
    (hflag : flag = decide (s = .connected)) :
    establishedAfter flag (.requestSendPacket packet rel) = decide (s' = .connected) := by
  cases packet with
  | v311Connect p | v50Connect p =>
    obtain ⟨rfl, hs'⟩ := Option.ite_none_right_eq_some.mp h
    obtain rfl := Option.some.inj hs'
    exact hflag
  | v311Connack p =>
    obtain ⟨-, hs'⟩ := Option.ite_none_right_eq_some.mp h
    obtain rfl := Option.some.inj hs'
    by_cases hp : p.returnCode = .accepted <;> simp [establishedAfter, acceptsSession, hp]
  | v50Connack p =>
    obtain ⟨-, hs'⟩ := Option.ite_none_right_eq_some.mp h
    obtain rfl := Option.some.inj hs'
    by_cases hp : p.reasonCode = .success <;> simp [establishedAfter, acceptsSession, hp]
  | v311Disconnect p | v50Disconnect p =>
    obtain ⟨-, hs'⟩ := Option.ite_none_right_eq_some.mp h
    obtain rfl := Option.some.inj hs'
    rfl
  | v50Auth p =>
    obtain ⟨-, hs'⟩ := Option.ite_none_left_eq_some.mp h
    obtain rfl := Option.some.inj hs'
    exact hflag
  | _ =>
    obtain ⟨-, hs'⟩ := Option.ite_none_right_eq_some.mp h
    obtain rfl := Option.some.inj hs'
    exact hflag

theorem phaseAfterNotice_eq (h : phaseAfterNotice s packet = some s') :
    s' = s ∧ (acceptsSession packet → s = .connected) := by
  by_cases hconnect : partOf packet = .connect
  · have hnotice : phaseAfterNotice s packet = if s = .connecting then some s else none := by
      cases packet <;> first | rfl | cases hconnect
    rw [hnotice] at h
    obtain ⟨-, hs'⟩ := Option.ite_none_right_eq_some.mp h
    refine ⟨(Option.some.inj hs').symm, fun ha ↦ ?_⟩
    cases packet <;> first | cases ha | cases hconnect
  · have hnotice : phaseAfterNotice s packet =
        if acceptsSession packet ∧ s ≠ .connected then none else some s := by
      cases packet <;> first | rfl | exact (hconnect rfl).elim
    rw [hnotice] at h
    obtain ⟨hs, hs'⟩ := Option.ite_none_left_eq_some.mp h
    exact ⟨(Option.some.inj hs').symm, fun ha ↦ not_not.mp fun hne ↦ hs ⟨ha, hne⟩⟩

/-- An event tells that the connection is established exactly when it leads there. -/
theorem establishedAfter_eq (h : phaseAfter s e = some s') (hflag : flag = decide (s = .connected)) :
    establishedAfter flag e = decide (s' = .connected) := by
  cases e with
  | requestSendPacket packet rel => exact establishedAfter_send h hflag
  | notifyPacketReceived packet =>
    obtain ⟨rfl, ha⟩ := phaseAfterNotice_eq h
    subst hflag
    by_cases hp : acceptsSession packet
    · simp [establishedAfter, hp, ha hp]
    · simp [establishedAfter, hp]
  | _ =>
    obtain rfl := Option.some.inj h
    exact hflag

theorem established_of_conforms (h : Conforms s events s')
    (hflag : flag = decide (s = .connected)) :
    events.foldl establishedAfter flag = decide (s' = .connected) := by
  induction events generalizing s flag with
  | nil =>
    obtain rfl := Option.some.inj h
    exact hflag
  | cons e events ih =>
    obtain ⟨m, he, hm⟩ := conforms_cons.mp h
    exact ih hm (establishedAfter_eq he hflag)

/-- An established connection ends with a DISCONNECT, which tells so. -/
theorem ended_of_phase (h : phaseAfter .connected e = some s') (hs : s' ≠ .connected) :
    establishedAfter flag e = decide (s' = .connected) := by
  cases e with
  | requestSendPacket packet rel =>
    cases packet with
    | v311Disconnect p | v50Disconnect p =>
      obtain rfl := Option.some.inj h
      rfl
    | _ => first | (cases h; done) | exact (hs (Option.some.inj h).symm).elim
  | notifyPacketReceived packet => exact (hs (phaseAfterNotice_eq h).1).elim
  | _ => exact (hs (Option.some.inj h).symm).elim

/-- Whatever was told before, the events of an established connection tell the truth once they hand
over the CONNACK that accepts it. -/
theorem established_of_accepted (h : Conforms .connected events s')
    (hp : packet ∈ notified events) (ha : acceptsSession packet) :
    events.foldl establishedAfter flag = decide (s' = .connected) := by
  induction events generalizing flag with
  | nil => cases hp
  | cons e events ih =>
    obtain ⟨m, he, hm⟩ := conforms_cons.mp h
    rw [List.foldl_cons]
    by_cases hc : m = .connected
    · subst hc
      by_cases hrest : packet ∈ notified events
      · exact ih hm hrest
      · obtain ⟨e', he', hnotice⟩ := List.mem_filterMap.mp hp
        obtain rfl | he' := List.mem_cons.mp he'
        · refine established_of_conforms hm ?_
          cases e' with
          | notifyPacketReceived q =>
            obtain rfl := Option.some.inj hnotice
            simp [establishedAfter, ha]
          | _ => cases hnotice
        · exact (hrest (List.mem_filterMap.mpr ⟨e', he', hnotice⟩)).elim
    · exact established_of_conforms hm (ended_of_phase he hc)

theorem established_setsOut (hflag : flag = decide (s = .connected))
    (hout : SetsOut role s events op s') (h : Conforms s' events s'') :
    establishedIn flag (op, events) = decide (s'' = .connected) := by
  cases hout with
  | stays hop =>
    have hends : endsConnection op = false := by
      cases op <;> first | rfl | exact (hop rfl).elim
    refine established_of_conforms h ?_
    simp [hends, hflag]
  | closed => exact established_of_conforms h (by simp [endsConnection])
  | arrived hs _ =>
    subst hs hflag
    exact established_of_conforms h rfl
  | accepted hp ha _ => exact established_of_accepted h hp ha

/-- A trace in the grammar tells whether the connection is established. -/
theorem Grammar.established {trace : List (Exchange w)} (h : Grammar role trace s) :
    Connection.established trace = decide (s = .connected) := by
  induction h with
  | start => rfl
  | next _ hout hconforms ih =>
    rw [established_append]
    exact established_setsOut ih hout hconforms

end Phases

namespace GenericConnection

variable {c : GenericConnection w} {ok : GenericConnection w → Operation w → Prop}
  {trace : Trace w}

end GenericConnection

end MqttProtocolCore.Connection
