import MqttProtocolCore.Connection.OwnPackets
import MqttProtocolCore.Connection.SizeLimit

namespace MqttProtocolCore.Connection

open General Packet

variable {w : IdWidth}

def acceptsSession : GenericPacket w → Bool
  | .v311Connack p => p.returnCode = .accepted
  | .v50Connack p => p.reasonCode = .success
  | _ => false

/-- The status after a packet goes out; `none` where the packet has no place. -/
def phaseAfterSend (s : ConnectionStatus) (packet : GenericPacket w) : Option ConnectionStatus :=
  match packet with
  | .v311Connect _ | .v50Connect _ => if s = .disconnected then some .connecting else none
  | .v311Connack _ | .v50Connack _ =>
    if s = .connecting then some (if acceptsSession packet then .connected else .disconnected)
    else none
  | .v311Disconnect _ | .v50Disconnect _ => if s = .connected then some .disconnected else none
  | .v50Auth _ => if s = .disconnected then none else some s
  | _ => if s = .connected then some s else none

def phaseAfterNotice (s : ConnectionStatus) (packet : GenericPacket w) : Option ConnectionStatus :=
  match packet with
  | .v311Connect _ | .v50Connect _ => if s = .connecting then some s else none
  | _ => if acceptsSession packet ∧ s ≠ .connected then none else some s

def phaseAfter (s : ConnectionStatus) : GenericEvent w → Option ConnectionStatus
  | .requestSendPacket packet _ => phaseAfterSend s packet
  | .notifyPacketReceived packet => phaseAfterNotice s packet
  | _ => some s

/-- Events that have their place one after the other, and the status that they lead to. -/
def Conforms (s : ConnectionStatus) (events : List (GenericEvent w)) (s' : ConnectionStatus) : Prop :=
  events.foldlM phaseAfter s = some s'

section Conforms

variable {s s' s'' : ConnectionStatus} {events rest : List (GenericEvent w)}
  {packet : GenericPacket w} {e : GenericEvent w}

theorem conforms_nil : Conforms s ([] : List (GenericEvent w)) s := rfl

theorem conforms_cons : Conforms s (e :: events) s'' ↔
    ∃ s', phaseAfter s e = some s' ∧ Conforms s' events s'' := by
  simp only [Conforms, List.foldlM_cons, Option.bind_eq_bind, Option.bind_eq_some_iff]

theorem Conforms.cons (h : phaseAfter s e = some s') (hr : Conforms s' events s'') :
    Conforms s (e :: events) s'' :=
  conforms_cons.mpr ⟨s', h, hr⟩

theorem Conforms.append (h : Conforms s events s') (hr : Conforms s' rest s'') :
    Conforms s (events ++ rest) s'' := by
  induction events generalizing s with
  | nil =>
    obtain rfl := Option.some.inj h
    exact hr
  | cons e events ih =>
    obtain ⟨m, he, hm⟩ := conforms_cons.mp h
    exact .cons he (ih hm)

theorem conforms_of_emits (h : GenericConnection.Emits
    (fun q ↦ phaseAfterSend s q = some s) (fun q ↦ phaseAfterNotice s q = some s) events) :
    Conforms s events s := by
  induction events with
  | nil => exact conforms_nil
  | cons e events ih =>
    have hrest : Conforms s events s := by
      refine ih ⟨fun q hq ↦ h.requests q ?_, fun q hq ↦ h.notices q ?_⟩
      · rw [← List.singleton_append, requested_append]
        exact List.mem_append_right _ hq
      · rw [← List.singleton_append, notified_append]
        exact List.mem_append_right _ hq
    refine .cons ?_ hrest
    cases e with
    | requestSendPacket q rel => exact h.requests q (by simp [requested])
    | notifyPacketReceived q => exact h.notices q (by simp [notified])
    | _ => rfl

end Conforms

namespace GenericConnection

variable {c c' : GenericConnection w} {packet : GenericPacket w} {id : PacketId w}
  {x : Outcome (Handled w)} {r : Handled w} {events : List (GenericEvent w)}
  {rel : Option (PacketId w)} {s : ConnectionStatus}

def Phased (s : ConnectionStatus) (r : Handled w) : Prop := Conforms s r.2 r.1.status

/-- A handler follows the phases of the connection, from a status on. -/
def Phasing (s : ConnectionStatus) (x : Outcome (Handled w)) : Prop := x.Ensures (Phased s)

theorem phasing_ret (h : Phased s r) : Phasing s (.ret r) := Outcome.ensures_ret.mpr h

theorem Phasing.bind {f : Handled w → Outcome (Handled w)} (hx : Phasing s x)
    (hf : ∀ r, Phased s r → Phasing s (f r)) : Phasing s (x >>= f) :=
  Outcome.Ensures.bind hx hf

theorem Phased.append (h : Phased s (c', events)) (hr : Phased c'.status r) :
    Phased s (r.1, events ++ r.2) :=
  Conforms.append h hr

theorem Phased.quiet (h : Phased s (c', events)) {rest : List (GenericEvent w)}
    (hr : Emits (fun _ ↦ False) (fun _ ↦ False) rest) : Phased s (c', events ++ rest) := by
  apply Conforms.append h
  exact conforms_of_emits ⟨fun q hq ↦ (hr.requests q hq).elim, fun q hq ↦ (hr.notices q hq).elim⟩

theorem phased_still (hs : r.1.status = s) (h : Emits
    (fun q ↦ phaseAfterSend s q = some s) (fun q ↦ phaseAfterNotice s q = some s) r.2) :
    Phased s r := by
  unfold Phased
  rw [hs]
  exact conforms_of_emits h

theorem phased_refreshPingreqRecv : Phased c.status c.refreshPingreqRecv :=
  phased_still status_refreshPingreqRecv (emits_timers timersOnly_refreshPingreqRecv)

theorem phased_received (h : phaseAfterNotice c.status packet = some c.status) :
    Phased c.status (c.received packet) :=
  phased_still status_received (emits_received h)

end GenericConnection

end MqttProtocolCore.Connection
