import MqttProtocolCore.Connection.Operations

namespace MqttProtocolCore.Connection

open General Packet

variable {w : IdWidth}

namespace GenericEvent

@[simp] def request : GenericEvent w → Option (GenericPacket w)
  | requestSendPacket packet _ => some packet
  | notifyPacketReceived _ | notifyPacketIdReleased _ | requestTimerReset _ _
  | requestTimerCancel _ | notifyError _ | requestClose => none

@[simp] def notice : GenericEvent w → Option (GenericPacket w)
  | notifyPacketReceived packet => some packet
  | requestSendPacket _ _ | notifyPacketIdReleased _ | requestTimerReset _ _
  | requestTimerCancel _ | notifyError _ | requestClose => none

@[simp] def release : GenericEvent w → Option (PacketId w)
  | notifyPacketIdReleased id => some id
  | notifyPacketReceived _ | requestSendPacket _ _ | requestTimerReset _ _
  | requestTimerCancel _ | notifyError _ | requestClose => none

@[simp] def error : GenericEvent w → Option MqttError
  | notifyError e => some e
  | notifyPacketReceived _ | requestSendPacket _ _ | notifyPacketIdReleased _
  | requestTimerReset _ _ | requestTimerCancel _ | requestClose => none

end GenericEvent

/-- The packets that the events ask to send. -/
def requested (events : List (GenericEvent w)) : List (GenericPacket w) :=
  events.filterMap GenericEvent.request

def notified (events : List (GenericEvent w)) : List (GenericPacket w) :=
  events.filterMap GenericEvent.notice

def released (events : List (GenericEvent w)) : List (PacketId w) :=
  events.filterMap GenericEvent.release

instance {events : List (GenericEvent w)} {id : PacketId w} : Decidable (id ∈ released events) :=
  decidable_of_iff ((released events).contains id) List.contains_iff_mem

def errors (events : List (GenericEvent w)) : List MqttError :=
  events.filterMap GenericEvent.error

section Projections

variable (e : GenericEvent w) (es es' : List (GenericEvent w))

@[simp] theorem requested_nil : requested ([] : List (GenericEvent w)) = [] := rfl

@[simp] theorem requested_cons : requested (e :: es) = e.request.toList ++ requested es := by
  cases e <;> rfl

@[simp] theorem requested_append : requested (es ++ es') = requested es ++ requested es' :=
  List.filterMap_append ..

@[simp] theorem notified_nil : notified ([] : List (GenericEvent w)) = [] := rfl

@[simp] theorem notified_cons : notified (e :: es) = e.notice.toList ++ notified es := by
  cases e <;> rfl

@[simp] theorem notified_append : notified (es ++ es') = notified es ++ notified es' :=
  List.filterMap_append ..

@[simp] theorem released_nil : released ([] : List (GenericEvent w)) = [] := rfl

@[simp] theorem released_cons : released (e :: es) = e.release.toList ++ released es := by
  cases e <;> rfl

@[simp] theorem released_append : released (es ++ es') = released es ++ released es' :=
  List.filterMap_append ..

@[simp] theorem errors_nil : errors ([] : List (GenericEvent w)) = [] := rfl

@[simp] theorem errors_cons : errors (e :: es) = e.error.toList ++ errors es := by
  cases e <;> rfl

@[simp] theorem errors_append : errors (es ++ es') = errors es ++ errors es' :=
  List.filterMap_append ..

end Projections

structure TimersOnly (events : List (GenericEvent w)) : Prop where
  requested : requested events = []
  notified : notified events = []
  released : released events = []
  errors : errors events = []

namespace GenericConnection

/-- Nothing but the status and the timers differs. -/
def Idle (c c' : GenericConnection w) : Prop :=
  c' = { c with
    status := c'.status
    pingreqSendSet := c'.pingreqSendSet
    pingreqRecvSet := c'.pingreqRecvSet
    pingrespRecvSet := c'.pingrespRecvSet }

variable {c c' c'' : GenericConnection w} {packet : GenericPacket w} {id : Option (PacketId w)}

theorem Idle.refl (c : GenericConnection w) : Idle c c := rfl

theorem Idle.trans (h : Idle c c') (h' : Idle c' c'') : Idle c c'' := by
  unfold Idle at *
  rw [h'] at *
  rw [h]

theorem timersOnly_cancelEvents (set : Bool) (kind : TimerKind) :
    TimersOnly (cancelEvents set kind : List (GenericEvent w)) := by
  unfold cancelEvents
  split <;> exact ⟨rfl, rfl, rfl, rfl⟩

section CancelEvents

variable (set : Bool) (kind : TimerKind)

@[simp] theorem requested_cancelEvents :
    requested (cancelEvents set kind : List (GenericEvent w)) = [] :=
  (timersOnly_cancelEvents set kind).requested

@[simp] theorem notified_cancelEvents :
    notified (cancelEvents set kind : List (GenericEvent w)) = [] :=
  (timersOnly_cancelEvents set kind).notified

@[simp] theorem released_cancelEvents :
    released (cancelEvents set kind : List (GenericEvent w)) = [] :=
  (timersOnly_cancelEvents set kind).released

@[simp] theorem errors_cancelEvents :
    errors (cancelEvents set kind : List (GenericEvent w)) = [] :=
  (timersOnly_cancelEvents set kind).errors

end CancelEvents

theorem idle_sendPostProcess : Idle c c.sendPostProcess.1 := by
  unfold sendPostProcess
  split <;> exact rfl

theorem status_sendPostProcess : c.sendPostProcess.1.status = c.status := by
  unfold sendPostProcess
  split <;> rfl

theorem timersOnly_sendPostProcess : TimersOnly c.sendPostProcess.2 := by
  unfold sendPostProcess
  split <;> exact ⟨rfl, rfl, rfl, rfl⟩

theorem idle_refreshPingreqRecv : Idle c c.refreshPingreqRecv.1 := by
  unfold refreshPingreqRecv
  split <;> exact rfl

theorem status_refreshPingreqRecv : c.refreshPingreqRecv.1.status = c.status := by
  unfold refreshPingreqRecv
  split <;> rfl

theorem timersOnly_refreshPingreqRecv : TimersOnly c.refreshPingreqRecv.2 := by
  unfold refreshPingreqRecv
  split <;> exact ⟨rfl, rfl, rfl, rfl⟩

theorem idle_expectPingresp : Idle c c.expectPingresp.1 := by
  unfold expectPingresp
  split <;> exact rfl

theorem timersOnly_expectPingresp : TimersOnly c.expectPingresp.2 := by
  unfold expectPingresp
  split <;> exact ⟨rfl, rfl, rfl, rfl⟩

theorem idle_cancelTimers : Idle c c.cancelTimers.1 := rfl

theorem timersOnly_cancelTimers : TimersOnly c.cancelTimers.2 := by
  constructor <;> simp [cancelTimers]

theorem idle_request : Idle c (c.request packet id).1 := idle_sendPostProcess

theorem status_request : (c.request packet id).1.status = c.status := status_sendPostProcess

@[simp] theorem requested_request : requested (c.request packet id).2 = [packet] := by
  simp [request, timersOnly_sendPostProcess.requested]

@[simp] theorem notified_request : notified (c.request packet id).2 = [] := by
  simp [request, timersOnly_sendPostProcess.notified]

@[simp] theorem released_request : released (c.request packet id).2 = [] := by
  simp [request, timersOnly_sendPostProcess.released]

@[simp] theorem errors_request : errors (c.request packet id).2 = [] := by
  simp [request, timersOnly_sendPostProcess.errors]

theorem idle_received : Idle c (c.received packet).1 := idle_refreshPingreqRecv

theorem status_received : (c.received packet).1.status = c.status := status_refreshPingreqRecv

@[simp] theorem requested_received : requested (c.received packet).2 = [] := by
  simp [received, timersOnly_refreshPingreqRecv.requested]

@[simp] theorem notified_received : notified (c.received packet).2 = [packet] := by
  simp [received, timersOnly_refreshPingreqRecv.notified]

@[simp] theorem released_received : released (c.received packet).2 = [] := by
  simp [received, timersOnly_refreshPingreqRecv.released]

@[simp] theorem errors_received : errors (c.received packet).2 = [] := by
  simp [received, timersOnly_refreshPingreqRecv.errors]

/-- A handler that only sends a packet, or reports an error: nothing but the timers and the status
changes. -/
structure Plain (c : GenericConnection w) (r : Handled w) (packet : GenericPacket w) : Prop where
  idle : Idle c r.1
  sends : requested r.2 = [packet] ∧ errors r.2 = [] ∨ requested r.2 = [] ∧ errors r.2 ≠ []
  notified : notified r.2 = []
  released : released r.2 = []

theorem plain_reject (e : MqttError) : Plain c (c.reject e) packet :=
  ⟨rfl, .inr ⟨rfl, by simp [reject]⟩, rfl, rfl⟩

theorem plain_request : Plain c (c.request packet id) packet :=
  ⟨idle_request, .inl ⟨requested_request, errors_request⟩, notified_request, released_request⟩

theorem plain_sendConnected : Plain c (c.sendConnected packet) packet := by
  unfold sendConnected
  split
  · exact plain_reject _
  · exact plain_request

theorem plain_sendPingreq : Plain c (c.sendPingreq packet) packet := by
  unfold sendPingreq
  split
  · exact plain_reject _
  · have h₁ := timersOnly_expectPingresp (c := c)
    have h₂ := timersOnly_sendPostProcess (c := c.expectPingresp.1)
    exact ⟨idle_expectPingresp.trans idle_sendPostProcess,
      .inl ⟨by simp [h₁.requested, h₂.requested], by simp [h₁.errors, h₂.errors]⟩,
      by simp [h₁.notified, h₂.notified], by simp [h₁.released, h₂.released]⟩

theorem plain_sendDisconnect : Plain c (c.sendDisconnect packet) packet := by
  unfold sendDisconnect
  split
  · exact plain_reject _
  · have h := timersOnly_cancelTimers (c := { c with status := .disconnected })
    exact ⟨rfl, .inl ⟨by simp [h.requested], by simp [h.errors]⟩, by simp [h.notified],
      by simp [h.released]⟩

theorem plain_limited {size : ℕ} {r : Handled w} (h : Plain c r packet) :
    ∃ r', c.limited size (.ret r) = .ret r' ∧ Plain c r' packet := by
  unfold limited
  split
  · exact ⟨r, rfl, h⟩
  · exact ⟨_, rfl, plain_reject _⟩

end GenericConnection

end MqttProtocolCore.Connection
