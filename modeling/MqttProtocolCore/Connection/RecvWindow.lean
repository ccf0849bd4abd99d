import MqttProtocolCore.Connection.Origin
import MqttProtocolCore.Connection.StepFrame

namespace MqttProtocolCore.Connection

open General Packet

variable {w : IdWidth}

/-- The receive maximum that was announced, how many PUBLISHes waited for an answer then, and those
that wait now. -/
structure RecvWindow (w : IdWidth) where
  announced : Option U16
  backlog : ℕ
  unanswered : HashSet (PacketId w)

namespace RecvWindow

variable {s : RecvWindow w} {id : PacketId w} {e : GenericEvent w} {events : List (GenericEvent w)}

def start : RecvWindow w := ⟨none, 0, ∅⟩

def announce (s : RecvWindow w) : Property → RecvWindow w
  | .receiveMaximum v => { s with announced := some v, backlog := s.unanswered.len }
  | _ => s

def answer (s : RecvWindow w) (id : PacketId w) : RecvWindow w :=
  { s with unanswered := s.unanswered.remove id }

def insert (s : RecvWindow w) (id : PacketId w) : RecvWindow w :=
  { s with unanswered := s.unanswered.insert id }

def finalOf : GenericPacket w → Option (PacketId w)
  | .v50Puback p | .v50Pubcomp p => some p.packetId
  | .v50Pubrec p => if p.reasonCode.any PubrecReasonCode.isFailure then some p.packetId else none
  | _ => none

def sent (s : RecvWindow w) : GenericPacket w → RecvWindow w
  | .v311Connect _ => start
  | .v50Connect p => p.props.foldl announce start
  | .v50Connack p => if p.reasonCode = .success then p.props.foldl announce s else s
  | packet => (finalOf packet).elim s s.answer

def received (s : RecvWindow w) : GenericPacket w → RecvWindow w
  | .v311Connect _ | .v50Connect _ => start
  | _ => s

def observe (s : RecvWindow w) : GenericEvent w → RecvWindow w
  | .requestSendPacket packet _ => s.sent packet
  | .notifyPacketReceived packet => s.received packet
  | _ => s

/-- A network connection begins with the event, or the exchange of the identifier ends. -/
def Drops (id : PacketId w) : GenericEvent w → Prop
  | .requestSendPacket packet _ => partOf packet = .connect ∨ finalOf packet = some id
  | .notifyPacketReceived packet => partOf packet = .connect
  | _ => False

/-- No more PUBLISHes wait for an answer than were announced, or than waited when this was
announced. -/
def Bounded (s : RecvWindow w) : Prop :=
  ∀ m, s.announced = some m → s.unanswered.len ≤ max m.val s.backlog

theorem announce_unanswered (props : Properties) :
    (props.foldl announce s).unanswered = s.unanswered := by
  induction props generalizing s with
  | nil => rfl
  | cons prop props ih =>
    rw [List.foldl_cons, ih]
    cases prop <;> rfl

theorem Bounded.announce (h : s.Bounded) (props : Properties) :
    (props.foldl RecvWindow.announce s).Bounded := by
  induction props generalizing s with
  | nil => exact h
  | cons prop props ih =>
    apply ih
    cases prop with
    | receiveMaximum v => exact fun m _ ↦ le_max_right ..
    | _ => exact h

theorem bounded_start : (start : RecvWindow w).Bounded := fun _ h ↦ nomatch h

theorem Bounded.answer (h : s.Bounded) (id : PacketId w) : (s.answer id).Bounded :=
  fun m hm ↦ s.unanswered.len_remove_le.trans (h m hm)

theorem sent_unanswered (packet : GenericPacket w) : id ∈ (s.sent packet).unanswered ↔
    id ∈ s.unanswered ∧ ¬ (partOf packet = .connect ∨ finalOf packet = some id) := by
  have hanswer (u : PacketId w) : id ∈ (s.answer u).unanswered ↔
      id ∈ s.unanswered ∧ ¬ (Part.ack = Part.connect ∨ some u = some id) := by
    simp [answer, and_comm, eq_comm]
  cases packet with
  | v311Connect p => simp [sent, start, partOf]
  | v50Connect p => simp [sent, start, partOf, announce_unanswered]
  | v50Connack p =>
    have hnot : ¬ (partOf (.v50Connack p : GenericPacket w) = .connect ∨
        finalOf (.v50Connack p) = some id) := by simp [partOf, finalOf]
    simp only [hnot, not_false_eq_true, and_true]
    by_cases hcode : p.reasonCode = .success
    · simp [sent, hcode, announce_unanswered]
    · simp [sent, hcode]
  | v50Puback p | v50Pubcomp p => exact hanswer _
  | v50Pubrec p =>
    by_cases hcode : p.reasonCode.any PubrecReasonCode.isFailure
    · simpa [sent, finalOf, hcode, partOf] using hanswer p.packetId
    · simp [sent, finalOf, hcode, partOf]
  | _ => simp [sent, finalOf, partOf]

theorem Bounded.sent (h : s.Bounded) (packet : GenericPacket w) : (s.sent packet).Bounded := by
  have hfinal (o : Option (PacketId w)) : (o.elim s s.answer).Bounded := by
    cases o with
    | none => exact h
    | some id => exact h.answer id
  cases packet with
  | v311Connect p => exact bounded_start
  | v50Connect p => exact bounded_start.announce p.props
  | v50Connack p =>
    by_cases hcode : p.reasonCode = .success
    · have hsent : s.sent (.v50Connack p) = p.props.foldl RecvWindow.announce s := if_pos hcode
      rw [hsent]
      exact h.announce p.props
    · have hsent : s.sent (.v50Connack p) = s := if_neg hcode
      rw [hsent]
      exact h
  | _ => exact hfinal _

theorem Bounded.observe (h : s.Bounded) (e : GenericEvent w) : (s.observe e).Bounded := by
  cases e with
  | requestSendPacket packet rel => exact h.sent packet
  | notifyPacketReceived packet =>
    cases packet with
    | v311Connect | v50Connect => exact bounded_start
    | _ => exact h
  | _ => exact h

theorem Bounded.foldl_observe (h : s.Bounded) (events : List (GenericEvent w)) :
    (events.foldl RecvWindow.observe s).Bounded := by
  induction events generalizing s with
  | nil => exact h
  | cons e events ih => exact ih (h.observe e)

theorem observe_unanswered : id ∈ (s.observe e).unanswered ↔ id ∈ s.unanswered ∧ ¬ Drops id e := by
  cases e with
  | requestSendPacket packet rel => exact sent_unanswered packet
  | notifyPacketReceived packet =>
    cases packet with
    | v311Connect | v50Connect => simp [observe, received, start, Drops, partOf]
    | _ => simp [observe, received, Drops, partOf]
  | _ => simp [observe, Drops]

/-- An identifier leaves the window with the events that drop it, and with no others. -/
theorem foldl_unanswered : id ∈ (events.foldl observe s).unanswered ↔
    id ∈ s.unanswered ∧ ∀ e ∈ events, ¬ Drops id e := by
  induction events generalizing s with
  | nil => simp
  | cons e events ih =>
    rw [List.foldl_cons, ih, observe_unanswered, List.forall_mem_cons, and_assoc]

end RecvWindow

end MqttProtocolCore.Connection
