import MqttProtocolCore.Connection.Origin
import MqttProtocolCore.Connection.PublishWire

namespace MqttProtocolCore.Connection

open General Packet

variable {w : IdWidth}

/-- A packet that the connection makes by itself. -/
inductive Own : GenericPacket w → Prop where
  | v311Connack {returnCode : ConnectReturnCode} {p : V311.Connack} :
      V311.Connack.build false returnCode = .ok p → Own (.v311Connack p)
  | v311Puback {id : PacketId w} {p : V311.Puback w} :
      V311.Ack.build id none = .ok p → Own (.v311Puback p)
  | v311Pubrec {id : PacketId w} {p : V311.Pubrec w} :
      V311.Ack.build id none = .ok p → Own (.v311Pubrec p)
  | v311Pubrel {id : PacketId w} {p : V311.Pubrel w} :
      V311.Ack.build id none = .ok p → Own (.v311Pubrel p)
  | v311Pubcomp {id : PacketId w} {p : V311.Pubcomp w} :
      V311.Ack.build id none = .ok p → Own (.v311Pubcomp p)
  | v311Pingreq {p : V311.Pingreq} : V311.Empty.new = .ok p → Own (.v311Pingreq p)
  | v311Pingresp {p : V311.Pingresp} : V311.Empty.new = .ok p → Own (.v311Pingresp p)
  | v50Connack {reasonCode : ConnectReasonCode} {p : V50.Connack} :
      V50.Connack.build false reasonCode [] = .ok p → Own (.v50Connack p)
  | v50Puback {id : PacketId w} {p : V50.Puback w} :
      V50.Ack.build id none none = .ok p → Own (.v50Puback p)
  | v50Pubrec {id : PacketId w} {p : V50.Pubrec w} :
      V50.Ack.build id none none = .ok p → Own (.v50Pubrec p)
  | v50Pubrel {id : PacketId w} {p : V50.Pubrel w} :
      V50.Ack.build id none none = .ok p → Own (.v50Pubrel p)
  | v50Pubcomp {id : PacketId w} {reasonCode : Option PubcompReasonCode} {p : V50.Pubcomp w} :
      V50.Ack.build id reasonCode none = .ok p → Own (.v50Pubcomp p)
  | v50Pingreq {p : V311.Pingreq} : V311.Empty.new = .ok p → Own (.v50Pingreq p)
  | v50Pingresp {p : V311.Pingresp} : V311.Empty.new = .ok p → Own (.v50Pingresp p)
  | v50Disconnect {reasonCode : DisconnectReasonCode} {p : V50.Disconnect} :
      V50.Disconnect.build (some reasonCode) none = .ok p → Own (.v50Disconnect p)

section Wired

variable {P : Type} [GenericPacketTrait P] {p : P} {q : GenericPacket w} {header : UInt8}
  {remainingLength : VariableByteInteger} {body : Bytes}

/-- The lengths of a packet are those of the packet of its own type in it. -/
theorem wired_of_built (hq : Built q) (hwill : WillGiven q)
    (h : LaidOut p header remainingLength body) (hsize : q.size = GenericPacketTrait.size p)
    (hbuffers : q.toBuffers = GenericPacketTrait.toBuffers p)
    (hbytes : q.toContinuousBuffer = GenericPacketTrait.toContinuousBuffer p)
    (hl : LengthsAgree p) : Wired q := by
  have hlift : LaidOut q header remainingLength body := h.lift hsize hbuffers hbytes
  refine (wired_iff_of_built hq).mpr ⟨?_, hwill⟩
  exact hlift.lengthsAgree_iff.mpr (h.lengthsAgree_iff.mp hl)

theorem shortProps_none : V50.ShortProps none := by
  intro ps hps
  cases hps

theorem v311Ack_lengths {C : Type} [V50.AckCode C] {id : PacketId w} {p : V311.Ack w C}
    (h : V311.Ack.build id none = .ok p) : LengthsAgree p :=
  ((V311.Ack.faithful.built ⟨some id, none⟩ p h).mpr trivial).1

theorem v50Ack_lengths {C : Type} [V50.AckCode C] {id : PacketId w} {reasonCode : Option C}
    {p : V50.Ack w C} (h : V50.Ack.build id reasonCode none = .ok p) : LengthsAgree p :=
  (V50.Ack.agreesWhen (id, reasonCode, none) p h).mpr shortProps_none

theorem empty_wired {t : PacketType} {p : V311.Empty} (h : V311.Empty.new = .ok p)
    (hq : Built q) (hwill : WillGiven q) (hsize : q.size = p.size)
    (hbuffers : q.toBuffers = p.toBuffers t)
    (hbytes : q.toContinuousBuffer = p.toContinuousBuffer t) : Wired q := by
  let _ := V311.Empty.written t
  exact wired_of_built hq hwill (p.laidOut t) hsize hbuffers hbytes
    (((V311.Empty.faithful t).built () p h).mpr trivial).1

end Wired

theorem Own.wired {q : GenericPacket w} (h : Own q) : Wired q := by
  cases h with
  | @v311Connack returnCode p h =>
    have hl := ((V311.Connack.faithful.built ⟨some false, some returnCode⟩ p h).mpr trivial).1
    exact wired_of_built (.v311Connack (b := ⟨some false, some returnCode⟩) h) trivial p.laidOut
      rfl rfl rfl hl
  | @v311Puback id p h =>
    exact wired_of_built (.v311Puback (b := ⟨some id, none⟩) h) trivial p.laidOut rfl rfl rfl
      (v311Ack_lengths h)
  | @v311Pubrec id p h =>
    exact wired_of_built (.v311Pubrec (b := ⟨some id, none⟩) h) trivial p.laidOut rfl rfl rfl
      (v311Ack_lengths h)
  | @v311Pubrel id p h =>
    exact wired_of_built (.v311Pubrel (b := ⟨some id, none⟩) h) trivial p.laidOut rfl rfl rfl
      (v311Ack_lengths h)
  | @v311Pubcomp id p h =>
    exact wired_of_built (.v311Pubcomp (b := ⟨some id, none⟩) h) trivial p.laidOut rfl rfl rfl
      (v311Ack_lengths h)
  | v311Pingreq h => exact empty_wired (t := .pingreq) h (.v311Pingreq h) trivial rfl rfl rfl
  | v311Pingresp h => exact empty_wired (t := .pingresp) h (.v311Pingresp h) trivial rfl rfl rfl
  | @v50Connack reasonCode p h =>
    have hsize : Properties.size [] < 4294967296 := by decide
    have hl := (V50.Connack.agreesWhen (false, reasonCode, []) p h).mpr hsize
    exact wired_of_built (.v50Connack (b := (false, reasonCode, [])) h) trivial p.laidOut rfl rfl rfl
      hl
  | @v50Puback id p h =>
    exact wired_of_built (.v50Puback (b := (id, none, none)) h) trivial p.laidOut rfl rfl rfl
      (v50Ack_lengths h)
  | @v50Pubrec id p h =>
    exact wired_of_built (.v50Pubrec (b := (id, none, none)) h) trivial p.laidOut rfl rfl rfl
      (v50Ack_lengths h)
  | @v50Pubrel id p h =>
    exact wired_of_built (.v50Pubrel (b := (id, none, none)) h) trivial p.laidOut rfl rfl rfl
      (v50Ack_lengths h)
  | @v50Pubcomp id reasonCode p h =>
    exact wired_of_built (.v50Pubcomp (b := (id, reasonCode, none)) h) trivial p.laidOut rfl rfl rfl
      (v50Ack_lengths h)
  | v50Pingreq h => exact empty_wired (t := .pingreq) h (.v50Pingreq h) trivial rfl rfl rfl
  | v50Pingresp h => exact empty_wired (t := .pingresp) h (.v50Pingresp h) trivial rfl rfl rfl
  | @v50Disconnect reasonCode p h =>
    have hl := (V50.Disconnect.agreesWhen (some reasonCode, none) p h).mpr shortProps_none
    exact wired_of_built (.v50Disconnect (b := (some reasonCode, none)) h) trivial p.laidOut
      rfl rfl rfl hl

namespace GenericConnection

variable {R N : GenericPacket w → Prop} {c c' : GenericConnection w} {packet : GenericPacket w}
  {id : PacketId w} {x : Outcome (Handled w)} {r : Handled w} {raw : RawPacket} {v : Version}

theorem emitting_build {α : Type} {y : Fallible MqttError α} {f : α → Outcome (Handled w)}
    (h : ∀ a, y = .ok a → Emitting R N (f a)) : Emitting R N (y.unwrap >>= f) := by
  refine Outcome.Ensures.bind (P := fun a ↦ y = .ok a) ?_ h
  intro a ha
  exact Fallible.unwrap_eq_ret.mp ha

section Own

variable (hR : ∀ q, Own q → R q)
include hR

theorem own_handleV50Error (e : MqttError) : Emitting R N (c.handleV50Error e) := by
  apply emitting_build
  intro p hp
  refine Emitting.bind (emitting_limited (emitting_ret (emits_sendDisconnect (hR _ ?_)))) ?_
  · exact .v50Disconnect hp
  · intro r hr
    exact emitting_ret (hr.append (emits_quiet rfl rfl))

theorem own_respond {answer : Answer} {id : Option (PacketId w)} :
    Emitting R N (c.respond answer id) := by
  unfold respond
  split
  · exact emitting_ret (emits_quiet rfl rfl)
  · exact emitting_build fun p hp ↦ emitting_answered (hR _ (.v50Puback hp))
  · exact emitting_build fun p hp ↦ emitting_answered (hR _ (.v50Pubrec hp))
  · simp [Emitting]

theorem own_recvV50Publish {p : V50.Publish w} : Emitting R (fun _ ↦ True) (c.recvV50Publish p) := by
  apply emitting_after
  intro o
  cases o with
  | none => exact own_handleV50Error hR _
  | some a =>
    apply emitting_after
    intro o
    cases o with
    | none => exact own_handleV50Error hR _
    | some b => exact (own_respond hR).thenNotice trivial

theorem own_recvV311Publish {p : V311.Publish w} :
    Emitting R (fun _ ↦ True) (c.recvV311Publish p) := by
  unfold recvV311Publish
  split
  · exact emitting_ret (emits_received trivial)
  · refine Emitting.thenReceived (emitting_respondIf fun _ ↦ emitting_build fun a ha ↦ ?_) trivial
    exact emitting_ret (emits_sendConnected (hR _ (.v311Puback ha)))
  · refine Emitting.thenNotice (emitting_respondIf fun _ ↦ emitting_build fun a ha ↦ ?_) trivial
    exact emitting_ret (emits_sendConnected (hR _ (.v311Pubrec ha)))
  · simp [Emitting]

theorem own_recvV311Pubrec {p : V311.Pubrec w} : Emitting R (fun _ ↦ True) (c.recvV311Pubrec p) := by
  unfold recvV311Pubrec
  dsimp only
  split
  · refine Emitting.thenReceived (emitting_respondIf fun _ ↦ emitting_build fun a ha ↦ ?_) trivial
    exact emitting_sendPubrel (hR _ (.v311Pubrel ha))
  · exact emitting_handleV311Error _

theorem own_recvV50Pubrec {p : V50.Pubrec w} : Emitting R (fun _ ↦ True) (c.recvV50Pubrec p) := by
  unfold recvV50Pubrec
  dsimp only
  split
  · split
    · refine Emitting.thenReceived (emitting_respondIf fun _ ↦ emitting_build fun a ha ↦ ?_) trivial
      exact emitting_limited (emitting_sendPubrel (hR _ (.v50Pubrel ha)))
    · refine emitting_releaseIfUsed.bind fun r hr ↦ emitting_after fun c' ↦ emitting_ret ?_
      exact hr.append (emits_received trivial)
  · exact own_handleV50Error hR _

/-- The handler of a received packet sends packets of its own and the store. -/
theorem own_deliver (hs : Sendable R c) : Emitting R (fun _ ↦ True) (c.deliver packet) := by
  cases packet with
  | v311Connect p =>
    change Emitting _ _ (if _ then _ else _)
    split
    · exact emitting_handleV311Error _
    · exact emitting_ret (emits_received trivial)
  | v50Connect p =>
    change Emitting _ _ (if _ then _ else _)
    split
    · exact own_handleV50Error hR _
    · exact emitting_after fun c' ↦ emitting_ret (emits_received trivial)
  | v311Connack p => exact emitting_recvV311Connack hs trivial
  | v50Connack p => exact emitting_recvV50Connack hs trivial
  | v311Publish p => exact own_recvV311Publish hR
  | v50Publish p => exact own_recvV50Publish hR
  | v311Puback p | v311Pubcomp p => exact emitting_recvFinalAck emitting_handleV311Error trivial
  | v50Puback p | v50Pubcomp p => exact emitting_recvFinalAck (own_handleV50Error hR) trivial
  | v311Pubrec p => exact own_recvV311Pubrec hR
  | v50Pubrec p => exact own_recvV50Pubrec hR
  | v311Pubrel p =>
    refine Emitting.thenReceived (emitting_respondIf fun _ ↦ emitting_build fun a ha ↦ ?_) trivial
    exact emitting_ret (emits_sendConnected (hR _ (.v311Pubcomp ha)))
  | v50Pubrel p =>
    refine Emitting.thenReceived (emitting_respondIf fun _ ↦ emitting_build fun a ha ↦ ?_) trivial
    exact emitting_answered (hR _ (.v50Pubcomp ha))
  | v311Suback p | v311Unsuback p =>
    exact emitting_recvSubscriptionAck emitting_handleV311Error trivial
  | v50Suback p | v50Unsuback p =>
    exact emitting_recvSubscriptionAck (own_handleV50Error hR) trivial
  | v311Pingreq p =>
    refine Emitting.thenReceived (emitting_respondIf fun _ ↦ emitting_build fun a ha ↦ ?_) trivial
    exact emitting_ret (emits_sendConnected (hR _ (.v311Pingresp ha)))
  | v50Pingreq p =>
    refine Emitting.thenReceived (emitting_respondIf fun _ ↦ emitting_build fun a ha ↦ ?_) trivial
    exact emitting_limited (emitting_ret (emits_sendConnected (hR _ (.v50Pingresp ha))))
  | v311Pingresp p | v50Pingresp p =>
    exact emitting_ret ((emits_timers (timersOnly_cancelEvents ..)).append (emits_notified trivial))
  | v311Disconnect p | v50Disconnect p =>
    exact emitting_ret ((emits_timers timersOnly_cancelTimers).append (emits_notified trivial))
  | _ => exact emitting_ret (emits_received trivial)

/-- So does the handler of a packet that is not taken or cannot be read. -/
theorem own_refusal (hs : Sendable R c) (h : Refusal c raw x) : Emitting R (fun _ ↦ True) x := by
  cases h with
  | tooLarge _ => exact own_handleV50Error hR _
  | rejected e => exact emitting_reject e
  | misread _ _ _ hm =>
    have hs' : Sendable R ({ c.determine ‹_› with status := .connecting } : GenericConnection w) := hs
    cases hm with
    | closed e => exact emitting_handleV311Error e
    | disconnected e => exact own_handleV50Error hR e
    | ignored e => exact emitting_reject e
    | refusedV311 e =>
      apply emitting_build
      intro p hp
      refine Emitting.bind ?_ fun r hr ↦ emitting_ret (hr.append (emits_quiet rfl rfl))
      unfold processSendV311Connack
      split
      · exact emitting_reject _
      · exact emitting_finishConnack hs' (hR _ (.v311Connack hp))
    | refusedV50 e =>
      apply emitting_build
      intro p hp
      refine (emitting_processSendV50Connack hs' (hR _ (.v50Connack hp))).bind fun r hr ↦ ?_
      exact emitting_ret (hr.append (emits_quiet rfl rfl))

theorem own_recv (hc : c.Reading) (hs : Sendable R c) {data : Bytes} {r : Handled w × Bytes}
    (hr : c.recv data = .ret r) : Emits R (fun _ ↦ True) r.1.2 := by
  cases recv_cases hc hr with
  | incomplete => exact emits_quiet rfl rfl
  | malformed => exact (emits_timers timersOnly_cancelTimers).append (emits_quiet rfl rfl)
  | @refused b raw rest r _ _ href =>
    have hs' : Sendable R ({ c with packetBuilder := b } : GenericConnection w) := hs
    exact (own_refusal hR hs' href).emits rfl
  | @delivered b raw rest v packet r _ _ _ hdel =>
    have hs' : Sendable R (({ c with packetBuilder := b } : GenericConnection w).determine v) := hs
    exact (own_deliver hR hs').emits hdel

theorem own_notifyTimerFired (kind : TimerKind) :
    Emitting R (fun _ ↦ True) (c.notifyTimerFired kind) := by
  have htimeout (c : GenericConnection w) : Emitting R (fun _ ↦ True) c.keepAliveTimeout := by
    unfold keepAliveTimeout
    split
    · exact emitting_ret (emits_quiet rfl rfl)
    · split
      · refine emitting_build fun p hp ↦ emitting_limited (emitting_ret (emits_sendDisconnect ?_))
        exact hR _ (.v50Disconnect hp)
      · exact emitting_ret (emits_quiet rfl rfl)
    · simp [Emitting]
  cases kind with
  | pingreqSend =>
    change Emitting R _ (keepAlive _)
    unfold keepAlive
    split
    · split
      · exact emitting_build fun p hp ↦ emitting_ret (emits_sendPingreq (hR _ (.v311Pingreq hp)))
      · refine emitting_build fun p hp ↦ emitting_limited (emitting_ret (emits_sendPingreq ?_))
        exact hR _ (.v50Pingreq hp)
      · simp [Emitting]
    · exact emitting_ret (emits_quiet rfl rfl)
  | pingreqRecv => exact htimeout _
  | pingrespRecv => exact htimeout _

end Own

end GenericConnection

end MqttProtocolCore.Connection
