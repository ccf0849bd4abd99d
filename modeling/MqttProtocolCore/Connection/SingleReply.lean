import MqttProtocolCore.Connection.ExactRelease

namespace MqttProtocolCore.Connection.GenericConnection

open General Packet

variable {w : IdWidth} {c c' : GenericConnection w} {packet q : GenericPacket w} {id : PacketId w}
  {kind : AckKind} {P : GenericPacket w → Prop} {x : Outcome (Handled w)} {r : Handled w}
  {events rest : List (GenericEvent w)} {qos : Qos}

def Single (P : GenericPacket w → Prop) (events : List (GenericEvent w)) : Prop :=
  requested events = [] ∨ ∃ q, requested events = [q] ∧ P q

def Singly (P : GenericPacket w → Prop) (x : Outcome (Handled w)) : Prop :=
  x.Ensures fun r ↦ Single P r.2

theorem single_quiet (h : requested events = []) : Single P events := .inl h

theorem Single.append (h : Single P events) (hq : requested rest = []) : Single P (events ++ rest) := by
  unfold Single
  rw [requested_append, hq, List.append_nil]
  exact h

theorem single_request {o : Option (PacketId w)} (h : P packet) : Single P (c.request packet o).2 :=
  .inr ⟨packet, requested_request, h⟩

theorem single_sendConnected (h : P packet) : Single P (c.sendConnected packet).2 := by
  unfold sendConnected
  split
  · exact single_quiet rfl
  · exact single_request h

theorem singly_ret (h : Single P r.2) : Singly P (.ret r) := Outcome.ensures_ret.mpr h

theorem singly_limited {size : ℕ} (h : Singly P x) : Singly P (c.limited size x) := by
  unfold limited
  split
  · exact h
  · exact singly_ret (single_quiet rfl)

theorem singly_answered {size : ℕ} {e : MqttError} (h : P packet) : Singly P (c.limited size
    (if c.status ≠ .connected then .ret (c.reject e) else .ret (c'.request packet none))) := by
  apply singly_limited
  split
  · exact singly_ret (single_quiet rfl)
  · exact singly_ret (single_request h)

theorem singly_handleV50Error (e : MqttError) (h : ∀ p, P (.v50Disconnect p)) :
    Singly P (c.handleV50Error e) := by
  refine Outcome.Ensures.bind (P := fun _ ↦ True) (fun _ _ ↦ trivial) fun p _ ↦ ?_
  have hsent : Singly P (c.processSendV50Disconnect p) := by
    apply singly_limited
    apply singly_ret
    unfold sendDisconnect
    split
    · exact single_quiet rfl
    · right
      refine ⟨_, ?_, h p⟩
      rw [requested_append, timersOnly_cancelTimers.requested]
      rfl
  exact hsent.bind fun r hr ↦ singly_ret (hr.append rfl)

theorem singly_respondIf {p : Prop} [Decidable p] (h : Singly P x) : Singly P (c.respondIf p x) := by
  unfold respondIf
  split
  · exact h
  · exact singly_ret (single_quiet rfl)

theorem Singly.thenReceived (h : Singly P x) : Singly P (x >>= fun r ↦
    .ret ((r.1.received packet).1, r.2 ++ (r.1.received packet).2)) :=
  h.bind fun _ hr ↦ singly_ret (hr.append requested_received)

/-- An acknowledgement that is sent goes out as it is, or nothing does. -/
theorem singly_send_ack {p : AckKind × PacketId w} (hack : ackOf packet = some p) :
    Singly (· = packet) (c.send packet) := by
  have hrole {q : Prop} [Decidable q] {x : Outcome (Handled w)} (hx : Singly (· = packet) x) :
      Singly (· = packet) (if q then x else .ret (c.reject .packetNotAllowedToSend)) := by
    split
    · exact hx
    · exact singly_ret (single_quiet rfl)
  unfold send
  split
  · exact singly_ret (single_quiet rfl)
  cases packet with
  | v311Puback | v311Pubrec | v311Pubcomp => exact singly_ret (single_sendConnected rfl)
  | v311Suback | v311Unsuback => exact hrole (singly_ret (single_sendConnected rfl))
  | v50Puback p | v50Pubrec p | v50Pubcomp p => exact singly_answered rfl
  | v50Suback p | v50Unsuback p =>
    exact hrole (singly_limited (singly_ret (single_sendConnected rfl)))
  | _ => cases hack

def Answering (qos : Qos) (id : PacketId w) (q : GenericPacket w) : Prop :=
  ackOf q = none ∨ ackOf q = some (publishAck qos, id) ∧ pubrecReasonOf q = none

theorem ensures_buildV311 {C : Type} (reasonCode : Option C) :
    (V311.Ack.build id reasonCode).unwrap.Ensures fun a ↦
      a.packetId = id ∧ a.reasonCode = reasonCode := by
  by_cases h : id = 0
  · subst h
    rw [V311.Ack.build_zero reasonCode]
    exact Outcome.ensures_panic
  · obtain ⟨a, ha, hid, hcode⟩ := V311.Ack.build_spec reasonCode h
    rw [ha]
    exact Outcome.ensures_ret.mpr ⟨hid, hcode⟩

theorem ensures_buildV50 {C : Type} (reasonCode : Option C) :
    (V50.Ack.build id reasonCode none).unwrap.Ensures fun a ↦
      a.packetId = id ∧ a.reasonCode = reasonCode := by
  by_cases h : id = 0
  · subst h
    rw [V50.Ack.build_zero reasonCode none]
    exact Outcome.ensures_panic
  · obtain ⟨a, ha, hid, hcode, -⟩ := V50.Ack.build_spec reasonCode h
    rw [ha]
    exact Outcome.ensures_ret.mpr ⟨hid, hcode⟩

def answerOf : Answer → Option AckKind
  | .nothing => none
  | .puback => some .puback
  | .pubrec => some .pubrec

theorem singly_respond {answer : Answer} {o : Option (PacketId w)} (ho : ∀ u, o = some u → u = id)
    (hqos : ∀ kind, answerOf answer = some kind → kind = publishAck qos) :
    Singly (Answering qos id) (c.respond answer o) := by
  unfold respond
  cases answer with
  | nothing => exact singly_ret (single_quiet rfl)
  | puback =>
    cases o with
    | none => exact Outcome.ensures_panic
    | some u =>
      obtain rfl := ho u rfl
      refine (ensures_buildV50 none).bind fun a ha ↦ singly_answered ?_
      refine .inr ⟨?_, rfl⟩
      rw [← hqos .puback rfl, ← ha.1]
      rfl
  | pubrec =>
    cases o with
    | none => exact Outcome.ensures_panic
    | some u =>
      obtain rfl := ho u rfl
      refine (ensures_buildV50 none).bind fun a ha ↦ singly_answered ?_
      refine .inr ⟨?_, ha.2⟩
      rw [← hqos .pubrec rfl, ← ha.1]
      rfl

theorem singly_recvV311Publish {p : V311.Publish w} (hid : p.packetId = some id) (hqos : p.qos = qos) :
    Singly (Answering qos id) (c.recvV311Publish p) := by
  unfold recvV311Publish
  rw [hid, hqos]
  cases qos with
  | atMostOnce => exact singly_ret (single_quiet requested_received)
  | atLeastOnce =>
    refine Singly.thenReceived (singly_respondIf ?_)
    refine (ensures_buildV311 none).bind fun a ha ↦ singly_ret (single_sendConnected (.inr ⟨?_, rfl⟩))
    rw [← ha.1]
    rfl
  | exactlyOnce =>
    refine Outcome.Ensures.bind (P := fun r : Handled w ↦ Single (Answering .exactlyOnce id) r.2)
      (singly_respondIf ?_) fun r hr ↦ singly_ret ?_
    · refine (ensures_buildV311 none).bind fun a ha ↦ singly_ret (single_sendConnected ?_)
      refine .inr ⟨?_, ha.2⟩
      rw [← ha.1]
      rfl
    · refine (hr.append timersOnly_refreshPingreqRecv.requested).append ?_
      split <;> rfl

theorem answerOf_admitPublish {p : V50.Publish w} : (c.admitPublish p).Ensures fun o ↦
    ∀ a ∈ o, ∀ kind, answerOf a.1.answer = some kind → kind = publishAck p.qos := by
  have hsome : p.packetId.isSome ↔ p.qos ≠ .atMostOnce := p.id.2
  have hif {q : Prop} [Decidable q] {answer : Answer} {kind kind' : AckKind}
      (ha : answerOf answer = some kind') (h : answerOf (if q then answer else .nothing) = some kind) :
      kind = kind' := by
    split at h
    · exact Option.some.inj (h.symm.trans ha)
    · cases h
  unfold admitPublish
  cases hq : p.qos with
  | atMostOnce => exact Outcome.ensures_ret.mpr (by simp [answerOf])
  | atLeastOnce =>
    obtain ⟨id, hid⟩ := Option.isSome_iff_exists.mp (hsome.mpr (by simp [hq]))
    simp only [hid]
    split
    · exact Outcome.ensures_ret.mpr (by simp)
    · refine Outcome.ensures_ret.mpr ?_
      simp only [Option.mem_def, Option.some.injEq, forall_eq']
      exact fun kind ↦ hif rfl
  | exactlyOnce =>
    obtain ⟨id, hid⟩ := Option.isSome_iff_exists.mp (hsome.mpr (by simp [hq]))
    simp only [hid]
    split
    · exact Outcome.ensures_ret.mpr (by simp)
    · refine Outcome.ensures_ret.mpr ?_
      simp only [Option.mem_def, Option.some.injEq, forall_eq']
      exact fun kind ↦ hif rfl

theorem singly_recvV50Publish {p : V50.Publish w} (hid : p.packetId = some id) (hqos : p.qos = qos) :
    Singly (Answering qos id) (c.recvV50Publish p) := by
  unfold recvV50Publish
  refine answerOf_admitPublish.bind fun o ho ↦ ?_
  cases o with
  | none => exact singly_handleV50Error _ fun _ ↦ .inl rfl
  | some a =>
    refine Outcome.Ensures.bind (fun _ hx ↦ resolveTopic_spec.of_ret hx) fun o' ho' ↦ ?_
    cases o' with
    | none => exact singly_handleV50Error _ fun _ ↦ .inl rfl
    | some b =>
      obtain ⟨p', c'⟩ := b
      have hp' : p'.packetId = some id := (ho'.2.2 p' c' rfl).same.1.trans hid
      have hu (u : PacketId w) (hu : p'.packetId = some u) : u = id :=
        Option.some.inj (hu.symm.trans hp')
      refine Outcome.Ensures.bind (P := fun r : Handled w ↦ Single (Answering qos id) r.2)
        (singly_respond hu fun kind hk ↦ (ho a rfl kind hk).trans (congrArg publishAck hqos)) fun r hr ↦ singly_ret ?_
      refine (hr.append timersOnly_refreshPingreqRecv.requested).append ?_
      split <;> rfl

theorem singly_deliver_publish (h : packet.publishOf = some (id, qos)) :
    Singly (Answering qos id) (c.deliver packet) := by
  cases packet with
  | v311Publish p =>
    have hid : p.packetId = some id ∧ p.qos = qos := by
      simpa [GenericPacket.publishOf] using h
    exact singly_recvV311Publish hid.1 hid.2
  | v50Publish p =>
    have hid : p.packetId = some id ∧ p.qos = qos := by
      simpa [GenericPacket.publishOf] using h
    exact singly_recvV50Publish hid.1 hid.2
  | _ => cases h

theorem deliver_pubrel (h : packet.pubrelOf = some id) : (c.deliver packet).Ensures fun r ↦
    notified r.2 = [packet] ∧ Single (fun _ ↦ True) r.2 := by
  have hanswer {x : Outcome (Handled w)} (hx : x.Ensures fun r ↦ notified r.2 = [] ∧
      Single (fun _ ↦ True) r.2) {packet : GenericPacket w} : (x >>= fun r ↦
        .ret ((r.1.received packet).1, r.2 ++ (r.1.received packet).2)).Ensures fun r ↦
          notified r.2 = [packet] ∧ Single (fun _ ↦ True) r.2 :=
    hx.bind fun r hr ↦ Outcome.ensures_ret.mpr
      ⟨by simp [hr.1], hr.2.append requested_received⟩
  cases packet with
  | v311Pubrel p =>
    refine hanswer fun r hr ↦ ⟨?_, ?_⟩
    · have hquiet : Emitting (fun _ ↦ True) (fun _ ↦ False) (.ret r) := by
        rw [← hr]
        exact emitting_respondIf fun _ ↦ emitting_after fun a ↦ emitting_ret (emits_sendConnected trivial)
      exact List.eq_nil_iff_forall_not_mem.mpr (hquiet.emits rfl).notices
    · refine singly_respondIf ?_ r hr
      exact (ensures_buildV311 none).bind fun a _ ↦ singly_ret (single_sendConnected trivial)
  | v50Pubrel p =>
    refine hanswer fun r hr ↦ ⟨?_, ?_⟩
    · have hquiet : Emitting (fun _ ↦ True) (fun _ ↦ False) (.ret r) := by
        rw [← hr]
        exact emitting_respondIf fun _ ↦ emitting_after fun a ↦ emitting_answered trivial
      exact List.eq_nil_iff_forall_not_mem.mpr (hquiet.emits rfl).notices
    · refine singly_respondIf ?_ r hr
      exact (ensures_buildV50 _).bind fun a _ ↦ singly_answered trivial
  | _ => cases h

end MqttProtocolCore.Connection.GenericConnection
