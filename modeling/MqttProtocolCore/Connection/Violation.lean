import MqttProtocolCore.Connection.PanicFreedom

namespace MqttProtocolCore.Connection.GenericConnection

open General Packet

variable {w : IdWidth} {c c' : GenericConnection w} {packet : GenericPacket w} {raw : RawPacket}
  {r : Handled w} {op : Operation w} {id : PacketId w}

/-- The handler goes along with a packet: nothing in it violates the protocol. -/
def Accepts (c : GenericConnection w) : GenericPacket w → Prop
  | .v311Connect _ | .v50Connect _ => c.status = .disconnected
  | .v50Publish p => c.admits p ∧ c.Resolves p
  | packet => ∀ kind id, ackOf packet = some (kind, id) → id ∈ c.awaiting kind

def Admitted (c c' : GenericConnection w) : Prop :=
  c' = { c with
    publishRecv := c'.publishRecv
    qos2PublishHandled := c'.qos2PublishHandled }

/-- The error handling that a violation of the protocol leads to. -/
inductive Violation (c : GenericConnection w) (packet : GenericPacket w) (r : Handled w) : Prop where
  | closed (e : MqttError) : packet.protocolVersion = .v311 → c.handleV311Error e = .ret r →
      Violation c packet r
  | disconnected (c' : GenericConnection w) (e : MqttError) : packet.protocolVersion = .v50 →
      Admitted c c' → c'.handleV50Error e = .ret r → Violation c packet r

/-- The receive maximum alone decides on the admission, which only notes the identifier. -/
theorem admitPublish_spec (p : V50.Publish w) : ∃ o, c.admitPublish p = .ret o ∧
    (o = none ↔ ¬ c.admits p) ∧ ∀ a ∈ o, Admitted c a.2 := by
  have hsome : p.packetId.isSome ↔ p.qos ≠ .atMostOnce := p.id.2
  unfold admitPublish
  cases hq : p.qos with
  | atMostOnce => exact ⟨_, rfl, by simp [admits, hq], by simp [Admitted]⟩
  | _ =>
    obtain ⟨id, hid⟩ := Option.isSome_iff_exists.mp (hsome.mpr (by simp [hq]))
    simp only [hid]
    by_cases hm : c.recvMaximumReached
    · exact ⟨none, if_pos hm, by simp [admits, hq, hm], by simp⟩
    · exact ⟨_, if_neg hm, by simp [admits, hq, hm], by simp [Admitted]⟩

theorem recvV50Publish_violation {p : V50.Publish w} (h : ¬ (c.admits p ∧ c.Resolves p)) :
    (c.recvV50Publish p).Ensures (c.Violation (.v50Publish p)) := by
  obtain ⟨o, ho, hnone, hframe⟩ := c.admitPublish_spec p
  unfold recvV50Publish
  rw [ho, Outcome.ret_bind]
  cases o with
  | none => exact fun r hr ↦ .disconnected c _ rfl rfl hr
  | some a =>
    obtain ⟨admission, c₁⟩ := a
    have hc₁ : Admitted c c₁ := hframe _ rfl
    have hadmits : c.admits p := by simpa using hnone
    have hres : ¬ c₁.Resolves p := by
      intro hr
      rw [hc₁] at hr
      exact h ⟨hadmits, hr⟩
    intro r hr
    obtain ⟨o', ho', hr'⟩ := Outcome.bind_eq_ret.mp hr
    obtain rfl := (resolveTopic_spec.of_ret ho').2.1.mpr hres
    exact .disconnected c₁ _ rfl hc₁ hr'

theorem recvFinalAck_violation {response : ResponsePacket} {kind : AckKind} {counted : Bool}
    {onError : GenericConnection w → MqttError → Outcome (Handled w)}
    (hid : id ∉ c.awaiting kind) :
    c.recvFinalAck response kind counted onError id packet = onError c .protocolError := if_neg hid

theorem recvSubscriptionAck_violation {kind : AckKind}
    {onError : GenericConnection w → MqttError → Outcome (Handled w)}
    (hid : id ∉ c.awaiting kind) :
    c.recvSubscriptionAck kind onError id packet = onError c .protocolError := if_neg hid

/-- A packet that is not accepted is answered by the error handling of its version. -/
theorem deliver_violation (h : ¬ c.Accepts packet) :
    (c.deliver packet).Ensures (c.Violation packet) := by
  have hv311 {x : Outcome (Handled w)} {e : MqttError} (hv : packet.protocolVersion = .v311)
      (hx : x = c.handleV311Error e) : x.Ensures (c.Violation packet) :=
    fun r hr ↦ .closed e hv (hx ▸ hr)
  have hv50 {x : Outcome (Handled w)} {e : MqttError} (hv : packet.protocolVersion = .v50)
      (hx : x = c.handleV50Error e) : x.Ensures (c.Violation packet) :=
    fun r hr ↦ .disconnected c e hv rfl (hx ▸ hr)
  cases packet with
  | v311Connect p => exact hv311 rfl (if_pos h)
  | v50Connect p => exact hv50 rfl (if_pos h)
  | v50Publish p => exact recvV50Publish_violation h
  | v311Puback p =>
    exact hv311 rfl (recvFinalAck_violation fun hm ↦ h (by rintro _ _ ⟨⟩; exact hm))
  | v50Puback p => exact hv50 rfl (recvFinalAck_violation fun hm ↦ h (by rintro _ _ ⟨⟩; exact hm))
  | v311Pubrec p => exact hv311 rfl (if_neg fun hm ↦ h (by rintro _ _ ⟨⟩; exact hm))
  | v50Pubrec p => exact hv50 rfl (if_neg fun hm ↦ h (by rintro _ _ ⟨⟩; exact hm))
  | v311Pubcomp p =>
    exact hv311 rfl (recvFinalAck_violation fun hm ↦ h (by rintro _ _ ⟨⟩; exact hm))
  | v50Pubcomp p => exact hv50 rfl (recvFinalAck_violation fun hm ↦ h (by rintro _ _ ⟨⟩; exact hm))
  | v311Suback p =>
    exact hv311 rfl (recvSubscriptionAck_violation fun hm ↦ h (by rintro _ _ ⟨⟩; exact hm))
  | v50Suback p =>
    exact hv50 rfl (recvSubscriptionAck_violation fun hm ↦ h (by rintro _ _ ⟨⟩; exact hm))
  | v311Unsuback p =>
    exact hv311 rfl (recvSubscriptionAck_violation fun hm ↦ h (by rintro _ _ ⟨⟩; exact hm))
  | v50Unsuback p =>
    exact hv50 rfl (recvSubscriptionAck_violation fun hm ↦ h (by rintro _ _ ⟨⟩; exact hm))
  | _ => exact (h fun _ _ hack ↦ by cases hack).elim

theorem accepts_prepared {b : PacketBuilder} {v : Version} :
    ({ c with packetBuilder := b }.determine v).Accepts packet ↔ c.Accepts packet := by
  cases packet <;> exact Iff.rfl

end MqttProtocolCore.Connection.GenericConnection
