import MqttProtocolCore.Connection.RefusedPublish
import MqttProtocolCore.Connection.Emission

namespace MqttProtocolCore.Connection.GenericConnection

open General Packet

variable {w : IdWidth} {c c' : GenericConnection w} {packet : GenericPacket w} {id : PacketId w}
  {qos : Qos} {r : Handled w} {p : V50.Publish w} {validated : Bool}

/-- The version, the role and the size let a packet be sent. -/
structure MaySend (c : GenericConnection w) (packet : GenericPacket w) : Prop where
  version : c.protocolVersion = packet.protocolVersion
  client : clientOnly packet → actsAsClient c.role
  server : serverOnly packet → actsAsServer c.role
  size : packet.protocolVersion = .v50 → c.validateMaximumPacketSizeSend packet.size

def turnsAway (c : GenericConnection w) : GenericPacket w → Prop
  | .v311Publish _ => c.cannotPublish
  | .v50Publish p => c.cannotPublish ∨ c.storesPublish ∧ p.topicName.isEmpty ∧
      (c.validateTopicAlias (V50.topicAliasOf p.props)).1 = none
  | _ => False

/-- What becomes of a PUBLISH that the application sends, and of its identifier. -/
inductive PublishFate (c : GenericConnection w) (packet : GenericPacket w) (id : PacketId w)
    (qos : Qos) (r : Handled w) : Prop where
  | unknown : ¬ c.pidMan.isUsedId id → r.1.session = c.session → released r.2 = [] →
      PublishFate c packet id qos r
  | turned : c.turnsAway packet → c.pidMan.isUsedId id → r.1.session = c.session.free id →
      released r.2 = [id] → PublishFate c packet id qos r
  | withdrawn {s : Session w} : ¬ c.turnsAway packet → c.pidMan.isUsedId id → c.withdraws packet →
      s = c.session ∨ (∃ stored, s = c.session.keep id stored) →
      r.1.session = (s.await (publishAck qos) id).free id → released r.2 = [id] →
      PublishFate c packet id qos r
  | taken {s : Session w} : ¬ c.turnsAway packet → c.pidMan.isUsedId id → ¬ c.withdraws packet →
      s = c.session ∨ (∃ stored, s = c.session.keep id stored) →
      r.1.session = (s.await (publishAck qos) id).counted packet.protocolVersion →
      released r.2 = [] → PublishFate c packet id qos r

theorem limited_large {size : ℕ} {x : Outcome (Handled w)}
    (h : ¬ c.validateMaximumPacketSizeSend size) :
    c.limited size x = .ret (c.reject .packetTooLarge) := if_neg h

theorem send_barred (h : ¬ c.MaySend packet) : ∃ e, c.send packet = .ret (c.reject e) := by
  unfold send
  by_cases hv : c.protocolVersion = packet.protocolVersion
  swap
  · exact ⟨_, if_pos hv⟩
  rw [if_neg (not_not.mpr hv)]
  by_cases hc : clientOnly packet → actsAsClient c.role
  swap
  · push Not at hc
    cases packet <;> simp [clientOnly] at hc <;> simp [processSend, hc]
  by_cases hs : serverOnly packet → actsAsServer c.role
  swap
  · push Not at hs
    cases packet <;> simp [serverOnly] at hs <;> simp [processSend, hs]
  obtain ⟨hv50, hno⟩ : packet.protocolVersion = .v50 ∧
      ¬ c.validateMaximumPacketSizeSend packet.size := by
    by_contra hsize
    refine h ⟨hv, hc, hs, fun hv ↦ ?_⟩
    by_contra hno
    exact hsize ⟨hv, hno⟩
  cases packet with
  | v50Connect p | v50Subscribe p | v50Unsubscribe p | v50Pingreq p =>
    exact ⟨_, (if_pos (hc rfl)).trans (limited_large hno)⟩
  | v50Connack p | v50Suback p | v50Unsuback p | v50Pingresp p =>
    exact ⟨_, (if_pos (hs rfl)).trans (limited_large hno)⟩
  | v50Publish p | v50Puback p | v50Pubrec p | v50Pubrel p | v50Pubcomp p | v50Disconnect p
  | v50Auth p => exact ⟨_, limited_large hno⟩
  | _ => cases hv50

theorem step_barred (h : ¬ c.MaySend packet) :
    ∃ e, c.step (.send packet) = .ret (c, .events [.notifyError e]) := by
  obtain ⟨e, he⟩ := send_barred h
  refine ⟨e, ?_⟩
  have hstep : c.step (.send packet) =
      (c.send packet >>= fun r ↦ Outcome.ret (r.1, Reply.events r.2)) := rfl
  rw [hstep, he]
  rfl

theorem released_refuse {e : MqttError} (hu : c.pidMan.isUsedId id) :
    (c.refuse e (some id)).Ensures fun r ↦
      r.1.session = c.session.free id ∧ released r.2 = [id] := by
  intro r hr
  obtain ⟨-, hs, hrep⟩ := (refuse_spec e).of_ret hr
  refine ⟨hs, ?_⟩
  have hrel : released r.2 = if c.pidMan.isUsedId id then [id] else [] :=
    congrArg Report.released hrep
  rw [hrel, if_pos hu]

theorem free_unused {s : Session w} (hu : id ∉ s.used) : s.free id = s := by
  have hsame : s.used \ {id} = s.used := Set.sdiff_singleton_eq_self hu
  unfold Session.free
  rw [hsame]

theorem refused_unused {e : MqttError} (hu : ¬ c.pidMan.isUsedId id) :
    (c.refuse e (some id)).Ensures fun r ↦ r.1.session = c.session ∧ released r.2 = [] := by
  intro r hr
  obtain ⟨-, hs, hrep⟩ := (refuse_spec e).of_ret hr
  refine ⟨hs.trans (free_unused hu), ?_⟩
  have hrel : released r.2 = if c.pidMan.isUsedId id then [id] else [] :=
    congrArg Report.released hrep
  rw [hrel, if_neg hu]

theorem transmit_quiet {rel : Option (PacketId w)} :
    (c.transmit packet rel).1.session = c.session ∧ released (c.transmit packet rel).2 = [] := by
  unfold transmit
  split
  · refine ⟨?_, by simp⟩
    rw [idle_request.session, status_request]
    rfl
  · exact ⟨rfl, rfl⟩

/-- The second half of the handler gives the identifier back, or the PUBLISH is counted. -/
theorem sendV50Publish_fate {rel : Option (PacketId w)} (hid : p.packetId = some id)
    (hu : c.pidMan.isUsedId id) : (c.sendV50Publish p validated rel).Ensures fun r ↦
      (c.invalidAlias p validated ∨ c.quotaReached) ∧ r.1.session = c.session.free id ∧
          released r.2 = [id] ∨
        ¬ c.invalidAlias p validated ∧ ¬ c.quotaReached ∧
          r.1.session = c.session.counted .v50 ∧ released r.2 = [] := by
  intro r hr
  obtain ⟨⟨x, c₁⟩, hx, hr⟩ := Outcome.bind_eq_ret.mp hr
  obtain ⟨-, hre', hnone, -⟩ := (applyTopicAlias_spec validated).of_ret hx
  have hre : c₁ = { c with topicAliasSend := c₁.topicAliasSend } := hre'
  have hsess : c₁.session = c.session := by
    rw [hre]
    rfl
  have hu₁ : c₁.pidMan.isUsedId id := by
    rw [hre]
    exact hu
  cases x with
  | none =>
    rw [hid] at hr
    obtain ⟨hs, hrel⟩ := released_refuse hu₁ r hr
    exact .inl ⟨.inl (hnone.mp rfl), hsess ▸ hs, hrel⟩
  | some q =>
    have hvalid : ¬ c.invalidAlias p validated := fun h ↦ by simpa using hnone.mpr h
    obtain ⟨y, hy, hr⟩ := Outcome.bind_eq_ret.mp hr
    rw [hid] at hy hr
    obtain ⟨-, hreached, hcounted⟩ := (countPublish_spec c₁ id).of_ret hy
    have hquota : c₁.quotaReached = c.quotaReached := by
      rw [hre]
      rfl
    rw [hquota] at hreached
    cases y with
    | none =>
      obtain ⟨hs, hrel⟩ := released_refuse hu₁ r hr
      exact .inl ⟨.inr (hreached.mp rfl), hsess ▸ hs, hrel⟩
    | some c₂ =>
      obtain rfl := Outcome.ret.inj hr
      refine .inr ⟨hvalid, fun h ↦ by simpa using hreached.mpr h, ?_, transmit_quiet.2⟩
      exact transmit_quiet.1.trans ((hcounted c₂ rfl).trans (by rw [hsess]))

theorem fate_v311Publish {p : V311.Publish w} (hid : p.packetId = some id)
    (hv : c.protocolVersion = .v311) :
    (c.send (.v311Publish p)).Ensures (PublishFate c (.v311Publish p) id p.qos) := by
  have hsend : c.send (.v311Publish p) = c.processSendV311Publish p := if_neg (not_not.mpr hv)
  rw [hsend]
  unfold processSendV311Publish
  simp only [hid]
  by_cases hcan : c.cannotPublish
  · rw [if_pos hcan]
    by_cases hu : c.pidMan.isUsedId id
    · refine (released_refuse hu).mono fun r hr ↦ ?_
      exact .turned hcan hu hr.1 hr.2
    · exact (refused_unused hu).mono fun r hr ↦ .unknown hu hr.1 hr.2
  rw [if_neg hcan]
  by_cases hu : c.pidMan.isUsedId id
  swap
  · rw [if_pos hu]
    exact Outcome.ensures_ret.mpr (.unknown hu rfl rfl)
  rw [if_neg (not_not.mpr hu)]
  have htaken {c' : GenericConnection w} {s : Session w} {rel : Option (PacketId w)}
      (hs : s = c.session ∨ ∃ stored, s = c.session.keep id stored) (hc : c'.session = s) :
      PublishFate c (.v311Publish p) id p.qos
        ((c'.await (publishAck p.qos) id).transmit (.v311Publish p) rel) := by
    refine .taken hcan hu (by simp [withdraws]) hs ?_ transmit_quiet.2
    rw [transmit_quiet.1, session_await, hc]
    rfl
  split
  · have hsid : (GenericStorePacket.v311Publish (p.setDup true)).packetId = some id := hid
    refine Outcome.Ensures.bind (fun c' hc' ↦ (storeAdd_spec hsid).of_ret hc') ?_
    intro c' hc'
    exact Outcome.ensures_ret.mpr (htaken (.inr ⟨_, rfl⟩) hc'.2.2)
  · exact Outcome.ensures_ret.mpr (htaken (.inl rfl) rfl)

theorem fate_v50Publish (hid : p.packetId = some id) (hp : c.MaySend (.v50Publish p)) :
    (c.send (.v50Publish p)).Ensures (PublishFate c (.v50Publish p) id p.qos) := by
  have hsend : c.send (.v50Publish p) = c.processSendV50Publish p :=
    if_neg (not_not.mpr hp.version)
  have hsize : c.validateMaximumPacketSizeSend p.size := hp.size rfl
  rw [hsend]
  unfold processSendV50Publish limited
  rw [if_pos hsize]
  simp only [hid]
  by_cases hu : c.pidMan.isUsedId id
  swap
  · by_cases hcan : c.cannotPublish
    · rw [if_pos hcan]
      exact (refused_unused hu).mono fun r hr ↦ .unknown hu hr.1 hr.2
    · rw [if_neg hcan, if_pos hu]
      exact Outcome.ensures_ret.mpr (.unknown hu rfl rfl)
  by_cases hcan : c.cannotPublish
  · rw [if_pos hcan]
    exact (released_refuse hu).mono fun r hr ↦ .turned (.inl hcan) hu hr.1 hr.2
  rw [if_neg hcan, if_neg (not_not.mpr hu)]
  have hfate {c' : GenericConnection w} {s : Session w} {validated : Bool}
      {rel : Option (PacketId w)} (haway : ¬ c.turnsAway (.v50Publish p))
      (hs : s = c.session ∨ ∃ stored, s = c.session.keep id stored)
      (hsess : c'.session = s.await (publishAck p.qos) id)
      (hinv : c'.invalidAlias p validated = c.refusesAlias p)
      (hquota : c'.quotaReached = c.quotaReached) :
      (c'.sendV50Publish p validated rel).Ensures (PublishFate c (.v50Publish p) id p.qos) := by
    have hu' : c'.pidMan.isUsedId id := by
      have hmem : id ∈ c'.session.used := by
        rw [hsess]
        rcases hs with rfl | ⟨_, rfl⟩ <;> exact hu
      exact hmem
    refine (sendV50Publish_fate hid hu').mono fun r hr ↦ ?_
    rw [hinv, hquota, hsess] at hr
    rcases hr with ⟨hw, hsame, hrel⟩ | ⟨hvalid, hroom, hsame, hrel⟩
    · exact .withdrawn haway hu (by simpa [withdraws] using hw) hs hsame hrel
    · exact .taken haway hu (by simp [withdraws, hvalid, hroom]) hs hsame hrel
  by_cases hstores : c.storesPublish
  · rw [if_pos hstores]
    refine Outcome.Ensures.bind (fun x hx ↦ (storablePublish_spec c p).of_ret hx) ?_
    intro x hx
    obtain ⟨o, c₁⟩ := x
    obtain ⟨hre', hsame, ho⟩ := hx
    have hre : c₁ = { c with topicAliasSend := c₁.topicAliasSend } := hre'
    have h₁ : c₁.session = c.session := by
      rw [hre]
      rfl
    cases o with
    | none =>
      have hu₁ : c₁.pidMan.isUsedId id := by
        rw [hre]
        exact hu
      refine (released_refuse hu₁).mono fun r hr ↦ ?_
      exact .turned (.inr ⟨hstores, ho⟩) hu (h₁ ▸ hr.1) hr.2
    | some stored =>
      obtain ⟨hsid, hknown, -⟩ := ho
      have haway : ¬ c.turnsAway (.v50Publish p) := by
        intro h
        rcases h with h | ⟨-, ht, hnone⟩
        · exact hcan h
        · exact hknown ht hnone
      have hsid' : (GenericStorePacket.v50Publish stored).packetId = some id := hsid.1.trans hid
      refine Outcome.Ensures.bind (fun c' hc' ↦ (storeAdd_spec hsid').of_ret hc') ?_
      intro c₂ hc₂
      obtain ⟨-, hframe, hkeep⟩ := hc₂
      have halias : (c₂.await (publishAck p.qos) id).topicAliasSend = c₁.topicAliasSend := by
        rw [topicAliasSend_await, hframe]
      refine hfate haway (.inr ⟨_, rfl⟩) (session_await.trans (by rw [hkeep, h₁])) ?_ ?_
      · unfold invalidAlias refusesAlias
        by_cases ht : p.topicName.isEmpty
        · simp [ht, hstores]
        · have hsame : c₁ = c := hsame ht
          have halias' : (c₂.await (publishAck p.qos) id).topicAliasSend = c.topicAliasSend := by
            rw [halias, hsame]
          simp only [ht, Bool.false_eq_true, if_false, validateTopicAliasRange_congr halias']
      · have hsend := @sameSending_await w c₂ id (publishAck p.qos)
        rw [hsend.quotaReached, hframe, hre]
        rfl
  · rw [if_neg hstores]
    have haway : ¬ c.turnsAway (.v50Publish p) := by
      intro h
      rcases h with h | h
      · exact hcan h
      · exact hstores h.1
    have ha : (c.await (publishAck p.qos) id).topicAliasSend = c.topicAliasSend :=
      topicAliasSend_await
    refine hfate haway (.inl rfl) session_await ?_ sameSending_await.quotaReached
    unfold invalidAlias refusesAlias
    simp only [validateTopicAliasRange_congr ha, validateTopicAlias_congr ha, hstores]

theorem send_publishFate (hp : packet.publishOf = some (id, qos)) (hmay : c.MaySend packet) :
    (c.send packet).Ensures (PublishFate c packet id qos) := by
  cases packet with
  | v311Publish p =>
    obtain ⟨u, hid, heq⟩ := Option.map_eq_some_iff.mp hp
    obtain ⟨rfl, rfl⟩ := Prod.mk.inj heq
    exact fate_v311Publish hid hmay.version
  | v50Publish p =>
    obtain ⟨u, hid, heq⟩ := Option.map_eq_some_iff.mp hp
    obtain ⟨rfl, rfl⟩ := Prod.mk.inj heq
    exact fate_v50Publish hid hmay
  | _ => cases hp

structure SubscriptionFate (c : GenericConnection w) (kind : AckKind) (id : PacketId w)
    (r : Handled w) : Prop where
  awaited : c.status = .connected → released r.2 = [] ∧
    (r.1.session = c.session ∨ c.pidMan.isUsedId id ∧ r.1.session = c.session.await kind id)
  refused : c.status ≠ .connected → r.1.session = c.session.free id ∧
    released r.2 = if c.pidMan.isUsedId id then [id] else []

theorem fate_sendSubscription {kind : AckKind} :
    (c.sendSubscription kind id packet).Ensures (SubscriptionFate c kind id) := by
  unfold sendSubscription
  by_cases hst : c.status = .connected
  swap
  · rw [if_pos hst]
    intro r hr
    obtain ⟨-, hs, hrep⟩ := (refuse_spec _).of_ret hr
    exact ⟨fun h ↦ (hst h).elim, fun _ ↦ ⟨hs, congrArg Report.released hrep⟩⟩
  rw [if_neg (not_not.mpr hst)]
  by_cases hu : c.pidMan.isUsedId id
  swap
  · rw [if_pos hu]
    exact Outcome.ensures_ret.mpr ⟨fun _ ↦ ⟨rfl, .inl rfl⟩, fun h ↦ (h hst).elim⟩
  rw [if_neg (not_not.mpr hu)]
  refine Outcome.ensures_ret.mpr ⟨fun _ ↦ ⟨by simp, .inr ⟨hu, ?_⟩⟩, fun h ↦ (h hst).elim⟩
  rw [idle_request.session, status_request]
  exact session_await

theorem send_subscriptionFate {kind : AckKind} (hp : subscriptionOf packet = some (kind, id))
    (hmay : c.MaySend packet) : (c.send packet).Ensures (SubscriptionFate c kind id) := by
  have hsend : c.send packet = c.processSend packet := if_neg (not_not.mpr hmay.version)
  rw [hsend]
  have hsized {size : ℕ} (h : c.validateMaximumPacketSizeSend size) :
      (c.limited size (c.sendSubscription kind id packet)).Ensures (SubscriptionFate c kind id) := by
    unfold limited
    rw [if_pos h]
    exact fate_sendSubscription
  cases packet with
  | v311Subscribe p | v311Unsubscribe p =>
    cases hp
    have hclient : actsAsClient c.role := hmay.client rfl
    simp only [processSend, hclient, if_true]
    exact fate_sendSubscription
  | v50Subscribe p | v50Unsubscribe p =>
    cases hp
    have hclient : actsAsClient c.role := hmay.client rfl
    simp only [processSend, hclient, if_true]
    exact hsized (hmay.size rfl)
  | _ => cases hp

end MqttProtocolCore.Connection.GenericConnection
