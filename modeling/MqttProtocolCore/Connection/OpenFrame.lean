import MqttProtocolCore.Connection.SendFrame

namespace MqttProtocolCore.Connection.GenericConnection

open General Packet

variable {w : IdWidth} {c c' c'' : GenericConnection w} {packet : GenericPacket w}
  {R : GenericConnection w → GenericConnection w → Prop}

def Configures (c c' : GenericConnection w) : Prop :=
  c' = { c with
    pidSuback := c'.pidSuback
    pidUnsuback := c'.pidUnsuback
    needStore := c'.needStore
    topicAliasRecv := c'.topicAliasRecv
    topicAliasSend := c'.topicAliasSend
    publishSendMax := c'.publishSendMax
    publishRecvMax := c'.publishRecvMax
    publishSendCount := c'.publishSendCount
    publishRecv := c'.publishRecv
    maximumPacketSizeSend := c'.maximumPacketSizeSend
    maximumPacketSizeRecv := c'.maximumPacketSizeRecv
    status := c'.status
    pingreqKeepAliveMs := c'.pingreqKeepAliveMs
    pingreqServerKeepAliveMs := c'.pingreqServerKeepAliveMs
    pingreqRecvTimeoutMs := c'.pingreqRecvTimeoutMs
    pingreqSendSet := c'.pingreqSendSet
    pingreqRecvSet := c'.pingreqRecvSet
    pingrespRecvSet := c'.pingrespRecvSet
    isClient := c'.isClient }

theorem Configures.trans (h : Configures c c') (h' : Configures c' c'') : Configures c c'' := by
  unfold Configures at *
  rw [h'] at *
  rw [h]

theorem Announced.configures (h : Announced c c') : Configures c c' := by
  unfold Announced Configures at *
  rw [h]

theorem configures_announceConnect (props : Properties) :
    Configures c (props.foldl announceConnect c) := by
  induction props generalizing c with
  | nil => rfl
  | cons prop props ih =>
    refine Configures.trans ?_ ih
    cases prop <;> unfold announceConnect <;> first | rfl | (dsimp only; split <;> rfl)

def Learns (c c' : GenericConnection w) : Prop :=
  c' = { c with
    needStore := c'.needStore
    topicAliasSend := c'.topicAliasSend
    publishSendMax := c'.publishSendMax
    maximumPacketSizeSend := c'.maximumPacketSizeSend
    pingreqServerKeepAliveMs := c'.pingreqServerKeepAliveMs
    pingreqSendSet := c'.pingreqSendSet }

theorem Learns.trans (h : Learns c c') (h' : Learns c' c'') : Learns c c'' := by
  unfold Learns at *
  rw [h'] at *
  rw [h]

theorem Learns.configures (h : Learns c c') : Configures c c' := by
  unfold Learns Configures at *
  rw [h]

theorem Learns.topicAliasRecv (h : Learns c c') : c'.topicAliasRecv = c.topicAliasRecv := by rw [h]

theorem learns_noteConnect (props : Properties) :
    (props.foldlM noteConnect c).Ensures (Learns c) := by
  induction props generalizing c with
  | nil => exact Outcome.ensures_ret.mpr rfl
  | cons prop props ih =>
    rw [List.foldlM_cons]
    refine Outcome.Ensures.bind (P := Learns c) ?_ fun c₁ h₁ ↦ ih.mono fun c₂ h₂ ↦ h₁.trans h₂
    cases prop with
    | topicAliasMaximum v =>
      exact Outcome.Ensures.bind (P := fun _ ↦ True) (fun _ _ ↦ trivial)
        fun s _ ↦ Outcome.ensures_ret.mpr rfl
    | sessionExpiryInterval v =>
      refine Outcome.ensures_ret.mpr ?_
      split <;> rfl
    | _ => exact Outcome.ensures_ret.mpr rfl

theorem learns_noteConnack (prop : Property) :
    (c.noteConnack prop).Ensures fun r ↦ Learns c r.1 := by
  unfold noteConnack
  split
  · split
    · exact Outcome.Ensures.bind (P := fun _ ↦ True) (fun _ _ ↦ trivial)
        fun s _ ↦ Outcome.ensures_ret.mpr rfl
    · exact Outcome.ensures_ret.mpr rfl
  · exact Outcome.ensures_ret.mpr rfl
  · exact Outcome.ensures_ret.mpr rfl
  · dsimp only
    split
    · exact Outcome.ensures_ret.mpr rfl
    · split <;> exact Outcome.ensures_ret.mpr rfl
  · exact Outcome.ensures_ret.mpr rfl

theorem learns_noteAll (props : Properties) :
    (c.noteAll props).Ensures fun r ↦ Learns c r.1 := by
  induction props generalizing c with
  | nil => exact Outcome.ensures_ret.mpr rfl
  | cons prop props ih =>
    unfold noteAll
    exact (learns_noteConnack prop).bind fun r₁ h₁ ↦ ih.bind fun r₂ h₂ ↦
      Outcome.ensures_ret.mpr (h₁.trans h₂)

/-- A relation that the loss of a session and its resumption respect as well. -/
structure SessionFrames (R : GenericConnection w → GenericConnection w → Prop) : Prop
    extends CoreFrames R where
  cleared (c : GenericConnection w) : R c c.clearStoreRelated
  resent (c : GenericConnection w) : c.sendStored.Ensures fun r ↦ R c r.1

namespace SessionFrames

variable (hR : SessionFrames R)
include hR

theorem started {p : Prop} [Decidable p] (h : R c c') :
    R c (if p then c'.clearStoreRelated else c') := by
  split
  · exact hR.trans h (hR.cleared c')
  · exact h

theorem finishConnack {accepted : Bool} :
    (c.finishConnack accepted packet).Ensures fun r ↦ R c r.1 := by
  unfold GenericConnection.finishConnack
  split
  · exact Outcome.ensures_ret.mpr (hR.idle rfl)
  · have hstatus : R c { c with status := .connected } := hR.idle rfl
    refine Outcome.Ensures.bind (hR.resent _) fun r hr ↦ Outcome.ensures_ret.mpr ?_
    exact hR.trans (hR.trans hstatus hr) (hR.idle idle_sendPostProcess)

theorem resumeSession {present : Bool} :
    (c.resumeSession present).Ensures fun r ↦ R c r.1 := by
  unfold GenericConnection.resumeSession
  split
  · exact hR.resent c
  · exact Outcome.ensures_ret.mpr (hR.cleared c)

end SessionFrames

/-- A relation that the handlers of CONNECT and CONNACK respect as well. -/
structure Opens (R : GenericConnection w → GenericConnection w → Prop) : Prop
    extends SessionFrames R where
  configured {c c' : GenericConnection w} : Configures c c' → R c c'

namespace Opens

variable (hR : Opens R)
include hR

theorem startedV311 {p : Prop} [Decidable p] (h : R c c') :
    R c (if p then c'.clearStoreRelated else { c' with needStore := true }) := by
  split
  · exact hR.trans h (hR.cleared c')
  · exact hR.trans h (hR.configured rfl)

theorem openedBy {keepAlive : U16} : R c (if keepAlive > 0 then { c.initializeState false with
    pingreqRecvTimeoutMs := keepAlive * 1000 * 3 / 2 } else c.initializeState false) := by
  have hopened : R c (c.initializeState false) := hR.configured rfl
  split
  · exact hR.trans hopened (hR.configured rfl)
  · exact hopened

theorem processSend (h : partOf packet = .connect ∨ partOf packet = .connack) :
    (c.processSend packet).Ensures fun r ↦ R c r.1 := by
  have hrole {p : Prop} [Decidable p] {x : Outcome (Handled w)} (hx : x.Ensures fun r ↦ R c r.1) :
      (if p then x else .ret (c.reject .packetNotAllowedToSend)).Ensures fun r ↦ R c r.1 := by
    split
    · exact hx
    · exact Outcome.ensures_ret.mpr (hR.refl c)
  have hstatus {p : Prop} [Decidable p] {x : Outcome (Handled w)}
      (hx : x.Ensures fun r ↦ R c r.1) :
      (if p then .ret (c.reject .packetNotAllowedToSend) else x).Ensures fun r ↦ R c r.1 := by
    split
    · exact Outcome.ensures_ret.mpr (hR.refl c)
    · exact hx
  cases packet with
  | v311Connect p =>
    refine hrole (Outcome.ensures_ret.mpr ?_)
    unfold processSendV311Connect
    split
    · exact hR.refl c
    · have hopened : R c { c.initializeState true with
          status := .connecting
          pingreqKeepAliveMs := p.keepAlive * 1000 } := hR.configured rfl
      have hforget {c' : GenericConnection w} (h : R c c') :
          R c { c' with topicAliasSend := none } := hR.trans h (hR.configured rfl)
      exact hR.trans (hforget (hR.startedV311 hopened)) hR.request
  | v50Connect p =>
    refine hrole (hR.limited (hstatus (Outcome.ensures_ret.mpr ?_)))
    have hopened : R c { c.initializeState true with
        status := .connecting
        pingreqKeepAliveMs := p.keepAlive * 1000 } := hR.configured rfl
    have hstarted := hR.toSessionFrames.started (p := p.cleanStart) hopened
    exact hR.trans (hR.trans hstarted (hR.configured (configures_announceConnect p.props))) hR.request
  | v311Connack p => exact hrole (hstatus hR.toSessionFrames.finishConnack)
  | v50Connack p =>
    refine hrole (hR.limited (hstatus ?_))
    dsimp only
    refine Outcome.Ensures.bind hR.toSessionFrames.finishConnack fun r hr ↦ Outcome.ensures_ret.mpr (hR.trans ?_ hr)
    split
    · exact hR.configured (announceAll_announceConnack p.props).1.configures
    · exact hR.refl c
  | _ => simp [partOf] at h

theorem deliver (h : partOf packet = .connect ∨ partOf packet = .connack) :
    (c.deliver packet).Ensures fun r ↦ R c r.1 := by
  have hstatus (s : ConnectionStatus) : R c { c with status := s } := hR.idle rfl
  cases packet with
  | v311Connect p =>
    change (if _ then _ else _ : Outcome (Handled w)).Ensures _
    split
    · exact hR.refusal (c.handleV311Error_spec _)
    · refine Outcome.ensures_ret.mpr (hR.trans (hstatus .connecting) ?_)
      exact hR.trans (hR.startedV311 hR.openedBy) hR.received
  | v50Connect p =>
    change (if _ then _ else _ : Outcome (Handled w)).Ensures _
    split
    · exact hR.refusal (c.handleV50Error_spec _)
    · refine hR.ensures (hstatus .connecting) ?_
      unfold recvV50Connect
      refine (learns_noteConnect p.props).bind fun c' hc' ↦ Outcome.ensures_ret.mpr ?_
      exact hR.trans (hR.trans (hR.toSessionFrames.started hR.openedBy) (hR.configured hc'.configures)) hR.received
  | v311Connack p =>
    change (c.recvV311Connack p).Ensures _
    unfold recvV311Connack
    split
    · refine hR.ensures (hstatus .connected) ?_
      exact hR.toSessionFrames.resumeSession.bind fun r hr ↦ Outcome.ensures_ret.mpr hr
    · exact Outcome.ensures_ret.mpr (hR.refl c)
  | v50Connack p =>
    change (c.recvV50Connack p).Ensures _
    unfold recvV50Connack
    split
    · refine hR.ensures (hstatus .connected) ?_
      refine (learns_noteAll p.props).bind fun r hr ↦ ?_
      exact hR.ensures (hR.configured hr.configures) (hR.toSessionFrames.resumeSession.bind fun r' hr' ↦
        Outcome.ensures_ret.mpr hr')
    · exact Outcome.ensures_ret.mpr (hR.refl c)
  | _ => simp [partOf] at h

end Opens

end MqttProtocolCore.Connection.GenericConnection
