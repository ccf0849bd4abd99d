import MqttProtocolCore.Connection.RecvWindow

namespace MqttProtocolCore.Connection

open General Packet GenericConnection

variable {w : IdWidth} {q packet : GenericPacket w} {s : RecvWindow w} {x : Outcome (Handled w)}
  {events : List (GenericEvent w)}

def RecvWindow.Shows (s : RecvWindow w) (c : GenericConnection w) : Prop :=
  c.publishRecvMax = s.announced ∧ c.publishRecv = s.unanswered

/-- What a handler leaves is what its events make of the window. -/
def RecvWindow.Follows (s : RecvWindow w) (r : Handled w) : Prop :=
  (r.2.foldl observe s).Shows r.1

def Passive (q : GenericPacket w) : Prop := ∀ s : RecvWindow w, s.sent q = s

theorem passive_of (hconnect : partOf q ≠ .connect) (hconnack : partOf q ≠ .connack)
    (hanswer : answersPublish q = false) : Passive q := by
  intro s
  cases q with
  | v311Connect | v50Connect => exact (hconnect rfl).elim
  | v50Connack => exact (hconnack rfl).elim
  | v50Puback | v50Pubrec | v50Pubcomp => cases hanswer
  | _ => rfl

theorem Silent.passive (h : Silent q) : Passive q := by
  have hconnect := h.connect
  have hconnack := h.connack
  have hack := h.ack
  intro s
  cases q with
  | v311Connect | v50Connect => cases hconnect
  | v50Connack p =>
    apply if_neg
    intro hcode
    simp [GenericPacket.connackOf, hcode] at hconnack
  | v50Puback | v50Pubrec | v50Pubcomp => cases hack
  | _ => rfl

theorem received_of_not_connect (h : partOf q ≠ .connect) : s.received q = s := by
  cases q with
  | v311Connect | v50Connect => exact (h rfl).elim
  | _ => rfl

namespace GenericConnection

variable {c c' : GenericConnection w} {r : Handled w} {id : PacketId w} {rel : Option (PacketId w)}

def window (c : GenericConnection w) : Option U16 × HashSet (PacketId w) :=
  (c.publishRecvMax, c.publishRecv)

theorem shows_iff : s.Shows c ↔ c.window = (s.announced, s.unanswered) := by
  simp [RecvWindow.Shows, window]

theorem localFrames_window : LocalFrames fun c c' : GenericConnection w ↦ c'.window = c.window where
  refl _ := rfl
  trans h h' := h'.trans h
  idle h := by rw [h]; rfl
  awaiting kind _ := by cases kind <;> rfl
  used _ := rfl
  counted _ := rfl
  handled _ := rfl
  cleared _ := rfl
  resent c := by
    unfold sendStored
    exact Outcome.Ensures.bind (P := fun _ ↦ True) (fun _ _ ↦ trivial)
      fun _ _ ↦ Outcome.ensures_ret.mpr rfl
  adjusted h := by rw [h]; rfl
  adds _ c := by
    unfold storeAdd
    exact Outcome.Ensures.bind (P := fun _ ↦ True) (fun _ _ ↦ trivial)
      fun _ _ ↦ Outcome.ensures_ret.mpr rfl
  erases _ _ _ := rfl

def Inert (events : List (GenericEvent w)) : Prop :=
  Emits Passive (fun q ↦ partOf q ≠ .connect) events

theorem Inert.foldl (h : Inert events) : events.foldl RecvWindow.observe s = s := by
  induction events with
  | nil => rfl
  | cons e events ih =>
    have hrest : Inert events :=
      ⟨fun p hp ↦ h.requests p (by simp [hp]), fun p hp ↦ h.notices p (by simp [hp])⟩
    have hhead : s.observe e = s := by
      cases e with
      | requestSendPacket q rel => exact h.requests q (by simp) s
      | notifyPacketReceived q => exact received_of_not_connect (h.notices q (by simp))
      | _ => rfl
    rw [List.foldl_cons, hhead]
    exact ih hrest

structure Rests (c : GenericConnection w) (r : Handled w) : Prop where
  window : r.1.window = c.window
  inert : Inert r.2

theorem shows_of_window (h : s.Shows c) (hc : c'.window = c.window) : s.Shows c' :=
  shows_iff.mpr (hc.trans (shows_iff.mp h))

theorem Rests.follows (hr : Rests c r) (hs : s.Shows c) : s.Follows r := by
  unfold RecvWindow.Follows
  rw [hr.inert.foldl]
  exact shows_of_window hs hr.window

theorem Refused.rests (h : Refused c r) : Rests c r where
  window := localFrames_window.idle h.idle
  inert := ⟨fun q hq ↦ (h.requested q hq).passive, fun q hq ↦ by simp [h.notified] at hq⟩

theorem sendable_passive : Sendable Passive c := by
  intro id stored _
  cases stored with
  | _ => exact fun _ ↦ rfl

theorem follows_append {rest : List (GenericEvent w)} (h : s.Follows (c, events))
    (hc : c'.window = c.window) (he : Inert rest) : s.Follows (c', events ++ rest) := by
  unfold RecvWindow.Follows at *
  rw [List.foldl_append, he.foldl]
  exact shows_of_window h hc

/-- Events before those of a handler that change no window do not matter. -/
theorem follows_prepend (he : Inert events) (hr : s.Follows r) : s.Follows (r.1, events ++ r.2) := by
  unfold RecvWindow.Follows at *
  rw [List.foldl_append, he.foldl]
  exact hr

theorem follows_request (h : (s.sent packet).Shows c) : s.Follows (c.request packet rel) := by
  have hsent : s.Follows (c, [.requestSendPacket packet rel]) := h
  exact follows_append hsent (localFrames_window.idle idle_sendPostProcess)
    (emits_timers timersOnly_sendPostProcess)

theorem follows_received (h : (s.received packet).Shows c) : s.Follows (c.received packet) := by
  have hreceived : s.Follows (c.refreshPingreqRecv.1, [.notifyPacketReceived packet]) :=
    shows_of_window h (localFrames_window.idle idle_refreshPingreqRecv)
  exact follows_prepend (emits_timers timersOnly_refreshPingreqRecv) hreceived

theorem follows_reject (hs : s.Shows c) (e : MqttError) : s.Follows (c.reject e) :=
  Rests.follows ⟨rfl, emits_reject e⟩ hs

theorem follows_limited {size : ℕ} (hs : s.Shows c) (hx : x.Ensures s.Follows) :
    (c.limited size x).Ensures s.Follows := by
  unfold limited
  split
  · exact hx
  · exact Outcome.ensures_ret.mpr (follows_reject hs _)

theorem follows_answered {size : ℕ} {e : MqttError} (hs : s.Shows c)
    (h : (s.sent packet).Shows c') :
    (c.limited size (if c.status ≠ .connected then .ret (c.reject e)
      else .ret (c'.request packet none))).Ensures s.Follows := by
  apply follows_limited hs
  split
  · exact Outcome.ensures_ret.mpr (follows_reject hs e)
  · exact Outcome.ensures_ret.mpr (follows_request h)

theorem follows_finishConnack {accepted : Bool} (h : (s.sent packet).Shows c) :
    (c.finishConnack accepted packet).Ensures s.Follows := by
  have hsent (c' : GenericConnection w) (hc : c'.window = c.window) :
      s.Follows (c', [.requestSendPacket packet none]) := shows_of_window h hc
  unfold finishConnack
  split
  · refine Outcome.ensures_ret.mpr ?_
    have hcancel : Inert c.cancelTimers.2 := emits_timers timersOnly_cancelTimers
    have hclosed := follows_append (hsent c rfl) (localFrames_window.idle idle_cancelTimers) hcancel
    exact follows_append hclosed rfl (emits_quiet rfl rfl)
  · intro r hr
    obtain ⟨r', hr', hret⟩ := Outcome.bind_eq_ret.mp hr
    obtain rfl := Outcome.ret.inj hret
    have hwindow := localFrames_window.resent _ r' hr'
    have hinert : Inert r'.2 := (emitting_sendStored sendable_passive).emits hr'
    have hstored := follows_append (hsent r'.1 hwindow) rfl hinert
    exact follows_append hstored (localFrames_window.idle idle_sendPostProcess)
      (emits_timers timersOnly_sendPostProcess)

theorem shows_announceConnect (hs : s.Shows c) (props : Properties) :
    (props.foldl RecvWindow.announce s).Shows (props.foldl announceConnect c) := by
  induction props generalizing c s with
  | nil => exact hs
  | cons prop props ih =>
    apply ih
    cases prop with
    | receiveMaximum v => exact ⟨rfl, hs.2⟩
    | topicAliasMaximum v | sessionExpiryInterval v =>
      refine shows_of_window hs ?_
      unfold announceConnect
      dsimp only
      split <;> rfl
    | _ => exact hs

theorem shows_announceConnack (hs : s.Shows c) (props : Properties) :
    (props.foldl RecvWindow.announce s).Shows (c.announceAll announceConnack props).1 := by
  induction props generalizing c s with
  | nil => exact hs
  | cons prop props ih =>
    refine @ih (s.announce prop) (c.announceConnack prop).1 ?_
    cases prop with
    | receiveMaximum v => exact ⟨rfl, hs.2⟩
    | topicAliasMaximum v =>
      refine shows_of_window hs ?_
      unfold announceConnack
      dsimp only
      split <;> rfl
    | serverKeepAlive v =>
      refine shows_of_window hs ?_
      unfold announceConnack
      dsimp only
      split <;> rfl
    | _ => exact hs

theorem follows_processSend (hs : s.Shows c) : (c.processSend packet).Ensures s.Follows := by
  have hrole {q : Prop} [Decidable q] {x : Outcome (Handled w)} (hx : x.Ensures s.Follows) :
      (if q then x else .ret (c.reject .packetNotAllowedToSend)).Ensures s.Follows := by
    split
    · exact hx
    · exact Outcome.ensures_ret.mpr (follows_reject hs _)
  have hstatus {q : Prop} [Decidable q] {x : Outcome (Handled w)} (hx : x.Ensures s.Follows) :
      (if q then .ret (c.reject .packetNotAllowedToSend) else x).Ensures s.Follows := by
    split
    · exact Outcome.ensures_ret.mpr (follows_reject hs _)
    · exact hx
  have hquiet (hconnect : partOf packet ≠ .connect) (hconnack : partOf packet ≠ .connack)
      (hanswer : answersPublish packet = false) : (c.processSend packet).Ensures s.Follows := by
    intro r hr
    refine Rests.follows ⟨?_, ?_⟩ hs
    · exact localFrames_window.toCoreFrames.processSend (fun _ _ _ h ↦ by rw [h]; rfl)
        (fun stored _ ↦ localFrames_window.adds stored) hconnect hconnack hanswer r hr
    · refine (emitting_processSend sendable_passive fun q _ hq ↦ ?_).emits hr
      rcases hq with rfl | hq
      · exact passive_of hconnect hconnack hanswer
      · refine passive_of (by simp [hq]) (by simp [hq]) ?_
        cases q <;> first | rfl | cases hq
  cases packet with
  | v311Connect p =>
    refine hrole (Outcome.ensures_ret.mpr ?_)
    unfold processSendV311Connect
    split
    · exact follows_reject hs _
    · refine follows_request ?_
      split <;> exact ⟨rfl, rfl⟩
  | v50Connect p =>
    refine hrole (follows_limited hs (hstatus (Outcome.ensures_ret.mpr (follows_request ?_))))
    refine shows_announceConnect ?_ p.props
    split <;> exact ⟨rfl, rfl⟩
  | v311Connack p => exact hrole (hstatus (follows_finishConnack hs))
  | v50Connack p =>
    refine hrole (follows_limited hs (hstatus ?_))
    dsimp only
    split
    · rename_i hcode
      have hsent : s.sent (.v50Connack p) = p.props.foldl RecvWindow.announce s :=
        if_pos (of_decide_eq_true hcode)
      have hshows := shows_announceConnack hs p.props
      rw [← hsent] at hshows
      refine (follows_finishConnack hshows).bind fun r hr ↦ Outcome.ensures_ret.mpr ?_
      exact follows_prepend (emits_timers (announceAll_announceConnack p.props).2) hr
    · rename_i hcode
      have hsent : s.sent (.v50Connack p) = s := if_neg fun h ↦ hcode (decide_eq_true h)
      have hshows : (s.sent (.v50Connack p)).Shows c := by rwa [hsent]
      exact (follows_finishConnack hshows).bind fun r hr ↦ Outcome.ensures_ret.mpr hr
  | v50Puback p | v50Pubcomp p =>
    refine follows_answered hs ⟨hs.1, ?_⟩
    exact congrArg (HashSet.remove · p.packetId) hs.2
  | v50Pubrec p =>
    refine follows_answered hs ?_
    by_cases hcode : p.reasonCode.any PubrecReasonCode.isFailure
    · have hsent : s.sent (.v50Pubrec p) = s.answer p.packetId := by
        simp [RecvWindow.sent, RecvWindow.finalOf, hcode]
      rw [hsent, if_pos hcode]
      exact ⟨hs.1, congrArg (HashSet.remove · p.packetId) hs.2⟩
    · have hsent : s.sent (.v50Pubrec p) = s := by
        simp [RecvWindow.sent, RecvWindow.finalOf, hcode]
      rw [hsent, if_neg hcode]
      exact hs
  | _ => exact hquiet (by simp [partOf]) (by simp [partOf]) rfl

theorem follows_thenReceived (hp : partOf packet ≠ .connect) (hx : x.Ensures s.Follows) :
    (x >>= fun r ↦ Outcome.ret ((r.1.received packet).1, r.2 ++ (r.1.received packet).2)).Ensures
      s.Follows :=
  hx.bind fun _ hr ↦ Outcome.ensures_ret.mpr
    (follows_append hr (localFrames_window.idle idle_received) (emits_received hp))

theorem follows_recvV50Pubrel (hs : s.Shows c) (p : V50.Pubrel w) :
    (c.recvV50Pubrel p).Ensures s.Follows := by
  unfold recvV50Pubrel
  apply follows_thenReceived (by simp [partOf])
  unfold respondIf
  split
  · refine Outcome.Ensures.bind (P := fun _ ↦ True) (fun _ _ ↦ trivial) fun a _ ↦ ?_
    exact @follows_processSend w (.v50Pubcomp a) s _ hs
  · exact Outcome.ensures_ret.mpr hs

theorem window_deliverConnack (h : partOf packet = .connack) :
    (c.deliver packet).Ensures fun r ↦ r.1.window = c.window := by
  cases packet with
  | v311Connack p =>
    change (c.recvV311Connack p).Ensures _
    unfold recvV311Connack
    split
    · exact localFrames_window.resumeSession.bind fun r hr ↦ Outcome.ensures_ret.mpr hr
    · exact Outcome.ensures_ret.mpr rfl
  | v50Connack p =>
    change (c.recvV50Connack p).Ensures _
    unfold recvV50Connack
    split
    · refine (learns_noteAll p.props).bind fun r hr ↦ ?_
      have hnoted : r.1.window = c.window := by
        rw [hr]
        rfl
      exact localFrames_window.resumeSession.bind fun r' hr' ↦
        Outcome.ensures_ret.mpr (hr'.trans hnoted)
    · exact Outcome.ensures_ret.mpr rfl
  | _ => cases h

theorem AutoReply.not_connect {v : Version} (h : AutoReply c v q) : partOf q ≠ .connect := by
  have hclient := h.client
  intro hp
  cases q <;> first | (cases hclient; done) | cases hp

theorem follows_deliver (hs : s.Shows c) (hpublish : ∀ p, packet ≠ .v50Publish p) :
    (c.deliver packet).Ensures s.Follows := by
  have hrefused {x : Outcome (Handled w)} (h : ∃ r, x = .ret r ∧ Refused c r) :
      x.Ensures s.Follows := by
    obtain ⟨r, rfl, hr⟩ := h
    exact Outcome.ensures_ret.mpr (hr.rests.follows hs)
  have hquiet (hconnect : partOf packet ≠ .connect) (hask : asksAnswer packet = false)
      (hwindow : (c.deliver packet).Ensures fun r ↦ r.1.window = c.window) :
      (c.deliver packet).Ensures s.Follows := by
    intro r hr
    refine Rests.follows ⟨hwindow r hr, ?_⟩ hs
    refine (emitting_deliver sendable_passive (fun q hq hconnack hanswer ↦ ?_) fun q hq ↦ ?_).emits hr
    · refine passive_of hq.not_connect hconnack (Bool.eq_false_iff.mpr fun h ↦ ?_)
      exact Bool.false_ne_true (hask.symm.trans (hanswer h))
    · cases hq with
      | same => exact hconnect
      | extracted => simp [partOf]
  have hkept (hconnect : partOf packet ≠ .connect) (hconnack : partOf packet ≠ .connack)
      (hask : asksAnswer packet = false) : (c.deliver packet).Ensures s.Follows := by
    apply hquiet hconnect hask
    cases hack : ackOf packet with
    | none => exact localFrames_window.toCoreFrames.deliver hconnect hconnack hack hask
    | some a =>
      exact localFrames_window.deliverAck hack (fun _ stored _ ↦ localFrames_window.adds stored)
        fun _ _ ↦ localFrames_window.erases _ _
  cases packet with
  | v311Connect p =>
    change (if c.status ≠ .disconnected then c.handleV311Error .protocolError
      else .ret ({ c with status := .connecting }.recvV311Connect p)).Ensures _
    split
    · exact hrefused (c.handleV311Error_spec _)
    · refine Outcome.ensures_ret.mpr (follows_received ?_)
      split <;> split <;> exact ⟨rfl, rfl⟩
  | v50Connect p =>
    change (if c.status ≠ .disconnected then c.handleV50Error .protocolError
      else { c with status := .connecting }.recvV50Connect p).Ensures _
    split
    · exact hrefused (c.handleV50Error_spec _)
    · unfold recvV50Connect
      refine (learns_noteConnect p.props).bind fun c' hc' ↦ Outcome.ensures_ret.mpr ?_
      refine follows_received ?_
      rw [hc']
      split <;> split <;> exact ⟨rfl, rfl⟩
  | v50Publish p => exact (hpublish p rfl).elim
  | v50Pubrel p => exact follows_recvV50Pubrel hs p
  | v311Connack p | v50Connack p => exact hquiet (by simp [partOf]) rfl (window_deliverConnack rfl)
  | _ => exact hkept (by simp [partOf]) (by simp [partOf]) rfl

end GenericConnection

end MqttProtocolCore.Connection
