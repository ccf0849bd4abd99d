import MqttProtocolCore.Connection.Frame

namespace MqttProtocolCore.Connection

open General Packet

variable {w : IdWidth}

def clientOnly : GenericPacket w → Bool
  | .v311Connect _ | .v50Connect _ | .v311Subscribe _ | .v50Subscribe _ | .v311Unsubscribe _
  | .v50Unsubscribe _ | .v311Pingreq _ | .v50Pingreq _ | .v311Disconnect _ => true
  | _ => false

def serverOnly : GenericPacket w → Bool
  | .v311Connack _ | .v50Connack _ | .v311Suback _ | .v50Suback _ | .v311Unsuback _
  | .v50Unsuback _ | .v311Pingresp _ | .v50Pingresp _ => true
  | _ => false

namespace GenericConnection

/-- The events ask to send only packets in `R`, and hand over only packets in `N`. -/
structure Emits (R N : GenericPacket w → Prop) (events : List (GenericEvent w)) : Prop where
  requests : ∀ p ∈ requested events, R p
  notices : ∀ p ∈ notified events, N p

def Sendable (R : GenericPacket w → Prop) (c : GenericConnection w) : Prop :=
  ∀ id stored, c.session.stored id = some stored → R stored.toPacket

def Emitting (R N : GenericPacket w → Prop) (x : Outcome (Handled w)) : Prop :=
  x.Ensures fun r ↦ Emits R N r.2

variable {R N : GenericPacket w → Prop} {c c' : GenericConnection w} {packet : GenericPacket w}
  {id : PacketId w} {x : Outcome (Handled w)} {r : Handled w} {events rest : List (GenericEvent w)}
  {rel : Option (PacketId w)} {v : Version}

section Events

theorem emits_quiet (hr : requested events = []) (hn : notified events = []) :
    Emits R N events :=
  ⟨fun p hp ↦ by simp [hr] at hp, fun p hp ↦ by simp [hn] at hp⟩

theorem emits_timers (h : TimersOnly events) : Emits R N events :=
  emits_quiet h.requested h.notified

theorem Emits.append (h : Emits R N events) (hr : Emits R N rest) : Emits R N (events ++ rest) := by
  refine ⟨?_, ?_⟩
  · intro p hp
    rw [requested_append, List.mem_append] at hp
    exact hp.elim (h.requests p) (hr.requests p)
  · intro p hp
    rw [notified_append, List.mem_append] at hp
    exact hp.elim (h.notices p) (hr.notices p)

theorem emits_sent (h : R packet) : Emits R N [.requestSendPacket packet rel] := by
  refine ⟨?_, ?_⟩
  · intro p hp
    obtain rfl : p = packet := by simpa using hp
    exact h
  · intro p hp
    cases hp

theorem emits_notified (h : N packet) : Emits R N [.notifyPacketReceived packet] := by
  refine ⟨?_, ?_⟩
  · intro p hp
    cases hp
  · intro p hp
    obtain rfl : p = packet := by simpa using hp
    exact h

theorem emits_reject (e : MqttError) : Emits R N (c.reject e).2 := emits_quiet rfl rfl

theorem emits_request (h : R packet) : Emits R N (c.request packet rel).2 :=
  (emits_sent h).append (emits_timers timersOnly_sendPostProcess)

theorem emits_received (h : N packet) : Emits R N (c.received packet).2 :=
  (emits_timers timersOnly_refreshPingreqRecv).append (emits_notified h)

theorem emits_sendConnected (h : R packet) : Emits R N (c.sendConnected packet).2 := by
  unfold sendConnected
  split
  · exact emits_reject (c := c) _
  · exact emits_request h

theorem emits_sendPingreq (h : R packet) : Emits R N (c.sendPingreq packet).2 := by
  unfold sendPingreq
  split
  · exact emits_reject (c := c) _
  · refine Emits.append (Emits.append (emits_sent h) ?_) ?_
    · exact emits_timers timersOnly_expectPingresp
    · exact emits_timers timersOnly_sendPostProcess

theorem emits_sendDisconnect (h : R packet) : Emits R N (c.sendDisconnect packet).2 := by
  unfold sendDisconnect
  split
  · exact emits_reject (c := c) _
  · refine Emits.append (emits_timers timersOnly_cancelTimers) (Emits.append (emits_sent h) ?_)
    exact emits_quiet rfl rfl

theorem emits_transmit (h : R packet) : Emits R N (c.transmit packet rel).2 := by
  unfold transmit
  split
  · exact emits_request h
  · exact emits_quiet rfl rfl

end Events

section Handlers

theorem emitting_ret (h : Emits R N r.2) : Emitting R N (.ret r) := Outcome.ensures_ret.mpr h

theorem Emitting.bind {f : Handled w → Outcome (Handled w)} (hx : Emitting R N x)
    (hf : ∀ r, Emits R N r.2 → Emitting R N (f r)) : Emitting R N (x >>= f) :=
  Outcome.Ensures.bind hx hf

theorem Emitting.emits (h : Emitting R N x) (hx : x = .ret r) : Emits R N r.2 := h r hx

theorem emitting_after {α : Type} {y : Outcome α} {f : α → Outcome (Handled w)}
    (hf : ∀ a, Emitting R N (f a)) : Emitting R N (y >>= f) :=
  Outcome.Ensures.bind (P := fun _ ↦ True) (fun _ _ ↦ trivial) fun a _ ↦ hf a

theorem emitting_reject (e : MqttError) : Emitting R N (.ret (c.reject e)) :=
  emitting_ret (emits_reject e)

theorem emitting_releaseIfUsed : Emitting R N (c.releaseIfUsed id) := by
  unfold releaseIfUsed
  split
  · exact emitting_after fun man ↦ emitting_ret (emits_quiet rfl rfl)
  · exact emitting_ret (emits_quiet rfl rfl)

theorem emitting_refuse (e : MqttError) (id : Option (PacketId w)) :
    Emitting R N (c.refuse e id) := by
  cases id with
  | none => exact emitting_reject e
  | some id =>
    refine emitting_releaseIfUsed.bind fun r hr ↦ emitting_ret ?_
    exact Emits.append (emits_reject (c := c) e) hr

theorem emitting_limited {size : ℕ} (h : Emitting R N x) : Emitting R N (c.limited size x) := by
  unfold limited
  split
  · exact h
  · exact emitting_reject _

theorem emitting_answered {size : ℕ} {e : MqttError} (h : R packet) :
    Emitting R N (c.limited size (if c.status ≠ .connected then .ret (c.reject e)
      else .ret (c'.request packet none))) := by
  apply emitting_limited
  split
  · exact emitting_reject _
  · exact emitting_ret (emits_request h)

theorem emitting_sendStored (h : Sendable R c) : Emitting R N c.sendStored := by
  intro r hr
  obtain ⟨-, -, req, rel, hrep, hres⟩ := sendStored_spec.of_ret hr
  have hreq : requested r.2 = req := congrArg Report.requested hrep
  have hnote : notified r.2 = [] := congrArg Report.notified hrep
  refine ⟨?_, ?_⟩
  · intro p hp
    obtain ⟨id, stored, hid, -, rfl⟩ := (hres.requested p).mp (hreq ▸ hp)
    exact h id stored hid
  · intro p hp
    rw [hnote] at hp
    cases hp

theorem emitting_finishConnack {accepted : Bool} (hs : Sendable R c) (h : R packet) :
    Emitting R N (c.finishConnack accepted packet) := by
  unfold finishConnack
  split
  · refine emitting_ret (Emits.append (Emits.append (emits_sent h) ?_) (emits_quiet rfl rfl))
    exact emits_timers timersOnly_cancelTimers
  · have hs' : Sendable R ({ c with status := .connected } : GenericConnection w) := hs
    refine (emitting_sendStored hs').bind fun r hr ↦ emitting_ret ?_
    exact Emits.append (Emits.append (emits_sent h) hr) (emits_timers timersOnly_sendPostProcess)

theorem emitting_sendPubrel {stored : GenericStorePacket w} (h : R stored.toPacket) :
    Emitting R N (c.sendPubrel id stored) := by
  have hsend : ∀ c' : GenericConnection w, Emitting R N (if c'.status = .connected then
      .ret ((c'.await .pubcomp id).request stored.toPacket none) else .ret c'.sendPostProcess) := by
    intro c'
    split
    · exact emitting_ret (emits_request h)
    · exact emitting_ret (emits_timers timersOnly_sendPostProcess)
  unfold sendPubrel
  split
  · exact emitting_reject _
  split
  · exact emitting_reject _
  split
  · exact emitting_after hsend
  · exact hsend c

theorem emitting_sendSubscription {kind : AckKind} (h : R packet) :
    Emitting R N (c.sendSubscription kind id packet) := by
  unfold sendSubscription
  split
  · exact emitting_refuse _ _
  split
  · exact emitting_reject _
  · exact emitting_ret (emits_request h)

theorem emitting_processSendV50Connack {p : V50.Connack} (hs : Sendable R c)
    (h : R (.v50Connack p)) : Emitting R N (c.processSendV50Connack p) := by
  apply emitting_limited
  split
  · exact emitting_reject _
  dsimp only
  split
  · obtain ⟨hframe, ht⟩ := announceAll_announceConnack (c := c) p.props
    have hs' : Sendable R (c.announceAll announceConnack p.props).1 := by
      rw [hframe]
      exact hs
    refine (emitting_finishConnack hs' h).bind fun r hr ↦ emitting_ret ?_
    exact Emits.append (emits_timers ht) hr
  · exact (emitting_finishConnack hs h).bind fun r hr ↦ emitting_ret hr

theorem emitting_processSendV311Publish {p : V311.Publish w} (h : R (.v311Publish p)) :
    Emitting R N (c.processSendV311Publish p) := by
  unfold processSendV311Publish
  split
  · split
    · exact emitting_refuse _ _
    split
    · exact emitting_reject _
    split
    · exact emitting_after fun c' ↦ emitting_ret (emits_transmit h)
    · exact emitting_ret (emits_transmit h)
  · split
    · exact emitting_reject _
    · exact emitting_ret (emits_transmit h)

theorem emitting_sendV50Publish {p : V50.Publish w} {validated : Bool}
    (h : ∀ p, R (.v50Publish p)) : Emitting R N (c.sendV50Publish p validated rel) := by
  unfold sendV50Publish
  apply emitting_after
  intro o
  split
  · exact emitting_refuse _ _
  · apply emitting_after
    intro o
    split
    · exact emitting_refuse _ _
    · exact emitting_ret (emits_transmit (h _))

theorem emitting_processSendV50Publish {p : V50.Publish w} (h : ∀ p, R (.v50Publish p)) :
    Emitting R N (c.processSendV50Publish p) := by
  apply emitting_limited
  split
  · split
    · exact emitting_refuse _ _
    split
    · exact emitting_reject _
    split
    · apply emitting_after
      intro o
      split
      · exact emitting_refuse _ _
      · exact emitting_after fun c' ↦ emitting_sendV50Publish h
    · exact emitting_sendV50Publish h
  · split
    · exact emitting_reject _
    · exact emitting_sendV50Publish h

structure Outgoing (c : GenericConnection w) (packet q : GenericPacket w) : Prop where
  version : q.protocolVersion = packet.protocolVersion
  client : clientOnly q → clientOnly packet ∧ actsAsClient c.role
  server : serverOnly q → serverOnly packet ∧ actsAsServer c.role
  publish : partOf q = .publish → partOf packet = .publish

/-- The handler of an outgoing packet sends what is like the packet, and with CONNACK the store. -/
theorem emitting_processSend (hs : Sendable R c)
    (h : ∀ q, Outgoing c packet q → (q = packet ∨ partOf q = .publish) → R q) :
    Emitting R N (c.processSend packet) := by
  have hrole {q : Prop} [Decidable q] {x : Outcome (Handled w)} (hx : q → Emitting R N x) :
      Emitting R N (if q then x else .ret (c.reject .packetNotAllowedToSend)) := by
    split
    · exact hx ‹_›
    · exact emitting_reject _
  have hclient (hp : serverOnly packet = false) (hr : clientOnly packet → actsAsClient c.role) :
      R packet := h packet ⟨rfl, fun hq ↦ ⟨hq, hr hq⟩, fun hq ↦ by simp [hp] at hq, id⟩ (.inl rfl)
  have hserver (hp : clientOnly packet = false) (hr : actsAsServer c.role) : R packet :=
    h packet ⟨rfl, fun hq ↦ by simp [hp] at hq, fun hq ↦ ⟨hq, hr⟩, id⟩ (.inl rfl)
  have hsent (hp : R packet) : Emitting R N (.ret (c.sendConnected packet)) :=
    emitting_ret (emits_sendConnected hp)
  cases packet with
  | v311Connect p =>
    refine hrole fun hr ↦ ?_
    unfold processSendV311Connect
    split
    · exact emitting_reject _
    · exact emitting_ret (emits_request (hclient rfl fun _ ↦ hr))
  | v50Connect p =>
    refine hrole fun hr ↦ emitting_limited ?_
    split
    · exact emitting_reject _
    · exact emitting_ret (emits_request (hclient rfl fun _ ↦ hr))
  | v311Connack p =>
    refine hrole fun hr ↦ ?_
    unfold processSendV311Connack
    split
    · exact emitting_reject _
    · exact emitting_finishConnack hs (hserver rfl hr)
  | v50Connack p => exact hrole fun hr ↦ emitting_processSendV50Connack hs (hserver rfl hr)
  | v311Publish p => exact emitting_processSendV311Publish (hclient rfl nofun)
  | v50Publish p => exact emitting_processSendV50Publish fun p ↦ h _ ⟨rfl, nofun, nofun, id⟩ (.inr rfl)
  | v311Puback p | v311Pubrec p | v311Pubcomp p => exact hsent (hclient rfl nofun)
  | v50Puback p | v50Pubcomp p | v50Pubrec p => exact emitting_answered (hclient rfl nofun)
  | v311Pubrel p => exact emitting_sendPubrel (hclient rfl nofun)
  | v50Pubrel p => exact emitting_limited (emitting_sendPubrel (hclient rfl nofun))
  | v311Subscribe p | v311Unsubscribe p =>
    exact hrole fun hr ↦ emitting_sendSubscription (hclient rfl fun _ ↦ hr)
  | v50Subscribe p | v50Unsubscribe p =>
    exact hrole fun hr ↦ emitting_limited (emitting_sendSubscription (hclient rfl fun _ ↦ hr))
  | v311Suback p | v311Unsuback p | v311Pingresp p => exact hrole fun hr ↦ hsent (hserver rfl hr)
  | v50Suback p | v50Unsuback p | v50Pingresp p =>
    exact hrole fun hr ↦ emitting_limited (hsent (hserver rfl hr))
  | v311Pingreq p =>
    exact hrole fun hr ↦ emitting_ret (emits_sendPingreq (hclient rfl fun _ ↦ hr))
  | v50Pingreq p =>
    refine hrole fun hr ↦ emitting_limited (emitting_ret (emits_sendPingreq ?_))
    exact hclient rfl fun _ ↦ hr
  | v311Disconnect p =>
    exact hrole fun hr ↦ emitting_ret (emits_sendDisconnect (hclient rfl fun _ ↦ hr))
  | v50Disconnect p =>
    exact emitting_limited (emitting_ret (emits_sendDisconnect (hclient rfl nofun)))
  | v50Auth p =>
    apply emitting_limited
    split
    · exact emitting_reject _
    · exact emitting_ret (emits_request (hclient rfl nofun))

end Handlers

end GenericConnection

end MqttProtocolCore.Connection
